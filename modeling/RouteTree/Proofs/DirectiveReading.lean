import Mathlib.Data.List.Basic
import RouteTree.Log.Filter
import RouteTree.Proofs.Utf8RoundTrip

/-!
# Reading the directives of a filter

A directive that starts with the name of a target and an equals sign goes on with a
level, and whatever stands there is cut out with all its blanks. A filter is read piece
by piece, so filters with a comma between them are read as they are each, and a piece
that is no directive takes nothing away from the others.
-/

namespace RouteTree.Log

section Cuts

/-- Between characters no character is cut. -/
theorem isBoundary_encode (front behind : List Char) :
    isBoundary (Utf8.encode (front ++ behind)) (Utf8.encode front).length = true := by
  rw [isBoundary, Utf8.encode_append, List.getElem?_append_right (Nat.le_refl _), Nat.sub_self]
  cases behind with
  | nil => simp [Utf8.encode]
  | cons c behind =>
      obtain ⟨b, rest, hb, -⟩ := Utf8.exists_utf8EncodeChar c
      have hread := Utf8.decodeChar?_utf8EncodeChar c []
      rw [hb, List.append_nil] at hread
      rw [Utf8.encode_cons, hb]
      change (!Utf8.isContinuation b) = true
      rw [Utf8.not_isContinuation_of_decodeChar? hread]
      rfl

/-- What stands between characters is cut out as it is. -/
theorem cut_encode (front middle behind : List Char) :
    cut (Utf8.encode (front ++ (middle ++ behind))) (Utf8.encode front).length
      ((Utf8.encode front).length + (Utf8.encode middle).length) = .ok (String.ofList middle) := by
  have hfirst := isBoundary_encode front (middle ++ behind)
  have hlast := isBoundary_encode (front ++ middle) behind
  rw [Utf8.encode_append front middle, List.length_append, List.append_assoc] at hlast
  rw [cut, hfirst, hlast, Utf8.encode_append, Utf8.encode_append, List.drop_left,
    Nat.add_sub_cancel_left, List.take_left, Utf8.toString?, Utf8.decode_encode]
  rfl

end Cuts

/-! ## Targets in front of levels -/

/-- The name of a target as it may stand in front of an equals sign. -/
structure IsTarget (name : List Char) : Prop where
  starts : ∃ c rest, name = c :: rest ∧ startsName c = true ∧ Text.isWhiteSpace c = false
  plain : ∀ c ∈ name, c ≠ '=' ∧ c ≠ '['

/-- The threshold that a text gives to the target in front of it. An empty text lets
everything through. -/
def levelOf? (text : String) : Option Threshold :=
  if text.isEmpty then some (some .trace) else threshold? text

section Machine

variable {bytes : Bytes} {s : Scan} {start : Nat} {name : List Char}

/-- Behind an equals sign nothing changes any more. -/
theorem Scan.run_of_level (h : s.reading = .level start) (offset : Nat) (text : List Char) :
    s.run bytes offset text = .ok s := by
  induction text generalizing offset with
  | nil => rfl
  | cons c text ih =>
      have hstep : s.step bytes offset c = .ok s := by rw [Scan.step, h]
      rw [Scan.run, hstep]
      exact ih _

/-- A name goes on up to an equals sign or a bracket. -/
theorem Scan.run_append_of_name (h : s.reading = .name start)
    (hplain : ∀ c ∈ name, c ≠ '=' ∧ c ≠ '[') (offset : Nat) (text : List Char) :
    s.run bytes offset (name ++ text) = s.run bytes (offset + (Utf8.encode name).length) text := by
  induction name generalizing offset with
  | nil => rfl
  | cons c name ih =>
      obtain ⟨⟨hequals, hbracket⟩, hname⟩ := List.forall_mem_cons.mp hplain
      have hstep : s.step bytes offset c = .ok s := by
        simp only [Scan.step, h, if_neg hequals, if_neg hbracket]
      rw [List.cons_append, Scan.run, hstep]
      refine (ih hname _).trans ?_
      rw [Utf8.encode_cons, List.length_append, Nat.add_assoc]

/-- Blanks are only dropped behind the equals sign. -/
theorem exists_trim_eq (h : IsTarget name) (level : List Char) :
    ∃ kept, trim (name ++ '=' :: level) = name ++ '=' :: kept := by
  obtain ⟨c, rest, rfl, -, hblank⟩ := h.starts
  have hfront : (c :: rest ++ '=' :: level).dropWhile Text.isWhiteSpace =
      c :: rest ++ '=' :: level := by
    rw [List.cons_append, List.dropWhile_cons, hblank, if_neg Bool.false_ne_true]
  have hback : (level.reverse ++ '=' :: (c :: rest).reverse).dropWhile Text.isWhiteSpace =
      level.reverse.dropWhile Text.isWhiteSpace ++ '=' :: (c :: rest).reverse := by
    rw [List.dropWhile_append, List.dropWhile_cons_of_neg (a := '=') (by decide)]
    split
    · next hblanks => rw [List.isEmpty_iff.mp hblanks, List.nil_append]
    · rfl
  refine ⟨(level.reverse.dropWhile Text.isWhiteSpace).reverse, ?_⟩
  rw [trim, hfront, List.reverse_append, List.reverse_cons, List.append_assoc,
    List.singleton_append, hback]
  simp

/-- The machine reads a name from its first character on. -/
theorem Scan.run_start (h : IsTarget name) (text : List Char) :
    Scan.run bytes ⟨.start, none, none, []⟩ 0 (name ++ text) =
      Scan.run bytes ⟨.name 0, none, none, []⟩ (Utf8.encode name).length text := by
  obtain ⟨c, rest, rfl, hstarts, -⟩ := h.starts
  obtain ⟨⟨-, hbracket⟩, hplain⟩ := List.forall_mem_cons.mp h.plain
  have hfirst : Scan.step bytes ⟨.start, none, none, []⟩ 0 c = .ok ⟨.name 0, none, none, []⟩ := by
    simp only [Scan.step, if_neg hbracket, hstarts, if_true]
  rw [List.cons_append, Scan.run, hfirst]
  refine (Scan.run_append_of_name rfl hplain _ _).trans ?_
  rw [Utf8.encode_cons, List.length_append, Nat.zero_add]

theorem cut_name (name behind : List Char) :
    cut (Utf8.encode (name ++ behind)) 0 (Utf8.encode name).length = .ok (String.ofList name) := by
  have hcut := cut_encode [] name behind
  rwa [List.nil_append, ← List.length_append, ← Utf8.encode_append, List.nil_append] at hcut

/-- When the machine reads the level it has cut out the name in front of it. -/
theorem Scan.run_targeted (h : IsTarget name) (level kept : List Char) :
    Scan.run (Utf8.encode (name ++ '=' :: level)) ⟨.start, none, none, []⟩ 0 (name ++ '=' :: kept) =
      .ok ⟨.level ((Utf8.encode name).length + 1), some (String.ofList name), none, []⟩ := by
  have hequals : Scan.step (Utf8.encode (name ++ '=' :: level)) ⟨.name 0, none, none, []⟩
      (Utf8.encode name).length '=' =
        .ok ⟨.level ((Utf8.encode name).length + 1), some (String.ofList name), none, []⟩ := by
    simp only [Scan.step, if_true, cut_name]
    rfl
  rw [Scan.run_start h, Scan.run, hequals]
  exact Scan.run_of_level rfl _ _

/-- A target with a text behind an equals sign is a directive if and only if the text is
empty or a level. -/
theorem Directive.parse_targeted (h : IsTarget name) (level : List Char) :
    Directive.parse (name ++ '=' :: level) =
      match levelOf? (String.ofList level) with
      | some threshold => .ok ⟨some (String.ofList name), none, [], threshold⟩
      | none => .error .badLevel := by
  have hcut : cut (Utf8.encode (name ++ '=' :: level)) ((Utf8.encode name).length + 1)
      (Utf8.encode (name ++ '=' :: level)).length = .ok (String.ofList level) := by
    have hlevel := cut_encode (name ++ ['=']) level []
    rw [List.append_nil, List.append_assoc, List.singleton_append, ← List.length_append,
      ← Utf8.encode_append, List.append_assoc, List.singleton_append] at hlevel
    rwa [Utf8.encode_append name ['='], List.length_append] at hlevel
  obtain ⟨kept, hkept⟩ := exists_trim_eq h level
  have hparse : Directive.parse (name ++ '=' :: level) =
      Scan.finish (Utf8.encode (name ++ '=' :: level))
        ⟨.level ((Utf8.encode name).length + 1), some (String.ofList name), none, []⟩ := by
    rw [Directive.parse, hkept, Scan.run_targeted h level kept]
    rfl
  rw [hparse, levelOf?]
  simp only [Scan.finish, hcut]
  cases hempty : (String.ofList level).isEmpty with
  | true => simp [bind, Except.bind, hempty]
  | false =>
      cases hthreshold : threshold? (String.ofList level) with
      | none => simp [bind, Except.bind, hempty, hthreshold]
      | some threshold => simp [bind, Except.bind, hempty, hthreshold]

/-- A name alone is a level, or else a target. -/
theorem Directive.parse_plain (h : IsTarget name) (htrim : trim name = name) :
    Directive.parse name = .ok
      (match threshold? (String.ofList name) with
        | some threshold => ⟨none, none, [], threshold⟩
        | none => ⟨some (String.ofList name), none, [], some .trace⟩) := by
  have hcut := cut_name name []
  have hrun : Scan.run (Utf8.encode name) ⟨.start, none, none, []⟩ 0 (name ++ []) =
      .ok ⟨.name 0, none, none, []⟩ := Scan.run_start h []
  rw [List.append_nil] at hcut hrun
  have hparse : Directive.parse name =
      Scan.finish (Utf8.encode name) ⟨.name 0, none, none, []⟩ := by
    rw [Directive.parse, htrim, hrun]
    rfl
  have hsome : (String.ofList name).isEmpty = false := by
    obtain ⟨c, rest, rfl, -, -⟩ := h.starts
    simp
  rw [hparse]
  simp only [Scan.finish, hcut]
  cases hthreshold : threshold? (String.ofList name) with
  | none => simp [bind, Except.bind, hsome, hthreshold]
  | some threshold => simp [bind, Except.bind, hsome, hthreshold]

end Machine

/-! ## Pieces between commas -/

/-- What stands before the first comma of a text, or all of it. -/
def leading (text : String) : String := String.ofList (text.toList.takeWhile (· != ','))

/-- What stands behind the first comma of a text. -/
def following (text : String) : String :=
  String.ofList ((text.toList.dropWhile (· != ',')).drop 1)

section Pieces

variable {name : String}

theorem pieces_join (front behind : String) :
    pieces (front ++ "," ++ behind) = pieces front ++ pieces behind := by
  have hlist : (front ++ "," ++ behind).toList = front.toList ++ ',' :: behind.toList := by simp
  rw [pieces, hlist, List.splitOn_eq_splitOnP, List.splitOnP_append_cons _ _ rfl,
    List.filter_append]
  rfl

theorem pieces_of_notMem {text : String} (h : ',' ∉ text.toList) :
    pieces text = [text.toList].filter fun piece => !piece.isEmpty := by
  have hsplit : text.toList.splitOnP (· == ',') = [text.toList] := by
    apply List.splitOnP_eq_singleton
    intro c hc
    exact beq_eq_false_iff_ne.mpr (ne_of_mem_of_not_mem hc h)
  rw [pieces, List.splitOn_eq_splitOnP, hsplit]

theorem eq_leading_or_join (text : String) :
    (text = leading text ∧ following text = "") ∨
      text = leading text ++ "," ++ following text := by
  have hwhole := List.takeWhile_append_dropWhile (p := (· != ',')) (l := text.toList)
  cases hrest : text.toList.dropWhile (· != ',') with
  | nil =>
      rw [hrest, List.append_nil] at hwhole
      refine Or.inl ⟨?_, ?_⟩
      · rw [leading, hwhole, String.ofList_toList]
      · rw [following, hrest]
        rfl
  | cons c rest =>
      have hhead := List.head?_dropWhile_not (· != ',') text.toList
      rw [hrest] at hhead
      obtain rfl : c = ',' := bne_eq_false_iff_eq.mp hhead
      refine Or.inr (String.toList_inj.mp ?_)
      rw [← hwhole]
      simp [leading, following, hrest]

theorem comma_notMem_leading (text : String) : ',' ∉ (leading text).toList := by
  intro hmem
  rw [leading, String.toList_ofList] at hmem
  exact absurd (List.all_eq_true.mp List.all_takeWhile _ hmem) (by decide)

/-- The pieces of a text are its first one, unless that is empty, and those behind
it. -/
theorem pieces_eq (text : String) :
    pieces text = pieces (leading text) ++ pieces (following text) := by
  rcases eq_leading_or_join text with ⟨hleading, hfollowing⟩ | hjoin
  · rw [← hleading, hfollowing]
    exact (List.append_nil _).symm
  · rw [← pieces_join, ← hjoin]

theorem bne_comma_of_mem (h : ',' ∉ name.toList) : ∀ c ∈ name.toList, (c != ',') = true := by
  intro c hc
  exact bne_iff_ne.mpr (ne_of_mem_of_not_mem hc h)

theorem leading_append (h : ',' ∉ name.toList) (text : String) :
    leading (name ++ text) = name ++ leading text := by
  apply String.toList_inj.mp
  simp only [leading, String.toList_append, String.toList_ofList]
  exact List.takeWhile_append_of_pos (bne_comma_of_mem h)

theorem following_append (h : ',' ∉ name.toList) (text : String) :
    following (name ++ text) = following text := by
  rw [following, String.toList_append, List.dropWhile_append_of_pos (bne_comma_of_mem h)]
  rfl

/-- A name in front of a text stands in front of its first piece. -/
theorem pieces_append (h : ',' ∉ name.toList) (hne : name ≠ "") (text : String) :
    pieces (name ++ text) = (name ++ leading text).toList :: pieces (following text) := by
  have hfirst : ',' ∉ (name ++ leading text).toList := by
    rw [String.toList_append, List.mem_append, not_or]
    exact ⟨h, comma_notMem_leading text⟩
  rw [pieces_eq, leading_append h, following_append h, pieces_of_notMem hfirst]
  simp [hne]

end Pieces

/-! ## What is read and what is left out -/

/-- What is read of pieces, and which of them are left out because they are no
directives. -/
inductive Collects : List (List Char) → Filter → List (List Char) → Prop
  | nil : Collects [] [] []
  | read {piece ps d f left} (hpiece : Directive.parse piece = .ok d) (hrest : Collects ps f left) :
      Collects (piece :: ps) (d :: f) left
  | leave {piece ps e f left} (hpiece : Directive.parse piece = .error e)
      (hcause : e ≠ .cutInsideCharacter) (hrest : Collects ps f left) :
      Collects (piece :: ps) f (piece :: left)

section Readings

variable {front behind ps left left' : List (List Char)} {piece : List Char} {f f' : Filter}

theorem Collects.append (h : Collects front f left) (h' : Collects behind f' left') :
    Collects (front ++ behind) (f ++ f') (left ++ left') := by
  induction h with
  | nil => exact h'
  | read hpiece _ ih => exact .read hpiece ih
  | leave hpiece hcause _ ih => exact .leave hpiece hcause ih

theorem collects_cons_iff : Collects (piece :: ps) f [] ↔
    ∃ d rest, Directive.parse piece = .ok d ∧ Collects ps rest [] ∧ f = d :: rest := by
  constructor
  · intro h
    cases h with
    | read hpiece hrest => exact ⟨_, _, hpiece, hrest, rfl⟩
  · rintro ⟨d, rest, hpiece, hrest, rfl⟩
    exact .read hpiece hrest

theorem collects_append_iff : Collects (front ++ behind) f [] ↔
    ∃ first rest, Collects front first [] ∧ Collects behind rest [] ∧ f = first ++ rest := by
  constructor
  · intro h
    induction front generalizing f with
    | nil => exact ⟨[], f, .nil, h, rfl⟩
    | cons piece front ih =>
        obtain ⟨d, rest, hpiece, hrest, rfl⟩ := collects_cons_iff.mp h
        obtain ⟨first, behind', hfront, hbehind, rfl⟩ := ih hrest
        exact ⟨d :: first, behind', .read hpiece hfront, hbehind, rfl⟩
  · rintro ⟨first, rest, hfront, hbehind, rfl⟩
    exact hfront.append hbehind

/-- A text is a filter if and only if no piece of it is left out. -/
theorem Filter.parse_eq_ok_iff {text : String} :
    Filter.parse text = .ok f ↔ Collects (pieces text) f [] := by
  rw [Filter.parse]
  induction pieces text generalizing f with
  | nil =>
      constructor
      · rintro ⟨⟩
        exact .nil
      · rintro ⟨⟩
        rfl
  | cons piece ps ih =>
      rw [collects_cons_iff, List.mapM_cons]
      cases hpiece : Directive.parse piece with
      | error e => simp [bind, Except.bind]
      | ok d =>
          cases hrest : ps.mapM Directive.parse with
          | error e => simp [bind, Except.bind, ← ih, hrest]
          | ok rest => simp [bind, Except.bind, ← ih, hrest, pure, Except.pure, eq_comm]

theorem Collects.foldlM_collect (h : Collects ps f left) (sofar : Filter) :
    ps.foldlM Filter.collect sofar = .ok (sofar ++ f) := by
  induction h generalizing sofar with
  | nil => simp [pure, Except.pure]
  | @read piece ps d f left hpiece _ ih =>
      have hstep : Filter.collect sofar piece = .ok (sofar ++ [d]) := by
        rw [Filter.collect, hpiece]
      rw [List.foldlM_cons, hstep]
      exact (ih _).trans (by rw [List.append_assoc, List.singleton_append])
  | @leave piece ps e f left hpiece hcause _ ih =>
      have hstep : Filter.collect sofar piece = .ok sofar := by
        rw [Filter.collect, hpiece]
        cases e with
        | cutInsideCharacter => exact absurd rfl hcause
        | _ => rfl
      rw [List.foldlM_cons, hstep]
      exact ih _

theorem Collects.parseLossy_eq {text : String} (h : Collects (pieces text) f left) :
    Filter.parseLossy text = .ok f := h.foldlM_collect []

end Readings

end RouteTree.Log
