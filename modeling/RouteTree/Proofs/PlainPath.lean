import RouteTree.Proofs.ServableTable
import RouteTree.Router.Pattern

/-!
# Plain paths

The segments of a plain path are texts without braces and parameters that fill their
segments. Such a path writes the pattern that can be read off its segments.
-/

namespace RouteTree

namespace Pattern

open Table

/-- Characters among which there is no brace. -/
structure Unbraced (cs : List Char) : Prop where
  opened : '\x7b' ∉ cs
  closed : '\x7d' ∉ cs

theorem unbraced_cons_iff {c : Char} {cs : List Char} :
    Unbraced (c :: cs) ↔ c ≠ '\x7b' ∧ c ≠ '\x7d' ∧ Unbraced cs := by
  constructor
  · rintro ⟨hopen, hclose⟩
    rw [List.mem_cons, not_or] at hopen hclose
    exact ⟨Ne.symm hopen.1, Ne.symm hclose.1, hopen.2, hclose.2⟩
  · rintro ⟨hopen, hclose, hcs⟩
    exact ⟨List.not_mem_cons_of_ne_of_not_mem (Ne.symm hopen) hcs.opened,
      List.not_mem_cons_of_ne_of_not_mem (Ne.symm hclose) hcs.closed⟩

/-- The name of a parameter: some characters, and no brace or star among them. -/
structure PlainName (name : String) : Prop where
  nonempty : name ≠ ""
  unbraced : Unbraced name.toList
  unstarred : '*' ∉ name.toList

theorem PlainName.exists_cons {name : String} (h : PlainName name) :
    ∃ c cs, name.toList = c :: cs ∧ c ≠ '*' ∧ '*' ∉ cs ∧ Unbraced (c :: cs) := by
  obtain ⟨hne, hunbraced, hstar⟩ := h
  obtain ⟨c, cs, hcs⟩ := List.exists_cons_of_ne_nil (String.toList_eq_nil_iff.not.mpr hne)
  rw [hcs] at hunbraced hstar
  rw [List.mem_cons, not_or] at hstar
  exact ⟨c, cs, hcs, Ne.symm hstar.1, hstar.2, hunbraced⟩

/-- Segments that are texts without braces or parameters, of which only the last may
take all the rest. -/
inductive Plain : List String → Prop
  | nil : Plain []
  | literal {s : String} {behind : List String} (hs : Unbraced s.toList)
      (hstart : isReserved s.toList = false) (hbehind : Plain behind) : Plain (s :: behind)
  | param {s name : String} {behind : List String} (hs : parameterName? s = some name)
      (hname : PlainName name) (hbehind : Plain behind) : Plain (s :: behind)
  | rest {s name : String} (hs : parameterName? s = some ("*" ++ name)) (hname : PlainName name) :
      Plain [s]

/-- The pieces of a segment. -/
def pieces (s : String) : Pattern :=
  match parameterName? s with
  | none => s.toList.map .char
  | some name =>
    match name.toList with
    | '*' :: rest => [.rest (String.ofList rest)]
    | _ => [.param name]

/-- The pieces of segments: a slash before those of each. -/
def allPieces (segs : List String) : Pattern := segs.flatMap fun s => .char '/' :: pieces s

/-- The pattern of a path of segments: their pieces, or a slash alone. -/
def ofSegments : List String → Pattern
  | [] => [.char '/']
  | s :: behind => allPieces (s :: behind)

section Pieces

variable {s name : String}

theorem pieces_ne_nil (h : s ≠ "") : pieces s ≠ [] := by
  unfold pieces
  split
  · simpa using h
  · split <;> simp

theorem parameterName?_of_unbraced (h : Unbraced s.toList) : parameterName? s = none := by
  rw [Option.eq_none_iff_forall_ne_some]
  intro name hname
  rw [parameterName?_eq_some_iff] at hname
  apply h.opened
  simp [hname]

theorem pieces_of_unbraced (h : Unbraced s.toList) : pieces s = s.toList.map .char := by
  simp [pieces, parameterName?_of_unbraced h]

theorem pieces_of_param (hs : parameterName? s = some name) (hname : PlainName name) :
    pieces s = [.param name] := by
  unfold pieces
  rw [hs]
  simp only
  split
  · next rest hstar =>
    have hmem : '*' ∈ name.toList := by simp [hstar]
    exact absurd hmem hname.unstarred
  · rfl

theorem pieces_of_rest (hs : parameterName? s = some ("*" ++ name)) : pieces s = [.rest name] := by
  simp [pieces, hs]

end Pieces

section Glyphs

/-- A character that is no brace is one glyph. -/
theorem glyphs_cons {c : Char} (hopen : c ≠ '\x7b') (hclose : c ≠ '\x7d') (behind : List Char) :
    glyphs (c :: behind) = ⟨c, false⟩ :: glyphs behind := by
  rw [glyphs]
  · intro rest h
    exact absurd h hopen
  · intro rest h
    exact absurd h hclose

/-- A brace with no brace of its kind behind it is one glyph. -/
theorem glyphs_single {c : Char} {behind : List Char} (h : ∀ rest, behind ≠ c :: rest) :
    glyphs (c :: behind) = ⟨c, false⟩ :: glyphs behind := by
  rw [glyphs]
  · rintro rest rfl rfl
    exact h rest rfl
  · rintro rest rfl rfl
    exact h rest rfl

theorem glyphs_append {cs : List Char} (h : Unbraced cs) (behind : List Char) :
    glyphs (cs ++ behind) = cs.map (⟨·, false⟩) ++ glyphs behind := by
  induction cs with
  | nil => rfl
  | cons c cs ih =>
      obtain ⟨hopen, hclose, hcs⟩ := unbraced_cons_iff.mp h
      rw [List.cons_append, glyphs_cons hopen hclose, ih hcs]
      rfl

/-- Characters that are no braces are taken as they stand. -/
theorem ofGlyphs_append {cs : List Char} (h : Unbraced cs) (behind : List Glyph) :
    ofGlyphs none (cs.map (⟨·, false⟩) ++ behind) =
      (ofGlyphs none behind).map (cs.map .char ++ ·) := by
  induction cs with
  | nil => simp
  | cons c cs ih =>
      obtain ⟨hopen, hclose, hcs⟩ := unbraced_cons_iff.mp h
      rw [List.map_cons, List.cons_append, ofGlyphs, if_neg (by simp [Glyph.opens, hopen]),
        if_neg (by simp [Glyph.closes, hclose]), ih hcs, Option.map_map]
      rfl

/-- A name is read up to its closing brace. -/
theorem ofGlyphs_name (c : Char) (front : List Char) {cs : List Char} (hclose : '\x7d' ∉ cs)
    (hstar : '*' ∉ cs) (hslash : '/' ∉ cs) (behind : List Glyph) :
    ofGlyphs (some (c :: front)) (cs.map (⟨·, false⟩) ++ ⟨'\x7d', false⟩ :: behind) =
      (parameter (c :: front ++ cs) behind).bind fun piece =>
        (ofGlyphs none behind).map (piece :: ·) := by
  induction cs generalizing front with
  | nil => simp [ofGlyphs, Glyph.closes]
  | cons d cs ih =>
      rw [List.mem_cons, not_or] at hclose hstar hslash
      have hrest := ih (front ++ [d]) hclose.2 hstar.2 hslash.2
      rw [List.map_cons, List.cons_append, ofGlyphs,
        if_neg (by simp [Glyph.closes, Ne.symm hclose.1]),
        if_neg (by simp [Ne.symm hstar.1, Ne.symm hslash.1])]
      simpa using hrest

/-- A parameter is read with what its name makes of what stands behind it. -/
theorem ofGlyphs_braced {c : Char} {cs behind : List Char} (hname : Unbraced (c :: cs))
    (hstar : '*' ∉ cs) (hslash : '/' ∉ cs) (hbehind : ∀ rest, behind ≠ '\x7d' :: rest) :
    ofGlyphs none (glyphs ('\x7b' :: (c :: cs ++ '\x7d' :: behind))) =
      (parameter (c :: cs) (glyphs behind)).bind fun piece =>
        (ofGlyphs none (glyphs behind)).map (piece :: ·) := by
  obtain ⟨hopen, hclose, hcs⟩ := unbraced_cons_iff.mp hname
  have hsingle : ∀ rest, c :: cs ++ '\x7d' :: behind ≠ '\x7b' :: rest := by
    rintro rest h
    exact hopen (List.cons.inj h).1
  rw [glyphs_single hsingle, glyphs_append hname, glyphs_single hbehind, ofGlyphs,
    if_pos (by decide), List.map_cons, List.cons_append, ofGlyphs, if_neg hclose]
  exact ofGlyphs_name c [] hcs.closed hstar hslash (glyphs behind)

end Glyphs

section Reading

variable {segs : List String}

/-- The text of segments: a slash before each. -/
def text (segs : List String) : List Char := segs.flatMap fun s => '/' :: s.toList

theorem text_cons (s : String) (behind : List String) :
    text (s :: behind) = '/' :: (s.toList ++ text behind) := by
  simp [text]

theorem allPieces_cons (s : String) (behind : List String) :
    allPieces (s :: behind) = .char '/' :: (pieces s ++ allPieces behind) := by
  simp [allPieces]

theorem glyphs_text_cons (s : String) (behind : List String) :
    glyphs (text (s :: behind)) = ⟨'/', false⟩ :: glyphs (s.toList ++ text behind) := by
  rw [text_cons, glyphs_cons (by decide) (by decide)]

theorem ofGlyphs_slash (behind : List Glyph) :
    ofGlyphs none (⟨'/', false⟩ :: behind) = (ofGlyphs none behind).map (.char '/' :: ·) := rfl

theorem text_ne_closed (segs : List String) (rest : List Char) : text segs ≠ '\x7d' :: rest := by
  cases segs <;> simp [text]

/-- A segment in braces is read with what its name makes of the segments behind it. -/
theorem ofGlyphs_param {s : String} {c : Char} {cs : List Char} (hs : IsSegment s)
    (htext : s.toList = '\x7b' :: (c :: cs ++ ['\x7d'])) (hname : Unbraced (c :: cs))
    (hstar : '*' ∉ cs) (behind : List String) :
    ofGlyphs none (glyphs (s.toList ++ text behind)) =
      (parameter (c :: cs) (glyphs (text behind))).bind fun piece =>
        (ofGlyphs none (glyphs (text behind))).map (piece :: ·) := by
  have hslash : '/' ∉ cs := by
    intro hmem
    apply hs.unslashed
    simp [htext, hmem]
  rw [htext, ← ofGlyphs_braced hname hstar hslash (text_ne_closed behind)]
  simp

/-- A parameter with a plain name ends at a slash or at the end of the text. -/
theorem parameter_text {c : Char} (hc : c ≠ '*') (cs : List Char) (segs : List String) :
    parameter (c :: cs) (glyphs (text segs)) = some (.param (String.ofList (c :: cs))) := by
  cases segs with
  | nil => simp [text, glyphs, parameter, hc]
  | cons s behind => simp [glyphs_text_cons, parameter, hc]

/-- The text of plain segments is read as their pieces. -/
theorem ofGlyphs_glyphs_text (h : Plain segs) (hsegs : ∀ s ∈ segs, IsSegment s) :
    ofGlyphs none (glyphs (text segs)) = some (allPieces segs) := by
  -- The text behind a segment starts with a slash or is empty, so a parameter ends there.
  induction h with
  | nil => rfl
  | @literal s behind hs hstart hbehind ih =>
      obtain ⟨-, hrest⟩ := List.forall_mem_cons.mp hsegs
      rw [glyphs_text_cons, ofGlyphs_slash, glyphs_append hs, ofGlyphs_append hs, ih hrest,
        allPieces_cons, pieces_of_unbraced hs]
      rfl
  | @param s name behind hs hname hbehind ih =>
      obtain ⟨hseg, hrest⟩ := List.forall_mem_cons.mp hsegs
      obtain ⟨c, cs, hcs, hc, hstar, hunbraced⟩ := hname.exists_cons
      have htext := parameterName?_eq_some_iff.mp hs
      rw [hcs] at htext
      rw [glyphs_text_cons, ofGlyphs_slash, ofGlyphs_param hseg htext hunbraced hstar,
        parameter_text hc, ih hrest, allPieces_cons, pieces_of_param hs hname, ← hcs,
        String.ofList_toList]
      rfl
  | @rest s name hs hname =>
      obtain ⟨hseg, -⟩ := List.forall_mem_cons.mp hsegs
      obtain ⟨c, cs, hcs, hc, hstar, hunbraced⟩ := hname.exists_cons
      have htext : s.toList = '\x7b' :: ('*' :: c :: cs ++ ['\x7d']) := by
        simpa [hcs] using parameterName?_eq_some_iff.mp hs
      have hrest : '*' ∉ c :: cs := by simp [Ne.symm hc, hstar]
      have hstarred : Unbraced ('*' :: c :: cs) :=
        unbraced_cons_iff.mpr ⟨by decide, by decide, hunbraced⟩
      rw [glyphs_text_cons, ofGlyphs_slash, ofGlyphs_param hseg htext hstarred hrest,
        allPieces_cons, pieces_of_rest hs]
      have hword : String.ofList (c :: cs) = name := by rw [← hcs, String.ofList_toList]
      have hpiece : parameter ('*' :: c :: cs) (glyphs (text [])) = some (.rest name) := by
        rw [← hword]
        rfl
      rw [hpiece]
      rfl

/-- No segment of plain segments is reserved. -/
theorem isReserved_of_plain (h : Plain segs) : ∀ s ∈ segs, isReserved s.toList = false := by
  have hparam {s name : String} (hs : parameterName? s = some name) :
      isReserved s.toList = false := by
    rw [parameterName?_eq_some_iff.mp hs]
    rfl
  induction h with
  | nil => simp
  | literal _ hstart _ ih => exact List.forall_mem_cons.mpr ⟨hstart, ih⟩
  | param hs _ _ ih => exact List.forall_mem_cons.mpr ⟨hparam hs, ih⟩
  | rest hs _ => exact List.forall_mem_singleton.mpr (hparam hs)

/-- Behind its first slash the text of segments is split into them. -/
theorem splitOn_text {s : String} {behind : List String} (h : ∀ t ∈ s :: behind, IsSegment t) :
    (s.toList ++ text behind).splitOn '/' = (s :: behind).map String.toList := by
  have hjoin : s.toList ++ text behind =
      ['/'].intercalate ((s :: behind).map String.toList) := by
    rw [List.map_cons, intercalate_slash_cons, List.flatMap_map]
    rfl
  rw [hjoin]
  exact List.splitOn_intercalate '/' (slash_notMem_of_mem_map h) (List.cons_ne_nil _ _)

end Reading

/-- A path with plain segments and not too many parameters. -/
structure PlainPath (path : String) : Prop where
  plain : Plain (segments path)
  few : (ofSegments (segments path)).paramCount ≤ maxParams

/-- A path of plain segments with a slash before each, and nowhere else, writes their
pattern, unless there are too many parameters. -/
theorem parse?_of_plain {path : String} (h : Plain (segments path))
    (hnormal : joinSegments (segments path) = path) :
    Pattern.parse? path =
      (some (ofSegments (segments path))).filter fun p => decide (p.paramCount ≤ maxParams) := by
  have hsegs : ∀ s ∈ segments path, IsSegment s := fun _ => isSegment_of_mem_segments
  cases hpath : segments path with
  | nil =>
      rw [hpath] at hnormal
      rw [← hnormal]
      decide
  | cons s behind =>
      rw [hpath] at h hnormal hsegs
      have htext : path.toList = '/' :: (s.toList ++ text behind) := by
        rw [← text_cons, ← hnormal, toList_joinSegments (List.cons_ne_nil s behind),
          List.flatMap_map]
        rfl
      have hreserved : ((s :: behind).map String.toList).any isReserved = false := by
        simpa using isReserved_of_plain h
      unfold parse?
      rw [htext]
      simp only
      rw [splitOn_text hsegs, hreserved, if_neg Bool.false_ne_true, ← text_cons,
        ofGlyphs_glyphs_text h hsegs]
      rfl

/-- A plain path in which a slash stands before each segment and nowhere else writes the
pattern of its segments. -/
theorem PlainPath.parse?_eq {path : String} (h : PlainPath path)
    (hnormal : joinSegments (segments path) = path) :
    Pattern.parse? path = some (ofSegments (segments path)) := by
  rw [parse?_of_plain h.plain hnormal]
  exact Option.filter_eq_some_iff.mpr ⟨rfl, decide_eq_true h.few⟩

end Pattern

end RouteTree
