import RouteTree.Proofs.BestSite
import RouteTree.Proofs.PathCollision

/-!
# Matching segment by segment

A path of words and parameters takes the path of a request exactly if both have as many
segments, every word stands in its place, and what stands at a parameter is its value.
Where two such paths that take one request first differ, one has a word and the other a
parameter, if parameters behind the same segments have one name. So a path goes before
all others that take a request unless one of its values is a word of theirs.
-/

namespace RouteTree

/-- Letters, digits, and the marks that stand for themselves in the path of a
request. -/
def isWordChar (c : Char) : Bool := c.isAlphanum || ['-', '_', '.', '~'].contains c

/-- A text of such characters. -/
structure IsWord (s : String) : Prop where
  nonempty : s ≠ ""
  chars : ∀ c ∈ s.toList, isWordChar c = true

theorem IsWord.notMem {s : String} (h : IsWord s) {c : Char} (hc : isWordChar c = false) :
    c ∉ s.toList := by
  intro hmem
  cases (h.chars c hmem).symm.trans hc

theorem IsWord.isSegment {s : String} (h : IsWord s) : IsSegment s :=
  ⟨h.nonempty, h.notMem (by decide)⟩

namespace Pattern

open Table

variable {s t : String} {segs parts : List String} {captured found : List (String × String)}

theorem unbraced_of_isWord (h : IsWord s) : Unbraced s.toList :=
  ⟨h.notMem (by decide), h.notMem (by decide)⟩

theorem isReserved_of_isWord (h : IsWord s) : isReserved s.toList = false := by
  cases hs : s.toList with
  | nil => rfl
  | cons c cs =>
      have hc : isWordChar c = true := h.chars c (by simp [hs])
      have hne {d : Char} (hd : isWordChar d = false) : c ≠ d := by
        rintro rfl
        cases hc.symm.trans hd
      have hcolon : c ≠ ':' := hne (by decide)
      have hstar : c ≠ '*' := hne (by decide)
      simp [isReserved, hcolon, hstar]

/-- A segment of a written path that ends at a slash: a word, or a parameter. -/
inductive Simple (s : String) : Prop
  | word (hs : IsWord s)
  | param {name : String} (hs : parameterName? s = some name) (hname : PlainName name)

theorem plain_of_simple (h : ∀ s ∈ segs, Simple s) : Plain segs := by
  induction segs with
  | nil => exact .nil
  | cons s segs ih =>
      obtain ⟨hs, hsegs⟩ := List.forall_mem_cons.mp h
      cases hs with
      | word hs => exact .literal (unbraced_of_isWord hs) (isReserved_of_isWord hs) (ih hsegs)
      | param hs hname => exact .param hs hname (ih hsegs)

/-- No segment of this kind takes all the rest. -/
theorem Simple.rank_ne (h : Simple s) : ∀ x ∈ pieces s, x.rank ≠ 2 := by
  cases h with
  | word hs =>
      rw [pieces_of_unbraced (unbraced_of_isWord hs)]
      simp [Piece.rank]
  | param hs hname =>
      rw [pieces_of_param hs hname]
      simp [Piece.rank]

/-- The segments of a request fit those of a written path, and stand for the values of
its parameters. -/
inductive Fits : List String → List String → List (String × String) → Prop
  | nil : Fits [] [] []
  | word {s : String} {segs parts : List String} {captured : List (String × String)}
      (hs : parameterName? s = none) (h : Fits segs parts captured) :
      Fits (s :: segs) (s :: parts) captured
  | param {s name part : String} {segs parts : List String} {captured : List (String × String)}
      (hs : parameterName? s = some name) (h : Fits segs parts captured) :
      Fits (s :: segs) (part :: parts) ((name, part) :: captured)

section Taking

/-- A text that goes on with a slash if it goes on. -/
def AtSlash (cs : List Char) : Prop := ∀ c rest, cs = c :: rest → c = '/'

theorem atSlash_text (parts : List String) : AtSlash (text parts) := by
  rintro c rest h
  cases parts with
  | nil => cases h
  | cons part parts =>
      rw [text_cons] at h
      exact (List.cons.inj h).1.symm

theorem takeWhile_append {cs behind : List Char} (hcs : '/' ∉ cs) (h : AtSlash behind) :
    (cs ++ behind).takeWhile (· ≠ '/') = cs := by
  have hall : ∀ c ∈ cs, (decide (c ≠ '/')) = true := by
    intro c hc
    exact decide_eq_true (ne_of_mem_of_not_mem hc hcs)
  rw [List.takeWhile_append_of_pos hall]
  cases behind with
  | nil => simp
  | cons c rest =>
      obtain rfl := h c rest rfl
      simp

theorem dropWhile_append {cs behind : List Char} (hcs : '/' ∉ cs) (h : AtSlash behind) :
    (cs ++ behind).dropWhile (· ≠ '/') = behind := by
  have hsplit : (cs ++ behind).takeWhile (· ≠ '/') ++ (cs ++ behind).dropWhile (· ≠ '/') =
      cs ++ behind := List.takeWhile_append_dropWhile
  rw [takeWhile_append hcs h] at hsplit
  exact List.append_cancel_left hsplit

/-- What ends at a slash can be told from the text that goes on. -/
theorem append_inj_slash {cs ds behind behind' : List Char} (hcs : '/' ∉ cs) (hds : '/' ∉ ds)
    (h : AtSlash behind) (h' : AtSlash behind') (heq : cs ++ behind = ds ++ behind') :
    cs = ds ∧ behind = behind' := by
  have hfront := congrArg (List.takeWhile (· ≠ '/')) heq
  rw [takeWhile_append hcs h, takeWhile_append hds h'] at hfront
  subst hfront
  exact ⟨rfl, List.append_cancel_left heq⟩

theorem captures?_chars_eq_some_iff {cs path : List Char} {ps : Pattern} :
    captures? (cs.map .char ++ ps) path = some found ↔
      ∃ behind, path = cs ++ behind ∧ ps.captures? behind = some found := by
  induction cs generalizing path with
  | nil => simp
  | cons c cs ih =>
      rw [List.map_cons, List.cons_append, captures?_char_eq_some_iff]
      constructor
      · rintro ⟨rest, rfl, h⟩
        obtain ⟨behind, rfl, hps⟩ := ih.mp h
        exact ⟨behind, rfl, hps⟩
      · rintro ⟨behind, rfl, hps⟩
        exact ⟨cs ++ behind, rfl, ih.mpr ⟨behind, rfl, hps⟩⟩

theorem atSlash_of_captures? {path : List Char} (h : captures? (allPieces segs) path = some found) :
    AtSlash path := by
  rintro c rest rfl
  cases segs with
  | nil => cases h
  | cons s segs =>
      rw [allPieces_cons, captures?_char_eq_some_iff] at h
      obtain ⟨behind, heq, -⟩ := h
      exact (List.cons.inj heq).1

/-- The pieces of words and parameters take the texts of segments that fit. -/
theorem captures?_allPieces_eq_some_iff (hsegs : ∀ s ∈ segs, Simple s)
    (hparts : ∀ part ∈ parts, IsSegment part) :
    captures? (allPieces segs) (text parts) = some captured ↔ Fits segs parts captured := by
  induction segs generalizing parts captured with
  | nil =>
      cases parts with
      | nil =>
          constructor
          · intro h
            obtain rfl := Option.some.inj h
            exact .nil
          · intro h
            cases h
            rfl
      | cons part parts => exact ⟨nofun, nofun⟩
  | cons s segs ih =>
      obtain ⟨hs, hrest⟩ := List.forall_mem_cons.mp hsegs
      cases parts with
      | nil => exact ⟨nofun, nofun⟩
      | cons part parts =>
          obtain ⟨hpart, hbehind⟩ := List.forall_mem_cons.mp hparts
          have hslash : captures? (allPieces (s :: segs)) (text (part :: parts)) =
              captures? (pieces s ++ allPieces segs) (part.toList ++ text parts) := by
            rw [allPieces_cons, text_cons, captures?, if_pos rfl]
          rw [hslash]
          cases hs with
          | word hs =>
              have hunbraced := unbraced_of_isWord hs
              rw [pieces_of_unbraced hunbraced, captures?_chars_eq_some_iff]
              constructor
              · rintro ⟨behind, heq, htakes⟩
                obtain ⟨htext, rfl⟩ := append_inj_slash hpart.unslashed hs.isSegment.unslashed
                  (atSlash_text parts) (atSlash_of_captures? htakes) heq
                obtain rfl := String.toList_inj.mp htext
                exact .word (parameterName?_of_unbraced hunbraced) ((ih hrest hbehind).mp htakes)
              · intro h
                cases h with
                | word _ h => exact ⟨text parts, rfl, (ih hrest hbehind).mpr h⟩
                | param hparam _ => cases hparam.symm.trans (parameterName?_of_unbraced hunbraced)
          | @param name hs hname =>
              have hne : part.toList ++ text parts ≠ [] :=
                List.append_ne_nil_of_left_ne_nil
                  (String.toList_eq_nil_iff.not.mpr hpart.nonempty) _
              rw [pieces_of_param hs hname, List.singleton_append, captures?_param_eq_some_iff,
                takeWhile_append hpart.unslashed (atSlash_text parts),
                dropWhile_append hpart.unslashed (atSlash_text parts), String.ofList_toList]
              constructor
              · rintro ⟨-, behind, htakes, rfl⟩
                exact .param hs ((ih hrest hbehind).mp htakes)
              · intro h
                cases h with
                | word hnone _ => cases hs.symm.trans hnone
                | param hs' h =>
                    obtain rfl := Option.some.inj (hs.symm.trans hs')
                    exact ⟨hne, _, (ih hrest hbehind).mpr h, rfl⟩

/-- The path of a request. -/
theorem toList_joinSegments_eq_text (h : parts ≠ []) :
    (joinSegments parts).toList = text parts := by
  rw [toList_joinSegments h, text, List.flatMap_map]

theorem captures?_ofSegments_eq_some_iff (hsegs : ∀ s ∈ segs, Simple s)
    (hsegments : ∀ s ∈ segs, IsSegment s) (hparts : ∀ part ∈ parts, IsSegment part) :
    captures? (ofSegments segs) (joinSegments parts).toList = some captured ↔
      Fits segs parts captured := by
  cases parts with
  | nil =>
      have hroot : (joinSegments []).toList = ['/'] := by decide
      rw [hroot]
      cases segs with
      | nil => exact captures?_allPieces_eq_some_iff hsegs hparts
      | cons s segs =>
          obtain ⟨piece, behind, hpieces⟩ :=
            List.exists_cons_of_ne_nil (pieces_ne_nil (hsegments s List.mem_cons_self).nonempty)
          have hnone : captures? (ofSegments (s :: segs)) ['/'] = none := by
            rw [ofSegments, allPieces_cons, hpieces, captures?, if_pos rfl]
            rfl
          rw [hnone]
          constructor
          · intro htakes
            cases htakes
          · intro hfits
            cases hfits
  | cons part parts =>
      rw [toList_joinSegments_eq_text (List.cons_ne_nil part parts)]
      cases segs with
      | nil =>
          obtain ⟨c, cs, hcs⟩ := List.exists_cons_of_ne_nil
            (String.toList_eq_nil_iff.not.mpr (hparts part List.mem_cons_self).nonempty)
          have hnone : captures? (ofSegments []) (text (part :: parts)) = none := by
            rw [ofSegments, text_cons, hcs, captures?, if_pos rfl]
            rfl
          rw [hnone]
          constructor
          · intro htakes
            cases htakes
          · intro hfits
            cases hfits
      | cons s segs => exact captures?_allPieces_eq_some_iff hsegs hparts

end Taking

section Order

theorem goesBefore_append_left {front ps qs : Pattern} (h : ∀ x ∈ front, x.rank ≠ 2) :
    goesBefore (front ++ ps) (front ++ qs) = goesBefore ps qs := by
  induction front with
  | nil => rfl
  | cons x front ih =>
      obtain ⟨hx, hfront⟩ := List.forall_mem_cons.mp h
      cases x with
      | char c => exact ih hfront
      | param name => exact ih hfront
      | rest name => exact absurd rfl hx

theorem goesBefore_allPieces_cons (hs : Simple s) {behind behind' : List String} :
    goesBefore (allPieces (s :: behind)) (allPieces (s :: behind')) =
      goesBefore (allPieces behind) (allPieces behind') := by
  rw [allPieces_cons, allPieces_cons]
  exact goesBefore_append_left hs.rank_ne

theorem goesBefore_word_param {name : String} (hs : IsWord s) (ht : parameterName? t = some name)
    (hname : PlainName name) {behind behind' : List String} :
    goesBefore (allPieces (s :: behind)) (allPieces (t :: behind')) = true := by
  obtain ⟨c, cs, hcs⟩ :=
    List.exists_cons_of_ne_nil (String.toList_eq_nil_iff.not.mpr hs.nonempty)
  rw [allPieces_cons, allPieces_cons, pieces_of_unbraced (unbraced_of_isWord hs), hcs,
    pieces_of_param ht hname]
  rfl

/-- Of two paths that a request fits, one goes before the other unless a value of its
own is a word of the other. -/
theorem goesBefore_of_fits {other : List String} (hsegs : ∀ s ∈ segs, Simple s)
    (hother : ∀ s ∈ other, Simple s) (hagree : Agree segs other) (h : Fits segs parts captured)
    (h' : Fits other parts found) (hvalues : ∀ c ∈ captured, c.2 ∉ other) :
    segs = other ∨ goesBefore (allPieces segs) (allPieces other) = true := by
  induction h generalizing other found with
  | nil =>
      cases h'
      exact Or.inl rfl
  | @word s segs parts captured hs _ ih =>
      obtain ⟨hsimple, hrest⟩ := List.forall_mem_cons.mp hsegs
      cases h' with
      | @word _ behind _ _ _ h' =>
          obtain ⟨-, hbehind⟩ := List.forall_mem_cons.mp hother
          have hfresh : ∀ c ∈ captured, c.2 ∉ behind := by
            intro c hc hmem
            exact hvalues c hc (List.mem_cons_of_mem _ hmem)
          rw [goesBefore_allPieces_cons hsimple]
          rcases ih hrest hbehind hagree.tail h' hfresh with rfl | hbefore
          · exact Or.inl rfl
          · exact Or.inr hbefore
      | @param t name _ behind _ _ ht _ =>
          obtain ⟨hsimple', -⟩ := List.forall_mem_cons.mp hother
          cases hsimple with
          | param hs' _ => cases hs.symm.trans hs'
          | word hword =>
              cases hsimple' with
              | word hword' =>
                  cases ht.symm.trans (parameterName?_of_unbraced (unbraced_of_isWord hword'))
              | param ht' hname => exact Or.inr (goesBefore_word_param hword ht' hname)
  | @param s name part segs parts captured hs _ ih =>
      obtain ⟨hsimple, hrest⟩ := List.forall_mem_cons.mp hsegs
      obtain ⟨hvalue, hvalues⟩ := List.forall_mem_cons.mp hvalues
      cases h' with
      | word _ _ => exact absurd List.mem_cons_self hvalue
      | @param t name' _ behind _ _ ht h' =>
          obtain ⟨-, hbehind⟩ := List.forall_mem_cons.mp hother
          obtain rfl := hagree.head hs ht
          have hfresh : ∀ c ∈ captured, c.2 ∉ behind := by
            intro c hc hmem
            exact hvalues c hc (List.mem_cons_of_mem _ hmem)
          rw [goesBefore_allPieces_cons hsimple]
          rcases ih hrest hbehind hagree.tail h' hfresh with rfl | hbefore
          · exact Or.inl rfl
          · exact Or.inr hbefore

theorem goesBefore_ofSegments_of_fits {other : List String} (hsegs : ∀ s ∈ segs, Simple s)
    (hother : ∀ s ∈ other, Simple s) (hagree : Agree segs other) (h : Fits segs parts captured)
    (h' : Fits other parts found) (hvalues : ∀ c ∈ captured, c.2 ∉ other) :
    segs = other ∨ goesBefore (ofSegments segs) (ofSegments other) = true := by
  cases h with
  | nil =>
      cases h'
      exact Or.inl rfl
  | word hs h =>
      have hbefore := goesBefore_of_fits hsegs hother hagree (.word hs h) h' hvalues
      cases h' <;> exact hbefore
  | param hs h =>
      have hbefore := goesBefore_of_fits hsegs hother hagree (.param hs h) h' hvalues
      cases h' <;> exact hbefore

end Order

end Pattern

end RouteTree
