import RouteTree.Proofs.PathText

/-!
# How the text of a path is read

Slashes separate the segments of a text and do nothing else, so it does not matter how
many of them stand between two segments, nor whether the text begins or ends with some.
What a context is given piece by piece, it may as well be given as one text with slashes
between the pieces.
-/

namespace RouteTree

/-- The characters of a text, read from the left, with the segments between their
slashes. -/
inductive Reads : List Char → List String → Prop
  | done : Reads [] []
  | slash {rest segs} : Reads rest segs → Reads ('/' :: rest) segs
  | last {s} : IsSegment s → Reads s.toList [s]
  | segment {s rest segs} : IsSegment s → Reads rest segs →
      Reads (s.toList ++ '/' :: rest) (s :: segs)

/-- What `segments` keeps of the parts of a split text. -/
theorem segments_of_splitOn {text : String} {parts : List (List Char)}
    (h : text.toList.splitOn '/' = parts) :
    segments text = (parts.filter fun part => !part.isEmpty).map String.ofList := by
  rw [segments, h]

theorem segments_empty : segments "" = [] := by
  decide

/-- A slash divides a text into two that are read one after the other. -/
theorem segments_append_slash (a b : String) :
    segments (a ++ "/" ++ b) = segments a ++ segments b := by
  have hsplit : (a ++ "/" ++ b).toList.splitOn '/' =
      a.toList.splitOn '/' ++ b.toList.splitOn '/' := by
    have htext : (a ++ "/" ++ b).toList = a.toList ++ '/' :: b.toList := by simp
    rw [htext, List.splitOn_append_cons_self]
  rw [segments_of_splitOn hsplit, List.filter_append, List.map_append]
  rfl

/-- A segment alone is read as itself. -/
theorem IsSegment.segments_eq {s : String} (h : IsSegment s) : segments s = [s] := by
  have hkept : (!s.toList.isEmpty) = true := by simpa using h.nonempty
  rw [segments_of_splitOn (List.splitOn_eq_singleton h.unslashed),
    List.filter_cons_of_pos (by exact hkept), List.filter_nil, List.map_singleton,
    String.ofList_toList]

theorem Reads.segments_eq {cs : List Char} {segs : List String} (h : Reads cs segs) :
    segments (String.ofList cs) = segs := by
  induction h with
  | done => exact segments_empty
  | @slash rest segs _ ih =>
      have htext : String.ofList ('/' :: rest) = "" ++ "/" ++ String.ofList rest := by
        apply String.toList_injective
        simp
      rw [htext, segments_append_slash, segments_empty, ih, List.nil_append]
  | last hs => rw [String.ofList_toList, hs.segments_eq]
  | @segment s rest segs hs _ ih =>
      have htext : String.ofList (s.toList ++ '/' :: rest) = s ++ "/" ++ String.ofList rest := by
        apply String.toList_injective
        simp
      rw [htext, segments_append_slash, hs.segments_eq, ih, List.singleton_append]

/-- Parts without slashes can be read from the text that has a slash between any two of
them. -/
theorem reads_intercalate {parts : List (List Char)} (h : ∀ part ∈ parts, '/' ∉ part) :
    Reads (['/'].intercalate parts)
      ((parts.filter fun part => !part.isEmpty).map String.ofList) := by
  induction parts with
  | nil => exact Reads.done
  | cons part rest ih =>
      obtain ⟨hpart, hrest⟩ := List.forall_mem_cons.mp h
      have hread := ih hrest
      by_cases hempty : part = []
      · subst hempty
        cases rest with
        | nil => exact Reads.done
        | cons next rest => exact hread.slash
      · have hsegment : IsSegment (String.ofList part) := by
          constructor
          · simpa using hempty
          · rwa [String.toList_ofList]
        have hkept : (!part.isEmpty) = true := by simpa using hempty
        rw [List.filter_cons_of_pos (by exact hkept), List.map_cons]
        cases rest with
        | nil =>
            have hlast := Reads.last hsegment
            rw [String.toList_ofList] at hlast
            rwa [List.intercalate_singleton]
        | cons next rest =>
            have hfirst := hread.segment hsegment
            rwa [String.toList_ofList] at hfirst

/-- A text has one reading, its segments. -/
theorem reads_iff {text : String} {segs : List String} :
    Reads text.toList segs ↔ segments text = segs := by
  constructor
  · intro h
    rw [← String.ofList_toList (s := text), h.segments_eq]
  · rintro rfl
    have hparts : ∀ part ∈ text.toList.splitOn '/', '/' ∉ part := fun _ =>
      slash_notMem_of_mem_splitOn
    have hread := reads_intercalate hparts
    rwa [List.intercalate_splitOn] at hread

/-- A number of slashes in a row. -/
def slashes (n : Nat) : String := String.ofList (List.replicate n '/')

theorem slashes_zero : slashes 0 = "" := rfl

theorem slashes_succ (n : Nat) : slashes (n + 1) = "/" ++ slashes n := by
  apply String.toList_injective
  simp [slashes, List.replicate_succ]

/-- Slashes in front of a text are passed over. -/
theorem segments_slashes_append (n : Nat) (text : String) :
    segments (slashes n ++ text) = segments text := by
  induction n with
  | zero => rw [slashes_zero, String.empty_append]
  | succ n ih =>
      have htext : slashes (n + 1) ++ text = "" ++ "/" ++ (slashes n ++ text) := by
        rw [slashes_succ, String.empty_append, String.append_assoc]
      rw [htext, segments_append_slash, segments_empty, ih, List.nil_append]

/-- Any number of slashes divides a text as one of them does, and slashes behind it
change nothing. -/
theorem segments_append_slashes (a b : String) (m n : Nat) :
    segments (a ++ slashes (m + 1) ++ b ++ slashes n) = segments a ++ segments b := by
  have hbehind (text : String) : segments (text ++ slashes n) = segments text := by
    cases n with
    | zero => rw [slashes_zero, String.append_empty]
    | succ n =>
        have hnone : segments (slashes n) = [] := by
          simpa [segments_empty] using segments_slashes_append n ""
        rw [slashes_succ, ← String.append_assoc, segments_append_slash, hnone, List.append_nil]
  have htext : a ++ slashes (m + 1) ++ b = a ++ "/" ++ (slashes m ++ b) := by
    rw [slashes_succ, ← String.append_assoc, String.append_assoc]
  rw [hbehind, htext, segments_append_slash, segments_slashes_append]

namespace Context

variable {σ : Type}

theorem pushPath_congr {a b : String} (ctx : Context σ) (h : segments a = segments b) :
    ctx.pushPath a = ctx.pushPath b := by
  rw [pushPath, pushPath, h]

theorem pushPath_append_slash (ctx : Context σ) (a b : String) :
    ctx.pushPath (a ++ "/" ++ b) = (ctx.pushPath a).pushPath b := by
  simp [pushPath, segments_append_slash]

/-- Texts of the same reading push the same. -/
theorem pushPath_eq_of_reads {a b : String} {segs : List String} (ctx : Context σ)
    (ha : Reads a.toList segs) (hb : Reads b.toList segs) : ctx.pushPath a = ctx.pushPath b := by
  apply pushPath_congr
  rw [reads_iff.mp ha, reads_iff.mp hb]

theorem pushPath_slashes (ctx : Context σ) (a b : String) (k m n : Nat) :
    ctx.pushPath (slashes k ++ (a ++ slashes (m + 1) ++ b ++ slashes n)) =
      ctx.pushPath (a ++ "/" ++ b) := by
  apply pushPath_congr
  rw [segments_slashes_append, segments_append_slashes, segments_append_slash]

end Context

end RouteTree
