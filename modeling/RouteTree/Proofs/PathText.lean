import RouteTree.Context

/-!
# Segments and the texts of paths

The segments of a text hold no slash, so a text in which a slash stands before each
segment has only one reading: the segments of a path are those that it was made of.
-/

namespace RouteTree

/-- No part of a split text holds a slash. -/
theorem slash_notMem_of_mem_splitOn {cs part : List Char} (h : part ∈ cs.splitOn '/') :
    '/' ∉ part := by
  induction cs generalizing part with
  | nil =>
      obtain rfl : part = [] := by simpa [List.splitOn] using h
      exact List.not_mem_nil
  | cons c cs ih =>
      rw [List.splitOn_eq_splitOnP, List.splitOnP_cons_eq_if_modifyHead,
        ← List.splitOn_eq_splitOnP] at h
      split at h
      · rcases List.mem_cons.mp h with rfl | hrest
        · exact List.not_mem_nil
        · exact ih hrest
      · next hc =>
        obtain ⟨first, rest, hsplit⟩ := List.exists_cons_of_ne_nil
          (List.splitOnP_ne_nil (· == '/') cs)
        rw [List.splitOn_eq_splitOnP, hsplit, List.modifyHead_cons] at h
        rw [List.splitOn_eq_splitOnP, hsplit] at ih
        rcases List.mem_cons.mp h with rfl | hrest
        · intro hmem
          rcases List.mem_cons.mp hmem with rfl | hfirst
          · exact hc (beq_self_eq_true _)
          · exact ih List.mem_cons_self hfirst
        · exact ih (List.mem_cons_of_mem _ hrest)

theorem slash_notMem_of_mem_segments {text s : String} (h : s ∈ segments text) :
    '/' ∉ s.toList := by
  obtain ⟨part, hpart, rfl⟩ := List.mem_map.mp h
  rw [String.toList_ofList]
  exact slash_notMem_of_mem_splitOn (List.mem_filter.mp hpart).1

theorem slash_notMem_of_segments_eq_append {text : String} {front rest : List String}
    (h : segments text = front ++ rest) : ∀ s ∈ front, '/' ∉ s.toList := by
  intro s hs
  have hmem : s ∈ segments text := by
    rw [h]
    exact List.mem_append_left rest hs
  exact slash_notMem_of_mem_segments hmem

theorem intercalate_slash_cons (part : List Char) (parts : List (List Char)) :
    ['/'].intercalate (part :: parts) = part ++ parts.flatMap ('/' :: ·) := by
  induction parts generalizing part with
  | nil => simp [List.intercalate]
  | cons next rest ih =>
      have hnext : ['/'].intercalate (part :: next :: rest) =
          part ++ '/' :: ['/'].intercalate (next :: rest) := by
        simp [List.intercalate]
      rw [hnext, ih, List.flatMap_cons]
      rfl

/-- Parts without slashes can be told from the text that has a slash before each. -/
theorem splitOn_flatMap_slash {parts : List (List Char)} (h : ∀ part ∈ parts, '/' ∉ part) :
    (parts.flatMap ('/' :: ·)).splitOn '/' = [] :: parts := by
  have hjoin : parts.flatMap ('/' :: ·) = ['/'].intercalate ([] :: parts) := by
    rw [intercalate_slash_cons, List.nil_append]
  rw [hjoin]
  apply List.splitOn_intercalate
  · intro part hpart
    rcases List.mem_cons.mp hpart with rfl | hpart
    · exact List.not_mem_nil
    · exact h part hpart
  · exact List.cons_ne_nil _ _

/-- What stands between two slashes of a path. -/
structure IsSegment (s : String) : Prop where
  nonempty : s ≠ ""
  unslashed : '/' ∉ s.toList

theorem isSegment_of_mem_segments {text s : String} (h : s ∈ segments text) : IsSegment s := by
  refine ⟨?_, slash_notMem_of_mem_segments h⟩
  obtain ⟨part, hpart, rfl⟩ := List.mem_map.mp h
  have hne := (List.mem_filter.mp hpart).2
  simpa using hne

theorem IsSegment.braced {s : String} (h : IsSegment s) : IsSegment (bracedSegment s) := by
  unfold bracedSegment
  split
  · next name hs =>
    have hname := h.unslashed
    rw [hs] at hname
    constructor
    · simp
    · simpa using hname
  · exact h

theorem slash_notMem_of_mem_map {segs : List String} (h : ∀ s ∈ segs, IsSegment s) :
    ∀ part ∈ segs.map String.toList, '/' ∉ part := by
  intro part hpart
  obtain ⟨s, hs, rfl⟩ := List.mem_map.mp hpart
  exact (h s hs).unslashed

/-- The text of a path has a slash before each segment. -/
theorem toList_joinSegments {segs : List String} (h : segs ≠ []) :
    (joinSegments segs).toList = (segs.map String.toList).flatMap ('/' :: ·) := by
  cases segs with
  | nil => exact absurd rfl h
  | cons s rest => simp [joinSegments, String.toList_join, List.flatMap_map]

/-- Segments can be read from the path that they make. -/
theorem segments_joinSegments {segs : List String} (h : ∀ s ∈ segs, IsSegment s) :
    segments (joinSegments segs) = segs := by
  by_cases hnil : segs = []
  · subst hnil
    decide
  have hkept : ∀ part ∈ segs.map String.toList, (!part.isEmpty) = true := by
    intro part hpart
    obtain ⟨s, hs, rfl⟩ := List.mem_map.mp hpart
    simpa using (h s hs).nonempty
  unfold segments
  rw [toList_joinSegments hnil, splitOn_flatMap_slash (slash_notMem_of_mem_map h),
    List.filter_cons_of_neg (by simp), List.filter_eq_self.mpr hkept, List.map_map]
  simp [Function.comp_def]

end RouteTree
