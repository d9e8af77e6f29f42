import Mathlib.Data.List.Forall2
import RouteTree.Proofs.PathReading

/-!
# The path of a context

Whatever is done to contexts, the path of one has a slash before each segment that was
pushed on the way to it, parameters in braces. Such a path is pushed as it is: a context
that is mounted under the path of another has that path itself.
-/

namespace RouteTree

/-- How a segment that was pushed stands in a path. -/
structure Stands (segment part : String) : Prop where
  isSegment : IsSegment part
  unmarked : ∀ name, part ≠ ":" ++ name
  parameter : ∀ name, segment = ":" ++ name → part = "\x7b" ++ name ++ "\x7d"
  literal : (∀ name, segment ≠ ":" ++ name) → part = segment

theorem bracedSegment_colon (name : String) :
    bracedSegment (":" ++ name) = "\x7b" ++ name ++ "\x7d" := by
  have hcolon : (":" ++ name).toList = ':' :: name.toList := by simp
  apply String.toList_injective
  rw [bracedSegment, hcolon]
  simp

/-- Only a colon in front makes a difference. -/
theorem bracedSegment_of_unmarked {segment : String} (h : ∀ name, segment ≠ ":" ++ name) :
    bracedSegment segment = segment := by
  unfold bracedSegment
  split
  · next name hname =>
    have hcolon : segment = ":" ++ String.ofList name := by
      apply String.toList_injective
      simp [hname]
    exact absurd hcolon (h _)
  · rfl

theorem bracedSegment_ne_colon (segment name : String) : bracedSegment segment ≠ ":" ++ name := by
  by_cases hmarked : ∃ inner, segment = ":" ++ inner
  · obtain ⟨inner, rfl⟩ := hmarked
    intro h
    rw [bracedSegment_colon] at h
    have hlist := congrArg String.toList h
    simp at hlist
  · have hunmarked : ∀ inner, segment ≠ ":" ++ inner := not_exists.mp hmarked
    rw [bracedSegment_of_unmarked hunmarked]
    exact hunmarked name

theorem Stands.eq_bracedSegment {segment part : String} (h : Stands segment part) :
    part = bracedSegment segment := by
  by_cases hmarked : ∃ name, segment = ":" ++ name
  · obtain ⟨name, rfl⟩ := hmarked
    rw [h.parameter name rfl, bracedSegment_colon]
  · have hunmarked : ∀ name, segment ≠ ":" ++ name := not_exists.mp hmarked
    rw [h.literal hunmarked, bracedSegment_of_unmarked hunmarked]

/-- Segments stand in a path in one way only. -/
theorem stands_eq_map {segs parts : List String} (h : List.Forall₂ Stands segs parts) :
    parts = segs.map bracedSegment := by
  induction h with
  | nil => rfl
  | cons hstands _ ih => rw [List.map_cons, hstands.eq_bracedSegment, ih]

theorem stands_bracedSegment {segment : String} (h : IsSegment segment) :
    Stands segment (bracedSegment segment) where
  isSegment := h.braced
  unmarked := bracedSegment_ne_colon segment
  parameter := by
    rintro name rfl
    exact bracedSegment_colon name
  literal := bracedSegment_of_unmarked

namespace Context

variable {σ : Type}

/-- The contexts that can be made, each with the segments that were pushed on its
way. -/
inductive Reached : List String → Context σ → Prop
  | root : Reached [] root
  | mounted {path segs} : Reads path.toList segs → Reached segs (mounted path)
  | pushPath {pushed ctx declared segs} : Reached pushed ctx → Reads declared.toList segs →
      Reached (pushed ++ segs) (ctx.pushPath declared)
  | fork {pushed ctx} : Reached pushed ctx → Reached pushed ctx.fork
  | withRules {pushed ctx} (rules : Schema) : Reached pushed ctx →
      Reached pushed (ctx.withRules rules)
  | withController {pushed ctx} (controller : Instance σ) : Reached pushed ctx →
      Reached pushed (ctx.withController controller)

variable {pushed : List String} {ctx : Context σ}

theorem Reached.isSegment (h : Reached pushed ctx) : ∀ s ∈ pushed, IsSegment s := by
  have hreads {text : String} {segs : List String} (hread : Reads text.toList segs) :
      ∀ s ∈ segs, IsSegment s := by
    obtain rfl := reads_iff.mp hread
    exact fun _ => isSegment_of_mem_segments
  induction h with
  | root => simp
  | mounted hread => exact hreads hread
  | pushPath _ hread ih =>
      intro s hs
      rcases List.mem_append.mp hs with hs | hs
      · exact ih s hs
      · exact hreads hread s hs
  | fork _ ih => exact ih
  | withRules _ _ ih => exact ih
  | withController _ _ ih => exact ih

theorem Reached.pushed_eq (h : Reached pushed ctx) : ctx.pushed = pushed.map bracedSegment := by
  induction h with
  | root => rfl
  | mounted hread => rw [Context.mounted, pushPath_pushed, reads_iff.mp hread]; rfl
  | pushPath _ hread ih => rw [pushPath_pushed, ih, reads_iff.mp hread, List.map_append]
  | fork _ ih => exact ih
  | withRules _ _ ih => exact ih
  | withController _ _ ih => exact ih

/-- The segments that were pushed stand in the path one after the other. -/
theorem Reached.stands (h : Reached pushed ctx) : List.Forall₂ Stands pushed ctx.pushed := by
  rw [h.pushed_eq, List.forall₂_map_right_iff, List.forall₂_same]
  intro s hs
  exact stands_bracedSegment (h.isSegment s hs)

/-- Under a path whose segments are as they stand, nothing is rewritten. -/
theorem mounted_joinSegments {parts : List String} (hsegment : ∀ s ∈ parts, IsSegment s)
    (hunmarked : ∀ s ∈ parts, ∀ name, s ≠ ":" ++ name) :
    (mounted (joinSegments parts) : Context σ).pushed = parts := by
  have hkept : parts.map bracedSegment = parts.map id := by
    apply List.map_congr_left
    intro s hs
    exact bracedSegment_of_unmarked (hunmarked s hs)
  rw [mounted, pushPath_pushed, segments_joinSegments hsegment, hkept, List.map_id]
  rfl

/-- The path of a context is a slash if no segment was pushed, and otherwise has every
segment in its order, behind a slash each. Mounting under it gives the same path
again. -/
theorem path_of_reached (h : Reached pushed ctx) :
    (pushed = [] → ctx.path = "/") ∧
      (pushed ≠ [] → ∃ parts, List.Forall₂ Stands pushed parts ∧
        ctx.path = String.join (parts.map fun part => "/" ++ part)) ∧
      (mounted ctx.path : Context σ).path = ctx.path := by
  refine ⟨?_, ?_, ?_⟩
  · rintro rfl
    rw [path, h.pushed_eq]
    rfl
  · intro hne
    refine ⟨ctx.pushed, h.stands, ?_⟩
    have hpushed : ctx.pushed ≠ [] := by
      rw [h.pushed_eq]
      simpa using hne
    rw [path, joinSegments]
    exact hpushed
  · have hstands {part : String} (hpart : part ∈ ctx.pushed) : ∃ s, Stands s part := by
      rw [h.pushed_eq] at hpart
      obtain ⟨s, hs, rfl⟩ := List.mem_map.mp hpart
      exact ⟨s, stands_bracedSegment (h.isSegment s hs)⟩
    have hsame : (mounted (joinSegments ctx.pushed) : Context σ).pushed = ctx.pushed := by
      apply mounted_joinSegments
      · intro part hpart
        obtain ⟨s, hs⟩ := hstands hpart
        exact hs.isSegment
      · intro part hpart
        obtain ⟨s, hs⟩ := hstands hpart
        exact hs.unmarked
    rw [path, path, hsame]

/-- A branch that forks off below a prefix, with segments that look like parameters, in
braces or not. -/
def forked : Context Unit :=
  (((mounted "/api/").withRules SortedMap.empty).fork.pushPath "::a/:/\x7bb\x7d").pushPath "//:c"

theorem path_of_forked :
    Reached ["api", "::a", ":", "\x7bb\x7d", ":c"] forked ∧
      (∃ parts, List.Forall₂ Stands ["api", "::a", ":", "\x7bb\x7d", ":c"] parts ∧
        forked.path = String.join (parts.map fun part => "/" ++ part)) ∧
      (mounted forked.path : Context Unit).path = forked.path := by
  have hprefix : Reads "/api/".toList ["api"] := reads_iff.mpr (by decide)
  have hmarked : Reads "::a/:/\x7bb\x7d".toList ["::a", ":", "\x7bb\x7d"] :=
    reads_iff.mpr (by decide)
  have hlast : Reads "//:c".toList [":c"] := reads_iff.mpr (by decide)
  have hreached : Reached ["api", "::a", ":", "\x7bb\x7d", ":c"] forked :=
    (((Reached.mounted hprefix).withRules SortedMap.empty).fork.pushPath hmarked).pushPath hlast
  obtain ⟨-, hparts, hfixed⟩ := path_of_reached hreached
  exact ⟨hreached, hparts (List.cons_ne_nil _ _), hfixed⟩

end Context

end RouteTree
