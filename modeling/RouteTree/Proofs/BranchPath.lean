import RouteTree.Proofs.Compilation
import RouteTree.Proofs.ContextPath

/-!
# The path of a branch

The texts that the nodes of a chain declare are read segment by segment. Each segment
stands in the path of the tip behind a slash, a parameter in braces, and in front of
them stands what the context holds already. So the path of an entry can be told from the
declared texts alone.
-/

namespace RouteTree

/-- The segments that a node declares, as its path is read. -/
inductive Node.Declares {σ : Type} (n : Node σ) : List String → Prop
  | nothing (hpath : n.path = none) : n.Declares []
  | path {text segs} (hpath : n.path = some text) (hreads : Reads text.toList segs) :
      n.Declares segs

/-- A text with a slash before each of its parts; without parts it is a slash alone. -/
inductive Slashed : List String → String → Prop
  | root : Slashed [] "/"
  | behind {parts} (hne : parts ≠ []) :
      Slashed parts (String.join (parts.map fun part => "/" ++ part))

theorem slashed_iff {parts : List String} {path : String} :
    Slashed parts path ↔ path = joinSegments parts := by
  constructor
  · intro h
    cases h with
    | root => rfl
    | behind hne =>
        rw [joinSegments]
        exact hne
  · rintro rfl
    cases parts with
    | nil => exact .root
    | cons part rest => exact .behind (List.cons_ne_nil part rest)

theorem Node.declares_iff {σ : Type} {n : Node σ} {segs : List String} :
    n.Declares segs ↔ n.path.elim [] segments = segs := by
  constructor
  · intro h
    cases h with
    | nothing hpath => rw [hpath, Option.elim_none]
    | path hpath hreads => rw [hpath, Option.elim_some, reads_iff.mp hreads]
  · rintro rfl
    cases hpath : n.path with
    | none => exact .nothing hpath
    | some text => exact .path hpath (reads_iff.mpr rfl)

namespace Branch

variable {σ : Type} {ctx : Context σ} {number : Nat → Nat} {b : Branch σ}

/-- The path of a tip below a context. The nodes of the chain declare segments, and
these stand in the path, one after the other, behind the segments of the context. -/
def HasPath (ctx : Context σ) (b : Branch σ) (path : String) : Prop :=
  ∃ declared parts, List.Forall₂ (fun spot segs => spot.node.Declares segs) b.chain declared ∧
    List.Forall₂ Stands declared.flatten parts ∧ Slashed (ctx.pushed ++ parts) path

/-- The path of a tip below a context, put together from its segments. -/
def path (ctx : Context σ) (b : Branch σ) : String := joinSegments (ctx.pushed ++ b.segments)

theorem forall₂_declares_iff {declared : List (List String)} :
    List.Forall₂ (fun spot segs => spot.node.Declares segs) b.chain declared ↔
      b.chain.map (fun spot => spot.node.path.elim [] RouteTree.segments) = declared := by
  simp only [Node.declares_iff]
  rw [← List.forall₂_map_left_iff (R := Eq), List.forall₂_eq_eq_eq]

theorem segments_eq_map (b : Branch σ) : b.segments =
    (b.chain.map fun spot => spot.node.path.elim [] RouteTree.segments).flatten.map
      bracedSegment := by
  rw [segments, List.map_flatten, List.map_map, List.flatMap_def]
  rfl

/-- What a chain declares can be read in one way only. -/
theorem hasPath_iff {path : String} : b.HasPath ctx path ↔ path = b.path ctx := by
  unfold HasPath Branch.path
  rw [segments_eq_map]
  constructor
  · rintro ⟨declared, parts, hdeclared, hstands, hpath⟩
    rw [forall₂_declares_iff] at hdeclared
    subst hdeclared
    rw [slashed_iff.mp hpath, stands_eq_map hstands]
  · intro hpath
    refine ⟨_, _, forall₂_declares_iff.mpr rfl, ?_, slashed_iff.mpr hpath⟩
    rw [List.forall₂_map_right_iff, List.forall₂_same]
    intro s hs
    apply stands_bracedSegment
    obtain ⟨segs, hsegs, hs⟩ := List.mem_flatten.mp hs
    obtain ⟨spot, -, rfl⟩ := List.mem_map.mp hsegs
    cases htext : spot.node.path with
    | none => simp [htext] at hs
    | some text =>
        rw [htext, Option.elim_some] at hs
        exact isSegment_of_mem_segments hs

theorem context_path (ctx : Context σ) (number : Nat → Nat) (b : Branch σ) :
    (b.context ctx number).path = b.path ctx := by
  rw [Context.path, context_pushed, Branch.path]

theorem HasEntry.path_eq {e : Entry σ} (h : b.HasEntry ctx number e) : e.path = b.path ctx := by
  obtain ⟨name, -, he⟩ := h
  obtain ⟨controller, handler, -, -, rfl⟩ := Node.entry_eq_ok_iff.mp he
  exact context_path ctx number b

end Branch

end RouteTree
