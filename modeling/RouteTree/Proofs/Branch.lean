import Mathlib.Data.List.Basic
import RouteTree.Context

/-!
# The branches of a forest

The nodes of a forest are listed in pre-order: a node stands before those below it, and
the trees of a forest stand in the order in which they are declared. A branch leads from
the top of the forest to one of its nodes, its tip. A node is told from all others by
how many nodes stand before it.
-/

namespace RouteTree

/-- A node and the number of nodes before it. -/
structure Spot (σ : Type) where
  position : Nat
  node : Node σ

/-- A node, the tip, and the nodes above it, the topmost first. -/
structure Branch (σ : Type) where
  above : List (Spot σ)
  tip : Spot σ

namespace Branch

variable {σ : Type}

/-- What stands at the tip of a branch. -/
def node (b : Branch σ) : Node σ := b.tip.node

/-- The nodes from the top of the forest down to the tip. -/
def chain (b : Branch σ) : List (Spot σ) := b.above ++ [b.tip]

/-- Whether the tip is a leaf. -/
def isLeaf (b : Branch σ) : Bool := b.node.isLeaf

/-- Whether the tip declares a controller. -/
def declares (b : Branch σ) : Bool := b.node.controller.isSome

/-- The segments that the nodes of the chain declare, in the form in which paths show
them. -/
def segments (b : Branch σ) : List String :=
  b.chain.flatMap fun spot =>
    (spot.node.path.elim [] RouteTree.segments).map bracedSegment

/-- The deepest node of the chain that declares a controller. -/
def nearest (b : Branch σ) : Option (Spot σ) :=
  (b.chain.filter fun spot => spot.node.controller.isSome).getLast?

theorem declares_of_nearest {b : Branch σ} {spot : Spot σ} (h : b.nearest = some spot) :
    spot ∈ b.chain ∧ spot.node.controller.isSome = true :=
  List.mem_filter.mp (List.mem_of_getLast? h)

end Branch

namespace Route

variable {σ : Type}

mutual

/-- The branches of a tree below the nodes `above`, where `start` nodes stand before the
tree. -/
def branches (above : List (Spot σ)) (start : Nat) : Route σ → List (Branch σ)
  | .node own children =>
      ⟨above, ⟨start, own⟩⟩ :: forestBranches (above ++ [⟨start, own⟩]) (start + 1) children

/-- The branches of several trees below the nodes `above`, from left to right. -/
def forestBranches (above : List (Spot σ)) (start : Nat) : List (Route σ) → List (Branch σ)
  | [] => []
  | r :: rs =>
      let first := branches above start r
      first ++ forestBranches above (start + first.length) rs

end

/-- The leaves of a forest in pre-order. -/
def leaves (forest : List (Route σ)) : List (Branch σ) :=
  (forestBranches [] 0 forest).filter Branch.isLeaf

theorem mem_forestBranches_of_mem_leaves {forest : List (Route σ)} {b : Branch σ}
    (h : b ∈ leaves forest) : b ∈ forestBranches [] 0 forest :=
  (List.mem_filter.mp h).1

theorem forestBranches_cons (above : List (Spot σ)) (start : Nat) (own : Node σ)
    (children rest : List (Route σ)) :
    forestBranches above start (.node own children :: rest) =
      ⟨above, ⟨start, own⟩⟩ :: (forestBranches (above ++ [⟨start, own⟩]) (start + 1) children ++
        forestBranches above
          (start + (forestBranches (above ++ [⟨start, own⟩]) (start + 1) children).length + 1)
          rest) :=
  rfl

/-- What holds of the empty forest, and of a forest if it holds of what is below and
behind its first node, holds of every forest. -/
theorem forest_induction {motive : List (Route σ) → Prop} (nil : motive [])
    (cons : ∀ own children rest, motive children → motive rest →
      motive (.node own children :: rest)) : ∀ forest, motive forest
  | [] => nil
  | .node own children :: rest =>
      cons own children rest (forest_induction nil cons children) (forest_induction nil cons rest)

/-- Tips are numbered without a gap. -/
theorem map_position_forestBranches (above : List (Spot σ)) (start : Nat)
    (forest : List (Route σ)) :
    (forestBranches above start forest).map (fun b => b.tip.position) =
      List.range' start (forestBranches above start forest).length := by
  induction forest using forest_induction generalizing above start with
  | nil => rfl
  | cons own children rest ihc ihr =>
      simp only [forestBranches_cons, List.map_append, List.map_cons, List.length_append,
        List.length_cons, ihc, ihr]
      rw [List.range'_succ, ← List.range'_append_1, Nat.add_right_comm]

theorem position_of_getElem? {above : List (Spot σ)} {start i : Nat} {forest : List (Route σ)}
    {b : Branch σ} (h : (forestBranches above start forest)[i]? = some b) :
    b.tip.position = start + i := by
  obtain ⟨hi, rfl⟩ := List.getElem?_eq_some_iff.mp h
  have hp := congrArg (fun l => l[i]?) (map_position_forestBranches above start forest)
  simpa [List.getElem?_range', hi] using hp

/-- The nodes above a tip are tips of other branches. -/
theorem exists_branch_of_mem_chain {above : List (Spot σ)} {start : Nat} {forest : List (Route σ)}
    {b : Branch σ} (hs : b ∈ forestBranches above start forest) {spot : Spot σ}
    (h : spot ∈ b.chain) :
    spot ∈ above ∨ ∃ t ∈ forestBranches above start forest, t.tip = spot := by
  induction forest using forest_induction generalizing above start with
  | nil => simp [forestBranches] at hs
  | cons own children rest ihc ihr =>
      simp only [forestBranches_cons, List.mem_cons, List.mem_append] at hs ⊢
      rcases hs with rfl | hs | hs
      · rcases List.mem_append.mp h with h | h
        · exact Or.inl h
        · exact Or.inr ⟨_, Or.inl rfl, (List.mem_singleton.mp h).symm⟩
      · rcases ihc hs with h | ⟨t, ht, rfl⟩
        · rcases List.mem_append.mp h with h | h
          · exact Or.inl h
          · exact Or.inr ⟨_, Or.inl rfl, (List.mem_singleton.mp h).symm⟩
        · exact Or.inr ⟨t, Or.inr (Or.inl ht), rfl⟩
      · rcases ihr hs with h | ⟨t, ht, rfl⟩
        · exact Or.inl h
        · exact Or.inr ⟨t, Or.inr (Or.inr ht), rfl⟩

theorem countP_isLeaf_forestBranches (above : List (Spot σ)) (start : Nat)
    (forest : List (Route σ)) :
    (forestBranches above start forest).countP Branch.isLeaf = leafCounts forest := by
  induction forest using forest_induction generalizing above start with
  | nil => rfl
  | cons own children rest ihc ihr =>
      simp only [forestBranches_cons, List.countP_append, List.countP_cons, ihc, ihr, leafCounts,
        leafCount]
      cases hl : own.isLeaf with
      | false => simp [Branch.isLeaf, Branch.node, hl]
      | true => simp [Branch.isLeaf, Branch.node, hl]; omega

theorem length_leaves (forest : List (Route σ)) : (leaves forest).length = leafCounts forest := by
  rw [leaves, ← List.countP_eq_length_filter, countP_isLeaf_forestBranches]

end Route

end RouteTree
