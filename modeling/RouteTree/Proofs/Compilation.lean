import Mathlib.Data.List.Forall2
import Mathlib.Data.List.Induction
import RouteTree.Compile
import RouteTree.Proofs.Branch

/-!
# Compiling branch by branch

The recursion over a forest compiles the tips of its branches one after another in
pre-order and ends at the first that fails. The context of a tip is computed from its
chain alone; the instances of the forest are numbered in the order of the nodes that
declare a controller.
-/

namespace RouteTree

namespace Compilation

variable {σ : Type}

/-- Compilations one behind the other. -/
def sequence (cs : List (Compilation σ)) : Compilation σ := cs.foldr followedBy ⟨.ok [], []⟩

theorem sequence_append (cs ds : List (Compilation σ)) :
    sequence (cs ++ ds) = (sequence cs).followedBy (sequence ds) := by
  induction cs with
  | nil => exact (ok_nil_followedBy _).symm
  | cons c cs ih =>
      have hcons (l : List (Compilation σ)) : sequence (c :: l) = c.followedBy (sequence l) := rfl
      rw [List.cons_append, hcons, hcons, ih, followedBy_assoc]

/-- A sequence that does not fail has all entries of its members and constructs all
their instances. -/
theorem sequence_eq_ok {cs : List (Compilation σ)} {entries : List (Entry σ)}
    (h : (sequence cs).result = .ok entries) :
    ∃ groups, List.Forall₂ (fun c group => c.result = .ok group) cs groups ∧
      entries = groups.flatten ∧
      (sequence cs).constructed = cs.flatMap Compilation.constructed := by
  induction cs generalizing entries with
  | nil =>
      obtain rfl := Except.ok.inj h
      exact ⟨[], .nil, rfl, rfl⟩
  | cons c cs ih =>
      have hcons : sequence (c :: cs) = c.followedBy (sequence cs) := rfl
      cases hc : c.result with
      | error e => simp [hcons, followedBy_of_error hc] at h
      | ok group =>
          rw [hcons, followedBy_of_ok hc] at h ⊢
          cases hs : (sequence cs).result with
          | error e => simp [hs, Except.map] at h
          | ok rest =>
              obtain ⟨groups, hgroups, rfl, hconstructed⟩ := ih hs
              refine ⟨group :: groups, .cons hc hgroups, ?_, ?_⟩
              · simpa [hs, Except.map] using h.symm
              · simp [hconstructed]

/-- A sequence that fails does so at its first member that fails. What is behind that
constructs nothing. -/
theorem sequence_eq_error {cs : List (Compilation σ)} {e : ConfigurationError}
    (h : (sequence cs).result = .error e) :
    ∃ before c after, cs = before ++ c :: after ∧ c.result = .error e ∧
      (∀ b ∈ before, ∃ group, b.result = .ok group) ∧
      (sequence cs).constructed = (before ++ [c]).flatMap Compilation.constructed := by
  induction cs with
  | nil => simp [sequence] at h
  | cons c cs ih =>
      have hcons : sequence (c :: cs) = c.followedBy (sequence cs) := rfl
      cases hc : c.result with
      | error e' =>
          rw [hcons, followedBy_of_error hc] at h ⊢
          obtain rfl := Except.error.inj h
          exact ⟨[], c, cs, rfl, hc, by simp, by simp⟩
      | ok group =>
          rw [hcons, followedBy_of_ok hc] at h ⊢
          cases hs : (sequence cs).result with
          | ok rest => simp [hs, Except.map] at h
          | error e' =>
              obtain rfl : e' = e := by simpa [hs, Except.map] using h
              obtain ⟨before, d, after, rfl, hd, hbefore, hconstructed⟩ := ih hs
              refine ⟨c :: before, d, after, rfl, hd, ?_, ?_⟩
              · simpa [hc] using hbefore
              · simp [hconstructed]

end Compilation

namespace Branch

variable {σ : Type}

/-- The context at the end of a chain below `ctx`, where the node at a position
constructs its instance as number `number position`. -/
def contextAlong (ctx : Context σ) (number : Nat → Nat) (chain : List (Spot σ)) : Context σ :=
  chain.foldl (fun c spot => c.enter spot.node (number spot.position)) ctx

/-- The context in which the tip is compiled. -/
def context (ctx : Context σ) (number : Nat → Nat) (b : Branch σ) : Context σ :=
  contextAlong ctx number b.chain

/-- The compilation of the tip. -/
def compile (ctx : Context σ) (number : Nat → Nat) (b : Branch σ) : Compilation σ :=
  b.node.compile (b.context ctx number) (number b.tip.position)

/-- The entry of a leaf. -/
def HasEntry (ctx : Context σ) (number : Nat → Nat) (b : Branch σ) (e : Entry σ) : Prop :=
  ∃ name, b.node.handler = some name ∧ b.node.entry name (b.context ctx number) = .ok e

/-- The error of a leaf that has no entry. -/
def Fails (ctx : Context σ) (number : Nat → Nat) (b : Branch σ) (e : ConfigurationError) : Prop :=
  ∃ name, b.node.handler = some name ∧ b.node.entry name (b.context ctx number) = .error e

/-- Numbers go up by one at each node that declares a controller. -/
def Numbers (number : Nat → Nat) (branches : List (Branch σ)) : Prop :=
  ∀ b ∈ branches,
    number (b.tip.position + 1) = number b.tip.position + (if b.declares then 1 else 0)

/-- The instances that branches construct. -/
def instances (number : Nat → Nat) (branches : List (Branch σ)) : List (Instance σ) :=
  branches.flatMap fun b => b.node.constructs (number b.tip.position)

theorem contextAlong_concat (ctx : Context σ) (number : Nat → Nat) (chain : List (Spot σ))
    (spot : Spot σ) :
    contextAlong ctx number (chain ++ [spot]) =
      (contextAlong ctx number chain).enter spot.node (number spot.position) := by
  simp [contextAlong]

/-- Down a chain the declared segments add up. -/
theorem context_pushed (ctx : Context σ) (number : Nat → Nat) (b : Branch σ) :
    (b.context ctx number).pushed = ctx.pushed ++ b.segments := by
  unfold context segments
  induction b.chain using List.reverseRecOn with
  | nil => simp [contextAlong]
  | append_singleton chain spot ih =>
      rw [contextAlong_concat, Context.enter_pushed, ih]
      simp

/-- The controller of a branch is the instance of its deepest node that declares one, or
else the one that the forest was given. -/
theorem context_controller (ctx : Context σ) (number : Nat → Nat) (b : Branch σ) :
    (b.context ctx number).controller =
      (b.nearest.bind fun spot =>
        spot.node.controller.map fun kind => ⟨number spot.position, kind⟩).or ctx.controller := by
  unfold context nearest
  induction b.chain using List.reverseRecOn with
  | nil => rfl
  | append_singleton chain spot ih =>
      rw [contextAlong_concat, Context.enter_controller, ih]
      cases hk : spot.node.controller with
      | none => simp [hk]
      | some kind => simp [hk]

theorem length_constructs (b : Branch σ) (next : Nat) :
    (b.node.constructs next).length = if b.declares then 1 else 0 := by
  unfold Node.constructs declares
  cases b.node.controller <;> rfl

@[simp]
theorem length_instances (number : Nat → Nat) (branches : List (Branch σ)) :
    (instances number branches).length = branches.countP declares := by
  induction branches with
  | nil => rfl
  | cons b branches ih =>
      have hs : instances number (b :: branches) =
          b.node.constructs (number b.tip.position) ++ instances number branches := rfl
      rw [hs, List.length_append, length_constructs, ih, List.countP_cons, Nat.add_comm]

theorem compile_eq_ok {ctx : Context σ} {number : Nat → Nat} {b : Branch σ}
    {group : List (Entry σ)} (h : (b.compile ctx number).result = .ok group) :
    (b.isLeaf = false ∧ group = []) ∨
      ∃ e, b.isLeaf = true ∧ b.HasEntry ctx number e ∧ group = [e] := by
  unfold compile Node.compile at h
  cases hn : b.node.handler with
  | none =>
      refine Or.inl ⟨by simp [isLeaf, Node.isLeaf, hn], ?_⟩
      simpa [hn] using h.symm
  | some name =>
      cases he : b.node.entry name (b.context ctx number) with
      | error e => simp [hn, he, Except.map] at h
      | ok e =>
          refine Or.inr ⟨e, by simp [isLeaf, Node.isLeaf, hn], ⟨name, hn, he⟩, ?_⟩
          simpa [hn, he, Except.map] using h.symm

theorem compile_eq_error {ctx : Context σ} {number : Nat → Nat} {b : Branch σ}
    {e : ConfigurationError} (h : (b.compile ctx number).result = .error e) :
    b.isLeaf = true ∧ b.Fails ctx number e := by
  unfold compile Node.compile at h
  cases hn : b.node.handler with
  | none => simp [hn] at h
  | some name =>
      refine ⟨by simp [isLeaf, Node.isLeaf, hn], name, hn, ?_⟩
      cases he : b.node.entry name (b.context ctx number) with
      | ok e => simp [hn, he, Except.map] at h
      | error e' => simpa [hn, he, Except.map] using h

/-- Groups of entries, one group for each branch, put one behind the other are the
entries of the leaves. -/
theorem forall₂_flatten {ctx : Context σ} {number : Nat → Nat} {branches : List (Branch σ)}
    {groups : List (List (Entry σ))}
    (h : List.Forall₂ (fun b group => (b.compile ctx number).result = .ok group) branches groups) :
    List.Forall₂ (HasEntry ctx number) (branches.filter isLeaf) groups.flatten := by
  induction h with
  | nil => exact .nil
  | @cons b group branches groups hs _ ih =>
      rcases compile_eq_ok hs with ⟨hl, rfl⟩ | ⟨e, hl, he, rfl⟩
      · simpa [hl] using ih
      · simpa [hl] using And.intro he ih

end Branch

namespace Route

open Branch

variable {σ : Type}

/-- The number of the next construction when the node at a position is reached. -/
def numbering (next : Nat) (forest : List (Route σ)) (position : Nat) : Nat :=
  next + ((forestBranches [] 0 forest).take position).countP Branch.declares

theorem numbers_numbering (next : Nat) (forest : List (Route σ)) :
    Numbers (numbering next forest) (forestBranches [] 0 forest) := by
  intro b hs
  obtain ⟨i, hi⟩ := List.mem_iff_getElem?.mp hs
  have hp : b.tip.position = i := by simpa using position_of_getElem? hi
  rw [hp, numbering, numbering, List.take_add_one, hi]
  simp [List.countP_append, Nat.add_assoc]

/-- Behind a forest, numbers have gone up by how many of its nodes declare a
controller. -/
theorem number_behind {number : Nat → Nat} {above : List (Spot σ)} {start : Nat}
    {forest : List (Route σ)} (h : Numbers number (forestBranches above start forest)) :
    number (start + (forestBranches above start forest).length) =
      number start + (forestBranches above start forest).countP Branch.declares := by
  induction forest using forest_induction generalizing above start with
  | nil => rfl
  | cons own children rest ihc ihr =>
      rw [forestBranches_cons] at h ⊢
      obtain ⟨(hown : number (start + 1) = number start + _), hbehind⟩ := List.forall_mem_cons.mp h
      obtain ⟨hchildren, hrest⟩ := List.forall_mem_append.mp hbehind
      have hc := ihc hchildren
      have hr := ihr hrest
      generalize forestBranches (above ++ [⟨start, own⟩]) (start + 1) children = below at hc hr ⊢
      generalize forestBranches above (start + below.length + 1) rest = after at hr ⊢
      have hlength : start + ((below ++ after).length + 1) =
          start + below.length + 1 + after.length := by
        rw [List.length_append]
        omega
      have hmiddle : start + below.length + 1 = start + 1 + below.length := by omega
      rw [List.length_cons, hlength, hr, hmiddle, hc, hown, List.countP_cons, List.countP_append]
      omega

/-- A compilation that does not fail constructs one instance for each node that declares
a controller. -/
theorem length_constructed_of_ok {ctx : Context σ} {number : Nat → Nat} {branches : List (Branch σ)}
    {entries : List (Entry σ)}
    (h : (Compilation.sequence (branches.map (Branch.compile ctx number))).result = .ok entries) :
    (Compilation.sequence (branches.map (Branch.compile ctx number))).constructed.length =
      branches.countP Branch.declares := by
  obtain ⟨-, -, -, hconstructed⟩ := Compilation.sequence_eq_ok h
  rw [hconstructed, List.flatMap_map, ← length_instances number]
  rfl

/-- Compiling a forest is compiling its branches one behind the other. -/
theorem compileForest_eq_sequence (ctx : Context σ) {number : Nat → Nat} {above : List (Spot σ)}
    {start : Nat} {forest : List (Route σ)}
    (h : Numbers number (forestBranches above start forest)) :
    compileForest (contextAlong ctx number above) (number start) forest =
      Compilation.sequence
        ((forestBranches above start forest).map (Branch.compile ctx number)) := by
  induction forest using forest_induction generalizing above start with
  | nil => rfl
  | cons own children rest ihc ihr =>
      let here : Branch σ := ⟨above, ⟨start, own⟩⟩
      have hbranches := forestBranches_cons above start own children rest
      rw [hbranches] at h
      obtain ⟨(hown : number (start + 1) = number start + _), hbehind⟩ := List.forall_mem_cons.mp h
      obtain ⟨hchildren, hrest⟩ := List.forall_mem_append.mp hbehind
      have hc := ihc hchildren
      have hr := ihr hrest
      have hcount := number_behind hchildren
      generalize forestBranches (above ++ [⟨start, own⟩]) (start + 1) children = below at *
      generalize forestBranches above (start + below.length + 1) rest = after at *
      -- The first tree is its topmost node and what is below it.
      have hfirst : compile (contextAlong ctx number above) (number start) (.node own children) =
          Compilation.sequence ((here :: below).map (Branch.compile ctx number)) := by
        have hnext :
            number start + (own.constructs (number start)).length = number (start + 1) := by
          rw [hown]
          exact congrArg (number start + ·) (length_constructs here (number start))
        rw [contextAlong_concat] at hc
        simp only [compile, hnext, hc]
        simp only [List.map_cons, Compilation.sequence, List.foldr_cons]
        rw [Branch.compile, Branch.context, Branch.chain, contextAlong_concat]
        rfl
      rw [hbranches, ← List.cons_append, List.map_append, Compilation.sequence_append, ← hfirst]
      simp only [compileForest]
      -- What is behind it counts only if it has been compiled, and then the numbers fit.
      apply Compilation.followedBy_congr
      intro entries hentries
      rw [hfirst] at hentries ⊢
      rw [length_constructed_of_ok hentries, ← hr]
      have hmiddle : start + below.length + 1 = start + 1 + below.length := by omega
      rw [hmiddle, hcount, hown, List.countP_cons]
      congr 1
      simp only [here]
      omega

/-- Compiling a forest from the top. -/
theorem compileForest_eq (ctx : Context σ) (next : Nat) (forest : List (Route σ)) :
    compileForest ctx next forest =
      Compilation.sequence
        ((forestBranches [] 0 forest).map (Branch.compile ctx (numbering next forest))) :=
  compileForest_eq_sequence ctx (numbers_numbering next forest)

/-- A forest that compiles has one entry for each leaf, in pre-order. -/
theorem compileForest_eq_ok {ctx : Context σ} {next : Nat} {forest : List (Route σ)}
    {entries : List (Entry σ)} (h : (compileForest ctx next forest).result = .ok entries) :
    List.Forall₂ (HasEntry ctx (numbering next forest)) (leaves forest) entries ∧
      (compileForest ctx next forest).constructed =
        instances (numbering next forest) (forestBranches [] 0 forest) := by
  rw [compileForest_eq] at h ⊢
  obtain ⟨groups, hgroups, rfl, hconstructed⟩ := Compilation.sequence_eq_ok h
  rw [hconstructed, List.flatMap_map]
  exact ⟨forall₂_flatten (List.forall₂_map_left_iff.mp hgroups), rfl⟩

/-- A forest that does not compile has a first leaf without an entry, and nothing behind
that leaf is compiled. -/
theorem compileForest_eq_error {ctx : Context σ} {next : Nat} {forest : List (Route σ)}
    {e : ConfigurationError} (h : (compileForest ctx next forest).result = .error e) :
    ∃ before failing after, forestBranches [] 0 forest = before ++ failing :: after ∧
      failing.isLeaf = true ∧ failing.Fails ctx (numbering next forest) e ∧
      (∀ b ∈ before, b.isLeaf = true → ∃ e, b.HasEntry ctx (numbering next forest) e) ∧
      (compileForest ctx next forest).constructed =
        instances (numbering next forest) (before ++ [failing]) := by
  rw [compileForest_eq] at h ⊢
  obtain ⟨cs, c, ds, hsplit, hc, hbefore, hconstructed⟩ := Compilation.sequence_eq_error h
  obtain ⟨before, rest, hbranches, rfl, hrest⟩ := List.map_eq_append_iff.mp hsplit
  obtain ⟨failing, after, rfl, rfl, rfl⟩ := List.map_eq_cons_iff.mp hrest
  obtain ⟨hleaf, hfails⟩ := compile_eq_error hc
  refine ⟨before, failing, after, hbranches, hleaf, hfails, ?_, ?_⟩
  · intro b hs hl
    obtain ⟨group, hgroup⟩ := hbefore _ (List.mem_map_of_mem hs)
    rcases compile_eq_ok hgroup with ⟨hl', -⟩ | ⟨e, -, he, -⟩
    · rw [hl] at hl'
      cases hl'
    · exact ⟨e, he⟩
  · rw [hconstructed, ← List.map_singleton, ← List.map_append, List.flatMap_map]
    rfl

end Route

end RouteTree
