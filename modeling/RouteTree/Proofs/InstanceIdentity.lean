import Mathlib.Data.List.Nodup
import RouteTree.Proofs.Compilation
import RouteTree.Server.Basic

/-!
# The identity of controller instances

An instance is told from all others by its number. Compiling a forest constructs one
instance for each node that declares a controller, in pre-order, up to the leaf at which
it fails if it does. Two entries are served by one instance exactly if the deepest nodes
above them that declare a controller are the same.
-/

namespace RouteTree

namespace Context

variable {σ : Type}

/-- The controller that a context holds was constructed before number `next`. -/
def Before (ctx : Context σ) (next : Nat) : Prop := ∀ i, ctx.controller = some i → i.number < next

end Context

namespace Branch

variable {σ : Type}

/-- The instances of branches are of the kinds that their tips declare. -/
theorem map_kind_instances (number : Nat → Nat) (branches : List (Branch σ)) :
    (instances number branches).map Instance.kind =
      branches.filterMap fun b => b.node.controller := by
  induction branches with
  | nil => rfl
  | cons b branches ih =>
      have hcons : instances number (b :: branches) =
          b.node.constructs (number b.tip.position) ++ instances number branches := rfl
      rw [hcons, List.map_append, ih]
      unfold Node.constructs
      cases hk : b.node.controller <;> simp [hk]

theorem mem_instances {number : Nat → Nat} {branches : List (Branch σ)} {i : Instance σ} :
    i ∈ instances number branches ↔
      ∃ b ∈ branches, ∃ kind, b.node.controller = some kind ∧
        i = ⟨number b.tip.position, kind⟩ := by
  simp only [instances, List.mem_flatMap, Node.constructs]
  constructor
  · rintro ⟨b, hb, hi⟩
    cases hk : b.node.controller with
    | none => simp [hk] at hi
    | some kind => exact ⟨b, hb, kind, hk, by simpa [hk] using hi⟩
  · rintro ⟨b, hb, kind, hk, rfl⟩
    exact ⟨b, hb, by simp [hk]⟩

/-- An entry is served by the instance of the deepest node of its branch that declares a
controller, or else by the controller that the forest was given. -/
theorem HasEntry.controller_cases {ctx : Context σ} {number : Nat → Nat} {b : Branch σ}
    {e : Entry σ} (h : b.HasEntry ctx number e) :
    (b.nearest = none ∧ ctx.controller = some e.controller) ∨
      ∃ spot kind, b.nearest = some spot ∧ spot.node.controller = some kind ∧
        e.controller = ⟨number spot.position, kind⟩ := by
  obtain ⟨name, -, he⟩ := h
  obtain ⟨controller, handler, hc, -, rfl⟩ := Node.entry_eq_ok_iff.mp he
  rw [context_controller] at hc
  cases hn : b.nearest with
  | none => exact Or.inl ⟨rfl, by simpa [hn] using hc⟩
  | some spot =>
      obtain ⟨kind, hk⟩ := Option.isSome_iff_exists.mp (declares_of_nearest hn).2
      exact Or.inr ⟨spot, kind, rfl, hk, by simpa [hn, hk] using hc.symm⟩

/-- An entry is served by the instance among those `constructed` that the deepest node
of its branch declares, or by the controller of the context if no node of the branch
declares one. -/
def ServedBy (ctx : Context σ) (number : Nat → Nat) (constructed : List (Instance σ))
    (b : Branch σ) (e : Entry σ) : Prop :=
  match b.nearest with
  | none => ctx.controller = some e.controller
  | some spot =>
    e.controller ∈ constructed ∧ e.controller.number = number spot.position ∧
      spot.node.controller = some e.controller.kind

end Branch

namespace Route

open Branch

variable {σ : Type}

/-- Instances are numbered in pre-order without a gap. -/
theorem map_number_instances {next : Nat} {forest : List (Route σ)}
    {before behind : List (Branch σ)}
    (h : forestBranches [] 0 forest = before ++ behind) :
    (instances (numbering next forest) before).map Instance.number =
      List.range' next (before.countP declares) := by
  induction before using List.reverseRecOn generalizing behind with
  | nil => rfl
  | append_singleton before b ih =>
      rw [List.append_assoc] at h
      have hb : (forestBranches [] 0 forest)[before.length]? = some b := by simp [h]
      have hp : b.tip.position = before.length := by simpa using position_of_getElem? hb
      have hn : numbering next forest before.length = next + before.countP declares := by
        simp [numbering, h]
      have hsnoc : instances (numbering next forest) (before ++ [b]) =
          instances (numbering next forest) before ++
            b.node.constructs (numbering next forest b.tip.position) := by
        simp [instances]
      rw [hsnoc, List.map_append, ih h, hp, hn, List.countP_append]
      unfold Node.constructs
      cases hk : b.node.controller with
      | none => simp [declares, hk]
      | some kind => simp [declares, hk, List.range'_1_concat]

theorem le_numbering (next : Nat) (forest : List (Route σ)) (position : Nat) :
    next ≤ numbering next forest position :=
  Nat.le_add_right _ _

/-- Behind a node that declares a controller all numbers are greater. -/
theorem numbering_lt (next : Nat) {forest : List (Route σ)} {b : Branch σ}
    (hb : b ∈ forestBranches [] 0 forest) (hd : b.declares = true) {position : Nat}
    (h : b.tip.position < position) :
    numbering next forest b.tip.position < numbering next forest position := by
  have hstep : numbering next forest (b.tip.position + 1) =
      numbering next forest b.tip.position + 1 := by
    rw [numbers_numbering next forest b hb, if_pos hd]
  have hmono : numbering next forest (b.tip.position + 1) ≤ numbering next forest position :=
    Nat.add_le_add_left
      ((List.take_prefix_take_left h).sublist.countP_le) next
  omega

/-- The deepest node of a branch that declares a controller is the tip of a branch. -/
theorem exists_branch_of_nearest {forest : List (Route σ)} {b : Branch σ}
    (hb : b ∈ forestBranches [] 0 forest) {spot : Spot σ} (h : b.nearest = some spot) :
    ∃ t ∈ forestBranches [] 0 forest, t.tip = spot ∧ t.declares = true := by
  obtain ⟨hchain, hd⟩ := declares_of_nearest h
  rcases exists_branch_of_mem_chain hb hchain with habove | ⟨t, ht, rfl⟩
  · cases habove
  · exact ⟨t, ht, rfl, hd⟩

/-- Two instances of a forest are the same only if one node declares both. -/
theorem position_eq_of_numbering_eq {next : Nat} {forest : List (Route σ)} {b b' : Branch σ}
    (hb : b ∈ forestBranches [] 0 forest) (hb' : b' ∈ forestBranches [] 0 forest)
    (hd : b.declares = true) (hd' : b'.declares = true)
    (h : numbering next forest b.tip.position = numbering next forest b'.tip.position) :
    b.tip.position = b'.tip.position := by
  by_contra hne
  rcases Nat.lt_or_gt_of_ne hne with hlt | hgt
  · have := numbering_lt next hb hd hlt
    omega
  · have := numbering_lt next hb' hd' hgt
    omega

theorem controller_number_eq_iff {ctx : Context σ} {next : Nat} (hctx : ctx.Before next)
    {forest : List (Route σ)} {b b' : Branch σ} (hb : b ∈ forestBranches [] 0 forest)
    (hb' : b' ∈ forestBranches [] 0 forest) {e e' : Entry σ}
    (he : b.HasEntry ctx (numbering next forest) e)
    (he' : b'.HasEntry ctx (numbering next forest) e') :
    e.controller.number = e'.controller.number ↔
      b.nearest.map Spot.position = b'.nearest.map Spot.position := by
  rcases he.controller_cases with ⟨hn, hc⟩ | ⟨spot, kind, hn, hk, hc⟩ <;>
    rcases he'.controller_cases with ⟨hn', hc'⟩ | ⟨spot', kind', hn', hk', hc'⟩
  · have hsame : e.controller = e'.controller := Option.some.inj (hc.symm.trans hc')
    simp [hn, hn', hsame]
  · have hlt := hctx _ hc
    have hle := le_numbering next forest spot'.position
    simp [hn, hn', hc']
    omega
  · have hlt := hctx _ hc'
    have hle := le_numbering next forest spot.position
    simp [hn, hn', hc]
    omega
  · obtain ⟨t, ht, rfl, hd⟩ := exists_branch_of_nearest hb hn
    obtain ⟨t', ht', rfl, hd'⟩ := exists_branch_of_nearest hb' hn'
    simp only [hc, hc', hn, hn', Option.map_some, Option.some.injEq]
    constructor
    · exact position_eq_of_numbering_eq ht ht' hd hd'
    · intro h
      rw [h]

/-- Which branches compiling visits: all if every leaf has an entry, or else those up to
the first leaf that has none. -/
inductive Visits (ctx : Context σ) (number : Nat → Nat) (forest : List (Route σ)) :
    Except ConfigurationError (List (Entry σ)) → List (Branch σ) → Prop
  | all {entries : List (Entry σ)}
      (hentries : List.Forall₂ (HasEntry ctx number) (leaves forest) entries) :
      Visits ctx number forest (.ok entries) (forestBranches [] 0 forest)
  | upTo {e : ConfigurationError} {before after : List (Branch σ)} {failing : Branch σ}
      (hsplit : forestBranches [] 0 forest = before ++ failing :: after)
      (hbefore : ∀ b ∈ before, b.isLeaf = true → ∃ e, b.HasEntry ctx number e)
      (hfails : failing.Fails ctx number e) :
      Visits ctx number forest (.error e) (before ++ [failing])

theorem Visits.isPrefix {ctx : Context σ} {number : Nat → Nat} {forest : List (Route σ)}
    {result : Except ConfigurationError (List (Entry σ))} {visited : List (Branch σ)}
    (h : Visits ctx number forest result visited) :
    ∃ behind, forestBranches [] 0 forest = visited ++ behind := by
  cases h with
  | all _ => exact ⟨[], (List.append_nil _).symm⟩
  | @upTo _ _ after _ hsplit _ _ => exact ⟨after, by rw [hsplit, List.append_assoc]; rfl⟩

/-- The visited branches construct what is constructed. -/
theorem exists_visits (ctx : Context σ) (next : Nat) (forest : List (Route σ)) :
    ∃ visited,
      Visits ctx (numbering next forest) forest (compileForest ctx next forest).result visited ∧
      (compileForest ctx next forest).constructed = instances (numbering next forest) visited := by
  cases hc : (compileForest ctx next forest).result with
  | ok entries =>
      obtain ⟨hentries, hconstructed⟩ := compileForest_eq_ok hc
      exact ⟨_, .all hentries, hconstructed⟩
  | error e =>
      obtain ⟨before, failing, after, hsplit, -, hfails, hbefore, hconstructed⟩ :=
        compileForest_eq_error hc
      exact ⟨_, .upTo hsplit hbefore hfails, hconstructed⟩

/-- Constructions are counted from `next` on, whether compiling fails or not. -/
theorem map_number_constructed (ctx : Context σ) (next : Nat) (forest : List (Route σ)) :
    (compileForest ctx next forest).constructed.map Instance.number =
      List.range' next (compileForest ctx next forest).constructed.length := by
  obtain ⟨visited, hvisits, hconstructed⟩ := exists_visits ctx next forest
  obtain ⟨behind, hbehind⟩ := hvisits.isPrefix
  rw [hconstructed, map_number_instances hbehind, length_instances]

/-- What compiling constructs has numbers from `next` on, and no more than it counts. -/
theorem number_mem_window {ctx : Context σ} {next : Nat} {forest : List (Route σ)} {n : Nat} :
    n ∈ (compileForest ctx next forest).constructed.map Instance.number ↔
      next ≤ n ∧ n < next + (compileForest ctx next forest).constructed.length := by
  rw [map_number_constructed, List.mem_range'_1]

/-- Compile one forest after another, each below its own context, and tell what each
constructs. -/
def compileAll (next : Nat) : List (Context σ × List (Route σ)) → List (List (Instance σ))
  | [] => []
  | (ctx, forest) :: rest =>
    let constructed := (compileForest ctx next forest).constructed
    constructed :: compileAll (next + constructed.length) rest

/-- Each compilation counts on from where the one before it has ended. -/
theorem map_number_compileAll (next : Nat) (forests : List (Context σ × List (Route σ))) :
    ((compileAll next forests).map (List.map Instance.number)).flatten =
      List.range' next (compileAll next forests).flatten.length := by
  induction forests generalizing next with
  | nil => rfl
  | cons first rest ih =>
      obtain ⟨ctx, forest⟩ := first
      simp only [compileAll, List.map_cons, List.flatten_cons, List.length_append, ih,
        map_number_constructed]
      rw [List.range'_append_1]

/-- However often forests are compiled, the same one or others, no two compilations
share an instance. -/
theorem pairwise_compileAll (next : Nat) (forests : List (Context σ × List (Route σ))) :
    (compileAll next forests).Pairwise fun made made' =>
      List.Disjoint (made.map Instance.number) (made'.map Instance.number) := by
  have hnodup : ((compileAll next forests).map (List.map Instance.number)).flatten.Nodup := by
    rw [map_number_compileAll]
    exact List.nodup_range'
  exact List.pairwise_map.mp (List.nodup_flatten.mp hnodup).2

theorem servedBy_of_ok {ctx : Context σ} {next : Nat} {forest : List (Route σ)}
    {entries : List (Entry σ)} (h : (compileForest ctx next forest).result = .ok entries)
    {b : Branch σ} (hb : b ∈ leaves forest) {e : Entry σ}
    (he : b.HasEntry ctx (numbering next forest) e) :
    b.ServedBy ctx (numbering next forest) (compileForest ctx next forest).constructed e := by
  have hmem := mem_forestBranches_of_mem_leaves hb
  rw [(compileForest_eq_ok h).2]
  unfold ServedBy
  rcases he.controller_cases with ⟨hn, hc⟩ | ⟨spot, kind, hn, hk, hc⟩
  · simpa only [hn] using hc
  · obtain ⟨t, ht, rfl, -⟩ := exists_branch_of_nearest hmem hn
    rw [hn, hc]
    exact ⟨mem_instances.mpr ⟨t, ht, kind, hk, rfl⟩, rfl, hk⟩

/-- Compiling constructs one instance for each node that declares a controller, in
pre-order and as far as it visits the forest, and shares none of them with its context,
with a compilation before or after it, or with those that follow it one after another.
Two entries have one instance exactly if the deepest nodes that declare a controller are
the same for both. -/
theorem compileForest_constructs_once {ctx : Context σ} {next : Nat} (hctx : ctx.Before next)
    (forest : List (Route σ)) :
    (∃ visited,
        Visits ctx (numbering next forest) forest (compileForest ctx next forest).result visited ∧
        (compileForest ctx next forest).constructed.map Instance.kind =
          visited.filterMap (fun b => b.node.controller) ∧
        (compileForest ctx next forest).constructed.map Instance.number =
          List.range' next (visited.countP declares)) ∧
      (∀ entries, (compileForest ctx next forest).result = .ok entries →
        List.Forall₂
            (ServedBy ctx (numbering next forest) (compileForest ctx next forest).constructed)
            (leaves forest) entries ∧
          ∀ b e b' e', (b, e) ∈ (leaves forest).zip entries →
            (b', e') ∈ (leaves forest).zip entries →
            (e.controller.number = e'.controller.number ↔
              b.nearest.map Spot.position = b'.nearest.map Spot.position)) ∧
      (∀ i, ctx.controller = some i →
        i.number ∉ (compileForest ctx next forest).constructed.map Instance.number) ∧
      (∀ ctx' next', next + (compileForest ctx next forest).constructed.length ≤ next' ∨
          next' + (compileForest ctx' next' forest).constructed.length ≤ next →
        List.Disjoint ((compileForest ctx next forest).constructed.map Instance.number)
          ((compileForest ctx' next' forest).constructed.map Instance.number)) ∧
      ∀ others, (compileAll next ((ctx, forest) :: others)).Pairwise fun made made' =>
        List.Disjoint (made.map Instance.number) (made'.map Instance.number) := by
  refine ⟨?visits, ?entries, ?context, ?other, fun others => pairwise_compileAll next _⟩
  case visits =>
    obtain ⟨visited, hvisits, hconstructed⟩ := exists_visits ctx next forest
    obtain ⟨behind, hbehind⟩ := hvisits.isPrefix
    refine ⟨visited, hvisits, ?_, ?_⟩
    · rw [hconstructed, map_kind_instances]
    · rw [hconstructed, map_number_instances hbehind]
  case entries =>
    intro entries h
    have hentries := (compileForest_eq_ok h).1
    constructor
    · refine List.forall₂_iff_zip.mpr ⟨hentries.length_eq, ?_⟩
      intro b e hmem
      exact servedBy_of_ok h (List.of_mem_zip hmem).1 (List.forall₂_zip hentries hmem)
    · intro b e b' e' hmem hmem'
      exact controller_number_eq_iff hctx
        (mem_forestBranches_of_mem_leaves (List.of_mem_zip hmem).1)
        (mem_forestBranches_of_mem_leaves (List.of_mem_zip hmem').1)
        (List.forall₂_zip hentries hmem) (List.forall₂_zip hentries hmem')
  case context =>
    intro i hi hmem
    have hlt := hctx i hi
    have hle := (number_mem_window.mp hmem).1
    omega
  case other =>
    intro ctx' next' happart n hmem hmem'
    have hwindow := number_mem_window.mp hmem
    have hwindow' := number_mem_window.mp hmem'
    omega

/-- A controller with one handler. -/
def ledger : Controller Unit :=
  { typeName := "Ledger"
    label := "Ledger"
    initial := ()
    handlers := [("list", fun _ => .succeed .absent)] }

/-- A leaf beside a tree in which one of three leaves has a controller of its own. -/
def overriding : List (Route Unit) :=
  [.node (Node.empty.withHandler "list") [],
    .node (Node.empty.withController ledger)
      [.node ((Node.empty.withPath "a").withHandler "list") [],
        .node ((Node.empty.withPath "b").withController ledger)
          [.node (Node.empty.withHandler "list") []],
        .node ((Node.empty.withPath "c").withHandler "list") []]]

theorem overriding_constructs_once :
    (Context.root.withController ⟨1, ledger⟩).Before 2 ∧
      ∃ entries,
        (compileForest (Context.root.withController ⟨1, ledger⟩) 2 overriding).result =
          .ok entries ∧
        entries.map (fun e => e.controller.number) = [1, 2, 3, 2] ∧
        List.Forall₂
          (ServedBy (Context.root.withController ⟨1, ledger⟩) (numbering 2 overriding)
            [⟨2, ledger⟩, ⟨3, ledger⟩])
          (leaves overriding) entries := by
  have hctx : (Context.root.withController ⟨1, ledger⟩).Before 2 := by
    intro i hi
    obtain rfl := Option.some.inj hi
    exact Nat.one_lt_two
  have h : (compileForest (Context.root.withController ⟨1, ledger⟩) 2 overriding).result =
      .ok _ := rfl
  obtain ⟨-, hentries, -, -⟩ := compileForest_constructs_once hctx overriding
  exact ⟨hctx, _, h, rfl, (hentries _ h).1⟩

end Route

namespace Server

variable {σ : Type}

/-- A server counts what declaring routes constructs, whether the routes are taken or
not. -/
theorem declare_constructed (s : Server σ) (forest : List (Route σ)) :
    (s.declare forest).constructed =
        (Route.compileForest Context.root s.next forest).constructed ∧
      (s.declare forest).server.next = s.next + (s.declare forest).constructed.length := by
  unfold declare
  cases hc : (Route.compileForest Context.root s.next forest).result with
  | error e => simp only [hc, and_self]
  | ok entries =>
      simp only [hc]
      cases Table.check (entries.map Entry.place) <;> simp only [and_self]

/-- Declare one forest of routes after another, and tell what each declaration
constructs. -/
def declareAll (s : Server σ) : List (List (Route σ)) → List (List (Instance σ))
  | [] => []
  | forest :: rest =>
    (s.declare forest).constructed :: (s.declare forest).server.declareAll rest

/-- Declarations are compilations one after another. -/
theorem declareAll_eq_compileAll (s : Server σ) (forests : List (List (Route σ))) :
    s.declareAll forests =
      Route.compileAll s.next (forests.map fun forest => (Context.root, forest)) := by
  induction forests generalizing s with
  | nil => rfl
  | cons forest rest ih =>
      obtain ⟨hconstructed, hnext⟩ := declare_constructed s forest
      rw [declareAll, ih, hnext, hconstructed]
      rfl

/-- However often routes are declared, no two declarations share an instance. -/
theorem pairwise_declareAll (s : Server σ) (forests : List (List (Route σ))) :
    (s.declareAll forests).Pairwise fun made made' =>
      List.Disjoint (made.map Instance.number) (made'.map Instance.number) := by
  rw [declareAll_eq_compileAll]
  exact Route.pairwise_compileAll _ _

end Server

end RouteTree
