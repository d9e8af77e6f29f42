import RouteTree.Proofs.Compilation

/-!
# Inherited parameter rules

Rules add up down a chain, and of several rules for one name that of the deepest node
counts. What other chains declare has no effect: the schema of an entry depends on the
rules of its own chain and of the context alone.
-/

namespace RouteTree

/-- The rule that a node declares for a name. -/
def Node.rule? {σ : Type} (n : Node σ) (name : String) : Option Rule :=
  n.rules.bind fun rules => rules.get? name

/-- Below a node its own rules count before those above it. -/
theorem Context.get?_enter_schema {σ : Type} (ctx : Context σ) (node : Node σ) (next : Nat)
    (name : String) :
    (ctx.enter node next).schema.get? name = (node.rule? name).or (ctx.schema.get? name) := by
  rw [enter_schema, Node.rule?]
  cases node.rules with
  | none => rfl
  | some rules => exact SortedMap.get?_merge ctx.schema rules name

namespace Branch

variable {σ : Type}

/-- The rule for a name that the deepest node of the chain declares, if one does. -/
def rule? (b : Branch σ) (name : String) : Option Rule :=
  b.chain.reverse.findSome? fun spot => spot.node.rule? name

/-- Where the rule for a name comes from: the deepest node of the chain that declares
one, or else the context. -/
inductive RuledBy (ctx : Context σ) (b : Branch σ) (name : String) : Option Rule → Prop
  | declared {above below : List (Spot σ)} {spot : Spot σ} {rule : Rule}
      (hchain : b.chain = above ++ spot :: below) (hrule : spot.node.rule? name = some rule)
      (hbelow : ∀ t ∈ below, t.node.rule? name = none) : b.RuledBy ctx name (some rule)
  | inherited (hchain : ∀ spot ∈ b.chain, spot.node.rule? name = none) :
      b.RuledBy ctx name (ctx.schema.get? name)

theorem rule?_eq_none_iff {b : Branch σ} {name : String} :
    b.rule? name = none ↔ ∀ spot ∈ b.chain, spot.node.rule? name = none := by
  simp only [rule?, List.findSome?_eq_none_iff, List.mem_reverse]

theorem rule?_eq_some_iff {b : Branch σ} {name : String} {rule : Rule} :
    b.rule? name = some rule ↔
      ∃ above spot below, b.chain = above ++ spot :: below ∧ spot.node.rule? name = some rule ∧
        ∀ t ∈ below, t.node.rule? name = none := by
  rw [rule?, List.findSome?_eq_some_iff]
  constructor
  · rintro ⟨below, spot, above, hsplit, hrule, hbelow⟩
    refine ⟨above.reverse, spot, below.reverse, ?_, hrule, ?_⟩
    · simpa using congrArg List.reverse hsplit
    · intro t ht
      exact hbelow t (List.mem_reverse.mp ht)
  · rintro ⟨above, spot, below, hsplit, hrule, hbelow⟩
    refine ⟨below.reverse, spot, above.reverse, by simp [hsplit], hrule, ?_⟩
    intro t ht
    exact hbelow t (List.mem_reverse.mp ht)

/-- A rule goes on to hold below a chain that declares nothing for its name. -/
theorem rule?_of_chain_eq_append {b b' : Branch σ} {below : List (Spot σ)} {name : String}
    (h : b'.chain = b.chain ++ below) (hbelow : ∀ t ∈ below, t.node.rule? name = none) :
    b'.rule? name = b.rule? name := by
  have hnone : below.reverse.findSome? (fun spot => spot.node.rule? name) = none := by
    rw [List.findSome?_eq_none_iff]
    intro t ht
    exact hbelow t (List.mem_reverse.mp ht)
  rw [rule?, rule?, h, List.reverse_append, List.findSome?_append, hnone, Option.none_or]

/-- The rule for a name can be told from the rules of the chain. -/
theorem rule?_congr {b b' : Branch σ}
    (h : b'.chain.map (fun spot => spot.node.rules) = b.chain.map fun spot => spot.node.rules)
    (name : String) : b'.rule? name = b.rule? name := by
  have hmap (b : Branch σ) : b.rule? name =
      (b.chain.map fun spot => spot.node.rules).reverse.findSome? fun rules =>
        rules.bind fun rules => rules.get? name := by
    rw [rule?, ← List.map_reverse, List.findSome?_map]
    rfl
  rw [hmap, hmap, h]

theorem get?_context_schema (ctx : Context σ) (number : Nat → Nat) (b : Branch σ) (name : String) :
    (b.context ctx number).schema.get? name = (b.rule? name).or (ctx.schema.get? name) := by
  unfold context rule?
  induction b.chain using List.reverseRecOn with
  | nil => rfl
  | append_singleton chain spot ih =>
      rw [contextAlong_concat, Context.get?_enter_schema, ih, List.reverse_append,
        List.findSome?_append, Option.or_assoc, List.reverse_singleton, List.findSome?_singleton]

theorem HasEntry.get?_schema {ctx : Context σ} {number : Nat → Nat} {b : Branch σ} {e : Entry σ}
    (h : b.HasEntry ctx number e) (name : String) :
    e.schema.get? name = (b.rule? name).or (ctx.schema.get? name) := by
  obtain ⟨handler, -, he⟩ := h
  obtain ⟨-, -, -, -, rfl⟩ := Node.entry_eq_ok_iff.mp he
  exact get?_context_schema ctx number b name

theorem HasEntry.ruledBy {ctx : Context σ} {number : Nat → Nat} {b : Branch σ} {e : Entry σ}
    (h : b.HasEntry ctx number e) (name : String) : b.RuledBy ctx name (e.schema.get? name) := by
  rw [h.get?_schema]
  cases hr : b.rule? name with
  | none => exact .inherited (rule?_eq_none_iff.mp hr)
  | some rule =>
      obtain ⟨above, spot, below, hchain, hrule, hbelow⟩ := rule?_eq_some_iff.mp hr
      exact .declared hchain hrule hbelow

end Branch

namespace Route

open Branch

variable {σ : Type}

/-- In the schema of an entry each name has the rule of the deepest node of the chain
that declares one, or else that of the context, or none. So the rules of a leaf hold for
the leaves below it, up to those that declare others, and two leaves whose chains
declare the same rules have the same schema, whatever is declared beside them. -/
theorem compileForest_inherits_rules {ctx : Context σ} {next : Nat} {forest : List (Route σ)}
    {entries : List (Entry σ)} (h : (compileForest ctx next forest).result = .ok entries) :
    List.Forall₂ (fun b e => ∀ name, b.RuledBy ctx name (e.schema.get? name)) (leaves forest)
        entries ∧
      (∀ b e b' e', (b, e) ∈ (leaves forest).zip entries →
        (b', e') ∈ (leaves forest).zip entries → ∀ below, b'.chain = b.chain ++ below →
        ∀ name rule, b.node.rule? name = some rule → (∀ t ∈ below, t.node.rule? name = none) →
          e.schema.get? name = some rule ∧ e'.schema.get? name = some rule) ∧
      ∀ (ctx' : Context σ) next' other entries',
        (compileForest ctx' next' other).result = .ok entries' → ctx'.schema = ctx.schema →
        ∀ b e b' e', (b, e) ∈ (leaves forest).zip entries → (b', e') ∈ (leaves other).zip entries' →
          b'.chain.map (fun spot => spot.node.rules) = b.chain.map (fun spot => spot.node.rules) →
          ∀ name, e'.schema.get? name = e.schema.get? name := by
  have hentries := (compileForest_eq_ok h).1
  refine ⟨hentries.imp fun _ _ he => he.ruledBy, ?below, ?beside⟩
  case below =>
    intro b e b' e' hmem hmem' below hchain name rule hrule hbelow
    have he := List.forall₂_zip hentries hmem
    have he' := List.forall₂_zip hentries hmem'
    have hown : b.rule? name = some rule :=
      rule?_eq_some_iff.mpr ⟨b.above, b.tip, [], rfl, hrule, by simp⟩
    constructor
    · rw [he.get?_schema, hown, Option.some_or]
    · rw [he'.get?_schema, rule?_of_chain_eq_append hchain hbelow, hown, Option.some_or]
  case beside =>
    intro ctx' next' other entries' h' hctx b e b' e' hmem hmem' hrules name
    have he := List.forall₂_zip hentries hmem
    have he' := List.forall₂_zip (compileForest_eq_ok h').1 hmem'
    rw [he.get?_schema, he'.get?_schema, rule?_congr hrules, hctx]

/-- A controller with one handler. -/
def registry : Controller Unit :=
  { typeName := "Registry"
    label := "Registry"
    initial := ()
    handlers := [("show", fun _ => .succeed .absent)] }

/-- A leaf with a rule of its own between a node that declares two rules and two leaves,
one of which declares its own rule for a name that has one. -/
def ruled : List (Route Unit) :=
  [.node (((Node.empty.withController registry).withRule "id" .any).withRule "page" .integer)
    [.node ((Node.empty.withRule "id" .uuid).withHandler "show")
      [.node (Node.empty.withHandler "show") [],
        .node ((Node.empty.withRule "id" .alphanumeric).withHandler "show") []]]]

theorem ruled_inherits_rules :
    ∃ entries, (compileForest Context.root 1 ruled).result = .ok entries ∧
      entries.map (fun e => e.schema.get? "id") = [some .uuid, some .uuid, some .alphanumeric] ∧
      entries.map (fun e => e.schema.get? "page") = [some .integer, some .integer, some .integer] ∧
      List.Forall₂ (fun b e => ∀ name, b.RuledBy Context.root name (e.schema.get? name))
        (leaves ruled) entries := by
  have h : (compileForest Context.root 1 ruled).result = .ok _ := rfl
  exact ⟨_, h, rfl, rfl, (compileForest_inherits_rules h).1⟩

end Route

end RouteTree
