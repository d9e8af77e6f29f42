import RouteTree.Proofs.BranchPath

/-!
# The first defect of a forest

A leaf needs a controller, its own or that of a node above it or of the context, and a
handler of its name on that controller. What it lacks can be told from its chain and the
context alone. A forest does not compile exactly if one of its leaves lacks something,
and the error is that of the first such leaf in pre-order.
-/

namespace RouteTree

namespace Branch

variable {σ : Type}

/-- The type of the controller in charge of a tip: that of the deepest node of the chain
that declares one, or else that of the controller of the context. -/
def kind? (ctx : Context σ) (b : Branch σ) : Option (Controller σ) :=
  (b.nearest.bind fun spot => spot.node.controller).or (ctx.controller.map Instance.kind)

/-- What a leaf lacks to become an entry, and how that is reported. -/
inductive Lacks (ctx : Context σ) (b : Branch σ) : ConfigurationError → Prop
  | controller {name path : String} (hname : b.node.handler = some name)
      (hchain : ∀ spot ∈ b.chain, spot.node.controller = none) (hctx : ctx.controller = none)
      (hpath : b.HasPath ctx path) : b.Lacks ctx (.missingController name path)
  | handler {name : String} {kind : Controller σ} (hname : b.node.handler = some name)
      (hkind : b.kind? ctx = some kind) (hnames : name ∉ kind.names) :
      b.Lacks ctx (.unknownHandler name kind.shortName)

/-- A leaf as an entry dispatches it: to what the type of its controller registers last
under the handler name of the leaf. -/
structure Dispatches (ctx : Context σ) (b : Branch σ) (e : Entry σ) : Prop where
  name : b.node.handler = some e.handlerName
  kind : b.kind? ctx = some e.controller.kind
  last : ∃ before behind,
    e.controller.kind.handlers = before ++ (e.handlerName, e.pipeline.handler) :: behind ∧
      e.handlerName ∉ behind.map Prod.fst

theorem nearest_eq_none_iff {b : Branch σ} :
    b.nearest = none ↔ ∀ spot ∈ b.chain, spot.node.controller = none := by
  unfold nearest
  rw [List.getLast?_eq_none_iff, List.filter_eq_nil_iff]
  simp only [Option.isSome_iff_ne_none, ne_eq, not_not]

theorem kind?_eq_none_iff {ctx : Context σ} {b : Branch σ} :
    b.kind? ctx = none ↔
      (∀ spot ∈ b.chain, spot.node.controller = none) ∧ ctx.controller = none := by
  rw [← nearest_eq_none_iff]
  unfold kind?
  cases hn : b.nearest with
  | none => simp
  | some spot =>
      obtain ⟨kind, hk⟩ := Option.isSome_iff_exists.mp (declares_of_nearest hn).2
      simp [hk]

/-- The controller in whose context a tip is compiled is of the type in charge. -/
theorem map_kind_context_controller (ctx : Context σ) (number : Nat → Nat) (b : Branch σ) :
    (b.context ctx number).controller.map Instance.kind = b.kind? ctx := by
  rw [context_controller]
  unfold kind?
  cases hn : b.nearest with
  | none => simp
  | some spot =>
      obtain ⟨kind, hk⟩ := Option.isSome_iff_exists.mp (declares_of_nearest hn).2
      simp [hk]

/-- A leaf fails with what it lacks. -/
theorem fails_iff_lacks {ctx : Context σ} {number : Nat → Nat} {b : Branch σ}
    {e : ConfigurationError} : b.Fails ctx number e ↔ b.Lacks ctx e := by
  have hkind := map_kind_context_controller ctx number b
  constructor
  · rintro ⟨name, hname, he⟩
    rw [Node.entry_eq_error_iff] at he
    rcases he with ⟨hc, rfl⟩ | ⟨controller, hc, hh, rfl⟩
    · rw [hc] at hkind
      obtain ⟨hchain, hctx⟩ := kind?_eq_none_iff.mp hkind.symm
      exact .controller hname hchain hctx (hasPath_iff.mpr (context_path ctx number b))
    · rw [hc] at hkind
      exact .handler hname hkind.symm (Controller.handler?_eq_none_iff.mp hh)
  · intro h
    cases h with
    | @controller name path hname hchain hctx hpath =>
        refine ⟨name, hname, Node.entry_eq_error_iff.mpr (Or.inl ⟨?_, ?_⟩)⟩
        · rw [kind?_eq_none_iff.mpr ⟨hchain, hctx⟩] at hkind
          exact Option.map_eq_none_iff.mp hkind
        · rw [hasPath_iff.mp hpath, context_path]
    | @handler name kind hname hk hnames =>
        rw [hk] at hkind
        obtain ⟨controller, hc, rfl⟩ := Option.map_eq_some_iff.mp hkind
        exact ⟨name, hname, Node.entry_eq_error_iff.mpr
          (Or.inr ⟨controller, hc, Controller.handler?_eq_none_iff.mpr hnames, rfl⟩)⟩

theorem HasEntry.not_lacks {ctx : Context σ} {number : Nat → Nat} {b : Branch σ} {entry : Entry σ}
    (h : b.HasEntry ctx number entry) (e : ConfigurationError) : ¬ b.Lacks ctx e := by
  intro hl
  obtain ⟨name, hname, hentry⟩ := h
  have hfails : b.Fails ctx number e := fails_iff_lacks.mpr hl
  obtain ⟨name', hname', herror⟩ := hfails
  obtain rfl := Option.some.inj (hname.symm.trans hname')
  rw [hentry] at herror
  cases herror

/-- A leaf lacks one thing. -/
theorem Lacks.unique {ctx : Context σ} {b : Branch σ} {e e' : ConfigurationError}
    (h : b.Lacks ctx e) (h' : b.Lacks ctx e') : e = e' := by
  have hfails : b.Fails ctx id e := fails_iff_lacks.mpr h
  have hfails' : b.Fails ctx id e' := fails_iff_lacks.mpr h'
  obtain ⟨name, hname, he⟩ := hfails
  obtain ⟨name', hname', he'⟩ := hfails'
  obtain rfl := Option.some.inj (hname.symm.trans hname')
  exact Except.error.inj (he.symm.trans he')

theorem Lacks.isLeaf {ctx : Context σ} {b : Branch σ} {e : ConfigurationError}
    (h : b.Lacks ctx e) : b.isLeaf = true := by
  cases h <;> simp [Branch.isLeaf, Node.isLeaf, *]

theorem HasEntry.dispatches {ctx : Context σ} {number : Nat → Nat} {b : Branch σ} {e : Entry σ}
    (h : b.HasEntry ctx number e) : b.Dispatches ctx e := by
  obtain ⟨name, hname, he⟩ := h
  obtain ⟨controller, handler, hc, hh, rfl⟩ := Node.entry_eq_ok_iff.mp he
  refine ⟨hname, ?_, Controller.handler?_eq_some_iff.mp hh⟩
  rw [← map_kind_context_controller ctx number, hc]
  rfl

end Branch

namespace Route

open Branch

variable {σ : Type}

/-- In a forest that compiles no node lacks anything. -/
theorem not_lacks_of_ok {ctx : Context σ} {next : Nat} {forest : List (Route σ)}
    {entries : List (Entry σ)} (h : (compileForest ctx next forest).result = .ok entries)
    {b : Branch σ} (hb : b ∈ forestBranches [] 0 forest) (e : ConfigurationError) :
    ¬ b.Lacks ctx e := by
  intro hl
  have hentries := (compileForest_eq_ok h).1
  have hleaf : b ∈ leaves forest := List.mem_filter.mpr ⟨hb, hl.isLeaf⟩
  rw [← List.map_fst_zip (Nat.le_of_eq hentries.length_eq)] at hleaf
  obtain ⟨⟨b', entry⟩, hmem, rfl⟩ := List.mem_map.mp hleaf
  exact (List.forall₂_zip hentries hmem).not_lacks e hl

theorem exists_first_lacking_of_error {ctx : Context σ} {next : Nat} {forest : List (Route σ)}
    {e : ConfigurationError} (h : (compileForest ctx next forest).result = .error e) :
    ∃ before failing after, forestBranches [] 0 forest = before ++ failing :: after ∧
      (∀ b ∈ before, ∀ e', ¬ b.Lacks ctx e') ∧ failing.Lacks ctx e := by
  obtain ⟨before, failing, after, hsplit, -, hfails, hbefore, -⟩ := compileForest_eq_error h
  refine ⟨before, failing, after, hsplit, ?_, fails_iff_lacks.mp hfails⟩
  intro b hb e' hl
  obtain ⟨entry, hentry⟩ := hbefore b hb hl.isLeaf
  exact hentry.not_lacks e' hl

/-- No two nodes of a list are the first that lacks anything. -/
theorem first_lacking_unique {ctx : Context σ} {before before' after after' : List (Branch σ)}
    {failing failing' : Branch σ} {e e' : ConfigurationError}
    (hsplit : before ++ failing :: after = before' ++ failing' :: after')
    (hbefore : ∀ b ∈ before, ∀ e, ¬ b.Lacks ctx e) (hbefore' : ∀ b ∈ before', ∀ e, ¬ b.Lacks ctx e)
    (hl : failing.Lacks ctx e) (hl' : failing'.Lacks ctx e') : failing = failing' := by
  induction before generalizing before' with
  | nil =>
      cases before' with
      | nil => exact (List.cons.inj hsplit).1
      | cons b' rest' =>
          obtain ⟨rfl, -⟩ := List.cons.inj hsplit
          exact absurd hl (hbefore' failing List.mem_cons_self e)
  | cons b rest ih =>
      cases before' with
      | nil =>
          obtain ⟨rfl, -⟩ := List.cons.inj hsplit
          exact absurd hl' (hbefore b List.mem_cons_self e')
      | cons b' rest' =>
          apply ih (List.cons.inj hsplit).2
          · exact (List.forall_mem_cons.mp hbefore).2
          · exact (List.forall_mem_cons.mp hbefore').2

/-- A forest fails with what the first node in pre-order lacks that lacks anything. -/
theorem compileForest_eq_error_iff {ctx : Context σ} {next : Nat} {forest : List (Route σ)}
    {e : ConfigurationError} :
    (compileForest ctx next forest).result = .error e ↔
      ∃ before failing after, forestBranches [] 0 forest = before ++ failing :: after ∧
        (∀ b ∈ before, ∀ e', ¬ b.Lacks ctx e') ∧ failing.Lacks ctx e := by
  constructor
  · exact exists_first_lacking_of_error
  · rintro ⟨before, failing, after, hsplit, hbefore, hl⟩
    cases hr : (compileForest ctx next forest).result with
    | ok entries => exact absurd hl (not_lacks_of_ok hr (by simp [hsplit]) e)
    | error e' =>
        obtain ⟨before', failing', after', hsplit', hbefore', hl'⟩ :=
          exists_first_lacking_of_error hr
        obtain rfl :=
          first_lacking_unique (hsplit.symm.trans hsplit') hbefore hbefore' hl hl'
        rw [hl.unique hl']

/-- Compiling fails exactly if a node lacks a controller or a handler, and the first
such node in pre-order is the one that is reported. Otherwise the entries are those of
the leaves, and each dispatches to what the type of its controller registers last under
its handler name. -/
theorem compileForest_reports_first_lack (ctx : Context σ) (next : Nat) (forest : List (Route σ)) :
    ((∃ e, (compileForest ctx next forest).result = .error e) ↔
        ∃ b ∈ forestBranches [] 0 forest, ∃ e, b.Lacks ctx e) ∧
      (∀ e, (compileForest ctx next forest).result = .error e ↔
        ∃ before failing after, forestBranches [] 0 forest = before ++ failing :: after ∧
          (∀ b ∈ before, ∀ e', ¬ b.Lacks ctx e') ∧ failing.Lacks ctx e) ∧
      ∀ entries, (compileForest ctx next forest).result = .ok entries →
        List.Forall₂ (Dispatches ctx) (leaves forest) entries := by
  refine ⟨?_, fun e => compileForest_eq_error_iff, ?_⟩
  · constructor
    · rintro ⟨e, he⟩
      obtain ⟨before, failing, after, hsplit, -, hl⟩ := exists_first_lacking_of_error he
      exact ⟨failing, by simp [hsplit], e, hl⟩
    · rintro ⟨b, hb, e, hl⟩
      cases hr : (compileForest ctx next forest).result with
      | ok entries => exact absurd hl (not_lacks_of_ok hr hb e)
      | error e' => exact ⟨e', rfl⟩
  · intro entries h
    exact (compileForest_eq_ok h).1.imp fun _ _ he => he.dispatches

/-- A controller with one handler that is registered twice. -/
def archive : Controller Unit :=
  { typeName := "stores::Archive<Disk>"
    label := "Archive"
    initial := ()
    handlers := [("list", fun _ => .fail (Failure.ofText "closed")),
      ("list", fun _ => .succeed .absent)] }

/-- A leaf with a handler, and a group whose second leaf names a handler that its
controller does not have, before a leaf without a controller. -/
def lacking : List (Route Unit) :=
  [.node ((Node.empty.withController archive).withHandler "list") [],
    .node ((Node.empty.withPath "shelves/:id").withController archive)
      [.node (Node.empty.withHandler "list") [], .node (Node.empty.withHandler "move") []],
    .node ((Node.empty.withPath "orphan").withHandler "list") []]

theorem lacking_reports_first_lack :
    (compileForest Context.root 1 lacking).result = .error (.unknownHandler "move" "Archive") ∧
      (∃ b ∈ forestBranches [] 0 lacking, ∃ e, b.Lacks Context.root e) ∧
      ∃ entries, (compileForest Context.root 1 (lacking.take 1)).result = .ok entries ∧
        List.Forall₂ (Dispatches Context.root) (leaves (lacking.take 1)) entries := by
  have herror : (compileForest Context.root 1 lacking).result =
      .error (.unknownHandler "move" "Archive") := rfl
  have hok : (compileForest Context.root 1 (lacking.take 1)).result = .ok _ := rfl
  obtain ⟨hfails, -, -⟩ := compileForest_reports_first_lack Context.root 1 lacking
  obtain ⟨-, -, hentries⟩ := compileForest_reports_first_lack Context.root 1 (lacking.take 1)
  exact ⟨herror, hfails.mp ⟨_, herror⟩, _, hok, hentries _ hok⟩

end Route

end RouteTree
