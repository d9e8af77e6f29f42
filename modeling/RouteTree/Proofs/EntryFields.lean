import Mathlib.Algebra.Ring.Nat
import RouteTree.Proofs.BranchPath

/-!
# What an entry shows

A forest that compiles gives one entry for each leaf, in pre-order. The entry shows what
the leaf declares for itself and the path that its chain declares. What other nodes
declare for themselves alone reaches no entry: without it the forest compiles to the
same entries, apart from what the leaves declare for themselves.
-/

namespace RouteTree

/-- An entry shows a leaf in its place: all that the leaf declares for itself, behind
the path of its chain. -/
structure Entry.Shows {σ : Type} (ctx : Context σ) (b : Branch σ) (e : Entry σ) : Prop where
  method : e.method = b.node.method
  handlerName : b.node.handler = some e.handlerName
  options : e.options = b.node.options
  checks : e.checks = b.node.checks
  guards : e.guards = b.node.guards
  guardCount : e.guardCount = b.node.guards.length
  pipeline : e.pipeline = ⟨b.node.method, e.path, b.node.guards, e.handler⟩
  path : b.HasPath ctx e.path

/-- What an entry says of itself is what its pipeline keeps. -/
structure Entry.Agrees {σ : Type} (e : Entry σ) : Prop where
  method : e.pipeline.method = e.method
  path : e.pipeline.path = e.path
  guardCount : e.pipeline.guards.length = e.guardCount

theorem Branch.HasEntry.shows {σ : Type} {ctx : Context σ} {number : Nat → Nat} {b : Branch σ}
    {e : Entry σ} (h : b.HasEntry ctx number e) : Entry.Shows ctx b e := by
  have hpath := Branch.hasPath_iff.mpr h.path_eq
  obtain ⟨name, hn, he⟩ := h
  obtain ⟨controller, handler, -, -, rfl⟩ := Node.entry_eq_ok_iff.mp he
  exact ⟨rfl, hn, rfl, rfl, rfl, rfl, rfl, hpath⟩

/-- The entry of a leaf and its pipeline agree. -/
theorem Entry.Shows.agrees {σ : Type} {ctx : Context σ} {b : Branch σ} {e : Entry σ}
    (h : Entry.Shows ctx b e) : e.Agrees where
  method := by rw [h.pipeline, h.method]
  path := by rw [h.pipeline]
  guardCount := by rw [h.pipeline, h.guardCount]

/-- A node without what it declares for itself alone. -/
def Node.bare {σ : Type} (n : Node σ) : Node σ :=
  { n with method := .get, options := SortedMap.empty, checks := SortedMap.empty, guards := [] }

/-- An entry without what its leaf declares for itself alone. -/
def Entry.bare {σ : Type} (e : Entry σ) : Entry σ :=
  { e with
    method := .get
    options := SortedMap.empty
    checks := SortedMap.empty
    guardCount := 0
    pipeline := { e.pipeline with method := .get, guards := [] } }

namespace Compilation

variable {σ : Type}

/-- A compilation with changed entries. -/
def mapEntries (f : Entry σ → Entry σ) (c : Compilation σ) : Compilation σ :=
  ⟨c.result.map (List.map f), c.constructed⟩

theorem mapEntries_followedBy (f : Entry σ → Entry σ) (first second : Compilation σ) :
    (first.followedBy second).mapEntries f =
      (first.mapEntries f).followedBy (second.mapEntries f) := by
  obtain ⟨result, constructed⟩ := first
  cases result with
  | error e => rfl
  | ok entries =>
      obtain ⟨result', constructed'⟩ := second
      cases result' <;> simp [followedBy, mapEntries, Except.map]

end Compilation

theorem Node.compile_bare {σ : Type} (n : Node σ) (ctx : Context σ) (next : Nat) :
    n.bare.compile ctx next = (n.compile ctx next).mapEntries Entry.bare := by
  have hentry (name : String) : n.bare.entry name ctx = (n.entry name ctx).map Entry.bare := by
    unfold entry
    cases ctx.controller with
    | none => rfl
    | some controller =>
        simp only
        cases controller.kind.handler? name <;> rfl
  unfold compile Compilation.mapEntries
  have hhandler : n.bare.handler = n.handler := rfl
  rw [hhandler]
  cases n.handler with
  | none => rfl
  | some name =>
      simp only [hentry]
      cases n.entry name ctx <;> rfl

namespace Route

variable {σ : Type}

mutual

/-- A tree whose nodes declare nothing for themselves alone. -/
def bare : Route σ → Route σ
  | .node own children => .node own.bare (bareForest children)

/-- Several trees whose nodes declare nothing for themselves alone. -/
def bareForest : List (Route σ) → List (Route σ)
  | [] => []
  | r :: rs => bare r :: bareForest rs

end

theorem compileForest_bareForest (ctx : Context σ) (next : Nat) (forest : List (Route σ)) :
    compileForest ctx next (bareForest forest) =
      (compileForest ctx next forest).mapEntries Entry.bare := by
  induction forest using forest_induction generalizing ctx next with
  | nil => rfl
  | cons own children rest ihc ihr =>
      have henter : ctx.enter own.bare next = ctx.enter own next := rfl
      have hconstructs : own.bare.constructs next = own.constructs next := rfl
      have hfirst : compile ctx next (.node own.bare (bareForest children)) =
          (compile ctx next (.node own children)).mapEntries Entry.bare := by
        simp only [compile, henter, hconstructs, Node.compile_bare, ihc,
          Compilation.mapEntries_followedBy]
      simp only [bareForest, bare, compileForest, hfirst, ihr, Compilation.mapEntries_followedBy]
      rfl

theorem leafCounts_eq_sum (forest : List (Route σ)) :
    leafCounts forest = (forest.map leafCount).sum := by
  induction forest with
  | nil => rfl
  | cons r rs ih => rw [leafCounts, ih, List.map_cons, List.sum_cons]

/-- The entries of a forest are its leaves in pre-order, each as it stands in its place,
and what nodes declare for themselves alone goes nowhere but into the entry of the node
itself. -/
theorem compileForest_shows_leaves {ctx : Context σ} {next : Nat} {forest : List (Route σ)}
    {entries : List (Entry σ)} (h : (compileForest ctx next forest).result = .ok entries) :
    List.Forall₂ (Entry.Shows ctx) (leaves forest) entries ∧
      entries.length = (forest.map leafCount).sum ∧
      (compileForest ctx next (bareForest forest)).result = .ok (entries.map Entry.bare) := by
  have hentries := (compileForest_eq_ok h).1
  refine ⟨hentries.imp fun _ _ he => he.shows, ?_, ?_⟩
  · rw [← hentries.length_eq, length_leaves, leafCounts_eq_sum]
  · rw [compileForest_bareForest, Compilation.mapEntries, h]
    rfl

/-- A controller with two handlers. -/
def catalogue : Controller Unit :=
  { typeName := "Catalogue"
    label := "Catalogue"
    initial := ()
    handlers := [("list", fun _ => .succeed .absent), ("get", fun _ => .succeed .absent)] }

/-- A guarded leaf with two trees below it that end in leaves, and a further leaf beside
it. -/
def grouped : List (Route Unit) :=
  [.node ((((Node.empty.withPath "users").withController catalogue).withHandler "list").withGuard
        fun _ => .fail (Failure.ofText "refused"))
      [.node ((Node.empty.withPath ":id").withHandler "get") [],
        .node ((Node.empty.withPath "nested").withOption "tags" (.string "none"))
          [.node (((Node.empty.withPath ":id").withMethod .delete).withHandler "get") []]],
    .node (((Node.empty.withPath "posts").withController catalogue).withHandler "list") []]

theorem grouped_shows_leaves :
    ∃ entries, (compileForest (Context.mounted "api") 1 grouped).result = .ok entries ∧
      List.Forall₂ (Entry.Shows (Context.mounted "api")) (leaves grouped) entries ∧
      entries.length = 4 := by
  have h : (compileForest (Context.mounted "api") 1 grouped).result = .ok _ := rfl
  obtain ⟨hshows, hlength, -⟩ := compileForest_shows_leaves h
  exact ⟨_, h, hshows, hlength⟩

end Route

end RouteTree
