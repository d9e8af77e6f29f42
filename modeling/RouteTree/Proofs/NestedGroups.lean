import RouteTree.Compile
import RouteTree.Proofs.PathReading

/-!
# Groups within groups

A node that only groups has no handler, no controller and no parameter rules: all it
does is to push its path to the nodes below it. A group on a path of two parts is
therefore as good as a group on the second part within a group on the first.
-/

namespace RouteTree

namespace Node

variable {σ : Type}

/-- A node that does nothing but push a path. The method, options and guards of such a
node are never looked at. -/
structure Groups (n : Node σ) (path : String) : Prop where
  path_eq : n.path = some path
  handler : n.handler = none
  controller : n.controller = none
  rules : ∀ rules, n.rules = some rules → rules = SortedMap.empty

variable {n : Node σ} {path : String}

theorem Groups.constructs (h : n.Groups path) (next : Nat) : n.constructs next = [] := by
  rw [Node.constructs, h.controller]

theorem Groups.compile (h : n.Groups path) (ctx : Context σ) (next : Nat) :
    n.compile ctx next = ⟨.ok [], []⟩ := by
  rw [Node.compile, h.handler, h.constructs]

theorem Groups.enter (h : n.Groups path) (ctx : Context σ) (next : Nat) :
    ctx.enter n next = ctx.pushPath path := by
  rw [Context.enter, h.path_eq, h.controller]
  cases hrules : n.rules with
  | none => rfl
  | some rules =>
      obtain rfl := h.rules rules hrules
      rfl

end Node

namespace Route

variable {σ : Type}

/-- A forest with one group, at whatever depth, on a path of two parts, and the forest
in which two groups stand for it, the one within the other. -/
inductive Regroups : List (Route σ) → List (Route σ) → Prop
  | here {whole outer inner : Node σ} {a b children rest} :
      whole.Groups (a ++ "/" ++ b) → outer.Groups a → inner.Groups b →
      Regroups (.node whole children :: rest) (.node outer [.node inner children] :: rest)
  | inside {own children children' rest} : Regroups children children' →
      Regroups (.node own children :: rest) (.node own children' :: rest)
  | beside {r rest rest'} : Regroups rest rest' → Regroups (r :: rest) (r :: rest')

/-- A group is compiled as what is below it, under the path that it pushes. -/
theorem compile_of_groups {own : Node σ} {path : String} (h : own.Groups path) (ctx : Context σ)
    (next : Nat) (children : List (Route σ)) :
    compile ctx next (.node own children) = compileForest (ctx.pushPath path) next children := by
  rw [compile, h.compile, Compilation.ok_nil_followedBy, h.enter, h.constructs]
  rfl

theorem compileForest_singleton (ctx : Context σ) (next : Nat) (r : Route σ) :
    compileForest ctx next [r] = compile ctx next r := by
  rw [compileForest, compileForest, Compilation.followedBy_ok_nil]

theorem compileForest_eq_of_regroups {forest forest' : List (Route σ)}
    (h : Regroups forest forest') (ctx : Context σ) (next : Nat) :
    compileForest ctx next forest = compileForest ctx next forest' := by
  induction h generalizing ctx next with
  | @here whole outer inner a b children rest hwhole houter hinner =>
      have hgroup : compile ctx next (.node whole children) =
          compile ctx next (.node outer [.node inner children]) := by
        rw [compile_of_groups hwhole, compile_of_groups houter, compileForest_singleton,
          compile_of_groups hinner, Context.pushPath_append_slash]
      rw [compileForest, compileForest, hgroup]
  | @inside own children children' rest _ ih =>
      have hgroup : compile ctx next (.node own children) =
          compile ctx next (.node own children') := by
        rw [compile, compile, ih]
      rw [compileForest, compileForest, hgroup]
  | beside _ ih => rw [compileForest, compileForest, ih]

/-- A context takes in a text as a whole or piece by piece, and only the segments of the
text count. A forest is compiled to the same table, with the same instances, if one of
its groups is split into two. -/
theorem compileForest_reads_segments (ctx : Context σ) :
    (∀ a b, ctx.pushPath (a ++ "/" ++ b) = (ctx.pushPath a).pushPath b) ∧
    (∀ a b segs, Reads a.toList segs → Reads b.toList segs → ctx.pushPath a = ctx.pushPath b) ∧
    (∀ a b k m n, ctx.pushPath (slashes k ++ (a ++ slashes (m + 1) ++ b ++ slashes n)) =
      ctx.pushPath (a ++ "/" ++ b)) ∧
    ∀ forest forest' next, Regroups forest forest' →
      compileForest ctx next forest = compileForest ctx next forest' := by
  refine ⟨ctx.pushPath_append_slash, ?_, ctx.pushPath_slashes, ?_⟩
  · intro a b segs ha hb
    exact ctx.pushPath_eq_of_reads ha hb
  · intro forest forest' next h
    exact compileForest_eq_of_regroups h ctx next

/-- A controller with one handler. -/
def harbour : Controller Unit :=
  { typeName := "Harbour"
    label := "Harbour"
    initial := ()
    handlers := [("moor", fun _ => .succeed .absent)] }

/-- What is moored at the quays that are grouped below a harbour. -/
def moored (quays : Route Unit) : List (Route Unit) :=
  [.node (Node.empty.withController harbour) [quays]]

/-- The only leaf of the harbour. -/
def berth : Route Unit := .node ((Node.empty.withPath "berth").withHandler "moor") []

/-- The quays as one group. -/
def quays : Route Unit := .node (Node.empty.withPath "quays/:quay") [berth]

/-- The quays as a group within a group. -/
def nestedQuays : Route Unit :=
  .node (Node.empty.withPath "quays") [.node (Node.empty.withPath ":quay") [berth]]

theorem moored_reads_segments :
    Reads "/quays//:quay/".toList ["quays", ":quay"] ∧
      Reads "quays/:quay".toList ["quays", ":quay"] ∧
      Regroups (moored quays) (moored nestedQuays) ∧
      (Context.root (σ := Unit)).pushPath "/quays//:quay/" = Context.root.pushPath "quays/:quay" ∧
      compileForest Context.root 1 (moored quays) =
        compileForest Context.root 1 (moored nestedQuays) := by
  have hscattered : Reads "/quays//:quay/".toList ["quays", ":quay"] := reads_iff.mpr (by decide)
  have hplain : Reads "quays/:quay".toList ["quays", ":quay"] := reads_iff.mpr (by decide)
  have hgroups (path : String) : ((Node.empty (σ := Unit)).withPath path).Groups path :=
    ⟨rfl, rfl, rfl, fun _ h => nomatch h⟩
  have hwhole : ((Node.empty (σ := Unit)).withPath "quays/:quay").Groups
      ("quays" ++ "/" ++ ":quay") := hgroups _
  have hquays : Regroups [quays] [nestedQuays] := .here hwhole (hgroups _) (hgroups _)
  have hregroups : Regroups (moored quays) (moored nestedQuays) := hquays.inside
  obtain ⟨-, hreads, -, hforests⟩ := compileForest_reads_segments (Context.root (σ := Unit))
  exact ⟨hscattered, hplain, hregroups, hreads _ _ _ hscattered hplain,
    hforests _ _ 1 hregroups⟩

end Route

end RouteTree
