import RouteTree.Entry

/-!
# Compiling route trees

A forest is walked in pre-order. Every node is entered with the context of its parent, a
node that declares a controller constructs one instance of it, and every leaf becomes an
entry. The first leaf without a usable handler ends the walk with an error; the
instances constructed up to there are reported all the same.
-/

namespace RouteTree

/-- What is wrong with a route tree or with its table. -/
inductive ConfigurationError where
  | missingController (handler path : String)
  | unknownHandler (handler controller : String)
  | duplicateRoute (method : Method) (path : String)
  | unsupportedMethod (method : Method) (path : String)
  | emptyParamName (path : String)
  | conflictingParamName (path name existingPath existing : String)
  deriving DecidableEq, Repr

namespace ConfigurationError

/-- The kind of an error. -/
def kind : ConfigurationError → String
  | .missingController .. => "MissingController"
  | .unknownHandler .. => "UnknownHandler"
  | .duplicateRoute .. => "DuplicateRoute"
  | .unsupportedMethod .. => "UnsupportedMethod"
  | .emptyParamName .. => "EmptyParamName"
  | .conflictingParamName .. => "ConflictingParamName"

/-- The wording of an error. -/
def message : ConfigurationError → String
  | .missingController handler path =>
    "cannot register handler `" ++ handler ++ "` at " ++ path ++ " without an existing controller"
  | .unknownHandler handler controller =>
    "handler `" ++ handler ++ "` does not exist on controller " ++ controller
  | .duplicateRoute method path =>
    "route [" ++ method.token ++ "] " ++ path ++ " is declared more than once"
  | .unsupportedMethod method path =>
    "method " ++ method.token ++ " is not supported for route " ++ path
  | .emptyParamName path => "route " ++ path ++ " declares a parameter without a name"
  | .conflictingParamName path name existingPath existing =>
    "route " ++ path ++ " names parameter `" ++ name ++ "` where " ++ existingPath ++
      " already uses `" ++ existing ++ "`"

end ConfigurationError

/-- What compiling gives: the entries or the first error, and the instances constructed
on the way. -/
structure Compilation (σ : Type) where
  result : Except ConfigurationError (List (Entry σ))
  constructed : List (Instance σ)

namespace Compilation

variable {σ : Type}

/-- One compilation and, unless it failed, a further one behind it. -/
def followedBy (first : Compilation σ) (second : Compilation σ) : Compilation σ :=
  match first.result with
  | .error e => ⟨.error e, first.constructed⟩
  | .ok entries =>
    ⟨second.result.map (entries ++ ·), first.constructed ++ second.constructed⟩

theorem followedBy_of_ok {first second : Compilation σ} {entries : List (Entry σ)}
    (h : first.result = .ok entries) :
    first.followedBy second =
      ⟨second.result.map (entries ++ ·), first.constructed ++ second.constructed⟩ := by
  simp only [followedBy, h]

theorem followedBy_of_error {first second : Compilation σ} {e : ConfigurationError}
    (h : first.result = .error e) : first.followedBy second = ⟨.error e, first.constructed⟩ := by
  simp only [followedBy, h]

@[simp]
theorem ok_nil_followedBy (c : Compilation σ) : followedBy ⟨.ok [], []⟩ c = c := by
  obtain ⟨result, constructed⟩ := c
  cases result <;> rfl

@[simp]
theorem followedBy_ok_nil (c : Compilation σ) : c.followedBy ⟨.ok [], []⟩ = c := by
  obtain ⟨result, constructed⟩ := c
  cases result <;> simp [followedBy, Except.map]

/-- What follows a compilation counts only if it did not fail. -/
theorem followedBy_congr {first second other : Compilation σ}
    (h : ∀ entries, first.result = .ok entries → second = other) :
    first.followedBy second = first.followedBy other := by
  cases hr : first.result with
  | error e => rw [followedBy_of_error hr, followedBy_of_error hr]
  | ok entries => rw [h entries hr]

theorem followedBy_assoc (first second third : Compilation σ) :
    (first.followedBy second).followedBy third = first.followedBy (second.followedBy third) := by
  obtain ⟨result, constructed⟩ := first
  obtain ⟨result', constructed'⟩ := second
  cases result with
  | error e => rfl
  | ok entries =>
      cases result' with
      | error e => rfl
      | ok entries' =>
          obtain ⟨result'', constructed''⟩ := third
          cases result'' <;> simp [followedBy, Except.map]

end Compilation

namespace Node

variable {σ : Type}

/-- The instance that a node constructs as number `next`. -/
def constructs (n : Node σ) (next : Nat) : List (Instance σ) :=
  match n.controller with
  | some kind => [⟨next, kind⟩]
  | none => []

/-- The entry of a leaf whose handler is `name`, in the context below the leaf. -/
def entry (n : Node σ) (name : String) (ctx : Context σ) :
    Except ConfigurationError (Entry σ) :=
  match ctx.controller with
  | none => .error (.missingController name ctx.path)
  | some controller =>
    match controller.kind.handler? name with
    | none => .error (.unknownHandler name controller.kind.shortName)
    | some handler => .ok
      { method := n.method
        path := ctx.path
        schema := ctx.schema
        checks := n.checks
        options := n.options
        controller
        handlerName := name
        guardCount := n.guards.length
        pipeline :=
          { method := n.method
            path := ctx.path
            guards := n.guards
            handler } }

/-- A leaf has an entry if its context has a controller with a handler of the leaf's
handler name. -/
theorem entry_eq_ok_iff {n : Node σ} {name : String} {ctx : Context σ} {e : Entry σ} :
    n.entry name ctx = .ok e ↔
      ∃ controller handler, ctx.controller = some controller ∧
        controller.kind.handler? name = some handler ∧
        e = ⟨n.method, ctx.path, ctx.schema, n.checks, n.options, controller, name,
          n.guards.length, ⟨n.method, ctx.path, n.guards, handler⟩⟩ := by
  unfold entry
  cases ctx.controller with
  | none => simp
  | some controller =>
      cases hh : controller.kind.handler? name with
      | none => simp [hh]
      | some handler => simp [hh, eq_comm]

/-- A leaf has no entry if its context has no controller, or one without a handler of
that name. -/
theorem entry_eq_error_iff {n : Node σ} {name : String} {ctx : Context σ}
    {e : ConfigurationError} :
    n.entry name ctx = .error e ↔
      (ctx.controller = none ∧ e = .missingController name ctx.path) ∨
        ∃ controller, ctx.controller = some controller ∧ controller.kind.handler? name = none ∧
          e = .unknownHandler name controller.kind.shortName := by
  unfold entry
  cases ctx.controller with
  | none => simp [eq_comm]
  | some controller =>
      cases hh : controller.kind.handler? name with
      | none => simp [hh, eq_comm]
      | some handler => simp [hh]

/-- The entry of a node if it is a leaf, and what the node constructs. -/
def compile (n : Node σ) (ctx : Context σ) (next : Nat) : Compilation σ :=
  ⟨match n.handler with
    | none => .ok []
    | some name => (n.entry name ctx).map fun e => [e],
    n.constructs next⟩

end Node

namespace Route

variable {σ : Type}

mutual

/-- Compile a tree below a context; the next construction has number `next`. -/
def compile (ctx : Context σ) (next : Nat) : Route σ → Compilation σ
  | .node own children =>
    let below := ctx.enter own next
    (own.compile below next).followedBy
      (compileForest below (next + (own.constructs next).length) children)

/-- Compile several trees below one context, from left to right. -/
def compileForest (ctx : Context σ) (next : Nat) : List (Route σ) → Compilation σ
  | [] => ⟨.ok [], []⟩
  | r :: rs =>
    let first := compile ctx next r
    first.followedBy (compileForest ctx (next + first.constructed.length) rs)

end

end Route

end RouteTree
