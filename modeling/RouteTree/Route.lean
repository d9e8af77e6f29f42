import RouteTree.Controller
import RouteTree.Schema.Validation

/-!
# Route trees

A node of a route tree may contribute a path, a controller and parameter rules to
everything below it. A node with a handler is a leaf, whether it has children or not: it
becomes an entry of the compiled table, with its own method, options and guards.
-/

namespace RouteTree

/-- A check before the handler. It passes by ending without a reply, answers by sending
one, or fails. -/
abbrev Guard := Request → Stage Unit Unit

/-- What a node declares itself. -/
structure Node (σ : Type) where
  path : Option String
  method : Method
  controller : Option (Controller σ)
  handler : Option String
  options : SortedMap String Json
  rules : Option Schema
  checks : SortedMap String Json
  guards : List Guard

/-- A node and the trees below it. -/
inductive Route (σ : Type) where
  | node (own : Node σ) (children : List (Route σ))

namespace Node

variable {σ : Type}

/-- A node that declares nothing. Its method is GET. -/
def empty : Node σ :=
  ⟨none, .get, none, none, SortedMap.empty, none, SortedMap.empty, []⟩

/-- A leaf has a handler. -/
def isLeaf (n : Node σ) : Bool := n.handler.isSome

/-- Declare a path; segments that start with a colon are parameters. -/
def withPath (n : Node σ) (path : String) : Node σ := { n with path := some path }

/-- Declare the method. -/
def withMethod (n : Node σ) (method : Method) : Node σ := { n with method }

/-- Declare a controller, of which an instance is constructed when the tree is
compiled. -/
def withController (n : Node σ) (controller : Controller σ) : Node σ :=
  { n with controller := some controller }

/-- Name the handler that serves this node. -/
def withHandler (n : Node σ) (name : String) : Node σ := { n with handler := some name }

/-- Set an option that is passed through. -/
def withOption (n : Node σ) (key : String) (value : Json) : Node σ :=
  { n with options := n.options.insert key value }

/-- Declare the rule of a parameter. -/
def withRule (n : Node σ) (name : String) (rule : Rule) : Node σ :=
  { n with rules := some ((n.rules.getD SortedMap.empty).insert name rule) }

/-- Declare the rules of a schema. -/
def withRules (n : Node σ) (schema : Schema) : Node σ :=
  { n with rules := some ((n.rules.getD SortedMap.empty).merge schema) }

/-- Set a further validation setting that is passed through. -/
def withCheck (n : Node σ) (key : String) (value : Json) : Node σ :=
  { n with checks := n.checks.insert key value }

/-- Add a guard behind those that are there. -/
def withGuard (n : Node σ) (guard : Guard) : Node σ := { n with guards := n.guards ++ [guard] }

end Node

namespace Route

variable {σ : Type}

/-- What the topmost node declares. -/
def own : Route σ → Node σ
  | .node own _ => own

/-- The trees below the topmost node. -/
def children : Route σ → List (Route σ)
  | .node _ children => children

/-- Whether the topmost node is a leaf. -/
def isLeaf (r : Route σ) : Bool := r.own.isLeaf

mutual

/-- The leaves of a tree, its topmost node included. -/
def leafCount : Route σ → Nat
  | .node own children => (if own.isLeaf then 1 else 0) + leafCounts children

/-- The leaves of several trees. -/
def leafCounts : List (Route σ) → Nat
  | [] => 0
  | r :: rs => leafCount r + leafCounts rs

end

end Route

end RouteTree
