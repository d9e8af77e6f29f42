import RouteTree.Route

/-!
# Compilation contexts

Down one branch of a route tree the declared paths, parameter rules and controllers
accumulate. A context holds the segments contributed so far, in which a segment `:name`
has become `{name}`; the rules, of which the deepest of a name counts; and the nearest
controller instance.
-/

namespace RouteTree

/-- The non-empty parts of a text between slashes. -/
def segments (text : String) : List String :=
  ((text.toList.splitOn '/').filter fun part => !part.isEmpty).map String.ofList

/-- A parameter segment `:name` in braces, any other segment as it is. -/
def bracedSegment (segment : String) : String :=
  match segment.toList with
  | ':' :: name => String.ofList ('\x7b' :: name ++ ['\x7d'])
  | _ => segment

/-- A path of segments: a slash before each, or a slash alone. -/
def joinSegments : List String → String
  | [] => "/"
  | parts => String.join (parts.map fun part => "/" ++ part)

/-- What one branch of a tree has accumulated. -/
structure Context (σ : Type) where
  pushed : List String
  schema : Schema
  controller : Option (Instance σ)

namespace Context

variable {σ : Type}

/-- Nothing accumulated. -/
def root : Context σ := ⟨[], SortedMap.empty, none⟩

/-- Append the segments of a declared path. -/
def pushPath (ctx : Context σ) (declared : String) : Context σ :=
  { ctx with pushed := ctx.pushed ++ (segments declared).map bracedSegment }

/-- The context of a tree that is mounted under a path. -/
def mounted (path : String) : Context σ := root.pushPath path

/-- Let a controller instance serve from here on. -/
def withController (ctx : Context σ) (controller : Instance σ) : Context σ :=
  { ctx with controller := some controller }

/-- Add rules, which win over those of the same names. -/
def withRules (ctx : Context σ) (rules : Schema) : Context σ :=
  { ctx with schema := ctx.schema.merge rules }

/-- The context that a further branch starts from: all that has accumulated so far. -/
def fork (ctx : Context σ) : Context σ := ⟨ctx.pushed, ctx.schema, ctx.controller⟩

/-- The accumulated path. -/
def path (ctx : Context σ) : String := joinSegments ctx.pushed

/-- The context below a node, where `next` is the number of the next construction. -/
def enter (ctx : Context σ) (node : Node σ) (next : Nat) : Context σ :=
  let pushed := match node.path with
    | some declared => ctx.pushPath declared
    | none => ctx
  let served := match node.controller with
    | some kind => pushed.withController ⟨next, kind⟩
    | none => pushed
  match node.rules with
  | some rules => served.withRules rules
  | none => served

@[simp]
theorem pushPath_pushed (ctx : Context σ) (declared : String) :
    (ctx.pushPath declared).pushed = ctx.pushed ++ (segments declared).map bracedSegment := rfl

@[simp]
theorem enter_pushed (ctx : Context σ) (node : Node σ) (next : Nat) :
    (ctx.enter node next).pushed =
      ctx.pushed ++ (node.path.elim [] segments).map bracedSegment := by
  unfold enter
  cases node.path <;> cases node.controller <;> cases node.rules <;>
    simp [withController, withRules]

@[simp]
theorem enter_controller (ctx : Context σ) (node : Node σ) (next : Nat) :
    (ctx.enter node next).controller =
      (node.controller.map fun kind => ⟨next, kind⟩).or ctx.controller := by
  unfold enter
  cases node.path <;> cases node.controller <;> cases node.rules <;>
    simp [withController, withRules, pushPath]

@[simp]
theorem enter_schema (ctx : Context σ) (node : Node σ) (next : Nat) :
    (ctx.enter node next).schema = node.rules.elim ctx.schema ctx.schema.merge := by
  unfold enter
  cases node.path <;> cases node.controller <;> cases node.rules <;>
    simp [withController, withRules, pushPath]

end Context

end RouteTree
