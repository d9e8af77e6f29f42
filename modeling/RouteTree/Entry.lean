import RouteTree.Context
import RouteTree.Pipeline

/-!
# Dispatch entries

An entry is one compiled leaf: where it is reached, what its request must satisfy, the
controller instance and handler that it names, and the pipeline that serves it. The
pipeline keeps a method, a path and guards of its own; that they are those of the entry
is a matter of how it is compiled.
-/

namespace RouteTree

/-- A compiled leaf. -/
structure Entry (σ : Type) where
  method : Method
  path : String
  schema : Schema
  checks : SortedMap String Json
  options : SortedMap String Json
  controller : Instance σ
  handlerName : String
  guardCount : Nat
  pipeline : Pipeline σ

namespace Entry

variable {σ : Type}

/-- The handler that serves the entry's requests. -/
def handler (e : Entry σ) : Handler σ := e.pipeline.handler

/-- The guards that a request passes on its way to the handler. -/
def guards (e : Entry σ) : List Guard := e.pipeline.guards

/-- Serve a request with the state of the entry's controller instance, and keep the
state it leaves. -/
def serve (e : Entry σ) (request : Request) (states : States σ) (scene : Scene) :
    Bool × States σ × Scene :=
  let service := e.pipeline.serve request (e.controller.stateIn states) scene
  (service.completed, states.insert e.controller.number service.own, service.scene)

/-- Method and path. -/
def title (e : Entry σ) : String := "[" ++ e.method.token ++ "] " ++ e.path

end Entry

end RouteTree
