import RouteTree.Controller
import RouteTree.Route

/-!
# Serving one request

An entry's guards run in order until one replies or fails. If all pass, the handler
runs, and what it answers becomes the reply unless one was sent. A failure becomes the
reply of the error it is recognised as, or a reply with status 500 that shows its
wording, which is journaled. At the end the exchange holds a reply.
-/

namespace RouteTree

/-- How the guards of an entry ended. -/
inductive GuardOutcome where
  | passed
  | shortCircuited
  deriving DecidableEq, Repr

/-- The name of an outcome. -/
def GuardOutcome.name : GuardOutcome → String
  | .passed => "Passed"
  | .shortCircuited => "ShortCircuited"

namespace Pipeline

variable {σ : Type}

/-- Run guards in order, up to the first that fails or leaves a reply. -/
def checkGuards (request : Request) : List Guard → Scene → Except Stop GuardOutcome × Scene
  | [], scene => (.ok .passed, scene.enter .guardsPassed)
  | guard :: guards, scene =>
    let outcome := (guard request).run () scene
    match outcome.result with
    | .error stop => (.error stop, outcome.scene)
    | .ok () =>
      if outcome.scene.exchange.isReplied then
        (.ok .shortCircuited, outcome.scene.enter .shortCircuited)
      else checkGuards request guards outcome.scene

/-- Run the guards of an entry. -/
def runGuards (guards : List Guard) (request : Request) (scene : Scene) :
    Except Stop GuardOutcome × Scene :=
  checkGuards request guards (scene.enter .guardsRunning)

/-- The reply of a handler that sent none: status 204 for `null`, else the value. -/
def replyOf : Json → Reply
  | .null => Reply.noContent
  | value => Reply.json value

theorem replyOf_of_ne {value : Json} (h : value ≠ .null) : replyOf value = Reply.json value := by
  unfold replyOf
  split
  · exact absurd rfl h
  · rfl

/-- Run the handler and make sure that there is a reply. -/
def dispatch (handler : Handler σ) (request : Request) (own : σ) (scene : Scene) :
    Outcome σ Unit :=
  let outcome := handler.invoke request own (scene.enter .handlerRunning)
  match outcome.result with
  | .error stop => ⟨.error stop, outcome.own, outcome.scene⟩
  | .ok value =>
    let answered :=
      if outcome.scene.exchange.isReplied then outcome.scene
      else (outcome.scene.send (replyOf value)).2
    ⟨.ok (), outcome.own, answered.enter .replied⟩

/-- The reply of a failure that is not recognised. -/
def unhandledReply (failure : Failure) : Reply :=
  (Reply.json (Json.ofMembers
    [("statusCode", Json.ofNat Status.internalError.code),
      ("error", .string (Status.internalError.reason?.getD "Internal Server Error")),
      ("message", .string failure.describe),
      ("trace", .string failure.trace)])).withStatus .internalError

/-- Answer a failure, unless a reply is recorded. -/
def answerFailure (failure : Failure) (method : Method) (path : String) (scene : Scene) : Scene :=
  if scene.exchange.isReplied then scene
  else
    match failure.recognised? with
    | some error => (scene.send error.toReply).2
    | none => ((scene.log (.unhandled method path failure)).send (unhandledReply failure)).2

/-- The reply that a failure asks for. -/
def failureReply (failure : Failure) : Reply :=
  (failure.recognised?.map HttpError.toReply).getD (unhandledReply failure)

/-- A failure is answered by the reply on record, or else by the one it asks for. -/
theorem answerFailure_reply (failure : Failure) (method : Method) (path : String) (scene : Scene) :
    (answerFailure failure method path scene).exchange.reply =
      some (scene.exchange.reply.getD (failureReply failure)) := by
  unfold answerFailure failureReply Exchange.isReplied
  cases hr : scene.exchange.reply with
  | some reply => simp [hr]
  | none =>
      cases hf : failure.recognised? with
      | some error => simp [Scene.send_reply, hr]
      | none => simp [Scene.send_reply, Scene.log, hr]

end Pipeline

/-- What is left after a request was served; `completed` is false if time ran out
before. -/
structure Service (σ : Type) where
  completed : Bool
  own : σ
  scene : Scene

/-- What serves the requests of one entry. -/
structure Pipeline (σ : Type) where
  method : Method
  path : String
  guards : List Guard
  handler : Handler σ

namespace Pipeline

variable {σ : Type}

/-- The last steps of a request: answer a failure, then mark the response as sent. -/
def settle (p : Pipeline σ) (result : Except Stop Unit) (own : σ) (scene : Scene) : Service σ :=
  match result with
  | .error .timedOut => ⟨false, own, scene⟩
  | .error (.failed failure) =>
    ⟨true, own, (answerFailure failure p.method p.path (scene.enter .error)).enter .responseSent⟩
  | .ok () => ⟨true, own, scene.enter .responseSent⟩

/-- Serve a request, starting from the controller's state `own`. -/
def serve (p : Pipeline σ) (request : Request) (own : σ) (scene : Scene) : Service σ :=
  match runGuards p.guards request scene with
  | (.error stop, scene) => p.settle (.error stop) own scene
  | (.ok .shortCircuited, scene) => p.settle (.ok ()) own scene
  | (.ok .passed, scene) =>
    let outcome := dispatch p.handler request own scene
    p.settle outcome.result outcome.own outcome.scene

end Pipeline

end RouteTree
