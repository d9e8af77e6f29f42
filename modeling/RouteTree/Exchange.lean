import RouteTree.Failure

/-!
# Exchanges

An exchange is what a request's guards and handler share: how far its dispatch has come,
and the reply recorded so far. The first reply is kept, later ones are ignored, until
the recorded one is taken back.
-/

namespace RouteTree

/-- How far the dispatch of a request has come. -/
inductive DispatchState where
  | pending
  | guardsRunning
  | shortCircuited
  | guardsPassed
  | handlerRunning
  | replied
  | error
  | responseSent
  deriving DecidableEq, Repr, Inhabited

/-- The name of a state. -/
def DispatchState.name : DispatchState → String
  | .pending => "Pending"
  | .guardsRunning => "GuardsRunning"
  | .shortCircuited => "ShortCircuited"
  | .guardsPassed => "GuardsPassed"
  | .handlerRunning => "HandlerRunning"
  | .replied => "Replied"
  | .error => "Error"
  | .responseSent => "ResponseSent"

/-- A request's dispatch state and recorded reply. -/
structure Exchange where
  state : DispatchState
  reply : Option Reply
  deriving Inhabited

namespace Exchange

/-- Nothing has happened yet. -/
def fresh : Exchange := ⟨.pending, none⟩

/-- Whether a reply is recorded. -/
def isReplied (x : Exchange) : Bool := x.reply.isSome

/-- Record a reply unless one is recorded already; tells whether it was. -/
def send (x : Exchange) (reply : Reply) : Bool × Exchange :=
  match x.reply with
  | some _ => (false, x)
  | none => (true, { x with reply := some reply })

/-- Take the recorded reply out. -/
def take (x : Exchange) : Option Reply × Exchange := (x.reply, { x with reply := none })

@[simp]
theorem send_state (x : Exchange) (reply : Reply) : (x.send reply).2.state = x.state := by
  unfold send; split <;> rfl

@[simp]
theorem send_reply (x : Exchange) (reply : Reply) :
    (x.send reply).2.reply = some (x.reply.getD reply) := by
  unfold send; split <;> simp_all

theorem send_fst_iff (x : Exchange) (reply : Reply) :
    (x.send reply).1 = true ↔ x.isReplied = false := by
  unfold send isReplied; split <;> simp_all

end Exchange

end RouteTree
