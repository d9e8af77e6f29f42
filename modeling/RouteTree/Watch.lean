/-!
# Channels of the latest value

The senders of a channel replace its value. Only the latest value is kept, and a count
of the replacements.

A task that waits for a value looks at the latest one first, and then sleeps until the
value is replaced or the last sender is gone. Woken, it looks again if the value was
replaced since it last looked, and otherwise it sees only whether a sender is left. The
wait ends once the value is as wanted, or no sender is left to replace it.
-/

namespace RouteTree

/-- A channel: its latest value, how often that was replaced, and how many senders there
are. -/
structure Watch (α : Type) where
  value : α
  version : Nat
  senders : Nat
  deriving DecidableEq, Repr

/-- How far a wait is: it has not looked yet, it has seen a version and waits for the
next, or it has ended. -/
inductive Wait where
  | fresh
  | parked (seen : Nat)
  | ended
  deriving DecidableEq, Repr

/-- A task that waits, and whether it was woken since it last ran. -/
structure Waiter where
  wait : Wait
  woken : Bool
  deriving DecidableEq, Repr

namespace Watch

variable {α : Type}

/-- A channel with one sender. -/
def new (value : α) : Watch α := ⟨value, 0, 1⟩

/-- Replace the value, even by the same one. -/
def replace (w : Watch α) (value : α) : Watch α :=
  { w with value := value, version := w.version + 1 }

/-- Make one more sender. -/
def clone (w : Watch α) : Watch α := { w with senders := w.senders + 1 }

/-- Drop a sender. -/
def drop (w : Watch α) : Watch α := { w with senders := w.senders - 1 }

/-- Whether no sender is left. -/
def isClosed (w : Watch α) : Bool := w.senders == 0

/-- Look at the latest value: what becomes of a wait that sees it. -/
def look (w : Watch α) (wanted : α → Bool) : Wait :=
  if wanted w.value || w.isClosed then .ended else .parked w.version

/-- Go on with a wait. -/
def poll (w : Watch α) (wanted : α → Bool) : Wait → Wait
  | .fresh => w.look wanted
  | .parked seen =>
    if seen ≠ w.version then w.look wanted
    else if w.isClosed then .ended
    else .parked seen
  | .ended => .ended

end Watch

namespace Waiter

variable {α : Type}

/-- A task that was started and has not run. -/
def start : Waiter := ⟨.fresh, true⟩

/-- Wake a task. -/
def wake (t : Waiter) : Waiter := { t with woken := true }

/-- Run a task, whether it was woken or not. -/
def run (t : Waiter) (w : Watch α) (wanted : α → Bool) : Waiter := ⟨w.poll wanted t.wait, false⟩

/-- Run a task if it was woken. -/
def runIfWoken (t : Waiter) (w : Watch α) (wanted : α → Bool) : Waiter :=
  if t.woken then t.run w wanted else t

/-- Whether a task has ended. -/
def isComplete (t : Waiter) : Bool := t.wait == .ended

end Waiter

end RouteTree
