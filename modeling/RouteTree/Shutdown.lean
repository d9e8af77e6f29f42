import RouteTree.Watch

/-!
# Shutdown signals

A signal has any number of handles, each of which can trigger it, and any number of
waiters. It stays triggered, and a waiter wakes when it is triggered, at whatever time,
or when no handle is left.

The handles of a signal are the senders of a channel whose value tells whether it was
triggered. Handles and waiters are numbered in the order in which they were made. A
handle that was dropped cannot be used any more.
-/

namespace RouteTree

/-- A signal, as the channel of its handles. -/
structure Signal where
  channel : Watch Bool
  deriving DecidableEq, Repr

namespace Signal

/-- A signal with one handle. -/
def new : Signal := ⟨Watch.new false⟩

/-- Trigger the signal. -/
def trigger (s : Signal) : Signal := ⟨s.channel.replace true⟩

/-- Whether the signal was triggered. -/
def triggered (s : Signal) : Bool := s.channel.value

/-- Make one more handle. -/
def clone (s : Signal) : Signal := ⟨s.channel.clone⟩

/-- Drop a handle. -/
def drop (s : Signal) : Signal := ⟨s.channel.drop⟩

/-- Whether no handle is left. -/
def isAbandoned (s : Signal) : Bool := s.channel.isClosed

@[simp]
theorem triggered_trigger (s : Signal) : s.trigger.triggered = true := rfl

end Signal

/-- A signal, whether each of its handles is still held, and its waiters. -/
structure Shutdown where
  signal : Signal
  held : List Bool
  waiters : List Waiter
  deriving DecidableEq, Repr

namespace Shutdown

/-- A signal with one handle and no waiters. -/
def single : Shutdown := ⟨Signal.new, [true], []⟩

/-- Whether a handle is there and was not dropped. -/
def holds (s : Shutdown) (handle : Nat) : Bool := s.held[handle]?.getD false

/-- What a handle tells about the signal. -/
def triggered? (s : Shutdown) (handle : Nat) : Option Bool :=
  if s.holds handle then some s.signal.triggered else none

/-- Wake all waiters. -/
def wakeAll (s : Shutdown) : Shutdown := { s with waiters := s.waiters.map Waiter.wake }

/-- Make one more handle. -/
def clone (s : Shutdown) : Shutdown := { s with signal := s.signal.clone, held := s.held ++ [true] }

/-- Trigger the signal, which wakes all waiters. -/
def trigger (s : Shutdown) : Shutdown := { s with signal := s.signal.trigger }.wakeAll

/-- Start a task that waits for the signal. -/
def wait (s : Shutdown) : Shutdown := { s with waiters := s.waiters ++ [Waiter.start] }

/-- Drop a handle; if it was the last one, all waiters are woken. -/
def drop (s : Shutdown) (handle : Nat) : Shutdown :=
  let dropped := { s with signal := s.signal.drop, held := s.held.set handle false }
  if dropped.signal.isAbandoned then dropped.wakeAll else dropped

/-- Run a waiter, whether it was woken or not. -/
def poll (s : Shutdown) (waiter : Nat) : Shutdown :=
  { s with waiters := s.waiters.modify waiter fun t => t.run s.signal.channel id }

/-- Run all waiters that were woken. -/
def settle (s : Shutdown) : Shutdown :=
  { s with waiters := s.waiters.map fun t => t.runIfWoken s.signal.channel id }

/-- Whether a waiter is there and has ended. -/
def isComplete (s : Shutdown) (waiter : Nat) : Bool :=
  (s.waiters[waiter]?.map Waiter.isComplete).getD false

/-- What is done with a handle, and what a scheduler does with a waiter. -/
inductive Action where
  | clone (handle : Nat)
  | trigger (handle : Nat)
  | wait (handle : Nat)
  | drop (handle : Nat)
  | poll (waiter : Nat)

/-- Do one thing. What takes a handle is only done with one that is held. -/
def act (s : Shutdown) : Action → Shutdown
  | .clone handle => if s.holds handle then s.clone else s
  | .trigger handle => if s.holds handle then s.trigger else s
  | .wait handle => if s.holds handle then s.wait else s
  | .drop handle => if s.holds handle then s.drop handle else s
  | .poll waiter => s.poll waiter

/-- Do one thing after another. -/
def run (s : Shutdown) (actions : List Action) : Shutdown := actions.foldl act s

end Shutdown

end RouteTree
