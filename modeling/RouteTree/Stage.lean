import RouteTree.Exchange
import RouteTree.Http.Request

/-!
# Stages

A stage is what one guard or one handler does with its request's exchange and, for a
handler, with the state of its controller: it may send and take back replies, look at
the exchange, note lines, let time pass, read and write the controller's state, and it
ends with a value or a failure. Every stage ends. A stage has no way to change the
dispatch state itself; that it might serve a request on the very exchange it was given,
by checking guards, dispatching or handing it to an entry once more, and so enter
dispatch states, is left out.

Running a stage happens in a scene, which holds the exchange, a journal of what has
happened and the time left before the request times out. Time only passes where a stage
sleeps.
-/

namespace RouteTree

/-- What a guard or a handler does, with controller state of type `σ` and a result of
type `α`. -/
inductive Stage (σ α : Type) where
  | done (result : Except Failure α)
  | send (reply : Reply) (next : Bool → Stage σ α)
  | take (next : Option Reply → Stage σ α)
  | look (next : Exchange → Stage σ α)
  | note (line : String) (next : Stage σ α)
  | sleep (milliseconds : Nat) (next : Stage σ α)
  | read (next : σ → Stage σ α)
  | write (own : σ) (next : Stage σ α)

namespace Stage

variable {σ α β : Type}

/-- End with a value. -/
def succeed (value : α) : Stage σ α := .done (.ok value)

/-- End with a failure. -/
def fail (failure : Failure) : Stage σ α := .done (.error failure)

/-- Go on with the value of a stage, unless it failed. -/
def andThen : Stage σ α → (α → Stage σ β) → Stage σ β
  | .done (.ok value), k => k value
  | .done (.error failure), _ => .done (.error failure)
  | .send reply next, k => .send reply fun sent => (next sent).andThen k
  | .take next, k => .take fun reply => (next reply).andThen k
  | .look next, k => .look fun exchange => (next exchange).andThen k
  | .note line next, k => .note line (next.andThen k)
  | .sleep milliseconds next, k => .sleep milliseconds (next.andThen k)
  | .read next, k => .read fun own => (next own).andThen k
  | .write own next, k => .write own (next.andThen k)

instance : Monad (Stage σ) where
  pure := succeed
  bind := andThen

/-- Send a reply; tells whether it was recorded. -/
def reply (r : Reply) : Stage σ Bool := .send r succeed

/-- The controller's state. -/
def own : Stage σ σ := .read succeed

/-- Set the controller's state. -/
def setOwn (s : σ) : Stage σ Unit := .write s (succeed ())

/-- End with a value, or fail with an error that knows its answer. -/
def ofExcept (result : Except HttpError α) : Stage σ α :=
  .done (result.mapError Failure.ofHttp)

end Stage

/-- What happens while routes are compiled and requests are served. -/
inductive Event where
  | note (line : String)
  | constructed (label : String) (number : Nat)
  | registered (method : Method) (path : String)
  | unhandled (method : Method) (path : String) (failure : Failure)
  | transition (before after : DispatchState)
  | replyIgnored (status : Status)
  | rejected (path : String) (error : HttpError)
  | pluginRegistered (name : String)
  | listening (address : String) (routes : Nat)
  | stopped

/-- An exchange, what has happened, and the milliseconds left if time is limited. -/
structure Scene where
  exchange : Exchange
  journal : List Event
  remaining : Option Nat

/-- Why a stage did not end with a value. -/
inductive Stop where
  | failed (failure : Failure)
  | timedOut

/-- What is left after a stage has run. -/
structure Outcome (σ α : Type) where
  result : Except Stop α
  own : σ
  scene : Scene

namespace Scene

/-- A scene without a time limit. -/
def ofExchange (exchange : Exchange) : Scene := ⟨exchange, [], none⟩

/-- Append an event to the journal. -/
def log (s : Scene) (event : Event) : Scene := { s with journal := s.journal ++ [event] }

/-- Enter a dispatch state. -/
def enter (s : Scene) (state : DispatchState) : Scene :=
  { s.log (.transition s.exchange.state state) with exchange := { s.exchange with state } }

/-- Send a reply on the exchange; one that is ignored is journaled. -/
def send (s : Scene) (reply : Reply) : Bool × Scene :=
  match s.exchange.send reply with
  | (true, exchange) => (true, { s with exchange })
  | (false, exchange) => (false, { s.log (.replyIgnored reply.status) with exchange })

/-- Take the reply off the exchange. -/
def take (s : Scene) : Option Reply × Scene :=
  (s.exchange.take.1, { s with exchange := s.exchange.take.2 })

/-- Let time pass; `none` if the limit is reached. -/
def sleep (s : Scene) (milliseconds : Nat) : Option Scene :=
  match s.remaining with
  | none => some s
  | some left =>
    if left ≤ milliseconds then none else some { s with remaining := some (left - milliseconds) }

@[simp]
theorem enter_reply (s : Scene) (state : DispatchState) :
    (s.enter state).exchange.reply = s.exchange.reply := rfl

theorem send_exchange (s : Scene) (reply : Reply) :
    (s.send reply).2.exchange = (s.exchange.send reply).2 := by
  unfold send
  split <;> simp_all

theorem send_reply (s : Scene) (reply : Reply) :
    (s.send reply).2.exchange.reply = some (s.exchange.reply.getD reply) := by
  rw [send_exchange, Exchange.send_reply]

@[simp]
theorem send_remaining (s : Scene) (reply : Reply) : (s.send reply).2.remaining = s.remaining := by
  unfold send
  split <;> rfl

/-- Sleeping takes time and nothing else. -/
theorem exists_of_sleep_eq_some {s rested : Scene} {milliseconds : Nat}
    (h : s.sleep milliseconds = some rested) : ∃ left, rested = { s with remaining := left } := by
  unfold sleep at h
  split at h
  · exact ⟨s.remaining, (Option.some.inj h).symm⟩
  · split at h
    · cases h
    · exact ⟨_, (Option.some.inj h).symm⟩

end Scene

/-- Run a stage in a scene, starting from the controller's state `own`. -/
def Stage.run {σ α : Type} : Stage σ α → σ → Scene → Outcome σ α
  | .done (.ok value), own, scene => ⟨.ok value, own, scene⟩
  | .done (.error failure), own, scene => ⟨.error (.failed failure), own, scene⟩
  | .send reply next, own, scene => (next (scene.send reply).1).run own (scene.send reply).2
  | .take next, own, scene => (next scene.take.1).run own scene.take.2
  | .look next, own, scene => (next scene.exchange).run own scene
  | .note line next, own, scene => next.run own (scene.log (.note line))
  | .sleep milliseconds next, own, scene =>
    match scene.sleep milliseconds with
    | some scene => next.run own scene
    | none => ⟨.error .timedOut, own, scene⟩
  | .read next, own, scene => (next own).run own scene
  | .write own next, _, scene => next.run own scene

/-- No stage changes the dispatch state. -/
theorem Stage.run_state {σ α : Type} (stage : Stage σ α) (own : σ) (scene : Scene) :
    (stage.run own scene).scene.exchange.state = scene.exchange.state := by
  induction stage generalizing own scene with
  | done result => cases result <;> rfl
  | send reply next ih =>
    rw [Stage.run, ih, Scene.send_exchange, Exchange.send_state]
  | take next ih => rw [Stage.run, ih]; rfl
  | look next ih => rw [Stage.run, ih]
  | note line next ih => rw [Stage.run, ih]; rfl
  | sleep milliseconds next ih =>
    rw [Stage.run]
    split
    · next h =>
      obtain ⟨left, rfl⟩ := Scene.exists_of_sleep_eq_some h
      rw [ih]
    · rfl
  | read next ih => rw [Stage.run, ih]
  | write own next ih => rw [Stage.run, ih]

/-- Without a time limit no stage is cut off, and none sets a limit. -/
theorem Stage.run_unlimited {σ α : Type} (stage : Stage σ α) (own : σ) (scene : Scene)
    (h : scene.remaining = none) :
    (stage.run own scene).scene.remaining = none ∧
      (stage.run own scene).result ≠ .error .timedOut := by
  induction stage generalizing own scene with
  | done result =>
      cases result with
      | ok value => exact ⟨h, by simp [Stage.run]⟩
      | error failure => exact ⟨h, by simp [Stage.run]⟩
  | send reply next ih =>
      rw [Stage.run]
      exact ih _ own _ (by rw [Scene.send_remaining, h])
  | take next ih => exact ih _ own scene.take.2 h
  | look next ih => exact ih _ own scene h
  | note line next ih => exact ih own (scene.log (.note line)) h
  | sleep milliseconds next ih =>
      have hs : scene.sleep milliseconds = some scene := by simp [Scene.sleep, h]
      rw [Stage.run, hs]
      exact ih own scene h
  | read next ih => exact ih own own scene h
  | write state next ih => exact ih state scene h

end RouteTree
