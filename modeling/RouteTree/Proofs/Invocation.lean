import RouteTree.Pipeline

/-!
# Invocations

Serving a request invokes guards and perhaps the handler, and keeps only what they
leave. Here each invocation is recorded with what it was given, and the last record
decides what is served. Any list of guards and handlers can be performed in the same
way, whatever its members leave, so a record can be compared with the performance of a
list.
-/

namespace RouteTree

/-- Who is invoked for a request. -/
inductive Party (σ : Type) where
  | guard (check : Guard)
  | handler (answer : Handler σ)

/-- One invocation: the party, the request it was given, the scene at its start and what
it left. A guard ends without a value, a handler with JSON. -/
structure Invocation (σ : Type) where
  party : Party σ
  request : Request
  entered : Scene
  left : Outcome σ (Option Json)

namespace Party

variable {σ : Type}

/-- The dispatch state in which a party is invoked. -/
def state : Party σ → DispatchState
  | .guard _ => .guardsRunning
  | .handler _ => .handlerRunning

/-- Invoke a party where the one before it left off. A handler comes after all guards
have passed. -/
def invoke (request : Request) (own : σ) (scene : Scene) : Party σ → Invocation σ
  | .guard check =>
      let outcome := (check request).run () scene
      ⟨.guard check, request, scene, ⟨outcome.result.map fun _ => none, own, outcome.scene⟩⟩
  | .handler answer =>
      let entered := (scene.enter .guardsPassed).enter .handlerRunning
      let outcome := answer.invoke request own entered
      ⟨.handler answer, request, entered, ⟨outcome.result.map some, outcome.own, outcome.scene⟩⟩

/-- Invoke parties one after another, each where the one before it left off, whatever
that one left. -/
def perform (request : Request) : List (Party σ) → σ → Scene → List (Invocation σ)
  | [], _, _ => []
  | party :: rest, own, scene =>
      let first := party.invoke request own scene
      first :: perform request rest first.left.own first.left.scene

@[simp]
theorem length_perform (request : Request) (parties : List (Party σ)) (own : σ) (scene : Scene) :
    (perform request parties own scene).length = parties.length := by
  induction parties generalizing own scene with
  | nil => rfl
  | cons party rest ih => simp [perform, ih]

/-- What a handler's serialization fails with is no time-out, and neither is what an
unlimited stage ends with. -/
theorem invoke_unlimited (party : Party σ) (request : Request) (own : σ) (scene : Scene)
    (h : scene.remaining = none) :
    (party.invoke request own scene).left.scene.remaining = none ∧
      (party.invoke request own scene).left.result ≠ .error .timedOut := by
  cases party with
  | guard check =>
      obtain ⟨hr, ht⟩ := (check request).run_unlimited () scene h
      refine ⟨hr, ?_⟩
      simp only [invoke]
      cases hres : ((check request).run () scene).result with
      | ok value => simp [Except.map]
      | error stop => simpa [Except.map, hres] using ht
  | handler answer =>
      let entered := (scene.enter .guardsPassed).enter .handlerRunning
      obtain ⟨hr, ht⟩ := (answer request).run_unlimited own entered h
      refine ⟨hr, ?_⟩
      change (encodeResult ((answer request).run own entered).result).map some ≠ _
      cases hres : ((answer request).run own entered).result with
      | error stop => simpa [encodeResult, Except.map, hres] using ht
      | ok datum =>
          cases hd : datum.encode with
          | ok value => simp [encodeResult, hd, Except.map]
          | error e => simp [encodeResult, hd, Except.map]

end Party

namespace Invocation

variable {σ : Type}

/-- A guard stops a request by failing or by leaving a reply. -/
def stops (i : Invocation σ) : Bool :=
  match i.left.result with
  | .error _ => true
  | .ok _ => i.left.scene.exchange.isReplied

theorem stops_iff (i : Invocation σ) :
    i.stops = true ↔
      (∃ stop, i.left.result = .error stop) ∨ i.left.scene.exchange.reply.isSome = true := by
  unfold stops Exchange.isReplied
  cases i.left.result <;> simp

end Invocation

namespace Pipeline

variable {σ : Type}

/-- The invocations of guards up to the first that stops the request, or of all guards
and the handler. -/
def invocationsFrom (handler : Handler σ) (request : Request) :
    List Guard → σ → Scene → List (Invocation σ)
  | [], own, scene => [(Party.handler handler).invoke request own scene]
  | guard :: guards, own, scene =>
      let first := (Party.guard guard).invoke request own scene
      if first.stops then [first]
      else first :: invocationsFrom handler request guards first.left.own first.left.scene

/-- Everything that is invoked while a request is served, in order. -/
def invocations (p : Pipeline σ) (request : Request) (own : σ) (scene : Scene) :
    List (Invocation σ) :=
  invocationsFrom p.handler request p.guards own (scene.enter .guardsRunning)

theorem invocationsFrom_ne_nil (handler : Handler σ) (request : Request) (guards : List Guard)
    (own : σ) (scene : Scene) : invocationsFrom handler request guards own scene ≠ [] := by
  cases guards with
  | nil => simp [invocationsFrom]
  | cons guard guards =>
      simp only [invocationsFrom]
      split <;> simp

/-- What each guard preserves holds at the start of each invocation, so what follows
from it for one invocation is true of all. -/
theorem forall_mem_invocationsFrom (Holds : Scene → Prop) (Shows : Invocation σ → Prop)
    {handler : Handler σ} {request : Request}
    (hguard : ∀ guard own scene, Holds scene →
      Shows ((Party.guard guard).invoke request own scene) ∧
        Holds ((Party.guard guard).invoke request own scene).left.scene)
    (hhandler : ∀ own scene, Holds scene →
      Shows ((Party.handler handler).invoke request own scene))
    (guards : List Guard) (own : σ) (scene : Scene) (hscene : Holds scene) :
    ∀ i ∈ invocationsFrom handler request guards own scene, Shows i := by
  induction guards generalizing own scene with
  | nil =>
      intro i hi
      obtain rfl := List.mem_singleton.mp hi
      exact hhandler own scene hscene
  | cons guard guards ih =>
      obtain ⟨hshows, hleft⟩ := hguard guard own scene hscene
      intro i hi
      simp only [invocationsFrom] at hi
      split at hi
      · obtain rfl := List.mem_singleton.mp hi
        exact hshows
      · rcases List.mem_cons.mp hi with rfl | hrest
        · exact hshows
        · exact ih _ _ hleft i hrest

/-- The last invocation of a request. -/
def lastInvocation (p : Pipeline σ) (request : Request) (own : σ) (scene : Scene) : Invocation σ :=
  (p.invocations request own scene).getLast (invocationsFrom_ne_nil _ _ _ _ _)

/-- What is served after the last invocation of a request. -/
def conclude (p : Pipeline σ) (last : Invocation σ) : Service σ :=
  match last.left.result with
  | .error stop => p.settle (.error stop) last.left.own last.left.scene
  | .ok none => p.settle (.ok ()) last.left.own (last.left.scene.enter .shortCircuited)
  | .ok (some value) =>
      let answered :=
        if last.left.scene.exchange.isReplied then last.left.scene
        else (last.left.scene.send (replyOf value)).2
      p.settle (.ok ()) last.left.own (answered.enter .replied)

/-- The part of serving behind the guards. -/
def proceed (p : Pipeline σ) (request : Request) (own : σ) :
    Except Stop GuardOutcome × Scene → Service σ
  | (.error stop, scene) => p.settle (.error stop) own scene
  | (.ok .shortCircuited, scene) => p.settle (.ok ()) own scene
  | (.ok .passed, scene) =>
      let outcome := dispatch p.handler request own scene
      p.settle outcome.result outcome.own outcome.scene

theorem serve_eq_proceed (p : Pipeline σ) (request : Request) (own : σ) (scene : Scene) :
    p.serve request own scene = p.proceed request own (runGuards p.guards request scene) := by
  unfold serve
  obtain ⟨result, left⟩ := runGuards p.guards request scene
  cases result with
  | error stop => rfl
  | ok outcome => cases outcome <;> rfl

private theorem proceed_passed (p : Pipeline σ) (request : Request) (own : σ) (scene : Scene) :
    p.proceed request own (.ok .passed, scene.enter .guardsPassed) =
      p.conclude ((Party.handler p.handler).invoke request own scene) := by
  simp only [proceed, dispatch, conclude, Party.invoke]
  cases (p.handler.invoke request own
    ((scene.enter .guardsPassed).enter .handlerRunning)).result <;> rfl

private theorem proceed_checkGuards (p : Pipeline σ) (request : Request) (guards : List Guard)
    (own : σ) (scene : Scene) :
    p.proceed request own (checkGuards request guards scene) =
      p.conclude ((invocationsFrom p.handler request guards own scene).getLast
        (invocationsFrom_ne_nil _ _ _ _ _)) := by
  induction guards generalizing scene with
  | nil => exact p.proceed_passed request own scene
  | cons guard guards ih =>
      simp only [checkGuards, invocationsFrom]
      cases hr : ((guard request).run () scene).result with
      | error stop =>
          simp [Party.invoke, Invocation.stops, conclude, proceed, hr, Except.map]
      | ok value =>
          cases hx : ((guard request).run () scene).scene.exchange.isReplied with
          | true =>
              simp [Party.invoke, Invocation.stops, conclude, proceed, hr, hx, Except.map]
          | false =>
              simp [Party.invoke, Invocation.stops, hr, hx, Except.map, ih,
                List.getLast_cons (invocationsFrom_ne_nil _ _ _ _ _)]

/-- Serving a request gives what its last invocation leads to. -/
theorem serve_eq_conclude (p : Pipeline σ) (request : Request) (own : σ) (scene : Scene) :
    p.serve request own scene = p.conclude (p.lastInvocation request own scene) := by
  rw [serve_eq_proceed, runGuards, proceed_checkGuards]
  rfl

end Pipeline

end RouteTree
