import RouteTree.Proofs.FailureAnswer
import RouteTree.Proofs.Invocation
import RouteTree.Server.Application

/-!
# The reply of a request

A request that is served to its end leaves exactly the reply that its last invocation
calls for: the one on record, or the value of the handler, or the answer of the failure.
No reply is lost, whatever was sent and taken back on the way, so an entry always has a
reply to answer with.
-/

namespace RouteTree

/-- What a request is answered with, as its last invocation has left it. -/
inductive Invocation.Owes {σ : Type} (i : Invocation σ) : Reply → Prop where
  | recorded {reply : Reply} (hx : i.left.scene.exchange.reply = some reply) : i.Owes reply
  | noContent (hx : i.left.scene.exchange.reply = none) (hv : i.left.result = .ok (some .null)) :
      i.Owes ⟨.noContent, Headers.empty, none⟩
  | value {value : Json} (hx : i.left.scene.exchange.reply = none)
      (hv : i.left.result = .ok (some value)) (hn : value ≠ .null) :
      i.Owes ⟨.ok, Headers.empty, some value⟩
  | answered {failure : Failure} {error : HttpError} (hx : i.left.scene.exchange.reply = none)
      (hf : i.left.result = .error (.failed failure)) (he : failure.AnsweredBy error) :
      i.Owes ⟨error.status, Headers.empty, some error.body⟩
  | unhandled {failure : Failure} {body : Json} (hx : i.left.scene.exchange.reply = none)
      (hf : i.left.result = .error (.failed failure)) (he : ∀ error, ¬ failure.AnsweredBy error)
      (hcode : body.get? "statusCode" = some (Json.ofNat 500))
      (hmessage : body.get? "message" = some (.string failure.describe))
      (htrace : body.get? "trace" = some (.string failure.trace)) :
      i.Owes ⟨.internalError, Headers.empty, some body⟩

namespace Invocation

variable {σ : Type}

theorem owes_replyOf {i : Invocation σ} {value : Json} (hx : i.left.scene.exchange.reply = none)
    (hv : i.left.result = .ok (some value)) : i.Owes (Pipeline.replyOf value) := by
  by_cases hn : value = .null
  · subst hn
    exact .noContent hx hv
  · rw [Pipeline.replyOf_of_ne hn]
    exact .value hx hv hn

theorem owes_failureReply {i : Invocation σ} {failure : Failure}
    (hx : i.left.scene.exchange.reply = none) (hf : i.left.result = .error (.failed failure)) :
    i.Owes (Pipeline.failureReply failure) := by
  unfold Pipeline.failureReply
  cases he : failure.recognised? with
  | some error => exact .answered hx hf (Failure.recognised?_eq_some_iff.mp he)
  | none =>
      obtain ⟨body, hreply, hcode, hmessage, htrace⟩ := Pipeline.exists_unhandledReply_eq failure
      rw [Option.map_none, Option.getD_none, hreply]
      exact .unhandled hx hf (Failure.recognised?_eq_none_iff.mp he) hcode hmessage htrace

end Invocation

namespace Pipeline

variable {σ : Type}

@[simp]
theorem conclude_completed (p : Pipeline σ) (last : Invocation σ) :
    (p.conclude last).completed = true ↔ last.left.result ≠ .error .timedOut := by
  unfold conclude
  cases last.left.result with
  | error stop => cases stop <;> simp [settle]
  | ok value => cases value <;> simp [settle]

theorem conclude_state (p : Pipeline σ) (last : Invocation σ)
    (hc : (p.conclude last).completed = true) :
    (p.conclude last).scene.exchange.state = .responseSent := by
  rw [conclude_completed] at hc
  unfold conclude
  cases hr : last.left.result with
  | error stop =>
      cases stop with
      | failed failure => rfl
      | timedOut => exact absurd hr hc
  | ok value => cases value <;> rfl

/-- A guard that ends without a reply is not the last to be invoked. -/
theorem isReplied_of_last_eq_ok_none (handler : Handler σ) (request : Request)
    (guards : List Guard) (own : σ) (scene : Scene) :
    let last := (invocationsFrom handler request guards own scene).getLast
      (invocationsFrom_ne_nil _ _ _ _ _)
    last.left.result = .ok none → last.left.scene.exchange.isReplied = true := by
  induction guards generalizing own scene with
  | nil =>
      intro last hr
      change (handler.invoke request own _).result.map some = .ok none at hr
      cases hv : (handler.invoke request own
        ((scene.enter .guardsPassed).enter .handlerRunning)).result with
      | error stop => simp [hv, Except.map] at hr
      | ok value => simp [hv, Except.map] at hr
  | cons guard guards ih =>
      let first := (Party.guard guard).invoke request own scene
      cases hs : first.stops with
      | true =>
          simp only [invocationsFrom, first, hs, if_true, List.getLast_singleton]
          intro hr
          simpa [Invocation.stops, first, hr] using hs
      | false =>
          simp only [invocationsFrom, first, hs, Bool.false_eq_true, if_false,
            List.getLast_cons (invocationsFrom_ne_nil _ _ _ _ _)]
          exact ih first.left.own first.left.scene

/-- Without a time limit no invocation is cut off. -/
theorem invocationsFrom_unlimited (handler : Handler σ) (request : Request) (guards : List Guard)
    (own : σ) (scene : Scene) (h : scene.remaining = none) :
    ∀ i ∈ invocationsFrom handler request guards own scene,
      i.left.result ≠ .error .timedOut := by
  refine forall_mem_invocationsFrom (fun scene => scene.remaining = none)
    (fun i => i.left.result ≠ .error .timedOut) ?_ ?_ guards own scene h
  · intro guard own scene h
    obtain ⟨hleft, hends⟩ := (Party.guard guard).invoke_unlimited request own scene h
    exact ⟨hends, hleft⟩
  · intro own scene h
    exact ((Party.handler handler).invoke_unlimited request own scene h).2

theorem conclude_owes (p : Pipeline σ) (last : Invocation σ)
    (hg : last.left.result = .ok none → last.left.scene.exchange.isReplied = true)
    (hc : (p.conclude last).completed = true) :
    ∃ reply, (p.conclude last).scene.exchange.reply = some reply ∧ last.Owes reply := by
  rw [conclude_completed] at hc
  unfold conclude
  cases hx : last.left.scene.exchange.reply with
  | some reply =>
      -- Whatever follows finds this reply on record and keeps it.
      refine ⟨reply, ?_, .recorded hx⟩
      cases hr : last.left.result with
      | error stop =>
          cases stop with
          | failed failure => simp [settle, answerFailure_reply, hx]
          | timedOut => exact absurd hr hc
      | ok value => cases value <;> simp [settle, Exchange.isReplied, hx]
  | none =>
      cases hr : last.left.result with
      | error stop =>
          cases stop with
          | failed failure =>
              exact ⟨failureReply failure, by simp [settle, answerFailure_reply, hx],
                Invocation.owes_failureReply hx hr⟩
          | timedOut => exact absurd hr hc
      | ok value =>
          cases value with
          | none => simp [Exchange.isReplied, hx] at hg; exact absurd hr hg
          | some value =>
              exact ⟨replyOf value, by simp [settle, Exchange.isReplied, Scene.send_reply, hx],
                Invocation.owes_replyOf hx hr⟩

theorem serve_owes (p : Pipeline σ) (request : Request) (own : σ) (scene : Scene)
    (hc : (p.serve request own scene).completed = true) :
    ∃ reply, (p.serve request own scene).scene.exchange.reply = some reply ∧
      (p.lastInvocation request own scene).Owes reply := by
  rw [serve_eq_conclude] at hc ⊢
  exact p.conclude_owes _ (isReplied_of_last_eq_ok_none p.handler request p.guards own _) hc

/-- Serving ends, unless time runs out, with the response sent and the reply that the
last invocation calls for. So an entry answers every request that it serves to the end
with a reply on record. -/
theorem serve_records_owed_reply :
    (∀ (p : Pipeline σ) (request : Request) (own : σ) (scene : Scene),
      (scene.remaining = none → (p.serve request own scene).completed = true) ∧
      ((p.serve request own scene).completed = true →
        (p.serve request own scene).scene.exchange.state = .responseSent ∧
        ∃ reply, (p.serve request own scene).scene.exchange.reply = some reply ∧
          (p.lastInvocation request own scene).Owes reply)) ∧
    (∀ (e : Entry σ) (params : SortedMap String String) (call : Call) (maxBody : Nat)
      (remaining : Option Nat) (states : States σ) (request : Request),
      e.prepare params call maxBody = .ok request →
      let service := e.pipeline.serve request (e.controller.stateIn states)
        ⟨Exchange.fresh, [], remaining⟩
      (remaining = none → service.completed = true) ∧
      (service.completed = true →
        ∃ reply, service.scene.exchange.reply = some reply ∧
          (e.answer params call maxBody remaining states).response = some reply.toResponse)) := by
  have hends (p : Pipeline σ) (request : Request) (own : σ) (scene : Scene)
      (h : scene.remaining = none) : (p.serve request own scene).completed = true := by
    rw [serve_eq_conclude, conclude_completed]
    exact invocationsFrom_unlimited p.handler request p.guards own (scene.enter .guardsRunning) h _
      (List.getLast_mem _)
  constructor
  · intro p request own scene
    refine ⟨hends p request own scene, ?_⟩
    intro hc
    refine ⟨?_, p.serve_owes request own scene hc⟩
    rw [serve_eq_conclude] at hc ⊢
    exact p.conclude_state _ hc
  · intro e params call maxBody remaining states request hp service
    refine ⟨fun h => hends e.pipeline request _ _ h, ?_⟩
    intro hc
    obtain ⟨reply, hr, -⟩ := e.pipeline.serve_owes request _ _ hc
    refine ⟨reply, hr, ?_⟩
    simp only [service] at hc
    simp [Entry.answer, Entry.serve, hp, hc, hr]

/-- An entry whose guard takes back the reply it has sent and whose handler answers
nothing. -/
def retracting : Entry Unit :=
  { method := .get
    path := "/"
    schema := SortedMap.empty
    checks := SortedMap.empty
    options := SortedMap.empty
    controller := ⟨1, ⟨"Silent", "Silent", (), []⟩⟩
    handlerName := "list"
    guardCount := 1
    pipeline :=
      { method := .get
        path := "/"
        guards := [fun _ => .send Reply.noContent fun _ => .take fun _ => .succeed ()]
        handler := fun _ => .succeed .absent } }

theorem retracting_records_owed_reply :
    (∃ reply,
        (retracting.pipeline.lastInvocation default () ⟨Exchange.fresh, [], none⟩).Owes reply ∧
        (retracting.pipeline.serve default () ⟨Exchange.fresh, [], none⟩).scene.exchange.reply =
          some reply) ∧
      ∃ reply : Reply,
        (retracting.answer SortedMap.empty ⟨.get, default, Headers.empty, []⟩ 0 none
          SortedMap.empty).response = some reply.toResponse := by
  obtain ⟨hserve, hanswer⟩ := @serve_records_owed_reply Unit
  constructor
  · obtain ⟨hends, hreply⟩ := hserve retracting.pipeline default () ⟨Exchange.fresh, [], none⟩
    obtain ⟨-, reply, hr, howes⟩ := hreply (hends rfl)
    exact ⟨reply, howes, hr⟩
  · obtain ⟨hends, hreply⟩ :=
      hanswer retracting SortedMap.empty ⟨.get, default, Headers.empty, []⟩ 0 none
        SortedMap.empty _ rfl
    obtain ⟨reply, -, hresponse⟩ := hreply (hends rfl)
    exact ⟨reply, hresponse⟩

end Pipeline

end RouteTree
