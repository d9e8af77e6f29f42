import RouteTree.Proofs.EntryFields
import RouteTree.Proofs.FirstDefect
import RouteTree.Proofs.RecordedReply

/-!
# Reports of unhandled failures

A failure is unhandled if nothing answers it and no reply is on record when it occurs.
No stage writes a report itself, and a failure ends the invocations of its request. So a
request is reported once if it ends in an unhandled failure, under the method and path
of its entry, and not at all if it ends in any other way.
-/

namespace RouteTree

/-- Whether an event reports an unhandled failure. -/
def Event.isReport : Event → Bool
  | .unhandled .. => true
  | _ => false

namespace Scene

/-- The reports in a journal. -/
def reports (s : Scene) : List Event := s.journal.filter Event.isReport

theorem reports_log (s : Scene) (event : Event) :
    (s.log event).reports = s.reports ++ [event].filter Event.isReport :=
  List.filter_append _ _

@[simp]
theorem reports_enter (s : Scene) (state : DispatchState) :
    (s.enter state).reports = s.reports := by
  change (s.log _).reports = s.reports
  simp [reports_log, Event.isReport]

@[simp]
theorem reports_send (s : Scene) (reply : Reply) : (s.send reply).2.reports = s.reports := by
  unfold send
  split
  · rfl
  · change (s.log _).reports = s.reports
    simp [reports_log, Event.isReport]

theorem reports_sleep {s rested : Scene} {milliseconds : Nat}
    (h : s.sleep milliseconds = some rested) : rested.reports = s.reports := by
  obtain ⟨left, rfl⟩ := exists_of_sleep_eq_some h
  rfl

end Scene

/-- No stage writes a report. -/
theorem Stage.run_reports {σ α : Type} (stage : Stage σ α) (own : σ) (scene : Scene) :
    (stage.run own scene).scene.reports = scene.reports := by
  induction stage generalizing own scene with
  | done result => cases result <;> rfl
  | send reply next ih => rw [Stage.run, ih, Scene.reports_send]
  | take next ih => exact ih _ own scene.take.2
  | look next ih => exact ih _ own scene
  | note line next ih =>
      rw [Stage.run, ih, Scene.reports_log]
      simp [Event.isReport]
  | sleep milliseconds next ih =>
      rw [Stage.run]
      split
      · next rested hrested => rw [ih, Scene.reports_sleep hrested]
      · rfl
  | read next ih => exact ih own own scene
  | write state next ih => exact ih state scene

theorem Party.invoke_reports {σ : Type} (party : Party σ) (request : Request) (own : σ)
    (scene : Scene) : (party.invoke request own scene).left.scene.reports = scene.reports := by
  cases party with
  | guard check => exact (check request).run_reports () scene
  | handler answer =>
      calc
        ((Party.handler answer).invoke request own scene).left.scene.reports
            = ((scene.enter .guardsPassed).enter .handlerRunning).reports :=
              (answer request).run_reports own _
        _ = scene.reports := by simp

/-- An invocation ends in a failure that nothing answers while no reply is on record. -/
structure Invocation.Unhandled {σ : Type} (i : Invocation σ) (failure : Failure) : Prop where
  failed : i.left.result = .error (.failed failure)
  unanswered : ∀ error, ¬ failure.AnsweredBy error
  unreplied : i.left.scene.exchange.reply = none

namespace Pipeline

variable {σ : Type}

/-- The report that answering a failure writes, if it writes one. -/
theorem answerFailure_reports (failure : Failure) (method : Method) (path : String)
    (scene : Scene) :
    (answerFailure failure method path scene).reports = scene.reports ++
      if scene.exchange.reply = none ∧ failure.recognised? = none then
        [.unhandled method path failure]
      else [] := by
  unfold answerFailure Exchange.isReplied
  cases hr : scene.exchange.reply with
  | some reply => simp
  | none =>
      cases hf : failure.recognised? with
      | some error => simp
      | none => simp [Scene.reports_log, Event.isReport]

/-- Only the last invocation of a request ends in an error. -/
theorem eq_getLast_of_error (handler : Handler σ) (request : Request) (guards : List Guard)
    (own : σ) (scene : Scene) {i : Invocation σ} {stop : Stop}
    (hi : i ∈ invocationsFrom handler request guards own scene)
    (hr : i.left.result = .error stop) :
    i = (invocationsFrom handler request guards own scene).getLast
      (invocationsFrom_ne_nil _ _ _ _ _) := by
  induction guards generalizing own scene with
  | nil => exact List.mem_singleton.mp hi
  | cons guard guards ih =>
      let first := (Party.guard guard).invoke request own scene
      cases hs : first.stops with
      | true =>
          simp only [invocationsFrom, first, hs, if_true] at hi ⊢
          exact List.mem_singleton.mp hi
      | false =>
          simp only [invocationsFrom, first, hs, Bool.false_eq_true, if_false,
            List.getLast_cons (invocationsFrom_ne_nil _ _ _ _ _)] at hi ⊢
          rcases List.mem_cons.mp hi with rfl | hrest
          · have hstops : first.stops = true := (first.stops_iff).mpr (Or.inl ⟨stop, hr⟩)
            rw [hs] at hstops
            cases hstops
          · exact ih _ _ hrest

theorem reports_lastInvocation (p : Pipeline σ) (request : Request) (own : σ) (scene : Scene) :
    (p.lastInvocation request own scene).left.scene.reports = scene.reports := by
  have hall : ∀ i ∈ p.invocations request own scene, i.left.scene.reports = scene.reports := by
    refine forall_mem_invocationsFrom (fun s => s.reports = scene.reports)
      (fun i => i.left.scene.reports = scene.reports) ?_ ?_ p.guards own _ (by simp)
    · intro guard own s hs
      have hleft := (Party.guard guard).invoke_reports request own s
      exact ⟨hleft.trans hs, hleft.trans hs⟩
    · intro own s hs
      exact ((Party.handler p.handler).invoke_reports request own s).trans hs
  exact hall _ (List.getLast_mem _)

theorem conclude_reports_of_unhandled (p : Pipeline σ) {last : Invocation σ} {failure : Failure}
    (h : last.Unhandled failure) :
    (p.conclude last).scene.reports =
      last.left.scene.reports ++ [.unhandled p.method p.path failure] := by
  have hrecognised := Failure.recognised?_eq_none_iff.mpr h.unanswered
  simp [conclude, settle, h.failed, answerFailure_reports, hrecognised, h.unreplied]

theorem conclude_reports_of_not_unhandled (p : Pipeline σ) {last : Invocation σ}
    (h : ∀ failure, ¬ last.Unhandled failure) :
    (p.conclude last).scene.reports = last.left.scene.reports := by
  unfold conclude
  cases hr : last.left.result with
  | error stop =>
      cases stop with
      | timedOut => rfl
      | failed failure =>
          have hhandled : ¬ (last.left.scene.exchange.reply = none ∧
              failure.recognised? = none) := by
            rintro ⟨hx, hf⟩
            exact h failure ⟨hr, Failure.recognised?_eq_none_iff.mp hf, hx⟩
          simp [settle, answerFailure_reports, hhandled]
  | ok value =>
      cases value with
      | none => simp [settle]
      | some value =>
          simp only [settle, Scene.reports_enter]
          split <;> simp

end Pipeline

/-- An entry reports under a method and a path. Whatever request it serves, it writes
one report if an invocation ends in an unhandled failure, and the reply shows that
failure; otherwise it writes none. -/
structure Entry.Reports {σ : Type} (e : Entry σ) (method : Method) (path : String) : Prop where
  ownMethod : e.method = method
  ownPath : e.path = path
  once : ∀ request states scene, ∀ i ∈
      e.pipeline.invocations request (e.controller.stateIn states) scene, ∀ failure,
    i.Unhandled failure →
      (e.serve request states scene).2.2.reports =
          scene.reports ++ [.unhandled method path failure] ∧
        ∃ body, (e.serve request states scene).2.2.exchange.reply =
            some ⟨.internalError, Headers.empty, some body⟩ ∧
          body.get? "message" = some (.string failure.describe) ∧
          body.get? "trace" = some (.string failure.trace)
  never : ∀ request states scene,
    (∀ i ∈ e.pipeline.invocations request (e.controller.stateIn states) scene,
      ∀ failure, ¬ i.Unhandled failure) →
    (e.serve request states scene).2.2.reports = scene.reports

theorem Entry.Agrees.reports {σ : Type} {e : Entry σ} (hagrees : e.Agrees) :
    e.Reports e.method e.path := by
  refine ⟨rfl, rfl, ?once, ?never⟩
  case once =>
    intro request states scene i hi failure h
    let own := e.controller.stateIn states
    have hlast : i = e.pipeline.lastInvocation request own scene :=
      Pipeline.eq_getLast_of_error _ _ _ _ _ hi h.failed
    rw [hlast] at h
    have hserve : (e.serve request states scene).2.2 =
        (e.pipeline.conclude (e.pipeline.lastInvocation request own scene)).scene := by
      rw [← Pipeline.serve_eq_conclude]
      rfl
    rw [hserve]
    constructor
    · rw [e.pipeline.conclude_reports_of_unhandled h, Pipeline.reports_lastInvocation,
        hagrees.method, hagrees.path]
    · have hcompleted : (e.pipeline.serve request own scene).completed = true := by
        rw [Pipeline.serve_eq_conclude, Pipeline.conclude_completed, h.failed]
        simp
      obtain ⟨reply, hreply, howes⟩ := e.pipeline.serve_owes request own scene hcompleted
      rw [Pipeline.serve_eq_conclude] at hreply
      rw [hreply]
      -- No reply is on record and nothing answers the failure, so one case is left.
      cases howes with
      | recorded hx => cases h.unreplied.symm.trans hx
      | noContent _ hv => cases h.failed.symm.trans hv
      | value _ hv _ => cases h.failed.symm.trans hv
      | answered _ hf he =>
          cases h.failed.symm.trans hf
          exact absurd he (h.unanswered _)
      | unhandled _ hf _ _ hmessage htrace =>
          cases h.failed.symm.trans hf
          exact ⟨_, rfl, hmessage, htrace⟩
  case never =>
    intro request states scene h
    change (e.pipeline.serve request (e.controller.stateIn states) scene).scene.reports = _
    rw [Pipeline.serve_eq_conclude, Pipeline.conclude_reports_of_not_unhandled,
      Pipeline.reports_lastInvocation]
    exact h _ (List.getLast_mem _)

namespace Route

variable {σ : Type}

/-- Every entry of a forest reports under the method of its leaf and the path that the
leaf is compiled to, once if a request ends in an unhandled failure and never
otherwise. -/
theorem compileForest_reports_unhandled {ctx : Context σ} {next : Nat} {forest : List (Route σ)}
    {entries : List (Entry σ)} (h : (compileForest ctx next forest).result = .ok entries) :
    List.Forall₂ (fun b e => e.Reports b.node.method (b.path ctx)) (leaves forest) entries := by
  refine (compileForest_eq_ok h).1.imp ?_
  intro b e he
  have hreports := he.shows.agrees.reports
  rwa [he.shows.method, he.path_eq] at hreports

/-- A controller whose handler fails. -/
def broken : Controller Unit :=
  { typeName := "Broken"
    label := "Broken"
    initial := ()
    handlers := [("list", fun _ => .fail (Failure.ofText "closed"))] }

/-- A leaf that deletes, below a shelf. -/
def failing : List (Route Unit) :=
  [.node ((Node.empty.withPath "shelves/:id").withController broken)
    [.node (((Node.empty.withPath "books").withMethod .delete).withHandler "list") []]]

theorem failing_reports_closed :
    ∃ e, (compileForest Context.root 1 failing).result = .ok [e] ∧
      e.Reports .delete "/shelves/\x7bid\x7d/books" ∧
      (e.serve default SortedMap.empty ⟨Exchange.fresh, [], none⟩).2.2.reports =
        [.unhandled .delete "/shelves/\x7bid\x7d/books" (Failure.ofText "closed")] := by
  have h : (compileForest Context.root 1 failing).result = .ok _ := rfl
  obtain ⟨hreports, -⟩ := List.forall₂_cons.mp (compileForest_reports_unhandled h)
  refine ⟨_, h, hreports, ?_⟩
  obtain ⟨hreport, -⟩ := hreports.once default SortedMap.empty ⟨Exchange.fresh, [], none⟩ _
    List.mem_cons_self (Failure.ofText "closed")
    ⟨rfl, Failure.recognised?_eq_none_iff.mp rfl, rfl⟩
  exact hreport

end Route

end RouteTree
