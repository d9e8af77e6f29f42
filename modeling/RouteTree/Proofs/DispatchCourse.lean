import RouteTree.Proofs.Admission
import RouteTree.Proofs.DispatchSteps

/-!
# The course of a dispatch

Whatever guards and handler do, a request moves along one graph of dispatch states: it
is refused by a guard that replies or fails, or it passes all guards, and then its
handler is done or fails. Only the pipeline moves a request, and each state is entered
with a reply on record where the request is answered by then, and without one where it
still is to be handled.
-/

namespace RouteTree

namespace DispatchState

/-- The states that may follow a state. -/
def successors : DispatchState → List DispatchState
  | pending => [guardsRunning]
  | guardsRunning => [shortCircuited, error, guardsPassed]
  | guardsPassed => [handlerRunning]
  | handlerRunning => [replied, error]
  | shortCircuited => [responseSent]
  | replied => [responseSent]
  | error => [responseSent]
  | responseSent => []

/-- What is on record when a state is entered. -/
def Allows : DispatchState → Option Reply → Prop
  | shortCircuited, reply => reply.isSome = true
  | replied, reply => reply.isSome = true
  | responseSent, reply => reply.isSome = true
  | guardsPassed, reply => reply = none
  | handlerRunning, reply => reply = none
  | _, _ => True

/-- A way through the graph, told by the states that are entered. -/
inductive Leads : DispatchState → List DispatchState → DispatchState → Prop
  | here (s : DispatchState) : Leads s [] s
  | via {s t u : DispatchState} {course : List DispatchState} (h : t ∈ s.successors)
      (rest : Leads t course u) : Leads s (t :: course) u

/-- The ways from a request that is pending to its response. -/
def courses : List (List DispatchState) :=
  [[guardsRunning, shortCircuited, responseSent],
    [guardsRunning, error, responseSent],
    [guardsRunning, guardsPassed, handlerRunning, replied, responseSent],
    [guardsRunning, guardsPassed, handlerRunning, error, responseSent]]

variable {s t : DispatchState} {course : List DispatchState}

theorem ne_of_mem_successors (h : t ∈ s.successors) : t ≠ s := by
  rintro rfl
  cases t <;> simp [successors] at h

theorem Leads.of_responseSent (h : Leads .responseSent course t) : course = [] := by
  cases h with
  | here => rfl
  | via hmem => cases hmem

theorem Leads.to_responseSent (h : Leads s course .responseSent)
    (hs : s.successors = [responseSent]) : course = [responseSent] := by
  cases h with
  | here => cases hs
  | via hmem rest =>
      rw [hs, List.mem_singleton] at hmem
      subst hmem
      rw [rest.of_responseSent]

theorem Leads.of_handlerRunning (h : Leads .handlerRunning course .responseSent) :
    course = [replied, responseSent] ∨ course = [error, responseSent] := by
  cases h with
  | @via _ t _ _ hmem rest =>
      have hcases : t = replied ∨ t = error := by simpa [successors] using hmem
      rcases hcases with rfl | rfl
      · exact Or.inl (congrArg _ (rest.to_responseSent rfl))
      · exact Or.inr (congrArg _ (rest.to_responseSent rfl))

theorem Leads.of_guardsPassed (h : Leads .guardsPassed course .responseSent) :
    course = [handlerRunning, replied, responseSent] ∨
      course = [handlerRunning, error, responseSent] := by
  cases h with
  | via hmem rest =>
      obtain rfl := List.mem_singleton.mp hmem
      exact rest.of_handlerRunning.imp (congrArg _) (congrArg _)

/-- There are four ways from a pending request to its response. -/
theorem Leads.mem_courses (h : Leads .pending course .responseSent) : course ∈ courses := by
  cases h with
  | via hmem rest =>
      obtain rfl := List.mem_singleton.mp hmem
      cases rest with
      | @via _ t _ _ hmem rest =>
          have hcases : t = shortCircuited ∨ t = error ∨ t = guardsPassed := by
            simpa [successors] using hmem
          rcases hcases with rfl | rfl | rfl
          · simp [courses, rest.to_responseSent rfl]
          · simp [courses, rest.to_responseSent rfl]
          · rcases rest.of_guardsPassed with rfl | rfl <;> simp [courses]

theorem Leads.trans {u : DispatchState} {behind : List DispatchState} (h : Leads s course t)
    (h' : Leads t behind u) : Leads s (course ++ behind) u := by
  induction h with
  | here => exact h'
  | via hmem _ ih => exact .via hmem (ih h')

/-- Every state leads to the response. -/
theorem exists_leads_responseSent (s : DispatchState) : ∃ course, Leads s course .responseSent := by
  have hsent : Leads responseSent [] responseSent := .here _
  have herror : Leads error [responseSent] responseSent := .via List.mem_cons_self hsent
  have hhandler : Leads handlerRunning [error, responseSent] responseSent :=
    .via (List.mem_cons_of_mem _ List.mem_cons_self) herror
  have hguards : Leads guardsRunning [error, responseSent] responseSent :=
    .via (List.mem_cons_of_mem _ List.mem_cons_self) herror
  cases s with
  | pending => exact ⟨_, .via List.mem_cons_self hguards⟩
  | guardsRunning => exact ⟨_, hguards⟩
  | shortCircuited => exact ⟨_, .via List.mem_cons_self hsent⟩
  | guardsPassed => exact ⟨_, .via List.mem_cons_self hhandler⟩
  | handlerRunning => exact ⟨_, hhandler⟩
  | replied => exact ⟨_, .via List.mem_cons_self hsent⟩
  | error => exact ⟨_, herror⟩
  | responseSent => exact ⟨_, hsent⟩

/-- However far a request has come, it is on one of the four ways. -/
theorem Leads.exists_mem_courses (h : Leads .pending course s) :
    ∃ full ∈ courses, course <+: full := by
  obtain ⟨behind, hbehind⟩ := exists_leads_responseSent s
  exact ⟨course ++ behind, (h.trans hbehind).mem_courses, List.prefix_append _ _⟩

end DispatchState

/-- The state that an event enters. -/
def Event.entered? : Event → Option DispatchState
  | .transition _ after => some after
  | _ => none

namespace Scene

/-- The states that were entered, as the journal tells. -/
def entered (s : Scene) : List DispatchState := s.journal.filterMap Event.entered?

theorem entered_log (s : Scene) (event : Event) :
    (s.log event).entered = s.entered ++ event.entered?.toList := by
  simp only [entered, log, List.filterMap_append, List.filterMap_cons, List.filterMap_nil]
  cases event.entered? <;> rfl

@[simp]
theorem entered_enter (s : Scene) (state : DispatchState) :
    (s.enter state).entered = s.entered ++ [state] :=
  s.entered_log (.transition s.exchange.state state)

@[simp]
theorem entered_send (s : Scene) (reply : Reply) : (s.send reply).2.entered = s.entered := by
  unfold send
  split
  · rfl
  · exact (s.entered_log (.replyIgnored reply.status)).trans (List.append_nil _)

end Scene

namespace Stage

variable {σ α : Type} {stage left : Stage σ α} {own ownLeft : σ} {scene sceneLeft : Scene}

/-- No action of a guard or a handler enters a state. -/
theorem Acts.keeps (h : stage.Acts own scene left ownLeft sceneLeft) :
    sceneLeft.exchange.state = scene.exchange.state ∧ sceneLeft.entered = scene.entered := by
  cases h with
  | send reply next =>
      rw [Scene.send_exchange, Exchange.send_state, Scene.entered_send]
      exact ⟨rfl, rfl⟩
  | note line => exact ⟨rfl, (scene.entered_log (.note line)).trans (List.append_nil _)⟩
  | sleep next own hrested =>
      obtain ⟨left, rfl⟩ := Scene.exists_of_sleep_eq_some hrested
      exact ⟨rfl, rfl⟩
  | _ => exact ⟨rfl, rfl⟩

end Stage

namespace Pipeline

variable {σ : Type} {p : Pipeline σ} {request : Request} {a b : Moment σ}

/-- What the exchange is like before a task. -/
def Task.Admits : Task σ → Exchange → Prop
  | .begin, x => x = Exchange.fresh
  | .check _, x => x.state = .guardsRunning ∧ x.reply = none
  | .guard _ _, x => x.state = .guardsRunning
  | .handle, x => x.state = .guardsPassed ∧ x.reply = none
  | .handler _, x => x.state = .handlerRunning
  | .replied, x => x.state = .handlerRunning ∧ x.reply.isSome = true
  | .translate _, x => x.state = .error
  | .close, x => x.state.successors = [.responseSent] ∧ x.reply.isSome = true
  | .served, x => x.state = .responseSent ∧ x.reply.isSome = true
  | .cut, x => x.state = .guardsRunning ∨ x.state = .handlerRunning

/-- A step stays in its state, or enters one that may follow with what is on record
then. -/
inductive Moves (s t : Scene) : Prop
  | keeps (hstate : t.exchange.state = s.exchange.state) (hentered : t.entered = s.entered)
  | enters (hmem : t.exchange.state ∈ s.exchange.state.successors)
      (hreply : t.exchange.state.Allows t.exchange.reply)
      (hentered : t.entered = s.entered ++ [t.exchange.state])

theorem moves_enter {scene : Scene} {state : DispatchState}
    (hmem : state ∈ scene.exchange.state.successors) (hreply : state.Allows scene.exchange.reply) :
    Moves scene (scene.enter state) :=
  .enters hmem hreply (scene.entered_enter state)

theorem answerFailure_keeps (failure : Failure) (method : Method) (path : String) (scene : Scene) :
    (answerFailure failure method path scene).exchange.state = scene.exchange.state ∧
      (answerFailure failure method path scene).entered = scene.entered := by
  unfold answerFailure
  split
  · exact ⟨rfl, rfl⟩
  · split
    · rw [Scene.send_exchange, Exchange.send_state, Scene.entered_send]
      exact ⟨rfl, rfl⟩
    · rw [Scene.send_exchange, Exchange.send_state, Scene.entered_send, Scene.entered_log]
      exact ⟨rfl, List.append_nil _⟩

theorem reply_eq_none_of_not_isReplied {x : Exchange} (h : x.isReplied = false) :
    x.reply = none := by
  simpa [Exchange.isReplied] using h

/-- Each step leads to a task that the exchange admits, along the graph. -/
theorem Step.moves (h : p.Step request a b) (ha : a.task.Admits a.scene.exchange) :
    b.task.Admits b.scene.exchange ∧ Moves a.scene b.scene := by
  cases h with
  | begin own scene =>
      have hfresh : scene.exchange = Exchange.fresh := ha
      refine ⟨⟨rfl, congrArg Exchange.reply hfresh⟩, moves_enter ?_ trivial⟩
      rw [hfresh]
      exact List.mem_cons_self
  | guard guard behind own scene => exact ⟨ha.1, .keeps rfl rfl⟩
  | guardActs behind own hacts =>
      obtain ⟨hstate, hentered⟩ := hacts.keeps
      exact ⟨hstate.trans ha, .keeps hstate hentered⟩
  | guardCut => exact ⟨Or.inl ha, .keeps rfl rfl⟩
  | guardFails failure behind own scene =>
      refine ⟨rfl, moves_enter ?_ trivial⟩
      rw [show scene.exchange.state = .guardsRunning from ha]
      simp [DispatchState.successors]
  | guardReplies behind own hreplied =>
      refine ⟨⟨rfl, hreplied⟩, moves_enter ?_ hreplied⟩
      rw [show _ = DispatchState.guardsRunning from ha]
      simp [DispatchState.successors]
  | guardPasses behind own hreplied =>
      exact ⟨⟨ha, reply_eq_none_of_not_isReplied hreplied⟩, .keeps rfl rfl⟩
  | pass own scene =>
      refine ⟨⟨rfl, ha.2⟩, moves_enter ?_ ha.2⟩
      rw [ha.1]
      simp [DispatchState.successors]
  | handle own scene =>
      refine ⟨rfl, moves_enter ?_ ha.2⟩
      rw [ha.1]
      simp [DispatchState.successors]
  | handlerActs hacts =>
      obtain ⟨hstate, hentered⟩ := hacts.keeps
      exact ⟨hstate.trans ha, .keeps hstate hentered⟩
  | handlerCut => exact ⟨Or.inr ha, .keeps rfl rfl⟩
  | handlerFails failure own scene =>
      refine ⟨rfl, moves_enter ?_ trivial⟩
      rw [show scene.exchange.state = .handlerRunning from ha]
      simp [DispatchState.successors]
  | handlerUnencoded own scene hvalue =>
      refine ⟨rfl, moves_enter ?_ trivial⟩
      rw [show scene.exchange.state = .handlerRunning from ha]
      simp [DispatchState.successors]
  | handlerReplied own hvalue hreplied => exact ⟨⟨ha, hreplied⟩, .keeps rfl rfl⟩
  | handlerAnswers own hvalue hreplied =>
      have hstate : ∀ (scene : Scene) (reply : Reply),
          (scene.send reply).2.exchange.state = scene.exchange.state := by
        intro scene reply
        rw [Scene.send_exchange, Exchange.send_state]
      refine ⟨⟨(hstate _ _).trans ha, ?_⟩, .keeps (hstate _ _) (Scene.entered_send _ _)⟩
      rw [Scene.send_reply]
      rfl
  | replied own scene =>
      refine ⟨⟨rfl, ha.2⟩, moves_enter ?_ ha.2⟩
      rw [ha.1]
      simp [DispatchState.successors]
  | translate failure own scene =>
      obtain ⟨hstate, hentered⟩ := answerFailure_keeps failure p.method p.path scene
      refine ⟨⟨?_, ?_⟩, .keeps hstate hentered⟩
      · rw [hstate, show scene.exchange.state = .error from ha]
        rfl
      · rw [answerFailure_reply]
        rfl
  | close own scene =>
      refine ⟨⟨rfl, ha.2⟩, moves_enter ?_ ha.2⟩
      rw [ha.1]
      exact List.mem_cons_self

theorem Moment.Ends.state_eq {service : Service σ} (h : a.Ends service)
    (hcompleted : service.completed = true) (ha : a.task.Admits a.scene.exchange) :
    a.scene.exchange.state = .responseSent := by
  cases h with
  | served => exact ha.1
  | cut => cases hcompleted

/-- A run moves along the graph, and the journal tells the states that it enters. -/
theorem Run.leads {course : List DispatchState} (h : p.Run request a course b)
    (ha : a.task.Admits a.scene.exchange) :
    b.task.Admits b.scene.exchange ∧
      DispatchState.Leads a.scene.exchange.state course b.scene.exchange.state ∧
      b.scene.entered = a.scene.entered ++ course := by
  induction h with
  | rest a => exact ⟨ha, .here _, (List.append_nil _).symm⟩
  | keep hstep hstate _ ih =>
      obtain ⟨hb, hmoves⟩ := hstep.moves ha
      obtain ⟨hc, hleads, hentered⟩ := ih hb
      cases hmoves with
      | keeps _ hkept => exact ⟨hc, hstate ▸ hleads, hkept ▸ hentered⟩
      | enters hmem => exact absurd hstate (DispatchState.ne_of_mem_successors hmem)
  | enter hstep hstate _ ih =>
      obtain ⟨hb, hmoves⟩ := hstep.moves ha
      obtain ⟨hc, hleads, hentered⟩ := ih hb
      cases hmoves with
      | keeps hkept => exact absurd hkept hstate
      | enters hmem _ happended =>
          refine ⟨hc, .via hmem hleads, ?_⟩
          rw [hentered, happended, List.append_assoc]
          rfl

/-- Serving a request with a fresh exchange takes one of the four courses to the
response, unless it is cut off, and the journal tells which. Every run, as far as it has
come, has begun one of them, and ends in nothing but what serving gives. A state is
entered with a reply on record, or without one, as it is allowed, and no action of a
guard or a handler enters a state. -/
theorem serve_takes_course (p : Pipeline σ) (request : Request) (own : σ) {scene : Scene}
    (hfresh : scene.exchange = Exchange.fresh) :
    let service := p.serve request own scene
    (scene.remaining = none → service.completed = true) ∧
      (∃ course last, p.Run request ⟨.begin, own, scene⟩ course last ∧ last.Ends service ∧
        service.scene.entered = scene.entered ++ course ∧
        (service.completed = true → course ∈ DispatchState.courses)) ∧
      (∀ course last, p.Run request ⟨.begin, own, scene⟩ course last →
        (∃ full ∈ DispatchState.courses, course <+: full) ∧
          last.scene.entered = scene.entered ++ course ∧
          (∀ left, last.Ends left → left = service) ∧
          ∀ next, p.Step request last next →
            next.scene.exchange.state ≠ last.scene.exchange.state →
              next.scene.exchange.state.Allows next.scene.exchange.reply) ∧
      ∀ {τ α : Type} {stage left : Stage τ α} {own ownLeft : τ} {scene sceneLeft : Scene},
        stage.Acts own scene left ownLeft sceneLeft →
          sceneLeft.exchange.state = scene.exchange.state := by
  intro service
  have hpending : scene.exchange.state = .pending := congrArg Exchange.state hfresh
  refine ⟨p.completed_of_unlimited request own scene, ?taken, ?every, fun hacts => hacts.keeps.1⟩
  case taken =>
    obtain ⟨course, last, run, hends⟩ := p.exists_run request own scene
    obtain ⟨hadmits, hleads, hentered⟩ := run.leads hfresh
    refine ⟨course, last, run, hends, hends.scene_eq ▸ hentered, ?_⟩
    intro hcompleted
    have hsent : last.scene.exchange.state = .responseSent := hends.state_eq hcompleted hadmits
    rw [hpending, hsent] at hleads
    exact hleads.mem_courses
  case every =>
    intro course last run
    obtain ⟨hadmits, hleads, hentered⟩ := run.leads hfresh
    rw [hpending] at hleads
    refine ⟨hleads.exists_mem_courses, hentered, ?_, ?_⟩
    · intro left hends
      calc left = p.outcome request last := hends.outcome_eq.symm
        _ = service := run.outcome_eq.symm
    · intro next hstep hstate
      obtain ⟨-, hmoves⟩ := hstep.moves hadmits
      cases hmoves with
      | keeps hkept => exact absurd hkept hstate
      | enters _ hreply => exact hreply

theorem retracting_takes_course :
    (Scene.ofExchange Exchange.fresh).exchange = Exchange.fresh ∧
      [.guardsRunning, .guardsPassed, .handlerRunning, .replied, .responseSent] ∈
        DispatchState.courses ∧
      (retracting.pipeline.serve default () (Scene.ofExchange Exchange.fresh)).scene.entered =
        [.guardsRunning, .guardsPassed, .handlerRunning, .replied, .responseSent] := by
  have hfresh : (Scene.ofExchange Exchange.fresh).exchange = Exchange.fresh := rfl
  obtain ⟨hcompleted, ⟨course, last, -, -, hentered, hcourse⟩, -⟩ :=
    serve_takes_course retracting.pipeline default () hfresh
  have heq : [.guardsRunning, .guardsPassed, .handlerRunning, .replied, .responseSent] = course :=
    hentered
  exact ⟨hfresh, heq ▸ hcourse (hcompleted rfl), rfl⟩

end Pipeline

end RouteTree
