import RouteTree.Proofs.Invocation

/-!
# Serving step by step

Serving a request is a sequence of small steps. A step is one action of the guard or the
handler that runs, or one action of the pipeline around them: it enters a state,
invokes, answers. Every sequence of steps comes to an end, and what it has left then is
what serving the request gives.
-/

namespace RouteTree

namespace Stage

variable {σ α : Type}

/-- One action of a stage: what is left of the stage, of the controller's state and of
the scene. -/
inductive Acts : Stage σ α → σ → Scene → Stage σ α → σ → Scene → Prop
  | send (reply : Reply) (next : Bool → Stage σ α) (own : σ) (scene : Scene) :
      Acts (.send reply next) own scene (next (scene.send reply).1) own (scene.send reply).2
  | take (next : Option Reply → Stage σ α) (own : σ) (scene : Scene) :
      Acts (.take next) own scene (next scene.take.1) own scene.take.2
  | look (next : Exchange → Stage σ α) (own : σ) (scene : Scene) :
      Acts (.look next) own scene (next scene.exchange) own scene
  | note (line : String) (next : Stage σ α) (own : σ) (scene : Scene) :
      Acts (.note line next) own scene next own (scene.log (.note line))
  | sleep {milliseconds : Nat} (next : Stage σ α) (own : σ) {scene rested : Scene}
      (h : scene.sleep milliseconds = some rested) :
      Acts (.sleep milliseconds next) own scene next own rested
  | read (next : σ → Stage σ α) (own : σ) (scene : Scene) :
      Acts (.read next) own scene (next own) own scene
  | write (state : σ) (next : Stage σ α) (own : σ) (scene : Scene) :
      Acts (.write state next) own scene next state scene

variable {stage left : Stage σ α} {own ownLeft : σ} {scene sceneLeft : Scene}

/-- A stage gives what is left of it after an action gives. -/
theorem Acts.run_eq (h : stage.Acts own scene left ownLeft sceneLeft) :
    stage.run own scene = left.run ownLeft sceneLeft := by
  cases h with
  | sleep next own hrested => simp only [run, hrested]
  | _ => rfl

/-- What holds where a stage has ended or is cut off, and before an action where it
holds behind it, holds of every stage. -/
theorem acts_induction {motive : Stage σ α → σ → Scene → Prop}
    (done : ∀ result own scene, motive (.done result) own scene)
    (cut : ∀ {milliseconds scene} next own, scene.sleep milliseconds = none →
      motive (.sleep milliseconds next) own scene)
    (acts : ∀ {stage own scene left ownLeft sceneLeft},
      Acts stage own scene left ownLeft sceneLeft → motive left ownLeft sceneLeft →
        motive stage own scene)
    (stage : Stage σ α) (own : σ) (scene : Scene) : motive stage own scene := by
  induction stage generalizing own scene with
  | done result => exact done result own scene
  | send reply next ih => exact acts (.send reply next own scene) (ih _ own _)
  | take next ih => exact acts (.take next own scene) (ih _ own _)
  | look next ih => exact acts (.look next own scene) (ih _ own scene)
  | note line next ih => exact acts (.note line next own scene) (ih own _)
  | sleep milliseconds next ih =>
      cases hsleep : scene.sleep milliseconds with
      | none => exact cut next own hsleep
      | some rested => exact acts (.sleep next own hsleep) (ih own rested)
  | read next ih => exact acts (.read next own scene) (ih own own scene)
  | write state next ih => exact acts (.write state next own scene) (ih state scene)

end Stage

namespace Pipeline

variable {σ : Type}

/-- What is to be done next for a request. -/
inductive Task (σ : Type) where
  | begin
  | check (guards : List Guard)
  | guard (stage : Stage Unit Unit) (behind : List Guard)
  | handle
  | handler (stage : Stage σ Datum)
  | replied
  | translate (failure : Failure)
  | close
  | served
  | cut

/-- A moment while a request is served. -/
structure Moment (σ : Type) where
  task : Task σ
  own : σ
  scene : Scene

/-- One step. A request is cut off where a stage would sleep for as long as it may
take. -/
inductive Step (p : Pipeline σ) (request : Request) : Moment σ → Moment σ → Prop
  | begin (own : σ) (scene : Scene) :
      Step p request ⟨.begin, own, scene⟩ ⟨.check p.guards, own, scene.enter .guardsRunning⟩
  | guard (guard : Guard) (behind : List Guard) (own : σ) (scene : Scene) :
      Step p request ⟨.check (guard :: behind), own, scene⟩
        ⟨.guard (guard request) behind, own, scene⟩
  | guardActs {stage left : Stage Unit Unit} {scene sceneLeft : Scene} (behind : List Guard)
      (own : σ) (h : stage.Acts () scene left () sceneLeft) :
      Step p request ⟨.guard stage behind, own, scene⟩ ⟨.guard left behind, own, sceneLeft⟩
  | guardCut {milliseconds : Nat} {scene : Scene} (next : Stage Unit Unit) (behind : List Guard)
      (own : σ) (h : scene.sleep milliseconds = none) :
      Step p request ⟨.guard (.sleep milliseconds next) behind, own, scene⟩ ⟨.cut, own, scene⟩
  | guardFails (failure : Failure) (behind : List Guard) (own : σ) (scene : Scene) :
      Step p request ⟨.guard (.done (.error failure)) behind, own, scene⟩
        ⟨.translate failure, own, scene.enter .error⟩
  | guardReplies (behind : List Guard) (own : σ) {scene : Scene}
      (h : scene.exchange.isReplied = true) :
      Step p request ⟨.guard (.done (.ok ())) behind, own, scene⟩
        ⟨.close, own, scene.enter .shortCircuited⟩
  | guardPasses (behind : List Guard) (own : σ) {scene : Scene}
      (h : scene.exchange.isReplied = false) :
      Step p request ⟨.guard (.done (.ok ())) behind, own, scene⟩ ⟨.check behind, own, scene⟩
  | pass (own : σ) (scene : Scene) :
      Step p request ⟨.check [], own, scene⟩ ⟨.handle, own, scene.enter .guardsPassed⟩
  | handle (own : σ) (scene : Scene) :
      Step p request ⟨.handle, own, scene⟩
        ⟨.handler (p.handler request), own, scene.enter .handlerRunning⟩
  | handlerActs {stage left : Stage σ Datum} {own ownLeft : σ} {scene sceneLeft : Scene}
      (h : stage.Acts own scene left ownLeft sceneLeft) :
      Step p request ⟨.handler stage, own, scene⟩ ⟨.handler left, ownLeft, sceneLeft⟩
  | handlerCut {milliseconds : Nat} {scene : Scene} (next : Stage σ Datum) (own : σ)
      (h : scene.sleep milliseconds = none) :
      Step p request ⟨.handler (.sleep milliseconds next), own, scene⟩ ⟨.cut, own, scene⟩
  | handlerFails (failure : Failure) (own : σ) (scene : Scene) :
      Step p request ⟨.handler (.done (.error failure)), own, scene⟩
        ⟨.translate failure, own, scene.enter .error⟩
  | handlerUnencoded {datum : Datum} {error : EncodeError} (own : σ) (scene : Scene)
      (h : datum.encode = .error error) :
      Step p request ⟨.handler (.done (.ok datum)), own, scene⟩
        ⟨.translate (Failure.ofText error.message), own, scene.enter .error⟩
  | handlerReplied {datum : Datum} {value : Json} (own : σ) {scene : Scene}
      (hvalue : datum.encode = .ok value) (h : scene.exchange.isReplied = true) :
      Step p request ⟨.handler (.done (.ok datum)), own, scene⟩ ⟨.replied, own, scene⟩
  | handlerAnswers {datum : Datum} {value : Json} (own : σ) {scene : Scene}
      (hvalue : datum.encode = .ok value) (h : scene.exchange.isReplied = false) :
      Step p request ⟨.handler (.done (.ok datum)), own, scene⟩
        ⟨.replied, own, (scene.send (replyOf value)).2⟩
  | replied (own : σ) (scene : Scene) :
      Step p request ⟨.replied, own, scene⟩ ⟨.close, own, scene.enter .replied⟩
  | translate (failure : Failure) (own : σ) (scene : Scene) :
      Step p request ⟨.translate failure, own, scene⟩
        ⟨.close, own, answerFailure failure p.method p.path scene⟩
  | close (own : σ) (scene : Scene) :
      Step p request ⟨.close, own, scene⟩ ⟨.served, own, scene.enter .responseSent⟩

/-- A request has ended and has left a service. -/
inductive Moment.Ends : Moment σ → Service σ → Prop
  | served (own : σ) (scene : Scene) : Ends ⟨.served, own, scene⟩ ⟨true, own, scene⟩
  | cut (own : σ) (scene : Scene) : Ends ⟨.cut, own, scene⟩ ⟨false, own, scene⟩

/-- The rest of serving a request behind its handler. -/
def afterHandler (p : Pipeline σ) (outcome : Outcome σ Json) : Service σ :=
  match outcome.result with
  | .error stop => p.settle (.error stop) outcome.own outcome.scene
  | .ok value =>
    let answered :=
      if outcome.scene.exchange.isReplied then outcome.scene
      else (outcome.scene.send (replyOf value)).2
    p.settle (.ok ()) outcome.own (answered.enter .replied)

/-- What serving a request comes to from a moment on. -/
def outcome (p : Pipeline σ) (request : Request) : Moment σ → Service σ
  | ⟨.begin, own, scene⟩ => p.serve request own scene
  | ⟨.check guards, own, scene⟩ => p.proceed request own (checkGuards request guards scene)
  | ⟨.guard stage behind, own, scene⟩ =>
    p.proceed request own (checkGuards request ((fun _ => stage) :: behind) scene)
  | ⟨.handle, own, scene⟩ => p.proceed request own (.ok .passed, scene)
  | ⟨.handler stage, own, scene⟩ =>
    p.afterHandler (Handler.invoke (fun _ => stage) request own scene)
  | ⟨.replied, own, scene⟩ => p.settle (.ok ()) own (scene.enter .replied)
  | ⟨.translate failure, own, scene⟩ =>
    p.settle (.ok ()) own (answerFailure failure p.method p.path scene)
  | ⟨.close, own, scene⟩ => p.settle (.ok ()) own scene
  | ⟨.served, own, scene⟩ => ⟨true, own, scene⟩
  | ⟨.cut, own, scene⟩ => ⟨false, own, scene⟩

theorem settle_dispatch (p : Pipeline σ) (request : Request) (own : σ) (scene : Scene) :
    p.proceed request own (.ok .passed, scene) =
      p.afterHandler (p.handler.invoke request own (scene.enter .handlerRunning)) := by
  simp only [proceed, dispatch, afterHandler]
  cases (p.handler.invoke request own (scene.enter .handlerRunning)).result <;> rfl

/-- A step does not change what serving the request comes to. -/
theorem Step.outcome_eq {p : Pipeline σ} {request : Request} {a b : Moment σ}
    (h : p.Step request a b) : p.outcome request a = p.outcome request b := by
  cases h with
  | begin own scene => exact p.serve_eq_proceed request own scene
  | guard => rfl
  | guardActs behind own hacts => simp only [outcome, checkGuards, hacts.run_eq]
  | guardCut next behind own hsleep => simp only [outcome, checkGuards, Stage.run, hsleep]; rfl
  | guardFails => rfl
  | guardReplies behind own hreplied => simp only [outcome, checkGuards, Stage.run, hreplied]; rfl
  | guardPasses behind own hreplied => simp only [outcome, checkGuards, Stage.run, hreplied]; rfl
  | pass => rfl
  | handle own scene => exact p.settle_dispatch request own scene
  | handlerActs hacts => simp only [outcome, Handler.invoke, hacts.run_eq]
  | handlerCut next own hsleep => simp only [outcome, Handler.invoke, Stage.run, hsleep]; rfl
  | handlerFails => rfl
  | handlerUnencoded own scene hencode =>
      simp only [outcome, Handler.invoke, Stage.run, encodeResult, hencode]; rfl
  | handlerReplied own hencode hreplied =>
      simp only [outcome, Handler.invoke, Stage.run, encodeResult, hencode, afterHandler, hreplied]
      rfl
  | handlerAnswers own hencode hreplied =>
      simp only [outcome, Handler.invoke, Stage.run, encodeResult, hencode, afterHandler, hreplied]
      rfl
  | replied => rfl
  | translate => rfl
  | close => rfl

/-- A moment that has ended has left what serving the request comes to. -/
theorem Moment.Ends.outcome_eq {p : Pipeline σ} {request : Request} {a : Moment σ}
    {service : Service σ} (h : a.Ends service) : p.outcome request a = service := by
  cases h <;> rfl

theorem Moment.Ends.scene_eq {a : Moment σ} {service : Service σ} (h : a.Ends service) :
    a.scene = service.scene := by
  cases h <;> rfl

/-- Steps in a row, with the states that are entered on the way. -/
inductive Run (p : Pipeline σ) (request : Request) :
    Moment σ → List DispatchState → Moment σ → Prop
  | rest (a : Moment σ) : Run p request a [] a
  | keep {a b c : Moment σ} {course : List DispatchState} (h : p.Step request a b)
      (hstate : b.scene.exchange.state = a.scene.exchange.state)
      (run : Run p request b course c) : Run p request a course c
  | enter {a b c : Moment σ} {course : List DispatchState} (h : p.Step request a b)
      (hstate : b.scene.exchange.state ≠ a.scene.exchange.state)
      (run : Run p request b course c) : Run p request a (b.scene.exchange.state :: course) c

section Runs

variable {p : Pipeline σ} {request : Request} {a b : Moment σ}

theorem Run.outcome_eq {course : List DispatchState} (h : p.Run request a course b) :
    p.outcome request a = p.outcome request b := by
  induction h with
  | rest => rfl
  | keep hstep _ _ ih => exact hstep.outcome_eq.trans ih
  | enter hstep _ _ ih => exact hstep.outcome_eq.trans ih

/-- From a moment on a request comes to an end. -/
def Halts (p : Pipeline σ) (request : Request) (a : Moment σ) : Prop :=
  ∃ course b service, p.Run request a course b ∧ b.Ends service

theorem Moment.Ends.halts {service : Service σ} (h : a.Ends service) : p.Halts request a :=
  ⟨[], a, service, .rest a, h⟩

theorem Halts.before (hb : p.Halts request b) (h : p.Step request a b) : p.Halts request a := by
  obtain ⟨course, c, service, run, hends⟩ := hb
  by_cases hstate : b.scene.exchange.state = a.scene.exchange.state
  · exact ⟨course, c, service, .keep h hstate run, hends⟩
  · exact ⟨_, c, service, .enter h hstate run, hends⟩

theorem halts_close (own : σ) (scene : Scene) : p.Halts request ⟨.close, own, scene⟩ :=
  (Moment.Ends.served own _).halts.before (.close own scene)

theorem halts_translate (failure : Failure) (own : σ) (scene : Scene) :
    p.Halts request ⟨.translate failure, own, scene⟩ :=
  (halts_close own _).before (.translate failure own scene)

theorem halts_replied (own : σ) (scene : Scene) : p.Halts request ⟨.replied, own, scene⟩ :=
  (halts_close own _).before (.replied own scene)

/-- Every handler ends. -/
theorem halts_handler (stage : Stage σ Datum) (own : σ) (scene : Scene) :
    p.Halts request ⟨.handler stage, own, scene⟩ := by
  induction stage, own, scene using Stage.acts_induction with
  | done result own scene =>
      cases result with
      | error failure => exact (halts_translate failure own _).before (.handlerFails _ own scene)
      | ok datum =>
          cases hvalue : datum.encode with
          | error e => exact (halts_translate _ own _).before (.handlerUnencoded own scene hvalue)
          | ok value =>
              cases hreplied : scene.exchange.isReplied with
              | true => exact (halts_replied own _).before (.handlerReplied own hvalue hreplied)
              | false => exact (halts_replied own _).before (.handlerAnswers own hvalue hreplied)
  | cut next own hsleep =>
      exact (Moment.Ends.cut own _).halts.before (.handlerCut next own hsleep)
  | acts hacts ih => exact ih.before (.handlerActs hacts)

/-- Every guard ends, so what follows its passing decides. -/
theorem halts_guard {behind : List Guard} {own : σ}
    (hbehind : ∀ scene, p.Halts request ⟨.check behind, own, scene⟩)
    (stage : Stage Unit Unit) (scene : Scene) :
    p.Halts request ⟨.guard stage behind, own, scene⟩ := by
  induction stage, (), scene using Stage.acts_induction with
  | done result _ scene =>
      cases result with
      | error failure =>
          exact (halts_translate failure own _).before (.guardFails _ behind own scene)
      | ok value =>
          cases hreplied : scene.exchange.isReplied with
          | true => exact (halts_close own _).before (.guardReplies behind own hreplied)
          | false => exact (hbehind scene).before (.guardPasses behind own hreplied)
  | cut next _ hsleep =>
      exact (Moment.Ends.cut own _).halts.before (.guardCut next behind own hsleep)
  | acts hacts ih => exact ih.before (.guardActs behind own hacts)

theorem halts_check (guards : List Guard) (own : σ) (scene : Scene) :
    p.Halts request ⟨.check guards, own, scene⟩ := by
  induction guards generalizing own scene with
  | nil =>
      exact ((halts_handler (p.handler request) own _).before (.handle own _)).before
        (.pass own scene)
  | cons guard behind ih =>
      exact (halts_guard (ih own) (guard request) scene).before (.guard guard behind own scene)

/-- A request that has begun comes to an end, and leaves what serving it gives. -/
theorem exists_run (p : Pipeline σ) (request : Request) (own : σ) (scene : Scene) :
    ∃ course last, p.Run request ⟨.begin, own, scene⟩ course last ∧
      last.Ends (p.serve request own scene) := by
  have hhalts : p.Halts request ⟨.begin, own, scene⟩ :=
    (halts_check p.guards own _).before (.begin own scene)
  obtain ⟨course, last, service, run, hends⟩ := hhalts
  have hserve : p.serve request own scene = service :=
    calc p.serve request own scene
        = p.outcome request last := run.outcome_eq
      _ = service := hends.outcome_eq
  exact ⟨course, last, run, hserve ▸ hends⟩

end Runs

end Pipeline

end RouteTree
