import RouteTree.Proofs.RecordedReply

/-!
# Who produces a response

Behind every response stands one of few: the fallback for a path that nothing serves,
the site of a path that does not serve the method, a page of a plugin, the decoding of
captured values, the admission of an entry, the pipeline of an entry, or the limit of
time. Who it is decides the response up to the fields that are added on its way out, and
whether the call is sampled.
-/

namespace RouteTree

/-- Who produces a response, and from what. -/
inductive Origin (σ : Type) where
  | fallback
  | wrongMethod (served : String)
  | page (response : Response)
  | undecodable (e : Entry σ) (name : String)
  | rejection (e : Entry σ) (error : HttpError)
  | reply (e : Entry σ) (reply : Reply)
  | timeout

namespace Origin

variable {σ : Type}

/-- The response as it is produced. Time that has run out leaves none. -/
def response? : Origin σ → Option Response
  | .fallback => some Application.notFound.toReply.toResponse
  | .wrongMethod _ => some (Response.empty .methodNotAllowed)
  | .page response => some response
  | .undecodable _ name => some (Application.undecodable name)
  | .rejection _ error => some error.toReply.toResponse
  | .reply _ recorded => some recorded.toResponse
  | .timeout => none

/-- An entry samples what it answers. -/
def sample? : Origin σ → Option Sample
  | .rejection e error => some (e.sample error.status)
  | .reply e recorded => some (e.sample recorded.status)
  | _ => none

end Origin

namespace Application

variable {σ : Type} {app : Application σ} {call : Call} {states : States σ} {origin : Origin σ}

/-- A call is passed to the pipeline of an entry as a request. -/
def Passes (app : Application σ) (call : Call) (e : Entry σ) (request : Request) : Prop :=
  ∃ captured params, app.router.route call.method call.uri.path = .target (.entry e) captured ∧
    Router.decodeCaptured captured = .ok params ∧ e.prepare params call app.maxBody = .ok request

/-- What the pipeline of an entry makes of a request in the time that a call may
take. -/
def service (app : Application σ) (e : Entry σ) (request : Request) (states : States σ) :
    Service σ :=
  e.pipeline.serve request (e.controller.stateIn states)
    ⟨Exchange.fresh, [], some app.milliseconds⟩

/-- The origin of the response to a call. A limit of no time at all is reached at once,
any other only while an entry serves the call. -/
inductive Produces (app : Application σ) (call : Call) (states : States σ) : Origin σ → Prop
  | notStarted (h : app.milliseconds = 0) : Produces app call states .timeout
  | fallback (h : app.milliseconds ≠ 0)
      (hroute : app.router.route call.method call.uri.path = .nowhere) :
      Produces app call states .fallback
  | wrongMethod (h : app.milliseconds ≠ 0) {served : String}
      (hroute : app.router.route call.method call.uri.path = .wrongMethod served) :
      Produces app call states (.wrongMethod served)
  | page (h : app.milliseconds ≠ 0) {response : Response} {captured : List (String × String)}
      (hroute : app.router.route call.method call.uri.path = .target (.page response) captured) :
      Produces app call states (.page response)
  | undecodable (h : app.milliseconds ≠ 0) {e : Entry σ} {captured : List (String × String)}
      {name : String}
      (hroute : app.router.route call.method call.uri.path = .target (.entry e) captured)
      (hcaptured : Router.decodeCaptured captured = .error name) :
      Produces app call states (.undecodable e name)
  | rejection (h : app.milliseconds ≠ 0) {e : Entry σ} {captured : List (String × String)}
      {params : SortedMap String String} {error : HttpError}
      (hroute : app.router.route call.method call.uri.path = .target (.entry e) captured)
      (hcaptured : Router.decodeCaptured captured = .ok params)
      (hprepare : e.prepare params call app.maxBody = .error error) :
      Produces app call states (.rejection e error)
  | reply (h : app.milliseconds ≠ 0) {e : Entry σ} {request : Request} {reply : Reply}
      (hpasses : app.Passes call e request)
      (hcompleted : (app.service e request states).completed = true)
      (hreply : (app.service e request states).scene.exchange.reply = some reply) :
      Produces app call states (.reply e reply)
  | late (h : app.milliseconds ≠ 0) {e : Entry σ} {request : Request}
      (hpasses : app.Passes call e request)
      (hlate : (app.service e request states).completed = false) :
      Produces app call states .timeout

theorem exists_produces (app : Application σ) (call : Call) (states : States σ) :
    ∃ origin, app.Produces call states origin := by
  by_cases h : app.milliseconds = 0
  · exact ⟨_, .notStarted h⟩
  cases hroute : app.router.route call.method call.uri.path with
  | nowhere => exact ⟨_, .fallback h hroute⟩
  | wrongMethod served => exact ⟨_, .wrongMethod h hroute⟩
  | target target captured =>
      cases target with
      | page response => exact ⟨_, .page h hroute⟩
      | entry e =>
          cases hcaptured : Router.decodeCaptured captured with
          | error name => exact ⟨_, .undecodable h hroute hcaptured⟩
          | ok params =>
              cases hprepare : e.prepare params call app.maxBody with
              | error error => exact ⟨_, .rejection h hroute hcaptured hprepare⟩
              | ok request =>
                  have hpasses : app.Passes call e request :=
                    ⟨captured, params, hroute, hcaptured, hprepare⟩
                  cases hcompleted : (app.service e request states).completed with
                  | false => exact ⟨_, .late h hpasses hcompleted⟩
                  | true =>
                      obtain ⟨reply, hreply, -⟩ :=
                        e.pipeline.serve_owes request _ _ hcompleted
                      exact ⟨_, .reply h hpasses hcompleted hreply⟩

/-- A call that passes to a pipeline is delivered to it. -/
theorem Passes.deliver_eq {e : Entry σ} {request : Request} (h : app.Passes call e request)
    (states : States σ) :
    app.deliver call states (app.router.route call.method call.uri.path) =
      if (app.service e request states).completed = true then
        let reply := (app.service e request states).scene.exchange.reply.getD Entry.missingReply
        ⟨some reply.toResponse,
          states.insert e.controller.number (app.service e request states).own,
          (app.service e request states).scene.journal, some (e.sample reply.status)⟩
      else
        ⟨none, states.insert e.controller.number (app.service e request states).own,
          (app.service e request states).scene.journal, none⟩ := by
  obtain ⟨captured, params, hroute, hcaptured, hprepare⟩ := h
  simp only [deliver, hroute, hcaptured, Entry.answer, hprepare, Entry.serve]
  unfold service
  cases (e.pipeline.serve request (e.controller.stateIn states)
    ⟨Exchange.fresh, [], some app.milliseconds⟩).completed <;> rfl

/-- The origin decides what is delivered and whether it is sampled. -/
theorem Produces.delivered (h : app.Produces call states origin) :
    let served := app.deliverInTime call states (app.router.route call.method call.uri.path)
    served.response = origin.response? ∧ served.sample = origin.sample? := by
  unfold deliverInTime
  cases h with
  | notStarted h =>
      rw [if_pos h]
      exact ⟨rfl, rfl⟩
  | fallback h hroute =>
      rw [if_neg h, hroute]
      exact ⟨rfl, rfl⟩
  | wrongMethod h hroute =>
      rw [if_neg h, hroute]
      exact ⟨rfl, rfl⟩
  | page h hroute =>
      rw [if_neg h, hroute]
      exact ⟨rfl, rfl⟩
  | undecodable h hroute hcaptured =>
      rw [if_neg h, hroute]
      simp only [deliver, hcaptured]
      exact ⟨rfl, rfl⟩
  | rejection h hroute hcaptured hprepare =>
      rw [if_neg h, hroute]
      simp only [deliver, hcaptured, Entry.answer, hprepare]
      exact ⟨rfl, rfl⟩
  | reply h hpasses hcompleted hreply =>
      rw [if_neg h, hpasses.deliver_eq, if_pos hcompleted, hreply]
      exact ⟨rfl, rfl⟩
  | late h hpasses hlate =>
      rw [if_neg h, hpasses.deliver_eq, if_neg (by simp [hlate])]
      exact ⟨rfl, rfl⟩

section Answering

variable {generated : Bytes}

theorem Produces.sample_eq (h : app.Produces (call.identified generated) states origin) :
    (app.answer call generated states).sample = origin.sample? := h.delivered.2

/-- The fields that are added on the way out leave the status as it is. -/
theorem Produces.status_eq (h : app.Produces (call.identified generated) states origin) :
    (app.answer call generated states).response.status =
      (origin.response?.map Response.status).getD .requestTimeout := by
  have hdelivered : (app.deliverInTime (call.identified generated) states
      (app.router.route call.method call.uri.path)).response = origin.response? := h.delivered.1
  simp only [answer, Response.framedFor_status, listServed_status, hdelivered]
  cases origin.response? <;> rfl

end Answering

/-- A controller with a handler that answers at once and one that takes two seconds. -/
def quarry : Controller Unit :=
  { typeName := "Quarry"
    label := "Quarry"
    initial := ()
    handlers :=
      [("list", fun _ => .send (Reply.noContent.withHeader Request.idHeader [0x71]) fun _ =>
          .succeed .absent),
        ("dig", fun _ => .sleep 2000 (.succeed .absent))] }

/-- A leaf that takes long, and one at a parameter that does not. -/
def pits : List (Route Unit) :=
  [.node (Node.empty.withController quarry)
    [.node ((Node.empty.withPath "stones").withHandler "dig") [],
      .node ((Node.empty.withPath "stones/:id").withHandler "list") []]]

/-- A server that gives each call one second. -/
def hasty : Server Unit := ((Server.new { timeouts := ⟨1⟩ }).declare pits).server

/-- The server at work. -/
def haste : Application Unit :=
  match hasty.assemble.1 with
  | .ok app => app
  | .error _ => ⟨Router.empty, 0, 0⟩

theorem assemble_hasty : hasty.assemble.1 = .ok haste := rfl

/-- A call for a path that comes with an id. -/
def asking (path : String) : Call :=
  ⟨.get, { (default : Uri) with path }, Headers.empty.append Request.idHeader [0x61], []⟩

end Application

end RouteTree
