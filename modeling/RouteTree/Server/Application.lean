import RouteTree.Metrics
import RouteTree.Server.Basic

/-!
# Serving requests

A request without an id gets one, and the response carries the id unless it has one of
its own. A router finds what serves the request. An entry first validates the captured
parameters and then reads the body up to a limit; what passes is served by the entry's
pipeline, what does not is answered without running anything of the entry. A request
that takes as long as it may, or longer, is answered with a 408 in place of all that.
-/

namespace RouteTree

/-- A request as it arrives. The body comes in chunks; `none` is a failure to read
on. -/
structure Call where
  method : Method
  uri : Uri
  headers : Headers
  chunks : List (Option Bytes)

namespace Call

/-- A whole body, unless it cannot be read or has more octets than `limit`. -/
def readBody? (limit : Nat) : List (Option Bytes) → Option Bytes
  | [] => some []
  | none :: _ => none
  | some chunk :: rest =>
    if limit < chunk.length then none
    else (readBody? (limit - chunk.length) rest).map (chunk ++ ·)

/-- The id of a call, or else the one that was generated for it. -/
def idOr (c : Call) (generated : Bytes) : Bytes :=
  (c.headers.get? Request.idHeader).getD generated

/-- Give a call an id unless it has one. -/
def identified (c : Call) (generated : Bytes) : Call :=
  { c with headers := c.headers.setIfAbsent Request.idHeader generated }

end Call

/-- What serving a call gives: a response, the states of the controllers, what has
happened, and the sample if an entry served it. -/
structure Served (σ ρ : Type) where
  response : ρ
  states : States σ
  journal : List Event
  sample : Option Sample

namespace Entry

variable {σ : Type}

/-- The error of a body that could not be read. -/
def bodyLimitError (maxBody : Nat) : HttpError :=
  HttpError.payloadTooLarge
    ("Request body could not be read within " ++ toString maxBody ++ " bytes")

/-- The request of a call with captured parameters, if they are valid and its body can
be read. -/
def prepare (e : Entry σ) (params : SortedMap String String) (call : Call) (maxBody : Nat) :
    Except HttpError Request :=
  match e.schema.validate params with
  | .error error => .error error
  | .ok () =>
    match Call.readBody? maxBody call.chunks with
    | none => .error (bodyLimitError maxBody)
    | some body => .ok ⟨call.method, call.uri, call.headers, params, body⟩

theorem prepare_of_invalid {e : Entry σ} {params : SortedMap String String} {call : Call}
    {maxBody : Nat} {error : HttpError} (h : e.schema.validate params = .error error) :
    e.prepare params call maxBody = .error error := by
  rw [prepare, h]

theorem prepare_of_unread {e : Entry σ} {params : SortedMap String String} {call : Call}
    {maxBody : Nat} (hvalid : e.schema.validate params = .ok ())
    (h : Call.readBody? maxBody call.chunks = none) :
    e.prepare params call maxBody = .error (bodyLimitError maxBody) := by
  rw [prepare, hvalid]
  simp only [h]

theorem prepare_of_read {e : Entry σ} {params : SortedMap String String} {call : Call}
    {maxBody : Nat} {body : Bytes} (hvalid : e.schema.validate params = .ok ())
    (h : Call.readBody? maxBody call.chunks = some body) :
    e.prepare params call maxBody = .ok ⟨call.method, call.uri, call.headers, params, body⟩ := by
  rw [prepare, hvalid]
  simp only [h]

/-- What is prepared is the call with its captured parameters and some body. -/
theorem exists_body_of_prepare {e : Entry σ} {params : SortedMap String String} {call : Call}
    {maxBody : Nat} {request : Request} (h : e.prepare params call maxBody = .ok request) :
    ∃ body, request = ⟨call.method, call.uri, call.headers, params, body⟩ := by
  unfold prepare at h
  split at h
  · cases h
  · split at h
    · cases h
    · exact ⟨_, (Except.ok.inj h).symm⟩

/-- The sample of a call that was answered with a status. -/
def sample (e : Entry σ) (status : Status) : Sample := ⟨e.method.token, e.path, status.code⟩

/-- The reply where a pipeline left none. -/
def missingReply : Reply := (HttpError.internal "Handler completed without a reply").toReply

/-- Answer a call with captured parameters; there is no response if time ran out. -/
def answer (e : Entry σ) (params : SortedMap String String) (call : Call) (maxBody : Nat)
    (remaining : Option Nat) (states : States σ) : Served σ (Option Response) :=
  match e.prepare params call maxBody with
  | .error error =>
    ⟨some error.toReply.toResponse, states, [.rejected e.path error],
      some (e.sample error.status)⟩
  | .ok request =>
    match e.serve request states ⟨Exchange.fresh, [], remaining⟩ with
    | (false, states, scene) => ⟨none, states, scene.journal, none⟩
    | (true, states, scene) =>
      let reply := scene.exchange.reply.getD missingReply
      ⟨some reply.toResponse, states, scene.journal, some (e.sample reply.status)⟩

end Entry

/-- A server that serves: its router, how many octets of a body it reads, and how many
milliseconds a request may take. -/
structure Application (σ : Type) where
  router : Router (Target σ)
  maxBody : Nat
  milliseconds : Nat

namespace Server

/-- Assemble a server, and tell what was announced. -/
def assemble {σ : Type} (s : Server σ) : Except AssemblyError (Application σ) × List Event :=
  let (result, events) := s.router
  (result.map fun router =>
    ⟨router, s.config.limits.maxBodyBytes, 1000 * s.config.timeouts.requestSecs⟩, events)

end Server

namespace Application

variable {σ : Type}

/-- The error of a path that nothing serves. -/
def notFound : HttpError := HttpError.notFound "Not Found"

/-- The response where a captured value is not UTF-8. -/
def undecodable (name : String) : Response :=
  Response.plain .badRequest ("Invalid URL: Invalid UTF-8 in `" ++ name ++ "`")

/-- Answer a call without touching any controller. -/
def fixed (response : Response) (states : States σ) : Served σ (Option Response) :=
  ⟨some response, states, [], none⟩

/-- Answer a call at its destination. -/
def deliver (app : Application σ) (call : Call) (states : States σ) :
    Destination (Target σ) → Served σ (Option Response)
  | .nowhere => fixed notFound.toReply.toResponse states
  | .wrongMethod _ => fixed (Response.empty .methodNotAllowed) states
  | .target (.page response) _ => fixed response states
  | .target (.entry e) captured =>
    match Router.decodeCaptured captured with
    | .error name => fixed (undecodable name) states
    | .ok params => e.answer params call app.maxBody (some app.milliseconds) states

/-- Answer a call in time: a request that may take no time at all is not even
started. -/
def deliverInTime (app : Application σ) (call : Call) (states : States σ)
    (destination : Destination (Target σ)) : Served σ (Option Response) :=
  if app.milliseconds = 0 then ⟨none, states, [], none⟩
  else app.deliver call states destination

/-- The response with the id of its call, or the one of a call that took too long. -/
def conclude (id : Bytes) : Option Response → Response
  | some response => response.withHeaderIfAbsent Request.idHeader id
  | none => Response.empty .requestTimeout

/-- A response to a method that is not served lists those that are. -/
def listServed (destination : Destination (Target σ)) (response : Response) : Response :=
  match destination with
  | .wrongMethod served => response.withHeaderIfAbsent allow (Utf8.ofString served)
  | _ => response

@[simp]
theorem listServed_status (destination : Destination (Target σ)) (response : Response) :
    (listServed destination response).status = response.status := by
  cases destination <;> rfl

@[simp]
theorem listServed_body (destination : Destination (Target σ)) (response : Response) :
    (listServed destination response).body = response.body := by
  cases destination <;> rfl

theorem get?_listServed (destination : Destination (Target σ)) (response : Response) {name : String}
    (h : allow ≠ name) :
    (listServed destination response).headers.get? name = response.headers.get? name := by
  cases destination with
  | wrongMethod served => exact response.headers.get?_setIfAbsent_of_ne _ h
  | target target captured => rfl
  | nowhere => rfl

/-- Answer a call for which `generated` is a fresh id. -/
def answer (app : Application σ) (call : Call) (generated : Bytes) (states : States σ) :
    Served σ Response :=
  let destination := app.router.route call.method call.uri.path
  let served := app.deliverInTime (call.identified generated) states destination
  let response := listServed destination (conclude (call.idOr generated) served.response)
  ⟨response.framedFor call.method, served.states, served.journal, served.sample⟩

/-- Answer calls one after another, each with its fresh id. -/
def answerAll (app : Application σ) : List (Call × Bytes) → States σ → List (Served σ Response)
  | [], _ => []
  | (call, generated) :: rest, states =>
    let served := app.answer call generated states
    served :: app.answerAll rest served.states

end Application

end RouteTree
