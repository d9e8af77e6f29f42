import RouteTree.Proofs.PlainOctets
import RouteTree.Proofs.UsersService

/-!
# What the users service answers

What an entry of the service does with a request depends on three things only: whether
the request is authorized, its parameters and its body. So a call comes to a reaction,
which is a status, a body and the register afterwards, and depends on the register but
not on the id that was generated for the call. Every reaction leaves the register as it
is, creates one user or removes one user, and the last two take a bearer token.
-/

namespace RouteTree.Demo

section Verdicts

/-- What the service looks at in a request. -/
structure Demand where
  authorized : Bool
  params : SortedMap String String
  body : Bytes

/-- The id that a demand is about. -/
def Demand.id? (d : Demand) : Option Nat := (d.params.get? "id").bind unsignedWord?

def demandOf (request : Request) : Demand := ⟨isAuthorized request, request.params, request.body⟩

/-- A reply to a demand, and the register afterwards. -/
abbrev Verdict := Demand → Users → Reply × Users

def listing : Verdict := fun _ users =>
  (Reply.json (.array (users.toList.map User.toJson)), users)

def reading : Verdict := fun demand users =>
  match demand.id? with
  | none => ((HttpError.badRequest "Invalid user id").toReply, users)
  | some id =>
    match users.find? id with
    | some user => (Reply.json user.toJson, users)
    | none => ((userNotFound id).toReply, users)

def creating : Verdict := fun demand users =>
  match Json.readAs newUser demand.body with
  | .error fault => ((Request.bodyError fault demand.body).toReply, users)
  | .ok value =>
    ((Reply.json (users.create (nameIn value)).1.toJson).withStatus .created,
      (users.create (nameIn value)).2)

def removing : Verdict := fun demand users =>
  match demand.id? with
  | none => ((HttpError.badRequest "Invalid user id").toReply, users)
  | some id =>
    match users.find? id with
    | some _ => (Reply.noContent, users.remove id)
    | none => ((userNotFound id).toReply, users)

/-- Reading leaves the register as it is. -/
theorem reading_users (demand : Demand) (users : Users) : (reading demand users).2 = users := by
  unfold reading
  split
  · rfl
  · split <;> rfl

/-- A verdict that takes a bearer token. -/
def guarded (v : Verdict) : Verdict := fun demand users =>
  if demand.authorized then v demand users
  else ((HttpError.unauthorized "Missing bearer token").toReply, users)

theorem guarded_of_authorized {demand : Demand} (h : demand.authorized = true) (v : Verdict)
    (users : Users) : guarded v demand users = v demand users :=
  if_pos h

theorem guarded_of_not_authorized {demand : Demand} (h : demand.authorized = false) (v : Verdict)
    (users : Users) : guarded v demand users =
      ((HttpError.unauthorized "Missing bearer token").toReply, users) := by
  rw [guarded, h]
  rfl

/-- A handler comes to a verdict wherever it is dispatched without a reply on record. -/
def Decides (handler : Handler Users) (v : Verdict) : Prop :=
  ∀ (p : Pipeline Users) request users (scene : Scene), scene.exchange.reply = none →
    let outcome := Pipeline.dispatch handler request users scene
    ∃ left, p.settle outcome.result outcome.own outcome.scene =
        ⟨true, (v (demandOf request) users).2, left⟩ ∧
      left.exchange.reply = some (v (demandOf request) users).1

theorem decides_list : Decides list listing := by
  rintro p request users ⟨⟨state, reply⟩, journal, remaining⟩ rfl
  exact ⟨_, rfl, rfl⟩

theorem decides_get : Decides get reading := by
  rintro p request users ⟨⟨state, reply⟩, journal, remaining⟩ rfl
  have hid : (request.param? "id").bind unsignedWord? = (demandOf request).id? := rfl
  unfold Pipeline.dispatch Handler.invoke get idOf reading
  rw [hid]
  cases (demandOf request).id? with
  | none => exact ⟨_, rfl, rfl⟩
  | some id =>
      rcases Option.eq_none_or_eq_some (users.find? id) with hfind | ⟨user, hfind⟩
      · simp only [Stage.run, hfind]
        exact ⟨_, rfl, rfl⟩
      · simp only [Stage.run, hfind]
        exact ⟨_, rfl, rfl⟩

theorem decides_create : Decides create creating := by
  rintro p request users ⟨⟨state, reply⟩, journal, remaining⟩ rfl
  have hbody : (demandOf request).body = request.body := rfl
  unfold Pipeline.dispatch Handler.invoke create Request.json creating
  rw [hbody]
  cases Json.readAs newUser request.body with
  | error fault => exact ⟨_, rfl, rfl⟩
  | ok value => exact ⟨_, rfl, rfl⟩

theorem decides_remove : Decides remove removing := by
  rintro p request users ⟨⟨state, reply⟩, journal, remaining⟩ rfl
  have hid : (request.param? "id").bind unsignedWord? = (demandOf request).id? := rfl
  unfold Pipeline.dispatch Handler.invoke remove idOf removing
  rw [hid]
  cases (demandOf request).id? with
  | none => exact ⟨_, rfl, rfl⟩
  | some id =>
      rcases Option.eq_none_or_eq_some (users.find? id) with hfind | ⟨user, hfind⟩
      · simp only [Stage.run, hfind]
        exact ⟨_, rfl, rfl⟩
      · simp only [Stage.run, hfind]
        exact ⟨_, rfl, rfl⟩

/-- An entry that serves the register comes to a verdict, however much time is left. -/
structure Reaches (e : Entry Users) (v : Verdict) : Prop where
  controller : e.controller = register
  serves : ∀ request users remaining,
    ∃ left, e.pipeline.serve request users ⟨Exchange.fresh, [], remaining⟩ =
        ⟨true, (v (demandOf request) users).2, left⟩ ∧
      left.exchange.reply = some (v (demandOf request) users).1

/-- Without guards an entry comes to the verdict of its handler. -/
theorem Decides.reaches {handler : Handler Users} {v : Verdict} (h : Decides handler v)
    (method : Method) (path : String) (schema : Schema) (name : String) :
    Reaches (entryAt method path schema name handler []) v := by
  refine ⟨rfl, ?_⟩
  intro request users remaining
  exact h (entryAt method path schema name handler []).pipeline request users _ rfl

/-- Behind the guard the verdict takes a bearer token. -/
theorem Decides.reaches_guarded {handler : Handler Users} {v : Verdict} (h : Decides handler v)
    (method : Method) (path : String) (schema : Schema) (name : String) :
    Reaches (entryAt method path schema name handler [requireBearer]) (guarded v) := by
  refine ⟨rfl, ?_⟩
  intro request users remaining
  let p := (entryAt method path schema name handler [requireBearer]).pipeline
  have hauthorized : (demandOf request).authorized = isAuthorized request := rfl
  have hguards : p.guards = [requireBearer] := rfl
  unfold Pipeline.serve Pipeline.runGuards guarded
  rw [hguards, Pipeline.checkGuards, requireBearer, hauthorized]
  cases isAuthorized request with
  | true => exact h p request users _ rfl
  | false => exact ⟨_, rfl, rfl⟩

theorem reaches_listEntry : Reaches listEntry listing := decides_list.reaches _ _ _ _

theorem reaches_getEntry : Reaches getEntry reading := decides_get.reaches _ _ _ _

theorem reaches_createEntry : Reaches createEntry (guarded creating) :=
  decides_create.reaches_guarded _ _ _ _

theorem reaches_removeEntry : Reaches removeEntry (guarded removing) :=
  decides_remove.reaches_guarded _ _ _ _

end Verdicts

section Calls

/-- The octets of a body as far as they arrive. -/
def octets (call : Call) : Bytes := call.chunks.flatMap fun chunk => chunk.getD []

/-- The name of the user that a body asks to create. -/
def postedName? (call : Call) : Option String :=
  match Json.readAs newUser (octets call) with
  | .ok value => some (nameIn value)
  | .error _ => none

/-- The id of the user that a path names. -/
def namedId? (path : String) : Option Nat :=
  match segments path with
  | ["users", text] => (Percent.decodeText? text).bind unsignedWord?
  | _ => none

/-- A call brings a bearer token: its first field of authorization is readable as text
and starts with the word. -/
def Bears (call : Call) : Prop :=
  ∃ token, call.headers.text? "authorization" = some ("Bearer " ++ token)

/-- A call with its body in one piece. -/
def simpleCall (method : Method) (path : String) (headers : Headers) (body : String) : Call :=
  ⟨method, { (default : Uri) with path := path }, headers, [some (Utf8.ofString body)]⟩

/-- A bearer token. -/
def bearing : Headers := ⟨[("authorization", Utf8.ofString "Bearer t")]⟩

/-- What a call changes in the register. -/
inductive Change where
  | creation (name : String)
  | removal (id : Nat)
  deriving DecidableEq, Repr

/-- The change that can be told from the answer to a call: a POST that is answered with
201 has created a user, and a DELETE that is answered with 204 has removed one. -/
def change? (call : Call) (status : Status) : Option Change :=
  if call.method = .post ∧ status = .created then (postedName? call).map .creation
  else if call.method = .delete ∧ status = .noContent then (namedId? call.uri.path).map .removal
  else none

/-- An answer that tells of no change. -/
structure Inert (call : Call) (status : Status) : Prop where
  not_created : ¬ (call.method = .post ∧ status = .created)
  not_removed : ¬ (call.method = .delete ∧ status = .noContent)

theorem isAuthorized_iff {request : Request} : isAuthorized request = true ↔
    ∃ token, request.headers.text? "authorization" = some ("Bearer " ++ token) := by
  unfold isAuthorized Request.header?
  cases request.headers.text? "authorization" with
  | none => simp
  | some value =>
      simp only [Option.some.injEq, List.isPrefixOf_iff_prefix]
      constructor
      · rintro ⟨token, htoken⟩
        refine ⟨String.ofList token, String.toList_inj.mp ?_⟩
        rw [String.toList_append, ← htoken]
        simp
      · rintro ⟨token, rfl⟩
        exact ⟨token.toList, by simp⟩

instance (call : Call) : Decidable (Bears call) :=
  decidable_of_iff
    (isAuthorized ⟨call.method, call.uri, call.headers, SortedMap.empty, []⟩ = true)
    isAuthorized_iff

/-- The id that was generated for a call does not make it bear a token. -/
theorem demandOf_identified (call : Call) (generated : Bytes) (params : SortedMap String String)
    (body : Bytes) :
    demandOf ⟨call.method, call.uri, (call.identified generated).headers, params, body⟩ =
      ⟨decide (Bears call), params, body⟩ := by
  have hheaders : (call.identified generated).headers.text? "authorization" =
      call.headers.text? "authorization" := by
    have hlower : Headers.lowerCase "authorization" = "authorization" := by decide
    have hne : Request.idHeader ≠ "authorization" := by decide
    simp only [Headers.text?, Call.identified, hlower,
      Headers.get?_setIfAbsent_of_ne call.headers generated hne]
  have hbears : isAuthorized ⟨call.method, call.uri, (call.identified generated).headers, params,
      body⟩ = decide (Bears call) := by
    rw [Bool.eq_iff_iff, isAuthorized_iff, decide_eq_true_iff, hheaders]
    rfl
  rw [demandOf, hbears]

theorem octets_of_readBody? {limit : Nat} {call : Call} {body : Bytes}
    (h : Call.readBody? limit call.chunks = some body) : octets call = body := by
  unfold octets
  generalize call.chunks = chunks at h
  induction chunks generalizing limit body with
  | nil => exact Option.some.inj h
  | cons chunk rest ih =>
      cases chunk with
      | none => cases h
      | some piece =>
          rw [Call.readBody?] at h
          split at h
          · cases h
          · obtain ⟨behind, hbehind, rfl⟩ := Option.map_eq_some_iff.mp h
            rw [List.flatMap_cons, ih hbehind]
            rfl

theorem namedId?_append {text : String} (h : IsSegment text) :
    namedId? ("/users/" ++ text) = (Percent.decodeText? text).bind unsignedWord? := by
  have hpath : "/users/" ++ text = joinSegments ["users", text] := by
    apply String.toList_inj.mp
    simp [joinSegments]
  have hsegments : segments ("/users/" ++ text) = ["users", text] := by
    rw [hpath]
    exact segments_joinSegments
      (List.forall_mem_cons.mpr ⟨⟨by decide, by decide⟩, List.forall_mem_singleton.mpr h⟩)
  simp only [namedId?, hsegments]

end Calls

section Reactions

variable {config : Config} {call : Call} {users : Users}

/-- A response before it is framed, and the register afterwards. -/
structure Reaction where
  response : Response
  users : Users

/-- An answer shows a reaction: its status, its body unless that is left out, and its
register. -/
structure Shows (served : Served Users Response) (method : Method) (r : Reaction) : Prop where
  status : served.response.status = r.response.status
  body : served.response.body =
    if method = .connect && r.response.status.isSuccess || method = .head then []
    else r.response.body
  users : register.stateIn served.states = r.users

/-- What a call can come to: the register stays as it is, one user is created, or one is
removed. -/
inductive Step (call : Call) (users : Users) : Reaction → Prop
  | still {response : Response} (h : Inert call response.status) :
      Step call users ⟨response, users⟩
  | creates {name : String} (hbears : Bears call) (hmethod : call.method = .post)
      (hpath : call.uri.path = "/users") (hname : postedName? call = some name) :
      Step call users
        ⟨((Reply.json (users.create name).1.toJson).withStatus .created).toResponse,
          (users.create name).2⟩
  | removes {id : Nat} {user : User} (hbears : Bears call) (hmethod : call.method = .delete)
      (hid : namedId? call.uri.path = some id) (hfound : users.find? id = some user) :
      Step call users ⟨Reply.noContent.toResponse, users.remove id⟩

theorem inert_of_status {status : Status} (hcreated : status ≠ .created)
    (hnone : status ≠ .noContent) : Inert call status :=
  ⟨fun h => hcreated h.2, fun h => hnone h.2⟩

theorem Step.created {r : Reaction} (h : Step call users r) (hmethod : call.method = .post)
    (hstatus : r.response.status = .created) : ∃ name, postedName? call = some name ∧
      r = ⟨((Reply.json (users.create name).1.toJson).withStatus .created).toResponse,
        (users.create name).2⟩ := by
  cases h with
  | still hinert => exact absurd ⟨hmethod, hstatus⟩ hinert.not_created
  | @creates name _ _ _ hname => exact ⟨name, hname, rfl⟩
  | removes _ hdelete _ _ => exact absurd (hmethod.symm.trans hdelete) (by decide)

theorem Step.users_of_inert {r : Reaction} (h : Step call users r)
    (hinert : Inert call r.response.status) : r.users = users := by
  cases h with
  | still _ => rfl
  | creates _ hmethod _ _ => exact absurd ⟨hmethod, rfl⟩ hinert.not_created
  | removes _ hmethod _ _ => exact absurd ⟨hmethod, rfl⟩ hinert.not_removed

/-- Only a call with a bearer token changes the register. -/
theorem Step.users_of_not_bears {r : Reaction} (h : Step call users r) (hbears : ¬ Bears call) :
    r.users = users := by
  cases h with
  | still _ => rfl
  | creates hcaller _ _ _ => exact absurd hcaller hbears
  | removes hcaller _ _ _ => exact absurd hcaller hbears

/-- An error changes nothing. -/
theorem step_of_error {error : HttpError} (h : 400 ≤ error.status.code) :
    Step call users ⟨error.toReply.toResponse, users⟩ := by
  have hcode {status : Status} (hstatus : status.code < 400) : error.status ≠ status := by
    rintro rfl
    omega
  exact .still (inert_of_status (hcode (by decide)) (hcode (by decide)))

theorem inert_of_get (h : call.method = .get ∨ call.method = .head) (status : Status) :
    Inert call status := by
  constructor
  · rintro ⟨hpost, -⟩
    rw [hpost] at h
    revert h
    decide
  · rintro ⟨hdelete, -⟩
    rw [hdelete] at h
    revert h
    decide

/-- Behind the guard a verdict is a step if it is one for a call with a token. -/
theorem step_guarded {v : Verdict} {demand : Demand}
    (hauthorized : demand.authorized = decide (Bears call))
    (hstep : Bears call → Step call users ⟨(v demand users).1.toResponse, (v demand users).2⟩) :
    let outcome := guarded v demand users
    Step call users ⟨outcome.1.toResponse, outcome.2⟩ := by
  intro outcome
  by_cases hbears : Bears call
  · have houtcome : outcome = v demand users :=
      guarded_of_authorized (hauthorized.trans (decide_eq_true hbears)) v users
    rw [houtcome]
    exact hstep hbears
  · have houtcome : outcome = ((HttpError.unauthorized "Missing bearer token").toReply, users) :=
      guarded_of_not_authorized (hauthorized.trans (decide_eq_false hbears)) v users
    rw [houtcome]
    exact step_of_error (Nat.le_succ 400)

theorem step_creating (hmethod : call.method = .post) (hpath : call.uri.path = "/users")
    (params : SortedMap String String) :
    let outcome := guarded creating ⟨decide (Bears call), params, octets call⟩ users
    Step call users ⟨outcome.1.toResponse, outcome.2⟩ := by
  apply step_guarded rfl
  intro hbears
  cases hvalue : Json.readAs newUser (octets call) with
  | error fault =>
      simp only [creating, hvalue]
      exact step_of_error (Nat.le_refl 400)
  | ok value =>
      simp only [creating, hvalue]
      apply Step.creates hbears hmethod hpath
      simp only [postedName?, hvalue]

theorem step_removing (hmethod : call.method = .delete) {demand : Demand}
    (hauthorized : demand.authorized = decide (Bears call))
    (hid : namedId? call.uri.path = demand.id?) :
    let outcome := guarded removing demand users
    Step call users ⟨outcome.1.toResponse, outcome.2⟩ := by
  apply step_guarded hauthorized
  intro hbears
  unfold removing
  cases hdemand : demand.id? with
  | none => exact step_of_error (Nat.le_refl 400)
  | some id =>
      simp only
      cases hfound : users.find? id with
      | none => exact step_of_error (Nat.le_of_ble_eq_true rfl)
      | some user => exact Step.removes hbears hmethod (hid.trans hdemand) hfound

/-- In time an answer shows what is delivered. -/
theorem shows_of_deliver (htime : config.timeouts.requestSecs ≠ 0) {generated : Bytes}
    {states : States Users} {served : Served Users (Option Response)} {response : Response}
    (h : (service config).deliver (call.identified generated) states
      ((service config).router.route call.method call.uri.path) = served)
    (hresponse : served.response = some response) :
    Shows ((service config).answer call generated states) call.method
      ⟨response, register.stateIn served.states⟩ := by
  have htime' : (service config).milliseconds ≠ 0 := by
    have hms : (service config).milliseconds = 1000 * config.timeouts.requestSecs := rfl
    omega
  unfold Application.answer Application.deliverInTime
  simp only [if_neg htime', h, hresponse, Application.conclude]
  constructor
  · simp
  · simp [Response.framedFor_body]
  · rfl

theorem deliver_entry {e : Entry Users} {captured : List (String × String)}
    {params : SortedMap String String} (hdecoded : Router.decodeCaptured captured = .ok params)
    (states : States Users) :
    (service config).deliver call states (.target (.entry e) captured) =
      e.answer params call config.limits.maxBodyBytes (some (service config).milliseconds)
        states := by
  rw [Application.deliver, hdecoded]
  rfl

/-- A call that an entry admits shows the verdict of the entry. -/
theorem shows_of_entry (htime : config.timeouts.requestSecs ≠ 0) {e : Entry Users} {v : Verdict}
    (hreaches : Reaches e v) {captured : List (String × String)}
    {params : SortedMap String String} {body : Bytes}
    (hroute : (service config).router.route call.method call.uri.path =
      .target (.entry e) captured)
    (hdecoded : Router.decodeCaptured captured = .ok params)
    (hvalid : e.schema.validate params = .ok ())
    (hbody : Call.readBody? config.limits.maxBodyBytes call.chunks = some body)
    (generated : Bytes) (states : States Users) :
    let outcome := v ⟨decide (Bears call), params, body⟩ (register.stateIn states)
    Shows ((service config).answer call generated states) call.method
      ⟨outcome.1.toResponse, outcome.2⟩ := by
  intro outcome
  obtain ⟨hcontroller, hserves⟩ := hreaches
  have hprepare : e.prepare params (call.identified generated) config.limits.maxBodyBytes =
      .ok ⟨call.method, call.uri, (call.identified generated).headers, params, body⟩ :=
    Entry.prepare_of_read hvalid hbody
  obtain ⟨left, hleft, hreply⟩ := hserves
    ⟨call.method, call.uri, (call.identified generated).headers, params, body⟩
    (register.stateIn states) (some (service config).milliseconds)
  rw [demandOf_identified] at hleft hreply
  have hanswer : e.answer params (call.identified generated) config.limits.maxBodyBytes
      (some (service config).milliseconds) states =
        ⟨some outcome.1.toResponse, states.insert register.number outcome.2, left.journal,
          some (e.sample outcome.1.status)⟩ := by
    rw [Entry.answer, hprepare]
    simp only [Entry.serve, hcontroller, hleft, hreply, Option.getD_some, outcome]
  have hshows : Shows ((service config).answer call generated states) call.method
      ⟨outcome.1.toResponse, register.stateIn (states.insert register.number outcome.2)⟩ :=
    shows_of_deliver htime (hroute ▸ (deliver_entry hdecoded states).trans hanswer) rfl
  rw [register.stateIn_insert_self] at hshows
  exact hshows

/-- A call that breaks the rule of an entry, or whose body cannot be read, is answered
with an error. -/
theorem exists_error_of_prepare {e : Entry Users} {params : SortedMap String String}
    {maxBody : Nat} (h : ¬ (e.schema.validate params = .ok () ∧
      ∃ body, Call.readBody? maxBody call.chunks = some body)) :
    ∃ error : HttpError, 400 ≤ error.status.code ∧ ∀ generated,
      e.prepare params (call.identified generated) maxBody = .error error := by
  cases hvalid : e.schema.validate params with
  | error error =>
      refine ⟨error, ?_, fun generated => Entry.prepare_of_invalid hvalid⟩
      unfold Schema.validate at hvalid
      split at hvalid
      · obtain rfl := Except.error.inj hvalid
        exact Nat.le_refl 400
      · cases hvalid
  | ok _ =>
      cases hbody : Call.readBody? maxBody call.chunks with
      | some body => exact absurd ⟨hvalid, body, hbody⟩ h
      | none =>
          refine ⟨Entry.bodyLimitError maxBody, Nat.le_of_ble_eq_true rfl, ?_⟩
          intro generated
          exact Entry.prepare_of_unread hvalid hbody

theorem shows_of_error (htime : config.timeouts.requestSecs ≠ 0) {e : Entry Users}
    {captured : List (String × String)} {params : SortedMap String String} {error : HttpError}
    (hroute : (service config).router.route call.method call.uri.path =
      .target (.entry e) captured)
    (hdecoded : Router.decodeCaptured captured = .ok params) {generated : Bytes}
    (hprepare : e.prepare params (call.identified generated) config.limits.maxBodyBytes =
      .error error) (states : States Users) :
    Shows ((service config).answer call generated states) call.method
      ⟨error.toReply.toResponse, register.stateIn states⟩ := by
  have hanswer : e.answer params (call.identified generated) config.limits.maxBodyBytes
      (some (service config).milliseconds) states =
        ⟨some error.toReply.toResponse, states, [.rejected e.path error],
          some (e.sample error.status)⟩ := by
    rw [Entry.answer, hprepare]
  exact shows_of_deliver htime (hroute ▸ (deliver_entry hdecoded states).trans hanswer) rfl

/-- A reaction to a call for each register: the answers show it whatever id was
generated, and it is a step. -/
structure Reacts (config : Config) (call : Call) (react : Users → Reaction) : Prop where
  shows : ∀ generated states, Shows ((service config).answer call generated states) call.method
    (react (register.stateIn states))
  step : ∀ users, Step call users (react users)

/-- An entry whose verdict is a step has reactions. -/
theorem exists_reacts_of_entry (htime : config.timeouts.requestSecs ≠ 0) {e : Entry Users}
    {v : Verdict} (hreaches : Reaches e v) {captured : List (String × String)}
    {params : SortedMap String String}
    (hroute : (service config).router.route call.method call.uri.path =
      .target (.entry e) captured)
    (hdecoded : Router.decodeCaptured captured = .ok params)
    (hstep : ∀ users, let outcome := v ⟨decide (Bears call), params, octets call⟩ users
      Step call users ⟨outcome.1.toResponse, outcome.2⟩) :
    ∃ react, Reacts config call react := by
  by_cases hadmitted : e.schema.validate params = .ok () ∧
      ∃ body, Call.readBody? config.limits.maxBodyBytes call.chunks = some body
  · obtain ⟨hvalid, body, hbody⟩ := hadmitted
    rw [octets_of_readBody? hbody] at hstep
    exact ⟨_, shows_of_entry htime hreaches hroute hdecoded hvalid hbody, hstep⟩
  · obtain ⟨error, hcode, hprepare⟩ := exists_error_of_prepare hadmitted
    refine ⟨fun users => ⟨error.toReply.toResponse, users⟩, ?_, fun users => step_of_error hcode⟩
    intro generated states
    exact shows_of_error htime hroute hdecoded (hprepare generated) states

/-- What is delivered without the register is a reaction if it is no change. -/
theorem reacts_of_fixed (htime : config.timeouts.requestSecs ≠ 0) (response : Response)
    (h : ∀ generated states, (service config).deliver (call.identified generated) states
      ((service config).router.route call.method call.uri.path) =
        Application.fixed response states) (hinert : Inert call response.status) :
    Reacts config call fun users => ⟨response, users⟩ := by
  constructor
  · intro generated states
    exact shows_of_deliver htime (h generated states) rfl
  · intro users
    exact .still hinert

section Places

variable {target : Target Users}

theorem exists_reacts_of_users (htime : config.timeouts.requestSecs ≠ 0)
    (hpath : call.uri.path = "/users") (htarget : usersSite.target? call.method = some target)
    (hroute : (service config).router.route call.method call.uri.path = .target target []) :
    ∃ react, Reacts config call react := by
  have hdecoded : Router.decodeCaptured [] = .ok SortedMap.empty := rfl
  rw [target?_of_targets rfl (by decide)] at htarget
  split at htarget
  · next hmethod =>
    obtain rfl := Option.some.inj htarget
    apply exists_reacts_of_entry htime reaches_listEntry hroute hdecoded
    intro users
    exact .still (inert_of_get hmethod _)
  · split at htarget
    · next hmethod =>
      obtain rfl := Option.some.inj htarget
      apply exists_reacts_of_entry htime reaches_createEntry hroute hdecoded
      intro users
      exact step_creating hmethod hpath SortedMap.empty
    · cases htarget

theorem decodeCaptured_id {segment text : String} (h : Percent.decodeText? segment = some text) :
    Router.decodeCaptured [("id", segment)] = .ok (SortedMap.empty.insert "id" text) := by
  simp only [Router.decodeCaptured, Router.decodeCaptured.go, h]

/-- An entry of a user has reactions if its verdict is a step for every id that can be
decoded. -/
theorem exists_reacts_of_text (htime : config.timeouts.requestSecs ≠ 0) {e : Entry Users}
    {v : Verdict} (hreaches : Reaches e v) {text : String}
    (hroute : (service config).router.route call.method call.uri.path =
      .target (.entry e) [("id", text)])
    (hstep : ∀ word, Percent.decodeText? text = some word → ∀ users,
      let outcome := v ⟨decide (Bears call), SortedMap.empty.insert "id" word, octets call⟩ users
      Step call users ⟨outcome.1.toResponse, outcome.2⟩) : ∃ react, Reacts config call react := by
  cases hdecode : Percent.decodeText? text with
  | none =>
      have hundecoded : Router.decodeCaptured [("id", text)] = .error "id" := by
        simp only [Router.decodeCaptured, Router.decodeCaptured.go, hdecode]
      refine ⟨_, reacts_of_fixed htime (Application.undecodable "id") ?_ ?_⟩
      · intro generated states
        rw [hroute, Application.deliver, hundecoded]
      · exact inert_of_status (by decide) (by decide)
  | some word =>
      exact exists_reacts_of_entry htime hreaches hroute (decodeCaptured_id hdecode)
        (hstep word hdecode)

theorem exists_reacts_of_user (htime : config.timeouts.requestSecs ≠ 0) {text : String}
    (htext : IsSegment text) (hpath : call.uri.path = "/users/" ++ text)
    (htarget : userSite.target? call.method = some target)
    (hroute : (service config).router.route call.method call.uri.path =
      .target target [("id", text)]) : ∃ react, Reacts config call react := by
  rw [target?_of_targets rfl (by decide)] at htarget
  split at htarget
  · next hmethod =>
    obtain rfl := Option.some.inj htarget
    apply exists_reacts_of_text htime reaches_getEntry hroute
    intro word _ users outcome
    have hsame : outcome.2 = users := reading_users _ users
    rw [hsame]
    exact .still (inert_of_get hmethod _)
  · split at htarget
    · next hmethod =>
      obtain rfl := Option.some.inj htarget
      apply exists_reacts_of_text htime reaches_removeEntry hroute
      intro word hword users
      apply step_removing hmethod rfl
      rw [hpath, namedId?_append htext, hword, Demand.id?, SortedMap.get?_insert_self]
    · cases htarget

theorem exists_reacts_of_health (htime : config.timeouts.requestSecs ≠ 0)
    (htarget : healthSite.target? call.method = some target)
    (hroute : (service config).router.route call.method call.uri.path = .target target []) :
    ∃ react, Reacts config call react := by
  have hpage : target = .page healthPage := by
    have hown {method : Method} (hown : healthSite.own? method = some target) :
        target = .page healthPage := by
      obtain ⟨found, hfound, rfl⟩ := Option.map_eq_some_iff.mp hown
      obtain rfl := List.mem_singleton.mp (List.mem_of_find?_eq_some hfound)
      rfl
    unfold Site.target? at htarget
    split at htarget
    · next found hfound => exact hown (htarget ▸ hfound)
    · split at htarget
      · exact hown htarget
      · cases htarget
  subst hpage
  refine ⟨_, reacts_of_fixed htime healthPage ?_ ?_⟩
  · intro generated states
    rw [hroute]
    rfl
  · exact inert_of_status (by decide) (by decide)

/-- Every call has a reaction, whatever the register is and whatever id is generated for
it. -/
theorem exists_reacts (config : Config) (call : Call) : ∃ react, Reacts config call react := by
  by_cases htime : config.timeouts.requestSecs = 0
  · refine ⟨fun users => ⟨Response.empty .requestTimeout, users⟩, ?_, ?_⟩
    · intro generated states
      have hzero : (service config).milliseconds = 0 := by
        have hms : (service config).milliseconds = 1000 * config.timeouts.requestSecs := rfl
        omega
      unfold Application.answer Application.deliverInTime
      simp only [if_pos hzero, Application.conclude]
      exact ⟨by simp, by simp [Response.framedFor_body], rfl⟩
    · intro users
      exact .still (inert_of_status (by decide) (by decide))
  · cases hsite : (service config).router.site? call.uri.path with
    | none =>
        have hroute : (service config).router.route call.method call.uri.path = .nowhere := by
          simp only [Router.route, hsite]
        refine ⟨_, reacts_of_fixed htime Application.notFound.toReply.toResponse ?_ ?_⟩
        · intro generated states
          rw [hroute]
          rfl
        · exact inert_of_status (by decide) (by decide)
    | some best =>
        obtain ⟨s, captured⟩ := best
        have hleads := site?_eq_some_iff_leads.mp hsite
        have hroute := route_of_leads config hleads call.method
        cases htarget : s.target? call.method with
        | none =>
            rw [htarget] at hroute
            refine ⟨_, reacts_of_fixed htime (Response.empty .methodNotAllowed) ?_ ?_⟩
            · intro generated states
              rw [hroute]
              rfl
            · exact inert_of_status (by decide) (by decide)
        | some target =>
            rw [htarget] at hroute
            cases hleads with
            | users hpath => exact exists_reacts_of_users htime hpath htarget hroute
            | user htext hpath => exact exists_reacts_of_user htime htext hpath htarget hroute
            | health _ => exact exists_reacts_of_health htime htarget hroute

end Places

end Reactions

end RouteTree.Demo
