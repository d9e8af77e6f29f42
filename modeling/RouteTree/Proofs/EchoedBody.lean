import RouteTree.Body
import RouteTree.Proofs.Admission
import RouteTree.Proofs.JsonRoundTrip
import RouteTree.Proofs.ResponseOrigin

/-!
# Bodies that come back

A handler that answers with the JSON of its request's body is answered by that body,
octet by octet, if the body is the compact text of a value: the value is read back from
the body, goes through the handler and its reply as it is, and is printed as it was.
-/

namespace RouteTree

/-- Answer with the body of the request. -/
def Handler.echo {σ : Type} : Handler σ := fun request =>
  .ofExcept ((request.json .any).map Datum.json)

/-- A response with status 200 that has a body of JSON. -/
structure Response.Shows (response : Response) (body : Bytes) : Prop where
  status : response.status = .ok
  contentType : response.headers.get? contentType = some (Utf8.ofString "application/json")
  body : response.body = body

namespace Pipeline

variable {σ : Type}

/-- Guards that have let a request pass have left no reply. -/
theorem reply_of_checkGuards_passed {request : Request} {guards : List Guard} {scene left : Scene}
    (hreply : scene.exchange.reply = none)
    (h : checkGuards request guards scene = (.ok .passed, left)) : left.exchange.reply = none := by
  induction guards generalizing scene with
  | nil =>
      cases h
      exact hreply
  | cons guard guards ih =>
      rw [checkGuards] at h
      cases hresult : ((guard request).run () scene).result with
      | error stop => simp [hresult] at h
      | ok value =>
          cases hreplied : ((guard request).run () scene).scene.exchange.isReplied with
          | true => simp [hresult, hreplied] at h
          | false =>
              simp only [hresult, hreplied, Bool.false_eq_true, if_false] at h
              exact ih (Option.isNone_iff_eq_none.mp (Option.isSome_eq_false_iff.mp hreplied)) h

/-- Once the guards have let a request pass, what the handler answers at once is the
reply. -/
theorem serve_of_passed {p : Pipeline σ} {request : Request} {scene : Scene} {v : Json}
    (hreply : scene.exchange.reply = none)
    (hguards : (runGuards p.guards request scene).1 = .ok .passed)
    (hhandler : p.handler request = .succeed (.json v)) (hv : v ≠ .null) (own : σ) :
    (p.serve request own scene).completed = true ∧
      (p.serve request own scene).scene.exchange.reply = some (Reply.json v) := by
  obtain ⟨left, hleft⟩ : ∃ left, runGuards p.guards request scene = (.ok .passed, left) :=
    ⟨_, Prod.ext hguards rfl⟩
  have hnone : left.exchange.reply = none := by
    apply reply_of_checkGuards_passed _ hleft
    exact hreply
  have hdispatch : dispatch p.handler request own left =
      ⟨.ok (), own, ((left.enter .handlerRunning).send (Reply.json v)).2.enter .replied⟩ := by
    have hinvoke : p.handler.invoke request own (left.enter .handlerRunning) =
        ⟨.ok v, own, left.enter .handlerRunning⟩ := by
      rw [Handler.invoke, hhandler, Stage.succeed, Stage.run, encodeResult, Datum.encode_json]
    have hidle : (left.enter .handlerRunning).exchange.isReplied = false := by
      rw [Exchange.isReplied, Scene.enter_reply, hnone]
      rfl
    rw [dispatch, hinvoke]
    simp only [hidle, Bool.false_eq_true, if_false, replyOf_of_ne hv]
  rw [serve, hleft]
  simp only [hdispatch, settle]
  refine ⟨trivial, ?_⟩
  rw [Scene.enter_reply, Scene.enter_reply, Scene.send_reply, Scene.enter_reply, hnone,
    Option.getD_none]

end Pipeline

/-- A plain value is read back from a body that is its compact text. -/
theorem Handler.echo_eq {σ : Type} {request : Request} {v : Json}
    (hplain : v.Plain Json.Reader.depthLimit) (hbody : request.body = Utf8.ofString v.print) :
    echo (σ := σ) request = .succeed (.json v) := by
  have hread : request.json .any = .ok v := by
    rw [Request.json, hbody, Json.readAs_print hplain]
    rfl
  rw [echo, hread]
  rfl

theorem Reply.shows_toResponse (v : Json) :
    (Reply.json v).toResponse.Shows (Utf8.ofString v.print) := ⟨rfl, rfl, rfl⟩

namespace Entry

variable {σ : Type}

/-- The captured parameters of a request keep all rules of an entry, and the guards of
the entry let the request pass. -/
structure LetsPass (e : Entry σ) (request : Request) (remaining : Option Nat) : Prop where
  keeps : ∀ name rule, ¬ e.schema.Breaks request.params name rule
  passed : (Pipeline.runGuards e.guards request ⟨Exchange.fresh, [], remaining⟩).1 = .ok .passed

variable {e : Entry σ} {call : Call} {params : SortedMap String String} {maxBody : Nat}
  {remaining : Option Nat} {body : Bytes} {v : Json}

theorem prepare_of_keeps (hkeeps : ∀ name rule, ¬ e.schema.Breaks params name rule)
    (hcarries : call.Carries body) (hlimit : body.length ≤ maxBody) :
    e.prepare params call maxBody =
      .ok ⟨call.method, call.uri, call.headers, params, body⟩ := by
  obtain ⟨pieces, hchunks, rfl⟩ := hcarries
  apply prepare_of_read (Schema.validate_eq_ok_iff.mpr hkeeps)
  rw [hchunks, Call.readBody?_map_some, if_pos hlimit]

/-- An entry that echoes answers a plain value with its own text. -/
theorem answer_of_echo (hplain : v.Plain Json.Reader.depthLimit) (hv : v ≠ .null)
    (he : e.handler = Handler.echo) (hcarries : call.Carries (Utf8.ofString v.print))
    (hlimit : (Utf8.ofString v.print).length ≤ maxBody)
    (hpass : e.LetsPass ⟨call.method, call.uri, call.headers, params, Utf8.ofString v.print⟩
      remaining) (states : States σ) :
    (e.answer params call maxBody remaining states).response =
      some (Reply.json v).toResponse := by
  have hhandler : e.pipeline.handler
      ⟨call.method, call.uri, call.headers, params, Utf8.ofString v.print⟩ =
        .succeed (.json v) := by
    rw [handler] at he
    rw [he]
    exact Handler.echo_eq hplain rfl
  have hfresh : (Scene.mk Exchange.fresh [] remaining).exchange.reply = none := rfl
  obtain ⟨hcompleted, hreply⟩ := Pipeline.serve_of_passed (p := e.pipeline) hfresh hpass.passed
    hhandler hv (e.controller.stateIn states)
  rw [answer, prepare_of_keeps hpass.keeps hcarries hlimit]
  simp only [serve, hcompleted, hreply, Option.getD_some]

end Entry

namespace Application

variable {σ : Type}

/-- A response that leaves for a method shows a body, unless responses to that method
have none. -/
theorem shows_framedFor {destination : Destination (Target σ)} {id : Bytes} {response : Response}
    {body : Bytes} (h : response.Shows body) (method : Method) :
    ((listServed destination (conclude id (some response))).framedFor method).Shows
      (if method = .connect ∨ method = .head then [] else body) := by
  constructor
  · rw [Response.framedFor_status, listServed_status]
    exact h.status
  · rw [Response.get?_framedFor _ _ (by decide), get?_listServed _ _ (by decide)]
    exact (response.headers.get?_setIfAbsent_of_ne _ (by decide)).trans h.contentType
  · have hstatus :
        (listServed destination (conclude id (some response))).status.isSuccess = true := by
      rw [listServed_status, conclude, Response.withHeaderIfAbsent_status, h.status]
      rfl
    have hbody : (listServed destination (conclude id (some response))).body = body := by
      rw [listServed_body]
      exact h.body
    rw [Response.framedFor_body, hstatus, hbody, Bool.and_true]
    simp only [Bool.or_eq_true, decide_eq_true_eq]

/-- A call whose body is the compact text of a plain value other than `null` comes to an
entry that echoes, within the limits of body and time. Then it is answered with status
200 and a body of JSON that is its own body, octet by octet. On the way out only the
responses to HEAD and to a granted tunnel lose their bodies. -/
theorem answer_echoes_body {v : Json} (hplain : v.Plain 127) (hv : v ≠ .null) {e : Entry σ}
    (he : e.handler = Handler.echo) {call : Call}
    (hcarries : call.Carries (Utf8.ofString v.print)) :
    (∀ params maxBody remaining states, (Utf8.ofString v.print).length ≤ maxBody →
      e.LetsPass ⟨call.method, call.uri, call.headers, params, Utf8.ofString v.print⟩ remaining →
      ∃ response, (e.answer params call maxBody remaining states).response = some response ∧
        response.Shows (Utf8.ofString v.print)) ∧
    ∀ (app : Application σ) generated states captured params, app.milliseconds ≠ 0 →
      (Utf8.ofString v.print).length ≤ app.maxBody →
      app.router.route call.method call.uri.path = .target (.entry e) captured →
      Router.decodeCaptured captured = .ok params →
      e.LetsPass ⟨call.method, call.uri, (call.identified generated).headers, params,
        Utf8.ofString v.print⟩ (some app.milliseconds) →
      (app.answer call generated states).response.Shows
        (if call.method = .connect ∨ call.method = .head then [] else Utf8.ofString v.print) := by
  constructor
  · intro params maxBody remaining states hlimit hpass
    exact ⟨_, Entry.answer_of_echo hplain hv he hcarries hlimit hpass states,
      Reply.shows_toResponse v⟩
  · intro app generated states captured params htime hlimit hroute hcaptured hpass
    have hidentified : (call.identified generated).Carries (Utf8.ofString v.print) := hcarries
    have hdelivered : (app.deliverInTime (call.identified generated) states
        (app.router.route call.method call.uri.path)).response =
          some (Reply.json v).toResponse := by
      rw [deliverInTime, if_neg htime, hroute]
      simp only [deliver, hcaptured]
      exact Entry.answer_of_echo hplain hv he hidentified hlimit hpass states
    rw [answer, hdelivered]
    exact shows_framedFor (Reply.shows_toResponse v) call.method

/-- A controller whose handler echoes. -/
def parrot : Controller Unit :=
  { typeName := "Parrot"
    label := "Parrot"
    initial := ()
    handlers := [("echo", Handler.echo)] }

/-- A leaf that echoes behind a guard that only takes note. -/
def perch : List (Route Unit) :=
  [.node (((((Node.empty.withPath "echo").withMethod .post).withController parrot).withHandler
    "echo").withGuard fun _ => .note "seen" (.succeed ())) []]

/-- A server that echoes. -/
def aviary : Server Unit := ((Server.new {}).declare perch).server

/-- The server at work. -/
def chorus : Application Unit :=
  match aviary.assemble.1 with
  | .ok app => app
  | .error _ => ⟨Router.empty, 0, 0⟩

/-- The entry of the leaf. -/
def echoing : Entry Unit :=
  { method := .post
    path := "/echo"
    schema := SortedMap.empty
    checks := SortedMap.empty
    options := SortedMap.empty
    controller := ⟨1, parrot⟩
    handlerName := "echo"
    guardCount := 1
    pipeline :=
      { method := .post
        path := "/echo"
        guards := [fun _ => .note "seen" (.succeed ())]
        handler := Handler.echo } }

theorem route_chorus : chorus.router.route .post "/echo" = .target (.entry echoing) [] := by
  rfl

/-- A value with the least and the greatest integer, escapes and characters of all
lengths. -/
def song : Json :=
  .object [("\"\\\x01", .array [.number (.integer (-0x8000000000000000)), .null, .bool true]),
    ("é€😀", .number (.integer 0xFFFFFFFFFFFFFFFF))]

theorem plain_song : song.Plain 127 := by
  have hitems : ∀ item ∈ [Json.number (.integer (-0x8000000000000000)), .null, .bool true],
      item.Plain 125 := by
    simp only [List.forall_mem_cons]
    exact ⟨.integer rfl, .null, .bool true, List.forall_mem_nil _⟩
  refine .object (by unfold Ascending; decide) ?_
  simp only [List.forall_mem_cons]
  exact ⟨.array hitems, .integer rfl, List.forall_mem_nil _⟩

/-- A call with the text of the value, in one piece. -/
def singing : Call :=
  ⟨.post, { (default : Uri) with path := "/echo" }, Headers.empty,
    [some (Utf8.ofString song.print)]⟩

theorem chorus_echoes_song :
    aviary.assemble.1 = .ok chorus ∧ song.Plain 127 ∧
      singing.Carries (Utf8.ofString song.print) ∧
      (∃ response, (echoing.answer SortedMap.empty singing 1024 none SortedMap.empty).response =
        some response ∧ response.Shows (Utf8.ofString song.print)) ∧
      (chorus.answer singing [0x67] SortedMap.empty).response.Shows
        (Utf8.ofString song.print) := by
  have hcarries : singing.Carries (Utf8.ofString song.print) :=
    ⟨[Utf8.ofString song.print], rfl, (List.append_nil _).symm⟩
  have hpass (headers : Headers) (remaining : Option Nat) : echoing.LetsPass
      ⟨.post, singing.uri, headers, SortedMap.empty, Utf8.ofString song.print⟩ remaining :=
    ⟨Schema.validate_eq_ok_iff.mp rfl, rfl⟩
  have hshort : (Utf8.ofString song.print).length ≤ 1024 := by decide +kernel
  have hlimit : chorus.maxBody = 2097152 := by rfl
  obtain ⟨hentry, happ⟩ := answer_echoes_body plain_song (fun h => nomatch h)
    (e := echoing) rfl hcarries
  have hshown := happ chorus [0x67] SortedMap.empty [] SortedMap.empty (by decide +kernel)
    (by rw [hlimit]; omega) route_chorus rfl (hpass _ _)
  rw [if_neg (by decide)] at hshown
  exact ⟨rfl, plain_song, hcarries,
    hentry SortedMap.empty 1024 none SortedMap.empty hshort (hpass _ _), hshown⟩

end Application

end RouteTree
