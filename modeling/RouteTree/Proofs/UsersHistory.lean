import RouteTree.Config.Validation
import RouteTree.Proofs.Admission
import RouteTree.Proofs.UsersLedger

/-!
# The history of the users service

Every answer of the service accords with the ledger of the answers before it: users get
the numbers of their creations as ids, and are listed, read and removed as long as they
are live. Nothing else changes the register.
-/

namespace RouteTree.Demo

section Numbers

variable {n : Nat}

/-- The ids that fit 64 bits with a sign are those below 2^63. -/
def idLimit : Nat := 0x8000000000000000

/-- The path of the user with an id. -/
def userPath (n : Nat) : String := "/users/" ++ toString n

theorem isSegment_toString (n : Nat) : IsSegment (toString n) := by
  refine ⟨?_, notMem_toString rfl⟩
  rw [Nat.toString_eq_repr]
  exact Nat.repr_ne_empty

theorem decodeText?_toString (n : Nat) : Percent.decodeText? (toString n) = some (toString n) := by
  apply Percent.decodeText?_of_isAscii
  · intro c hc
    apply Utf8.toNat_lt_of_isAlphanum
    simp [Char.isAlphanum, isDigit_of_mem_toString hc]
  · exact notMem_toString rfl

theorem unsignedWord?_toString (h : n < idLimit) : unsignedWord? (toString n) = some n := by
  apply naturalUpTo?_toString
  unfold idLimit at h
  omega

theorem namedId?_userPath (h : n < idLimit) : namedId? (userPath n) = some n := by
  rw [userPath, namedId?_append (isSegment_toString n), decodeText?_toString]
  exact unsignedWord?_toString h

/-- What a call demands of the user with an id. -/
def demandFor (call : Call) (n : Nat) : Demand :=
  ⟨decide (Bears call), SortedMap.empty.insert "id" (toString n), octets call⟩

theorem demandFor_id? (call : Call) (h : n < idLimit) :
    (demandFor call n).id? = some n := by
  rw [Demand.id?, demandFor, SortedMap.get?_insert_self]
  exact unsignedWord?_toString h

/-- The rule for ids lets a text pass if it is that of an integer. -/
theorem validate_idRule_text (text : String) :
    idRule.validate (SortedMap.empty.insert "id" text) =
      if Rule.integer.accepts text then .ok ()
      else .error (Schema.violationError "id" Rule.integer.requirement) := by
  have hentries : idRule.entries = [("id", .integer)] := rfl
  have hvalue : Schema.entryViolation? (SortedMap.empty.insert "id" text) ("id", .integer) =
      (Rule.integer.violation? text).map fun reason => ("id", reason) := by
    rw [Schema.entryViolation?, SortedMap.get?_insert_self]
    rfl
  rw [Schema.validate, Schema.violation?, hentries, List.findSome?_cons, hvalue, Rule.violation?]
  cases Rule.integer.accepts text <;> rfl

/-- The rule for ids lets a number pass if it fits 64 bits with a sign. -/
theorem validate_idRule (n : Nat) : idRule.validate (SortedMap.empty.insert "id" (toString n)) =
    if n < idLimit then .ok ()
    else .error (Schema.violationError "id" Rule.integer.requirement) := by
  have haccepts : Rule.integer.accepts (toString n) = true ↔ n < idLimit :=
    isSome_signedWord?_toString
  simp only [validate_idRule_text, haccepts]

theorem validate_idRule_of_lt (h : n < idLimit) :
    idRule.validate (SortedMap.empty.insert "id" (toString n)) = .ok () := by
  rw [validate_idRule, if_pos h]

end Numbers

section Answers

variable {config : Config} {call : Call} {n : Nat}

/-- A body arrives whole and within the limit. -/
def Readable (config : Config) (call : Call) : Prop :=
  ∃ body, call.Carries body ∧ body.length ≤ config.limits.maxBodyBytes

theorem readable_iff : Readable config call ↔
    ∃ body, Call.readBody? config.limits.maxBodyBytes call.chunks = some body := by
  constructor
  · rintro ⟨_, ⟨pieces, hchunks, rfl⟩, hlength⟩
    exact ⟨pieces.flatten, by rw [hchunks, Call.readBody?_map_some, if_pos hlength]⟩
  · rintro ⟨body, hbody⟩
    have hwhole : ∀ chunk ∈ call.chunks, chunk.isSome = true := by
      intro chunk hchunk
      cases chunk with
      | some piece => rfl
      | none => cases (Call.readBody?_of_none_mem _ hchunk).symm.trans hbody
    have hchunks : call.chunks = (call.chunks.filterMap id).map some := by
      rw [List.map_filterMap_some_eq_filter_map_isSome, List.map_id,
        List.filter_eq_self.mpr hwhole]
    rw [hchunks, Call.readBody?_map_some] at hbody
    split at hbody
    · next hlength => exact ⟨_, ⟨_, hchunks, rfl⟩, hlength⟩
    · cases hbody

/-- A call is for an entry, with the parameters that its path gives. -/
def IsFor (config : Config) (call : Call) (e : Entry Users) (params : SortedMap String String) :
    Prop :=
  ∃ captured, (service config).router.route call.method call.uri.path =
      .target (.entry e) captured ∧ Router.decodeCaptured captured = .ok params

theorem isFor_of_leads {s : Site (Target Users)} {captured : List (String × String)}
    {e : Entry Users} {params : SortedMap String String} (hleads : Leads call.uri.path s captured)
    (htarget : s.target? call.method = some (.entry e))
    (hdecoded : Router.decodeCaptured captured = .ok params) : IsFor config call e params := by
  refine ⟨captured, ?_, hdecoded⟩
  rw [route_of_leads config hleads, htarget]

theorem isFor_list (hmethod : call.method = .get) (hpath : call.uri.path = "/users") :
    IsFor config call listEntry SortedMap.empty :=
  isFor_of_leads (.users hpath) (hmethod ▸ rfl) rfl

theorem isFor_create (hmethod : call.method = .post) (hpath : call.uri.path = "/users") :
    IsFor config call createEntry SortedMap.empty :=
  isFor_of_leads (.users hpath) (hmethod ▸ rfl) rfl

theorem isFor_get (hmethod : call.method = .get) (hpath : call.uri.path = userPath n) :
    IsFor config call getEntry (SortedMap.empty.insert "id" (toString n)) :=
  isFor_of_leads (.user (isSegment_toString n) hpath) (hmethod ▸ rfl)
    (decodeCaptured_id (decodeText?_toString n))

theorem isFor_remove (hmethod : call.method = .delete) (hpath : call.uri.path = userPath n) :
    IsFor config call removeEntry (SortedMap.empty.insert "id" (toString n)) :=
  isFor_of_leads (.user (isSegment_toString n) hpath) (hmethod ▸ rfl)
    (decodeCaptured_id (decodeText?_toString n))

variable {e : Entry Users} {params : SortedMap String String}

/-- A call that the entry admits shows what the verdict comes to. -/
theorem IsFor.shows (h : IsFor config call e params) (htime : config.timeouts.requestSecs ≠ 0)
    {v : Verdict} (hreaches : Reaches e v) (hvalid : e.schema.validate params = .ok ())
    (hreadable : Readable config call) {states : States Users} {reply : Reply} {users : Users}
    (houtcome : v ⟨decide (Bears call), params, octets call⟩ (register.stateIn states) =
      (reply, users)) (generated : Bytes) :
    Shows ((service config).answer call generated states) call.method
      ⟨reply.toResponse, users⟩ := by
  obtain ⟨captured, hroute, hdecoded⟩ := h
  obtain ⟨body, hbody⟩ := readable_iff.mp hreadable
  rw [octets_of_readBody? hbody] at houtcome
  have hshows := shows_of_entry htime hreaches hroute hdecoded hvalid hbody generated states
  rw [houtcome] at hshows
  exact hshows

theorem IsFor.shows_violation (h : IsFor config call e params)
    (htime : config.timeouts.requestSecs ≠ 0) {error : HttpError}
    (hinvalid : e.schema.validate params = .error error) (generated : Bytes)
    (states : States Users) :
    Shows ((service config).answer call generated states) call.method
      ⟨error.toReply.toResponse, register.stateIn states⟩ := by
  obtain ⟨captured, hroute, hdecoded⟩ := h
  exact shows_of_error htime hroute hdecoded (Entry.prepare_of_invalid hinvalid) states

theorem IsFor.shows_unread (h : IsFor config call e params)
    (htime : config.timeouts.requestSecs ≠ 0) (hvalid : e.schema.validate params = .ok ())
    (hunread : ¬ Readable config call) (generated : Bytes) (states : States Users) :
    Shows ((service config).answer call generated states) call.method
      ⟨(Entry.bodyLimitError config.limits.maxBodyBytes).toReply.toResponse,
        register.stateIn states⟩ := by
  obtain ⟨captured, hroute, hdecoded⟩ := h
  have hnone : Call.readBody? config.limits.maxBodyBytes call.chunks = none :=
    Option.eq_none_iff_forall_ne_some.mpr fun body hbody => hunread (readable_iff.mpr ⟨body, hbody⟩)
  exact shows_of_error htime hroute hdecoded (Entry.prepare_of_unread hvalid hnone) states

end Answers

section Accord

variable {config : Config} {log : List Change} {call : Call} {states : States Users} {n : Nat}
  {served : Served Users Response} {r : Reaction} {users : Users}

/-- The octets of a printed value. -/
def printed (value : Json) : Bytes := Utf8.ofString value.print

/-- To GET and POST a printed value is answered as it stands. -/
theorem Shows.body_eq {reply : Reply} {value : Json}
    (h : Shows served call.method ⟨reply.toResponse, users⟩) (hvalue : reply.body = some value)
    (hmethod : call.method = .get ∨ call.method = .post) :
    served.response.body = printed value := by
  have hconnect : call.method ≠ .connect := by
    rcases hmethod with hget | hpost
    · rw [hget]
      decide
    · rw [hpost]
      decide
  have hhead : call.method ≠ .head := by
    rcases hmethod with hget | hpost
    · rw [hget]
      decide
    · rw [hpost]
      decide
  calc served.response.body
      = reply.toResponse.body := by rw [h.body, if_neg (by simp [hconnect, hhead])]
    _ = printed value := by rw [Reply.toResponse, hvalue]; rfl

/-- An answer accords with the ledger before it. -/
structure Accords (config : Config) (log : List Change) (call : Call) (states : States Users)
    (served : Served Users Response) : Prop where
  /-- A user that is created gets the number of the creation as its id, which nobody had
  before. -/
  created : call.method = .post → served.response.status = .created →
    ∃ name, postedName? call = some name ∧
      served.response.body = printed (User.toJson ⟨creations log + 1, name⟩) ∧
      ∀ u, Created log u → u.id ≠ creations log + 1
  /-- A name that is posted with a token is that of a new user. -/
  creates : call.method = .post → call.uri.path = "/users" → Bears call → Readable config call →
    postedName? call ≠ none → served.response.status = .created
  /-- The live users are listed in the order of their ids. -/
  lists : call.method = .get → call.uri.path = "/users" → Readable config call →
    served.response.status = .ok ∧ ∃ users : List User,
      served.response.body = printed (.array (users.map User.toJson)) ∧
      users.Pairwise (fun u v => u.id < v.id) ∧ ∀ u, u ∈ users ↔ Live log u
  /-- A user is found while it is live. -/
  reads : ∀ n, call.method = .get → call.uri.path = userPath n → Readable config call →
    (∀ u, Live log u → u.id = n →
      served.response.status = .ok ∧ served.response.body = printed u.toJson) ∧
    (n < idLimit → (∀ u, Live log u → u.id ≠ n) → served.response.status = .notFound)
  /-- A user that is live is removed, and nobody else is. -/
  removes : ∀ n, call.method = .delete → call.uri.path = userPath n → Bears call →
    Readable config call →
    (∀ u, Live log u → u.id = n → served.response.status = .noContent ∧
      ∀ v, Live (record log call .noContent) v ↔ Live log v ∧ v.id ≠ n) ∧
    (n < idLimit → (∀ u, Live log u → u.id ≠ n) → served.response.status = .notFound)
  /-- An id that does not fit 64 bits with a sign is refused. -/
  refuses : ∀ n, idLimit ≤ n → call.method = .get ∨ call.method = .delete →
    call.uri.path = userPath n → served.response.status = .badRequest
  /-- A body that cannot be read within the limit is refused. -/
  unread : ¬ Readable config call → call.method = .get ∧ call.uri.path = "/users" ∨
      (∃ n < idLimit, (call.method = .get ∨ call.method = .delete) ∧
        call.uri.path = userPath n) → served.response.status = .payloadTooLarge
  /-- The register represents the ledger afterwards. -/
  represents : Represents (register.stateIn served.states) (record log call served.response.status)
  /-- An answer that tells of no change leaves the register as it is. -/
  keeps : Inert call served.response.status → register.stateIn served.states =
    register.stateIn states

section Fields

variable (htime : config.timeouts.requestSecs ≠ 0)
  (hlog : Represents (register.stateIn states) log) (generated : Bytes)

include hlog in
theorem answer_created (hmethod : call.method = .post)
    (hstatus : ((service config).answer call generated states).response.status = .created) :
    ∃ name, postedName? call = some name ∧
      ((service config).answer call generated states).response.body =
        printed (User.toJson ⟨creations log + 1, name⟩) := by
  obtain ⟨react, hreact⟩ := exists_reacts config call
  have hshows := hreact.shows generated states
  obtain ⟨name, hname, husers⟩ :=
    (hreact.step _).created hmethod (hshows.status.symm.trans hstatus)
  refine ⟨name, hname, ?_⟩
  rw [husers] at hshows
  rw [hshows.body_eq rfl (Or.inr hmethod), Users.create, hlog.created]

include htime in
theorem answer_creates (hmethod : call.method = .post) (hpath : call.uri.path = "/users")
    (hbears : Bears call) (hreadable : Readable config call) (hname : postedName? call ≠ none) :
    ((service config).answer call generated states).response.status = .created := by
  cases hvalue : Json.readAs newUser (octets call) with
  | error fault =>
      have hnone : postedName? call = none := by simp only [postedName?, hvalue]
      exact absurd hnone hname
  | ok value =>
      have hcreated : guarded creating ⟨decide (Bears call), SortedMap.empty, octets call⟩
          (register.stateIn states) =
            ((Reply.json ((register.stateIn states).create (nameIn value)).1.toJson).withStatus
              .created, ((register.stateIn states).create (nameIn value)).2) := by
        rw [guarded_of_authorized (decide_eq_true hbears)]
        simp only [creating, hvalue]
      exact ((isFor_create hmethod hpath).shows htime reaches_createEntry rfl hreadable hcreated
        generated).status

include htime hlog in
theorem answer_lists (hmethod : call.method = .get) (hpath : call.uri.path = "/users")
    (hreadable : Readable config call) :
    let served := (service config).answer call generated states
    served.response.status = .ok ∧ ∃ users : List User,
      served.response.body = printed (.array (users.map User.toJson)) ∧
      users.Pairwise (fun u v => u.id < v.id) ∧ ∀ u, u ∈ users ↔ Live log u := by
  intro served
  let users := register.stateIn states
  have hshows : Shows served call.method
      ⟨(Reply.json (.array (users.toList.map User.toJson))).toResponse, users⟩ :=
    (isFor_list hmethod hpath).shows htime reaches_listEntry rfl hreadable rfl generated
  refine ⟨hshows.status, users.toList, ?_, ?_, ?_⟩
  · exact hshows.body_eq rfl (Or.inl hmethod)
  · exact users.pairwise_toList
  · intro u
    exact hlog.mem_toList_iff

include htime hlog in
theorem answer_reads (hmethod : call.method = .get) (hpath : call.uri.path = userPath n)
    (hreadable : Readable config call) (hn : n < idLimit) :
    let served := (service config).answer call generated states
    (∀ u, Live log u → u.id = n →
      served.response.status = .ok ∧ served.response.body = printed u.toJson) ∧
    ((∀ u, Live log u → u.id ≠ n) → served.response.status = .notFound) := by
  intro served
  have hid := demandFor_id? call hn
  have hshows {reply : Reply} {users : Users}
      (houtcome : reading (demandFor call n) (register.stateIn states) = (reply, users)) :
      Shows served call.method ⟨reply.toResponse, users⟩ :=
    (isFor_get hmethod hpath).shows htime reaches_getEntry (validate_idRule_of_lt hn) hreadable
      houtcome generated
  constructor
  · rintro u hlive rfl
    have hfound : reading (demandFor call u.id) (register.stateIn states) =
        (Reply.json u.toJson, register.stateIn states) := by
      simp only [reading, hid, hlog.find?_of_live hlive]
    exact ⟨(hshows hfound).status, (hshows hfound).body_eq rfl (Or.inl hmethod)⟩
  · intro hgone
    have hmissing : reading (demandFor call n) (register.stateIn states) =
        ((userNotFound n).toReply, register.stateIn states) := by
      simp only [reading, hid, hlog.find?_eq_none hgone]
    exact (hshows hmissing).status

include htime hlog in
theorem answer_removes (hmethod : call.method = .delete) (hpath : call.uri.path = userPath n)
    (hbears : Bears call) (hreadable : Readable config call) (hn : n < idLimit) :
    let served := (service config).answer call generated states
    (∀ u, Live log u → u.id = n → served.response.status = .noContent) ∧
    ((∀ u, Live log u → u.id ≠ n) → served.response.status = .notFound) := by
  intro served
  have hid := demandFor_id? call hn
  have hauthorized : (demandFor call n).authorized = true := decide_eq_true hbears
  have hshows {reply : Reply} {users : Users}
      (houtcome : guarded removing (demandFor call n) (register.stateIn states) = (reply, users)) :
      Shows served call.method ⟨reply.toResponse, users⟩ :=
    (isFor_remove hmethod hpath).shows htime reaches_removeEntry (validate_idRule_of_lt hn)
      hreadable houtcome generated
  constructor
  · rintro u hlive rfl
    have hfound : guarded removing (demandFor call u.id) (register.stateIn states) =
        (Reply.noContent, (register.stateIn states).remove u.id) := by
      simp only [guarded_of_authorized hauthorized, removing, hid, hlog.find?_of_live hlive]
    exact (hshows hfound).status
  · intro hgone
    have hmissing : guarded removing (demandFor call n) (register.stateIn states) =
        ((userNotFound n).toReply, register.stateIn states) := by
      simp only [guarded_of_authorized hauthorized, removing, hid, hlog.find?_eq_none hgone]
    exact (hshows hmissing).status

/-- The ledger of a removal holds the same live users but one. -/
theorem live_record_noContent (hmethod : call.method = .delete)
    (hpath : call.uri.path = userPath n) (hn : n < idLimit) (u : User) :
    Live (record log call .noContent) u ↔ Live log u ∧ u.id ≠ n := by
  have hchange : change? call .noContent = some (.removal n) := by
    rw [change?_noContent hmethod, hpath, namedId?_userPath hn]
    rfl
  rw [record, hchange]
  exact live_concat_removal

include htime in
theorem answer_refuses (hmethod : call.method = .get ∨ call.method = .delete)
    (hpath : call.uri.path = userPath n) (hn : idLimit ≤ n) :
    ((service config).answer call generated states).response.status = .badRequest := by
  have hinvalid : idRule.validate (SortedMap.empty.insert "id" (toString n)) =
      .error (Schema.violationError "id" Rule.integer.requirement) := by
    rw [validate_idRule, if_neg (Nat.not_lt.mpr hn)]
  rcases hmethod with hget | hdelete
  · exact ((isFor_get hget hpath).shows_violation htime hinvalid generated states).status
  · exact ((isFor_remove hdelete hpath).shows_violation htime hinvalid generated states).status

include htime in
theorem answer_unread (hunread : ¬ Readable config call)
    (hplace : call.method = .get ∧ call.uri.path = "/users" ∨
      (∃ n < idLimit, (call.method = .get ∨ call.method = .delete) ∧
        call.uri.path = userPath n)) :
    ((service config).answer call generated states).response.status = .payloadTooLarge := by
  rcases hplace with ⟨hget, hpath⟩ | ⟨n, hn, hget | hdelete, hpath⟩
  · exact ((isFor_list hget hpath).shows_unread htime rfl hunread generated states).status
  · exact ((isFor_get hget hpath).shows_unread htime (validate_idRule_of_lt hn) hunread generated
      states).status
  · exact ((isFor_remove hdelete hpath).shows_unread htime (validate_idRule_of_lt hn) hunread
      generated states).status

theorem answer_keeps
    (hinert : Inert call ((service config).answer call generated states).response.status) :
    register.stateIn ((service config).answer call generated states).states =
      register.stateIn states := by
  obtain ⟨react, hreact⟩ := exists_reacts config call
  have hshows := hreact.shows generated states
  rw [hshows.status] at hinert
  calc register.stateIn ((service config).answer call generated states).states
      = (react (register.stateIn states)).users := hshows.users
    _ = register.stateIn states := (hreact.step _).users_of_inert hinert

end Fields

/-- Every answer accords with the ledger that the register represents. -/
theorem accords_of_represents (htime : config.timeouts.requestSecs ≠ 0)
    (hlog : Represents (register.stateIn states) log) (hfew : creations log < idLimit)
    (call : Call) (generated : Bytes) :
    Accords config log call states ((service config).answer call generated states) := by
  -- The ids of live users fit the rule for ids.
  have hfits {u : User} (hlive : Live log u) : u.id < idLimit :=
    Nat.lt_of_le_of_lt hlive.created.id_le hfew
  constructor
  case created =>
    intro hmethod hstatus
    obtain ⟨name, hname, hbody⟩ := answer_created hlog generated hmethod hstatus
    refine ⟨name, hname, hbody, ?_⟩
    intro u hcreated
    exact Nat.ne_of_lt (Nat.lt_succ_of_le hcreated.id_le)
  case creates => exact answer_creates htime generated
  case lists => exact answer_lists htime hlog generated
  case reads =>
    intro n hmethod hpath hreadable
    constructor
    · rintro u hlive rfl
      exact (answer_reads htime hlog generated hmethod hpath hreadable (hfits hlive)).1 u hlive rfl
    · intro hn
      exact (answer_reads htime hlog generated hmethod hpath hreadable hn).2
  case removes =>
    intro n hmethod hpath hbears hreadable
    constructor
    · rintro u hlive rfl
      have hn := hfits hlive
      exact ⟨(answer_removes htime hlog generated hmethod hpath hbears hreadable hn).1 u hlive rfl,
        live_record_noContent hmethod hpath hn⟩
    · intro hn
      exact (answer_removes htime hlog generated hmethod hpath hbears hreadable hn).2
  case refuses =>
    intro n hn hmethod hpath
    exact answer_refuses htime generated hmethod hpath hn
  case unread => exact answer_unread htime generated
  case represents => exact represents_answer hlog call generated
  case keeps => exact answer_keeps generated

/-- Through the whole history of a service that was started, every answer accords with
the ledger of the answers before it, as long as fewer than 2^63 users were created. -/
theorem answers_accord (h : config.problems = .ok []) :
    ∃ app, ((server config).register [health]).assemble.1 = .ok app ∧
      ∀ (past : List (Call × Bytes)) (call : Call) (generated : Bytes),
        let states := statesAfter app past SortedMap.empty
        creations (ledger app past SortedMap.empty) < idLimit →
        Accords config (ledger app past SortedMap.empty) call states
          (app.answer call generated states) := by
  refine ⟨service config, assemble_eq config, ?_⟩
  intro past call generated states hfew
  have hfresh : Represents (register.stateIn SortedMap.empty) [] := represents_empty
  exact accords_of_represents (Config.requestSecs_ne_zero h) (represents_after past hfresh) hfew
    call generated

/-- Ada and Bob are created, and Ada is removed. -/
def settled : List (Call × Bytes) :=
  [(simpleCall .post "/users" bearing "\x7b\"name\":\"Ada\"\x7d", [1]),
    (simpleCall .post "/users" bearing "\x7b\"name\":\"Bob\"\x7d", [2]),
    (simpleCall .delete (userPath 1) bearing "", [3])]

theorem settled_accord :
    Config.default.problems = .ok [] ∧
    ∃ app, ((server Config.default).register [health]).assemble.1 = .ok app ∧
      ledger app settled SortedMap.empty = [.creation "Ada", .creation "Bob", .removal 1] ∧
      let states := statesAfter app settled SortedMap.empty
      let served := app.answer (simpleCall .get (userPath 2) Headers.empty "") [4] states
      served.response.status = .ok ∧
        served.response.body = printed (User.toJson ⟨2, "Bob"⟩) := by
  have hconfig : Config.default.problems = .ok [] := by decide +kernel
  obtain ⟨app, happ, haccords⟩ := answers_accord hconfig
  obtain rfl : app = service Config.default :=
    Except.ok.inj (happ.symm.trans (assemble_eq Config.default))
  have hledger : ledger (service Config.default) settled SortedMap.empty =
      [.creation "Ada", .creation "Bob", .removal 1] := by decide +kernel
  have hlive : Live (ledger (service Config.default) settled SortedMap.empty) ⟨2, "Bob"⟩ := by
    rw [hledger]
    exact ⟨[.creation "Ada"], [.removal 1], rfl, rfl, by decide⟩
  have hfew : creations (ledger (service Config.default) settled SortedMap.empty) < idLimit := by
    rw [hledger]
    decide
  have hreadable :
      Readable Config.default (simpleCall .get (userPath 2) Headers.empty "") :=
    ⟨[], ⟨[[]], rfl, rfl⟩, Nat.zero_le _⟩
  have haccord := haccords settled (simpleCall .get (userPath 2) Headers.empty "") [4] hfew
  exact ⟨hconfig, _, happ, hledger, (haccord.reads 2 rfl rfl hreadable).1 _ hlive rfl⟩

/-- A service that reads bodies of three octets at most. -/
def narrow : Config := { Config.default with limits.maxBodyBytes := 3 }

/-- The fresh service does not list its users if the body is too long, and it does not
tell of an id that is too great that there is no such user. -/
theorem narrow_refuses :
    ∃ app, ((server narrow).register [health]).assemble.1 = .ok app ∧
      (app.answer (simpleCall .get "/users" Headers.empty "long") []
        SortedMap.empty).response.status = .payloadTooLarge ∧
      (app.answer (simpleCall .get (userPath idLimit) Headers.empty "") []
        SortedMap.empty).response.status = .badRequest ∧
      (app.answer (simpleCall .delete (userPath idLimit) bearing "") []
        SortedMap.empty).response.status = .badRequest := by
  refine ⟨service narrow, assemble_eq narrow, ?_, ?_, ?_⟩
  · decide +kernel
  · decide +kernel
  · decide +kernel

end Accord

end RouteTree.Demo
