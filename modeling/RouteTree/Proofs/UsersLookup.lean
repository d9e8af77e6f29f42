import RouteTree.Proofs.IntegerText
import RouteTree.Proofs.UsersHistory

/-!
# Users by the texts of their ids

The text of an id is read twice, first by the rule for ids, as an integer with a sign,
and then by the service, as one without. So a text that writes no integer of 64 bits
breaks the rule, one with a minus sign is no id, and any other one finds the user whose
id it writes, leading zeros or not.
-/

namespace RouteTree.Demo

/-- A call asks for a user by a text, which the segment behind the users stands for. -/
structure Asks (call : Call) (text : String) : Prop where
  method : call.method = .get
  path : ∃ segment, IsSegment segment ∧ call.uri.path = "/users/" ++ segment ∧
    Percent.decodeText? segment = some text

/-- The integers of 64 bits with a sign. -/
def FitsWord (z : Int) : Prop := -(idLimit : Int) ≤ z ∧ z < idLimit

/-- An answer with a status and a printed body. -/
structure Tells (served : Served Users Response) (status : Status) (body : Json) : Prop where
  status : served.response.status = status
  body : served.response.body = printed body

/-- An answer that conveys an error. -/
def Refuses (served : Served Users Response) (error : HttpError) : Prop :=
  Tells served error.status error.body

/-- What is answered to a call that asks a register for a user by a text. -/
structure Finds (config : Config) (users : Users) (call : Call) (text : String)
    (served : Served Users Response) : Prop where
  /-- A text that writes no integer of 64 bits is refused, whatever the body is. -/
  unruled : (∀ z, Writes text z → ¬ FitsWord z) →
    Refuses served ((HttpError.badRequest "\"id\" must be an integer").withData
      (Json.ofMembers [("source", .string "params"), ("key", .string "id")]))
  /-- A body that cannot be read within the limit is refused. -/
  unread : ∀ z, Writes text z → FitsWord z → ¬ Readable config call →
    Refuses served (Entry.bodyLimitError config.limits.maxBodyBytes)
  /-- A text with a minus sign is no id, even if it writes zero. -/
  minus : ∀ z, Writes text z → FitsWord z → Readable config call → HasMinus text →
    Refuses served (HttpError.badRequest "Invalid user id")
  /-- Any other text writes a natural number, and finds the user who has it as id. -/
  plain : ∀ z, Writes text z → FitsWord z → Readable config call → ¬ HasMinus text →
    ∃ n : Nat, z = n ∧
      (∀ user, users.find? n = some user → user.id = n ∧ Tells served .ok user.toJson) ∧
      (users.find? n = none →
        Refuses served (HttpError.notFound ("User " ++ toString n ++ " not found")))

section Lookup

variable {config : Config} {call : Call} {text : String} {states : States Users} {z : Int}

theorem accepts_integer_iff :
    Rule.integer.accepts text = true ↔ ∃ z, Writes text z ∧ FitsWord z := by
  rw [Rule.accepts, Option.isSome_iff_exists]
  exact exists_congr fun z => signedWord?_eq_some_iff

/-- An integer of 64 bits passes the rule for ids. -/
theorem validate_of_writes (hwrites : Writes text z) (hfits : FitsWord z) :
    getEntry.schema.validate (SortedMap.empty.insert "id" text) = .ok () :=
  (validate_idRule_text text).trans (if_pos (accepts_integer_iff.mpr ⟨z, hwrites, hfits⟩))

theorem isFor_of_asks (h : Asks call text) :
    IsFor config call getEntry (SortedMap.empty.insert "id" text) := by
  obtain ⟨segment, hsegment, hpath, hdecode⟩ := h.path
  exact isFor_of_leads (.user hsegment hpath) (h.method ▸ rfl) (decodeCaptured_id hdecode)

/-- To GET an answer that shows a reply with a body says what the reply says. -/
theorem Shows.tells {served : Served Users Response} {reply : Reply} {body : Json} {users : Users}
    (h : Shows served call.method ⟨reply.toResponse, users⟩) (hbody : reply.body = some body)
    (hmethod : call.method = .get) : Tells served reply.status body :=
  ⟨h.status.trans reply.conveys_toResponse.status, h.body_eq hbody (Or.inl hmethod)⟩

variable (htime : config.timeouts.requestSecs ≠ 0) (hasks : Asks call text) (generated : Bytes)

include htime hasks

theorem refuses_unruled (h : ∀ z, Writes text z → ¬ FitsWord z) :
    Refuses ((service config).answer call generated states)
      (Schema.violationError "id" Rule.integer.requirement) := by
  have hrefused : ¬ Rule.integer.accepts text = true := by
    rw [accepts_integer_iff]
    rintro ⟨z, hwrites, hfits⟩
    exact h z hwrites hfits
  have hinvalid : getEntry.schema.validate (SortedMap.empty.insert "id" text) =
      .error (Schema.violationError "id" Rule.integer.requirement) :=
    (validate_idRule_text text).trans (if_neg hrefused)
  exact ((isFor_of_asks hasks).shows_violation htime hinvalid generated states).tells rfl
    hasks.method

theorem refuses_unread (hwrites : Writes text z) (hfits : FitsWord z)
    (hunread : ¬ Readable config call) :
    Refuses ((service config).answer call generated states)
      (Entry.bodyLimitError config.limits.maxBodyBytes) :=
  ((isFor_of_asks hasks).shows_unread htime (validate_of_writes hwrites hfits) hunread
    generated states).tells rfl hasks.method

/-- What passes the rule and can be read is answered by looking the id up. -/
theorem tells_of_reading (hwrites : Writes text z) (hfits : FitsWord z)
    (hreadable : Readable config call) {reply : Reply} {body : Json} {users : Users}
    (hread : reading ⟨decide (Bears call), SortedMap.empty.insert "id" text, octets call⟩
      (register.stateIn states) = (reply, users)) (hbody : reply.body = some body) :
    Tells ((service config).answer call generated states) reply.status body :=
  ((isFor_of_asks hasks).shows htime reaches_getEntry (validate_of_writes hwrites hfits)
    hreadable hread generated).tells hbody hasks.method

theorem finds_answer :
    Finds config (register.stateIn states) call text
      ((service config).answer call generated states) := by
  let demand : Demand := ⟨decide (Bears call), SortedMap.empty.insert "id" text, octets call⟩
  have hid : demand.id? = unsignedWord? text := by
    rw [Demand.id?, SortedMap.get?_insert_self]
    rfl
  constructor
  case unruled => exact refuses_unruled htime hasks generated
  case unread => exact fun z => refuses_unread htime hasks generated
  case minus =>
    intro z hwrites hfits hreadable hminus
    have hread : reading demand (register.stateIn states) =
        ((HttpError.badRequest "Invalid user id").toReply, register.stateIn states) := by
      simp only [reading, hid, unsignedWord?_of_hasMinus hminus]
    exact tells_of_reading htime hasks generated hwrites hfits hreadable hread rfl
  case plain =>
    intro z hwrites hfits hreadable hminus
    have hword : z ≤ 0xFFFFFFFFFFFFFFFF := by
      have hlimit : (idLimit : Int) = 0x8000000000000000 := rfl
      have hlt := hfits.2
      omega
    obtain ⟨n, rfl, hn⟩ := hwrites.exists_unsignedWord? hminus hword
    refine ⟨n, rfl, ?_, ?_⟩
    · intro user hfound
      have hread : reading demand (register.stateIn states) =
          (Reply.json user.toJson, register.stateIn states) := by
        simp only [reading, hid, hn, hfound]
      refine ⟨Users.id_of_find? hfound, ?_⟩
      exact tells_of_reading htime hasks generated hwrites hfits hreadable hread rfl
    · intro hmissing
      have hread : reading demand (register.stateIn states) =
          ((userNotFound n).toReply, register.stateIn states) := by
        simp only [reading, hid, hn, hmissing]
      exact tells_of_reading htime hasks generated hwrites hfits hreadable hread rfl

end Lookup

/-- Whatever has happened before, a service that was started finds users by the texts of
their ids as `Finds` says. As long as fewer than 2^63 users were created, every user in
the register is found by the decimal text of the id. -/
theorem users_found_by_text {config : Config} (h : config.problems = .ok []) :
    ∃ app, ((server config).register [health]).assemble.1 = .ok app ∧
      ∀ (past : List (Call × Bytes)) (call : Call) (generated : Bytes) (text : String),
        Asks call text →
        let states := statesAfter app past SortedMap.empty
        let served := app.answer call generated states
        Finds config (register.stateIn states) call text served ∧
          (creations (ledger app past SortedMap.empty) < idLimit → Readable config call →
            ∀ user, (register.stateIn states).find? user.id = some user →
              text = toString user.id → Tells served .ok user.toJson) := by
  refine ⟨service config, assemble_eq config, ?_⟩
  intro past call generated text hasks states served
  have hfinds : Finds config (register.stateIn states) call text served :=
    finds_answer (Config.requestSecs_ne_zero h) hasks generated
  refine ⟨hfinds, ?_⟩
  rintro hfew hreadable user hfound rfl
  have hfresh : Represents (register.stateIn SortedMap.empty) [] := represents_empty
  have hlog : Represents (register.stateIn states) (ledger (service config) past SortedMap.empty) :=
    represents_after past hfresh
  have hlive := (hlog.find?_iff user).mp hfound
  have hlt : user.id < idLimit := Nat.lt_of_le_of_lt hlive.created.id_le hfew
  have hfits : FitsWord user.id := by
    unfold FitsWord
    omega
  obtain ⟨n, hn, hstored, -⟩ := hfinds.plain user.id (writes_toString user.id) hfits hreadable
    (not_hasMinus_toString user.id)
  obtain rfl : user.id = n := Int.ofNat_inj.mp hn
  exact (hstored user hfound).2

/-- A call that asks for a user, with a body in one piece. -/
def lookup (text body : String) : Call := simpleCall .get ("/users/" ++ text) Headers.empty body

theorem asks_lookup {text : String} (hsegment : IsSegment text)
    (hascii : text.toList.all (·.toNat < 0x80) = true) (hpercent : '%' ∉ text.toList)
    (body : String) : Asks (lookup text body) text := by
  have hplain : ∀ c ∈ text.toList, c.toNat < 0x80 := fun c hc =>
    of_decide_eq_true (List.all_eq_true.mp hascii c hc)
  exact ⟨rfl, text, hsegment, rfl, Percent.decodeText?_of_isAscii hplain hpercent⟩

theorem settled_found_by_text :
    Config.default.problems = .ok [] ∧
    ∃ app, ((server Config.default).register [health]).assemble.1 = .ok app ∧
      let states := statesAfter app settled SortedMap.empty
      Asks (lookup "+02" "") "+02" ∧
        Tells (app.answer (lookup "+02" "") [4] states) .ok (User.toJson ⟨2, "Bob"⟩) ∧
      Asks (lookup "-0" "") "-0" ∧
        Refuses (app.answer (lookup "-0" "") [4] states)
          (HttpError.badRequest "Invalid user id") := by
  have hconfig : Config.default.problems = .ok [] := by decide +kernel
  obtain ⟨app, happ, hfinds⟩ := users_found_by_text hconfig
  obtain rfl : app = service Config.default :=
    Except.ok.inj (happ.symm.trans (assemble_eq Config.default))
  have hbob : (register.stateIn (statesAfter (service Config.default) settled
      SortedMap.empty)).find? 2 = some ⟨2, "Bob"⟩ := by decide +kernel
  have hreadable (text : String) : Readable Config.default (lookup text "") :=
    ⟨[], ⟨[[]], rfl, rfl⟩, Nat.zero_le _⟩
  have hplus : Asks (lookup "+02" "") "+02" :=
    asks_lookup ⟨by decide, by decide⟩ (by decide) (by decide) ""
  have hminus : Asks (lookup "-0" "") "-0" :=
    asks_lookup ⟨by decide, by decide⟩ (by decide) (by decide) ""
  have htwo : Writes "+02" 2 := integerOfChars?_eq_some_iff.mp (by decide)
  have hzero : Writes "-0" 0 := integerOfChars?_eq_some_iff.mp (by decide)
  obtain ⟨n, hn, hfound, -⟩ := (hfinds settled _ [4] _ hplus).1.plain 2 htwo ⟨by decide, by decide⟩
    (hreadable _) (by rintro ⟨behind, htext⟩; cases htext)
  obtain rfl : 2 = n := Int.ofNat_inj.mp hn
  exact ⟨hconfig, _, happ, hplus, (hfound _ hbob).2, hminus,
    (hfinds settled _ [4] _ hminus).1.minus 0 hzero ⟨by decide, by decide⟩ (hreadable _)
      ⟨['0'], rfl⟩⟩

/-- The fresh service does not tell that there is no user with the id 1 if the body is
too long. -/
theorem narrow_refuses_lookup :
    ∃ app, ((server narrow).register [health]).assemble.1 = .ok app ∧
      Asks (lookup "1" "long") "1" ∧ Writes "1" 1 ∧
      (register.stateIn SortedMap.empty).find? 1 = none ∧
      (app.answer (lookup "1" "long") [] SortedMap.empty).response.status = .payloadTooLarge := by
  refine ⟨service narrow, assemble_eq narrow, ?_, writes_toString 1, rfl, ?_⟩
  · exact asks_lookup ⟨by decide, by decide⟩ (by decide) (by decide) "long"
  · decide +kernel

end RouteTree.Demo
