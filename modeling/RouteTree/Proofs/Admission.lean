import RouteTree.Proofs.RecordedReply
import RouteTree.Proofs.Violation

/-!
# Which calls are served

An entry answers a call that breaks one of its rules with a 400, and any other call
whose body cannot be read up to the limit with a 413. Such a call runs nothing of the
entry and changes nothing. Every other call is served by one run of the entry's pipeline
on the whole body, and the response conveys the reply that the run leaves.
-/

namespace RouteTree

namespace Call

/-- A body arrives in pieces, one chunk for each. -/
def Carries (c : Call) (body : Bytes) : Prop :=
  ∃ pieces : List Bytes, c.chunks = pieces.map some ∧ body = pieces.flatten

/-- A body is read if it has no more octets than the limit. -/
theorem readBody?_map_some (limit : Nat) (pieces : List Bytes) :
    readBody? limit (pieces.map some) =
      if pieces.flatten.length ≤ limit then some pieces.flatten else none := by
  induction pieces generalizing limit with
  | nil => simp [readBody?]
  | cons piece rest ih =>
      rw [List.map_cons, readBody?, ih, List.flatten_cons, List.length_append]
      by_cases hpiece : limit < piece.length
      · have hlong : ¬ piece.length + rest.flatten.length ≤ limit := by omega
        rw [if_pos hpiece, if_neg hlong]
      · rw [if_neg hpiece]
        by_cases hrest : rest.flatten.length ≤ limit - piece.length
        · have hshort : piece.length + rest.flatten.length ≤ limit := by omega
          rw [if_pos hrest, if_pos hshort]
          rfl
        · have hlong : ¬ piece.length + rest.flatten.length ≤ limit := by omega
          rw [if_neg hrest, if_neg hlong]
          rfl

/-- A body that breaks off is not read. -/
theorem readBody?_of_none_mem (limit : Nat) {chunks : List (Option Bytes)} (h : none ∈ chunks) :
    readBody? limit chunks = none := by
  induction chunks generalizing limit with
  | nil => cases h
  | cons chunk rest ih =>
      cases chunk with
      | none => rfl
      | some piece =>
          have hrest : none ∈ rest := by simpa using h
          rw [readBody?, ih _ hrest]
          split <;> rfl

end Call

/-- A response conveys a reply: it has the status of the reply, its printed body if
there is one, and its fields, to which the kind of the body is added if the reply has a
body and does not state it. -/
structure Response.Conveys (response : Response) (reply : Reply) : Prop where
  status : response.status = reply.status
  body : response.body = (reply.body.map fun value => Utf8.ofString value.print).getD []
  fields : response.headers.fields = reply.headers.fields ++
    if reply.body.isSome = true ∧ reply.headers.get? contentType = none then
      [(contentType, Utf8.ofString "application/json")]
    else []

theorem Reply.conveys_toResponse (r : Reply) : r.toResponse.Conveys r := by
  obtain ⟨status, headers, body⟩ := r
  cases body with
  | none => exact ⟨rfl, rfl, by simp [toResponse]⟩
  | some value =>
      refine ⟨rfl, rfl, ?_⟩
      by_cases hkind : headers.get? contentType = none
      · simp [toResponse, Headers.setIfAbsent, Headers.contains, Headers.append, hkind]
      · have hstated : (headers.get? contentType).isSome = true :=
          Option.isSome_iff_ne_none.mpr hkind
        simp [toResponse, Headers.setIfAbsent, Headers.contains, hkind, hstated]

/-- Without a time limit every request is served to the end. -/
theorem Pipeline.completed_of_unlimited {σ : Type} (p : Pipeline σ) (request : Request) (own : σ)
    (scene : Scene) (h : scene.remaining = none) :
    (p.serve request own scene).completed = true := by
  rw [serve_eq_conclude, conclude_completed]
  exact invocationsFrom_unlimited p.handler request p.guards own (scene.enter .guardsRunning) h _
    (List.getLast_mem _)

namespace Entry

variable {σ : Type}

/-- A call is rejected with an error. The response conveys the error, the states of the
controllers stay as they are, and the rejection is all that is journaled. The pipeline
of the entry, whatever its guards and its handler would do, has no effect on that. -/
structure Rejects (e : Entry σ) (params : SortedMap String String) (call : Call) (maxBody : Nat)
    (error : HttpError) : Prop where
  answered : ∀ remaining states, ∃ response : Response, response.Conveys error.toReply ∧
    e.answer params call maxBody remaining states =
      ⟨some response, states, [.rejected e.path error], some (e.sample error.status)⟩
  idle : ∀ pipeline remaining states,
    answer { e with pipeline } params call maxBody remaining states =
      e.answer params call maxBody remaining states

/-- A call is served as a request. One run of the pipeline on a fresh exchange makes up
all that happens, and if time does not run out, which it never does without a limit, the
run leaves a reply and the response conveys it. -/
structure Serves (e : Entry σ) (params : SortedMap String String) (call : Call) (maxBody : Nat)
    (request : Request) (remaining : Option Nat) (states : States σ) : Prop where
  unlimited : remaining = none →
    (e.pipeline.serve request (e.controller.stateIn states)
      ⟨Exchange.fresh, [], remaining⟩).completed = true
  answered : ∀ service, service = e.pipeline.serve request (e.controller.stateIn states)
      ⟨Exchange.fresh, [], remaining⟩ → service.completed = true →
    ∃ (reply : Reply) (response : Response), service.scene.exchange.reply = some reply ∧
      response.Conveys reply ∧
      e.answer params call maxBody remaining states =
        ⟨some response, states.insert e.controller.number service.own, service.scene.journal,
          some (e.sample reply.status)⟩

theorem rejects_of_prepare {e : Entry σ} {params : SortedMap String String} {call : Call}
    {maxBody : Nat} {error : HttpError} (h : e.prepare params call maxBody = .error error) :
    e.Rejects params call maxBody error := by
  constructor
  · intro remaining states
    refine ⟨error.toReply.toResponse, Reply.conveys_toResponse _, ?_⟩
    rw [answer, h]
  · intro pipeline remaining states
    have hother : prepare { e with pipeline } params call maxBody = .error error := h
    rw [answer, answer, h, hother]
    rfl

theorem serves_of_prepare {e : Entry σ} {params : SortedMap String String} {call : Call}
    {maxBody : Nat} {request : Request} (h : e.prepare params call maxBody = .ok request)
    (remaining : Option Nat) (states : States σ) :
    e.Serves params call maxBody request remaining states := by
  constructor
  · intro hremaining
    exact e.pipeline.completed_of_unlimited request _ _ hremaining
  · rintro service rfl hcompleted
    obtain ⟨reply, hreply, -⟩ := e.pipeline.serve_owes request _ _ hcompleted
    refine ⟨reply, reply.toResponse, hreply, reply.conveys_toResponse, ?_⟩
    simp [answer, serve, h, hcompleted, hreply]

/-- A call that breaks a rule is rejected with a 400 about the least name whose rule is
broken, however long its body is. Any other call is rejected with a 413 if its body has
more octets than the limit, or breaks off, and is served as it came if it has no
more. -/
theorem answer_admits (e : Entry σ) (params : SortedMap String String) (call : Call)
    (maxBody : Nat) :
    ((∃ name rule, e.schema.Breaks params name rule) →
        ∃ name rule, e.schema.BreaksFirst params name rule ∧
          (Schema.violationError name rule.requirement).status = .badRequest ∧
          e.Rejects params call maxBody (Schema.violationError name rule.requirement)) ∧
      ((∀ name rule, ¬ e.schema.Breaks params name rule) →
        (∀ body, call.Carries body → maxBody < body.length →
            (bodyLimitError maxBody).status = .payloadTooLarge ∧
              e.Rejects params call maxBody (bodyLimitError maxBody)) ∧
          (none ∈ call.chunks → e.Rejects params call maxBody (bodyLimitError maxBody)) ∧
          ∀ body, call.Carries body → body.length ≤ maxBody → ∀ remaining states,
            e.Serves params call maxBody ⟨call.method, call.uri, call.headers, params, body⟩
              remaining states) := by
  constructor
  · intro hbreaks
    obtain ⟨name, rule, hfirst, herror⟩ := Schema.exists_breaksFirst hbreaks
    refine ⟨name, rule, hfirst, rfl, rejects_of_prepare ?_⟩
    rw [prepare, herror]
  · intro hkeeps
    have hvalid : e.schema.validate params = .ok () := Schema.validate_eq_ok_iff.mpr hkeeps
    refine ⟨?_, ?_, ?_⟩
    · rintro body ⟨pieces, hchunks, rfl⟩ hlong
      refine ⟨rfl, rejects_of_prepare ?_⟩
      rw [prepare, hvalid, hchunks, Call.readBody?_map_some, if_neg (Nat.not_le_of_lt hlong)]
    · intro hbroken
      apply rejects_of_prepare
      rw [prepare, hvalid, Call.readBody?_of_none_mem maxBody hbroken]
    · rintro body ⟨pieces, hchunks, rfl⟩ hshort remaining states
      apply serves_of_prepare
      rw [prepare, hvalid, hchunks, Call.readBody?_map_some, if_pos hshort]

/-- An entry with a numbered parameter whose handler counts its requests. -/
def counting : Entry Nat :=
  { method := .put
    path := "/shelves/\x7bnumber\x7d"
    schema := SortedMap.empty.insert "number" .integer
    checks := SortedMap.empty
    options := SortedMap.empty
    controller := ⟨1, ⟨"Shelves", "Shelves", 0, []⟩⟩
    handlerName := "fill"
    guardCount := 0
    pipeline :=
      { method := .put
        path := "/shelves/\x7bnumber\x7d"
        guards := []
        handler := fun _ => .read fun count => .write (count + 1) (.succeed .absent) } }

/-- A call whose body of three octets arrives in two pieces. -/
def filling : Call :=
  { method := .put
    uri := default
    headers := Headers.empty
    chunks := [some [1, 2], some [3]] }

theorem counting_admits_filling :
    (∃ name rule,
        counting.schema.BreaksFirst (SortedMap.empty.insert "number" "first") name rule ∧
        counting.Rejects (SortedMap.empty.insert "number" "first") filling 2
          (Schema.violationError name rule.requirement)) ∧
      counting.Rejects (SortedMap.empty.insert "number" "1") filling 2 (bodyLimitError 2) ∧
      counting.Serves (SortedMap.empty.insert "number" "1") filling 3
        ⟨.put, default, Headers.empty, SortedMap.empty.insert "number" "1", [1, 2, 3]⟩ none
        SortedMap.empty := by
  have hcarries : filling.Carries [1, 2, 3] := ⟨[[1, 2], [3]], rfl, rfl⟩
  have hbreaks : counting.schema.Breaks (SortedMap.empty.insert "number" "first") "number"
      .integer := ⟨rfl, "first", rfl, by decide⟩
  have hkeeps : ∀ name rule,
      ¬ counting.schema.Breaks (SortedMap.empty.insert "number" "1") name rule :=
    Schema.validate_eq_ok_iff.mp rfl
  obtain ⟨hrejects, -⟩ :=
    counting.answer_admits (SortedMap.empty.insert "number" "first") filling 2
  obtain ⟨-, hlong⟩ := counting.answer_admits (SortedMap.empty.insert "number" "1") filling 2
  obtain ⟨-, hshort⟩ := counting.answer_admits (SortedMap.empty.insert "number" "1") filling 3
  obtain ⟨name, rule, hfirst, -, hbad⟩ := hrejects ⟨"number", .integer, hbreaks⟩
  refine ⟨⟨name, rule, hfirst, hbad⟩, ?_, ?_⟩
  · exact ((hlong hkeeps).1 [1, 2, 3] hcarries (by decide)).2
  · exact (hshort hkeeps).2.2 [1, 2, 3] hcarries (by decide) none SortedMap.empty

end Entry

end RouteTree
