import RouteTree.Proofs.GuardOrder
import RouteTree.Proofs.PlainOctets
import RouteTree.Proofs.ResponseOrigin

/-!
# Request ids

A call has an id once it is identified: the first it came with, or the one generated for
it. Every response carries the id of its call unless it brings one of its own, whoever
produced it, and guards and handlers find the id in their request. The one exception is
the response to a call that took too long, which is made outside of what adds the id.
-/

namespace RouteTree

namespace Headers

variable {value : Bytes}

theorem isSome_valueText?_iff :
    (valueText? value).isSome = true ↔ ∀ b ∈ value, b = 0x09 ∨ 0x20 ≤ b ∧ b ≤ 0x7E := by
  unfold valueText?
  split
  · next h => simpa using h
  · next h => simpa using h

/-- A value that is read as text is that text in octets. -/
theorem ofString_of_valueText?_eq_some {text : String} (h : valueText? value = some text) :
    Utf8.ofString text = value := by
  have hsmall : ∀ b ∈ value, b.toNat < 128 := by
    intro b hb
    rcases isSome_valueText?_iff.mp (Option.isSome_of_eq_some h) b hb with rfl | ⟨-, hle⟩
    · decide
    · exact Nat.lt_of_le_of_lt (UInt8.le_iff_toNat_le.mp hle) (by decide)
  unfold valueText? at h
  split at h
  · obtain rfl := Option.some.inj h
    have hascii : Utf8.IsAscii (value.map fun b => Char.ofNat b.toNat) := by
      refine List.forall_mem_map.mpr fun b hb => ?_
      rw [Utf8.toNat_ofNat (hsmall b hb)]
      exact hsmall b hb
    have hback : ∀ b ∈ value, (Char.ofNat b.toNat).val.toUInt8 = b := by
      intro b hb
      have hcode := Utf8.toNat_ofNat (hsmall b hb)
      apply UInt8.toNat_inj.mp
      rw [Utf8.toNat_toUInt8 (hcode.trans_lt (hsmall b hb)), hcode]
    calc Utf8.ofString (String.ofList (value.map fun b => Char.ofNat b.toNat))
        = (value.map fun b => Char.ofNat b.toNat).map fun c => c.val.toUInt8 := by
          rw [Utf8.ofString, String.toList_ofList, Utf8.encode_of_isAscii hascii]
      _ = value.map id := by
          rw [List.map_map]
          exact List.map_congr_left hback
      _ = value := List.map_id value
  · cases h

end Headers

namespace Origin

variable {σ : Type} {origin : Origin σ}

/-- The id that a response brings along. -/
def ownId? : Origin σ → Option Bytes
  | .page response => response.headers.get? Request.idHeader
  | .reply _ recorded => recorded.headers.get? Request.idHeader
  | _ => none

theorem get?_idHeader_of_response? {response : Response} (h : origin.response? = some response) :
    response.headers.get? Request.idHeader = origin.ownId? := by
  have hkind : contentType ≠ Request.idHeader := by decide
  cases origin with
  | fallback =>
      obtain rfl := Option.some.inj h
      exact Application.notFound.toReply.get?_toResponse hkind
  | wrongMethod served =>
      obtain rfl := Option.some.inj h
      rfl
  | page response =>
      obtain rfl := Option.some.inj h
      rfl
  | undecodable e name =>
      obtain rfl := Option.some.inj h
      rfl
  | rejection e error =>
      obtain rfl := Option.some.inj h
      exact error.toReply.get?_toResponse hkind
  | reply e recorded =>
      obtain rfl := Option.some.inj h
      exact recorded.get?_toResponse hkind
  | timeout => cases h

end Origin

namespace Application

variable {σ : Type} {app : Application σ} {call : Call} {states : States σ} {origin : Origin σ}
  {generated : Bytes}

/-- The id of a response is decided before it is framed. -/
theorem get?_idHeader_answer (app : Application σ) (call : Call) (generated : Bytes)
    (states : States σ) :
    (app.answer call generated states).response.headers.get? Request.idHeader =
      (conclude (call.idOr generated) (app.deliverInTime (call.identified generated) states
        (app.router.route call.method call.uri.path)).response).headers.get? Request.idHeader := by
  have hlength : contentLength ≠ Request.idHeader := by decide
  have hallow : allow ≠ Request.idHeader := by decide
  rw [answer, Response.get?_framedFor _ _ hlength, get?_listServed _ _ hallow]

theorem Produces.get?_idHeader (h : app.Produces (call.identified generated) states origin)
    (hintime : origin ≠ .timeout) :
    (app.answer call generated states).response.headers.get? Request.idHeader =
      some (origin.ownId?.getD (call.idOr generated)) := by
  obtain ⟨response, hresponse⟩ : ∃ response, origin.response? = some response := by
    cases origin with
    | timeout => exact absurd rfl hintime
    | _ => exact ⟨_, rfl⟩
  have hdelivered := h.delivered.1.trans hresponse
  calc (app.answer call generated states).response.headers.get? Request.idHeader
      = (conclude (call.idOr generated) (some response)).headers.get? Request.idHeader := by
        rw [get?_idHeader_answer, ← hdelivered]
        rfl
    _ = some ((response.headers.get? Request.idHeader).getD (call.idOr generated)) :=
        response.headers.get?_setIfAbsent_self _ _
    _ = some (origin.ownId?.getD (call.idOr generated)) := by
        rw [Origin.get?_idHeader_of_response? hresponse]

/-- A call that took too long is answered with a bare 408. -/
theorem Produces.answer_timeout (h : app.Produces (call.identified generated) states .timeout) :
    (app.answer call generated states).response.status = .requestTimeout ∧
      (app.answer call generated states).response.headers.get? Request.idHeader = none := by
  have hdelivered : (app.deliverInTime (call.identified generated) states
      (app.router.route call.method call.uri.path)).response = none := h.delivered.1
  refine ⟨h.status_eq, ?_⟩
  rw [get?_idHeader_answer, hdelivered]
  rfl

/-- What a pipeline is passed has the id of the call among its fields. -/
theorem Passes.get?_idHeader {e : Entry σ} {request : Request}
    (h : app.Passes (call.identified generated) e request) :
    request.headers.get? Request.idHeader = some (call.idOr generated) := by
  obtain ⟨captured, params, -, -, hprepare⟩ := h
  obtain ⟨body, rfl⟩ := Entry.exists_body_of_prepare hprepare
  exact call.headers.get?_setIfAbsent_self _ _

/-- Every response has an origin, and unless that is the limit of time the response
carries an id: the one it brings along, or else the first that the call came with, or
else the one generated for the call. The 408 of the limit carries none. Every guard and
every handler that is invoked for the call is given its id, and can read it if it is
made of tabs and visible characters. -/
theorem answer_carries_id (app : Application σ) (call : Call) (generated : Bytes)
    (states : States σ) :
    let identified := call.identified generated
    let id := (call.headers.get? Request.idHeader).getD generated
    let response := (app.answer call generated states).response
    (∃ origin, app.Produces identified states origin) ∧
      (∀ origin, app.Produces identified states origin →
        (origin ≠ .timeout →
          response.headers.get? Request.idHeader = some (origin.ownId?.getD id)) ∧
        (origin = .timeout →
          response.status = .requestTimeout ∧
            response.headers.get? Request.idHeader = none)) ∧
      ∀ e request, app.Passes identified e request → ∀ own scene,
        ∀ i ∈ e.pipeline.invocations request own scene,
          i.request.headers.get? Request.idHeader = some id ∧
            (∀ text, i.request.id? = some text → Utf8.ofString text = id) ∧
            (i.request.id?.isSome = true ↔ ∀ b ∈ id, b = 0x09 ∨ 0x20 ≤ b ∧ b ≤ 0x7E) := by
  intro identified id response
  refine ⟨app.exists_produces identified states, ?carried, ?seen⟩
  case carried =>
    intro origin h
    refine ⟨h.get?_idHeader, ?_⟩
    rintro rfl
    exact h.answer_timeout
  case seen =>
    intro e request hpasses own scene i hi
    have hgiven : i.request = request :=
      (Pipeline.entered_of_mem_invocationsFrom e.pipeline.handler request e.pipeline.guards own _
        rfl i hi).1
    have hid : i.request.headers.get? Request.idHeader = some id := by
      rw [hgiven, hpasses.get?_idHeader]
      rfl
    have htext : i.request.id? = Headers.valueText? id := by
      have hlower : Headers.lowerCase Request.idHeader = Request.idHeader := by decide
      rw [Request.id?, Request.header?, Headers.text?, hlower, hid]
      rfl
    rw [htext]
    exact ⟨hid, fun text => Headers.ofString_of_valueText?_eq_some, Headers.isSome_valueText?_iff⟩

/-- The id of a call is carried where nothing serves its path, and by a reply that may
bring its own. -/
theorem haste_carries_id :
    (haste.answer (asking "/sand") [0x67] SortedMap.empty).response.headers.get?
        Request.idHeader = some [0x61] ∧
      ∃ origin : Origin Unit, origin ≠ .timeout ∧
        (haste.answer (asking "/stones/7") [0x67] SortedMap.empty).response.headers.get?
          Request.idHeader = some (origin.ownId?.getD [0x61]) := by
  constructor
  · obtain ⟨-, hcarried, -⟩ := haste.answer_carries_id (asking "/sand") [0x67] SortedMap.empty
    have hnone : haste.router.site? "/sand" = none :=
      Option.isNone_iff_eq_none.mp (by decide +kernel)
    have hroute : haste.router.route .get "/sand" = .nowhere := by
      rw [Router.route, hnone]
    exact (hcarried .fallback (.fallback (by decide +kernel) hroute)).1 nofun
  · obtain ⟨⟨origin, horigin⟩, hcarried, -⟩ :=
      haste.answer_carries_id (asking "/stones/7") [0x67] SortedMap.empty
    have hstatus : (haste.answer (asking "/stones/7") [0x67] SortedMap.empty).response.status ≠
        .requestTimeout := by decide +kernel
    have hintime : origin ≠ .timeout := fun h => hstatus ((hcarried origin horigin).2 h).1
    exact ⟨origin, hintime, (hcarried origin horigin).1 hintime⟩

/-- The 408 to a call that came with an id does not carry it. -/
theorem haste_drops_id :
    hasty.assemble.1 = .ok haste ∧
      (haste.answer (asking "/stones") [0x67] SortedMap.empty).response.status = .requestTimeout ∧
      (haste.answer (asking "/stones") [0x67] SortedMap.empty).response.headers.get?
        Request.idHeader = none :=
  ⟨assemble_hasty, by decide +kernel, by decide +kernel⟩

end Application

end RouteTree
