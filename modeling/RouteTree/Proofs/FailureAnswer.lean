import RouteTree.Pipeline

/-!
# What answers a failure

The outermost error among the contexts of a failure answers it, or else its root if that
is an error. Contexts that are plain texts change nothing about this, and an error that
is only the source of the root has no say. A failure that nothing answers is reported
and becomes a 500.
-/

namespace RouteTree

namespace HttpError

variable (e : HttpError)

theorem get?_statusCode_body : e.body.get? "statusCode" = some (Json.ofNat e.status.code) := by
  obtain ⟨status, message, data⟩ := e
  cases data <;> simp [body, Json.ofMembers, Json.get?, lookupEntry_insertEntry_of_ne]

/-- The body shows the detail that was attached, `null` included, and nothing in its
place if none was. -/
theorem get?_data_body : e.body.get? "data" = e.data := by
  obtain ⟨status, message, data⟩ := e
  cases data <;>
    simp [body, Json.ofMembers, Json.get?, lookupEntry, lookupEntry_insertEntry_of_ne]

end HttpError

namespace Failure

/-- An error answers a failure: all contexts around it are plain texts, and it is a
context itself, or the root if there is no other context. -/
inductive AnsweredBy : Failure → HttpError → Prop
  | context (plain : List String) (error : HttpError) (behind : List Wrapping) (root : Root) :
      AnsweredBy ⟨plain.map .text ++ .http error :: behind, root⟩ error
  | root (plain : List String) (error : HttpError) : AnsweredBy ⟨plain.map .text, .http error⟩ error

/-- A failure in further plain contexts, the last of which is the outermost. -/
def wrapTexts (f : Failure) (texts : List String) : Failure :=
  texts.foldl (fun f text => f.wrap (.text text)) f

theorem recognised?_plain (plain : List String) (behind : List Wrapping) (root : Root) :
    recognised? ⟨plain.map .text ++ behind, root⟩ = recognised? ⟨behind, root⟩ := by
  induction plain with
  | nil => rfl
  | cons text plain ih => exact ih

/-- What is recognised in a failure is the error that answers it. -/
theorem recognised?_eq_some_iff {f : Failure} {error : HttpError} :
    f.recognised? = some error ↔ f.AnsweredBy error := by
  constructor
  · obtain ⟨wrappings, root⟩ := f
    induction wrappings with
    | nil =>
        intro h
        cases root with
        | http e =>
            obtain rfl : e = error := Option.some.inj h
            exact .root [] e
        | text message => cases h
        | sourced message source => cases h
    | cons wrapping behind ih =>
        intro h
        cases wrapping with
        | http e =>
            obtain rfl : e = error := Option.some.inj h
            exact .context [] e behind root
        | text message =>
            have hbehind : AnsweredBy ⟨behind, root⟩ error := ih h
            cases hbehind with
            | context plain _ rest => exact .context (message :: plain) error rest root
            | root plain => exact .root (message :: plain) error
  · rintro (⟨plain, error, behind, root⟩ | ⟨plain, error⟩)
    · exact recognised?_plain plain (.http error :: behind) root
    · have h := recognised?_plain plain [] (.http error)
      rw [List.append_nil] at h
      exact h

theorem recognised?_eq_none_iff {f : Failure} :
    f.recognised? = none ↔ ∀ error, ¬ f.AnsweredBy error := by
  simp only [← recognised?_eq_some_iff, Option.eq_none_iff_forall_ne_some, ne_eq]

theorem recognised?_wrapTexts (f : Failure) (texts : List String) :
    (f.wrapTexts texts).recognised? = f.recognised? := by
  induction texts generalizing f with
  | nil => rfl
  | cons text texts ih =>
      calc (f.wrapTexts (text :: texts)).recognised?
          = (f.wrap (.text text)).recognised? := ih _
        _ = f.recognised? := rfl

/-- Plain contexts neither hide the error that answers a failure nor bring one in. -/
theorem answeredBy_wrapTexts_iff {f : Failure} {texts : List String} {error : HttpError} :
    (f.wrapTexts texts).AnsweredBy error ↔ f.AnsweredBy error := by
  rw [← recognised?_eq_some_iff, recognised?_wrapTexts, recognised?_eq_some_iff]

/-- The source of a root does not answer a failure, only a context does. -/
theorem AnsweredBy.mem_of_sourced {f : Failure} {error source : HttpError} {message : String}
    (h : f.AnsweredBy error) (hroot : f.root = .sourced message source) :
    .http error ∈ f.wrappings := by
  cases h with
  | context plain _ behind => exact List.mem_append_right _ List.mem_cons_self
  | root plain => cases hroot

end Failure

namespace Pipeline

variable {failure : Failure} {scene : Scene}

/-- A failure that is answered by an error leaves no trace but the reply. -/
theorem answerFailure_of_answeredBy {error : HttpError} (h : failure.AnsweredBy error)
    (method : Method) (path : String) (hscene : scene.exchange.reply = none) :
    answerFailure failure method path scene =
      { scene with exchange := ⟨scene.exchange.state, some error.toReply⟩ } := by
  obtain ⟨⟨state, reply⟩, journal, remaining⟩ := scene
  obtain rfl : reply = none := hscene
  simp only [answerFailure, Failure.recognised?_eq_some_iff.mpr h]
  rfl

/-- A failure that nothing answers is reported. -/
theorem answerFailure_of_unanswered (h : ∀ error, ¬ failure.AnsweredBy error) (method : Method)
    (path : String) (hscene : scene.exchange.reply = none) :
    answerFailure failure method path scene =
      { scene.log (.unhandled method path failure) with
        exchange := ⟨scene.exchange.state, some (unhandledReply failure)⟩ } := by
  obtain ⟨⟨state, reply⟩, journal, remaining⟩ := scene
  obtain rfl : reply = none := hscene
  simp only [answerFailure, Failure.recognised?_eq_none_iff.mpr h]
  rfl

/-- The reply of a failure that nothing answers shows the code, the wording and the
trace. -/
theorem exists_unhandledReply_eq (failure : Failure) :
    ∃ body, unhandledReply failure = ⟨.internalError, Headers.empty, some body⟩ ∧
      body.get? "statusCode" = some (Json.ofNat 500) ∧
      body.get? "message" = some (.string failure.describe) ∧
      body.get? "trace" = some (.string failure.trace) := by
  refine ⟨_, rfl, ?_, ?_, ?_⟩ <;>
    simp [Json.ofMembers, Json.get?, lookupEntry_insertEntry_of_ne, Status.internalError]

/-- Where no reply is on record, a failure is replied to with the status and the body of
the error that answers it, whose code is in the body and whose detail is there if there
is any; a failure that nothing answers is reported once and becomes a 500. Plain
contexts do not change which error answers a failure nor the reply that it gives, and
the source of a root never answers. -/
theorem answerFailure_replies (failure : Failure) (method : Method) (path : String)
    (hscene : scene.exchange.reply = none) :
    let answered := answerFailure failure method path scene
    (∀ error, failure.AnsweredBy error →
      answered.exchange.reply = some ⟨error.status, Headers.empty, some error.body⟩ ∧
        answered.journal = scene.journal ∧
        error.body.get? "statusCode" = some (Json.ofNat error.status.code) ∧
        error.body.get? "data" = error.data) ∧
    ((∀ error, ¬ failure.AnsweredBy error) →
      answered.journal = scene.journal ++ [.unhandled method path failure] ∧
        ∃ body, answered.exchange.reply = some ⟨.internalError, Headers.empty, some body⟩ ∧
          body.get? "statusCode" = some (Json.ofNat 500) ∧
          body.get? "message" = some (.string failure.describe) ∧
          body.get? "trace" = some (.string failure.trace)) ∧
    (∀ texts,
      (∀ error, (failure.wrapTexts texts).AnsweredBy error ↔ failure.AnsweredBy error) ∧
        ((∃ error, failure.AnsweredBy error) →
          answerFailure (failure.wrapTexts texts) method path scene = answered)) ∧
    ∀ message source error, failure.root = .sourced message source →
      failure.AnsweredBy error → .http error ∈ failure.wrappings := by
  intro answered
  refine ⟨?answered, ?unanswered, ?wrapped, ?sourced⟩
  case answered =>
    intro error h
    have heq : answered = _ := answerFailure_of_answeredBy h method path hscene
    rw [heq]
    exact ⟨rfl, rfl, error.get?_statusCode_body, error.get?_data_body⟩
  case unanswered =>
    intro h
    have heq : answered = _ := answerFailure_of_unanswered h method path hscene
    obtain ⟨body, hreply, hbody⟩ := exists_unhandledReply_eq failure
    rw [heq, hreply]
    exact ⟨rfl, body, rfl, hbody⟩
  case wrapped =>
    intro texts
    refine ⟨fun error => Failure.answeredBy_wrapTexts_iff, ?_⟩
    rintro ⟨error, h⟩
    have hwrapped : (failure.wrapTexts texts).AnsweredBy error :=
      Failure.answeredBy_wrapTexts_iff.mpr h
    calc answerFailure (failure.wrapTexts texts) method path scene
        = { scene with exchange := ⟨scene.exchange.state, some error.toReply⟩ } :=
          answerFailure_of_answeredBy hwrapped method path hscene
      _ = answered := (answerFailure_of_answeredBy h method path hscene).symm
  case sourced =>
    intro message source error hroot h
    exact h.mem_of_sourced hroot

/-- A failure with two errors among its contexts and one as the source of its root. -/
def lostShelf : Failure :=
  { wrappings :=
      [.text "listing", .http ((HttpError.notFound "no shelf").withData .null), .text "reading",
        .http (HttpError.conflict "moved")]
    root := .sourced "disk" (HttpError.forbidden "locked") }

theorem lostShelf_replies :
    (Scene.ofExchange Exchange.fresh).exchange.reply = none ∧
      ∃ body,
        (answerFailure (lostShelf.wrapTexts ["serving", "answering"]) .get "/shelves"
          (Scene.ofExchange Exchange.fresh)).exchange.reply =
            some ⟨.notFound, Headers.empty, some body⟩ ∧
        body.get? "statusCode" = some (Json.ofNat 404) ∧ body.get? "data" = some .null := by
  have hscene : (Scene.ofExchange Exchange.fresh).exchange.reply = none := rfl
  obtain ⟨hanswered, -, hwrapped, -⟩ := answerFailure_replies lostShelf .get "/shelves" hscene
  have h : lostShelf.AnsweredBy ((HttpError.notFound "no shelf").withData .null) :=
    .context ["listing"] _ [.text "reading", .http (HttpError.conflict "moved")] _
  obtain ⟨hreply, -, hcode, hdata⟩ := hanswered _ h
  rw [(hwrapped ["serving", "answering"]).2 ⟨_, h⟩]
  exact ⟨hscene, _, hreply, hcode, hdata⟩

end Pipeline

end RouteTree
