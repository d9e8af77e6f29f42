import RouteTree.Http.Reply
import RouteTree.Json.Printer

/-!
# Responses

A response is what goes back to the client: a status, header fields and the octets of a
body. A reply becomes one by printing its body. Before a response leaves, it gets its
length, and the response to a HEAD request loses its body but keeps the length.
-/

namespace RouteTree

/-- An answer as it is sent. -/
structure Response where
  status : Status
  headers : Headers
  body : Bytes

/-- The field that says what kind of body a message has. -/
def contentType : String := "content-type"

/-- The field that says how long a body is. -/
def contentLength : String := "content-length"

/-- The field that lists the methods of a path. -/
def allow : String := "allow"

/-- The printed body, marked as JSON unless the reply says otherwise. -/
def Reply.toResponse (r : Reply) : Response :=
  match r.body with
  | some body =>
    ⟨r.status, r.headers.setIfAbsent contentType (Utf8.ofString "application/json"),
      Utf8.ofString body.print⟩
  | none => ⟨r.status, r.headers, []⟩

/-- Only the kind of the body is added to the fields. -/
theorem Reply.get?_toResponse (r : Reply) {name : String} (h : contentType ≠ name) :
    r.toResponse.headers.get? name = r.headers.get? name := by
  obtain ⟨status, headers, body⟩ := r
  cases body with
  | some body => exact headers.get?_setIfAbsent_of_ne _ h
  | none => rfl

namespace Response

/-- A status alone. -/
def empty (status : Status) : Response := ⟨status, Headers.empty, []⟩

/-- Plain text. -/
def plain (status : Status) (text : String) : Response :=
  ⟨status, Headers.empty.set contentType (Utf8.ofString "text/plain; charset=utf-8"),
    Utf8.ofString text⟩

/-- Add a field unless one of its name is there. -/
def withHeaderIfAbsent (r : Response) (name : String) (value : Bytes) : Response :=
  { r with headers := r.headers.setIfAbsent name value }

/-- State the length of the body. -/
def withLength (r : Response) : Response :=
  r.withHeaderIfAbsent contentLength (Utf8.ofString (toString r.body.length))

/-- Drop the body. -/
def withoutBody (r : Response) : Response := { r with body := [] }

/-- The response as it leaves for a request of a method. A tunnel that was granted has
neither length nor body; the length is otherwise that of the body before it is dropped
for HEAD. -/
def framedFor (r : Response) (method : Method) : Response :=
  if method = .connect && r.status.isSuccess then r.withoutBody
  else if method = .head then r.withLength.withoutBody
  else r.withLength

@[simp]
theorem withHeaderIfAbsent_status (r : Response) (name : String) (value : Bytes) :
    (r.withHeaderIfAbsent name value).status = r.status := rfl

@[simp]
theorem withHeaderIfAbsent_body (r : Response) (name : String) (value : Bytes) :
    (r.withHeaderIfAbsent name value).body = r.body := rfl

@[simp]
theorem framedFor_status (r : Response) (method : Method) :
    (r.framedFor method).status = r.status := by
  unfold framedFor
  split
  · rfl
  · split <;> rfl

/-- Only the length is added to the fields. -/
theorem get?_framedFor (r : Response) (method : Method) {name : String} (h : contentLength ≠ name) :
    (r.framedFor method).headers.get? name = r.headers.get? name := by
  have hlength : r.withLength.headers.get? name = r.headers.get? name :=
    r.headers.get?_setIfAbsent_of_ne _ h
  unfold framedFor
  split
  · rfl
  · split
    · exact hlength
    · exact hlength

/-- A body is left out where a tunnel was granted and for HEAD. -/
theorem framedFor_body (r : Response) (method : Method) :
    (r.framedFor method).body =
      if method = .connect && r.status.isSuccess || method = .head then [] else r.body := by
  unfold framedFor
  cases hconnect : decide (method = .connect) && r.status.isSuccess with
  | true => rfl
  | false =>
    by_cases hhead : method = .head
    · simp [hhead, withoutBody]
    · simp [hhead, withLength]

end Response

end RouteTree
