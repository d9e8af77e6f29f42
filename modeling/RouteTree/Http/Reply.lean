import RouteTree.Http.Headers
import RouteTree.Http.Status
import RouteTree.Json.Basic

/-!
# Replies

A reply is what a guard or a handler wants to be answered: a status, header fields and
maybe a JSON body.
-/

namespace RouteTree

/-- An answer that does not depend on how it is sent. -/
structure Reply where
  status : Status
  headers : Headers
  body : Option Json

namespace Reply

/-- A body with status 200. -/
def json (body : Json) : Reply := ⟨.ok, Headers.empty, some body⟩

/-- A status without a body. -/
def empty (status : Status) : Reply := ⟨status, Headers.empty, none⟩

/-- Status 204 without a body. -/
def noContent : Reply := empty .noContent

/-- Change the status. -/
def withStatus (r : Reply) (status : Status) : Reply := { r with status }

/-- Make a header the only one of its name. -/
def withHeader (r : Reply) (name : String) (value : Bytes) : Reply :=
  { r with headers := r.headers.set name value }

end Reply

end RouteTree
