import RouteTree.Http.Headers
import RouteTree.Http.Uri
import RouteTree.SortedMap

/-!
# Requests

A request as guards and handlers see it: after routing, with the captured parameters and
the whole body.
-/

namespace RouteTree

/-- A routed request. -/
structure Request where
  method : Method
  uri : Uri
  headers : Headers
  params : SortedMap String String
  body : Bytes
  deriving Inhabited

namespace Request

/-- The header that carries the request id. -/
def idHeader : String := "x-request-id"

/-- A request without headers, parameters and body. -/
def new (method : Method) (uri : Uri) : Request :=
  ⟨method, uri, Headers.empty, SortedMap.empty, []⟩

/-- Set a captured parameter. -/
def withParam (r : Request) (name value : String) : Request :=
  { r with params := r.params.insert name value }

/-- Make a header the only one of its name. -/
def withHeader (r : Request) (name : String) (value : Bytes) : Request :=
  { r with headers := r.headers.set name value }

/-- Set the body. -/
def withBody (r : Request) (body : Bytes) : Request := { r with body }

/-- A captured parameter. -/
def param? (r : Request) (name : String) : Option String := r.params.get? name

/-- A header that is readable as text. -/
def header? (r : Request) (name : String) : Option String := r.headers.text? name

/-- The request id. -/
def id? (r : Request) : Option String := r.header? idHeader

end Request

end RouteTree
