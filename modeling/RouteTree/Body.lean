import RouteTree.Failure
import RouteTree.Http.Request
import RouteTree.Json.Shape

/-!
# Bodies of requests

A body is decoded as JSON of a declared shape. A body that is not such JSON is answered
with a 400 that says what is wrong with it and where.
-/

namespace RouteTree.Request

/-- The error of a body that could not be decoded. -/
def bodyError (fault : Json.Fault) (body : Bytes) : HttpError :=
  HttpError.badRequest ("Invalid request payload JSON: " ++ fault.message body)

/-- The body as JSON of a shape. -/
def json (r : Request) (shape : Json.Shape) : Except HttpError Json :=
  (Json.readAs shape r.body).mapError fun fault => bodyError fault r.body

end RouteTree.Request
