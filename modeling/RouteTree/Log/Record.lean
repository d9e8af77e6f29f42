import RouteTree.Log.Filter
import RouteTree.Stage
import RouteTree.Text.Quoted

/-!
# Log records

What happens in a server is written as log records: a level, a target, a message and
fields. A line shows the level, the target, the message and each field behind an equals
sign.
-/

namespace RouteTree.Log

/-- One line of a log. -/
structure Record where
  level : Level
  target : String
  message : String
  fields : List (String × String)
  deriving Repr

/-- The line of a record. -/
def Record.line (r : Record) : String :=
  r.level.label ++ " " ++ r.target ++ ": " ++ r.message ++
    String.join (r.fields.map fun f => " " ++ f.1 ++ "=" ++ f.2)

/-- The names of a record's fields, of which the message is one. -/
def Record.fieldNames (r : Record) : List String := "message" :: r.fields.map Prod.fst

/-- Whether a filter lets a record through. -/
def Record.passes (r : Record) (f : Filter) : Bool := f.passes r.level r.target r.fieldNames

/-- The target of registered routes and unhandled failures. -/
def routeTarget : String := "rutt::observability::logging"

/-- The target of the server. -/
def serverTarget : String := "rutt::http::server"

/-- The target of exchanges. -/
def exchangeTarget : String := "rutt::http::response"

/-- The record of an event, if it is logged. -/
def Record.ofEvent? : Event → Option Record
  | .note _ => none
  | .constructed .. => none
  | .registered method path =>
    some ⟨.info, routeTarget, "[" ++ method.token ++ "] " ++ path, []⟩
  | .unhandled method path failure =>
    some ⟨.error, routeTarget, "Unhandled error in route handler",
      [("method", method.token), ("route", path), ("error", failure.trace)]⟩
  | .transition before after =>
    some ⟨.trace, exchangeTarget, "Dispatch state", [("from", before.name), ("to", after.name)]⟩
  | .replyIgnored status =>
    some ⟨.debug, exchangeTarget, "Reply already sent, ignoring", [("status", status.describe)]⟩
  | .rejected path error =>
    some ⟨.debug, serverTarget, "Request rejected before dispatch",
      [("route", path), ("error", error.describe)]⟩
  | .pluginRegistered name =>
    some ⟨.debug, serverTarget, "Registering plugin", [("plugin", Text.quote name)]⟩
  | .listening address routes =>
    some ⟨.info, serverTarget, "HTTP server listening",
      [("address", address), ("routes", toString routes)]⟩
  | .stopped => some ⟨.info, serverTarget, "HTTP server stopped", []⟩

end RouteTree.Log
