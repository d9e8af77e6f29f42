import RouteTree.Http.Reply

/-!
# Failures

A guard or a handler fails with a root cause that is wrapped in any number of contexts.
Some failures know their answer: an `HttpError` as a context, or else as the root, is
recognised and answered as it is. An `HttpError` that is only the source of the root is
not.
-/

namespace RouteTree

/-- A failure that knows its answer. -/
structure HttpError where
  status : Status
  message : String
  data : Option Json

namespace HttpError

/-- An error without further data. -/
def new (status : Status) (message : String) : HttpError := ⟨status, message, none⟩

def badRequest (message : String) : HttpError := new .badRequest message
def unauthorized (message : String) : HttpError := new .unauthorized message
def forbidden (message : String) : HttpError := new .forbidden message
def notFound (message : String) : HttpError := new .notFound message
def conflict (message : String) : HttpError := new .conflict message
def payloadTooLarge (message : String) : HttpError := new .payloadTooLarge message
def internal (message : String) : HttpError := new .internalError message

/-- Attach structured detail. -/
def withData (e : HttpError) (data : Json) : HttpError := { e with data := some data }

/-- The wording: status and message. -/
def describe (e : HttpError) : String := e.status.describe ++ ": " ++ e.message

/-- The body that is sent: the code, its reason phrase, the message and any detail. -/
def body (e : HttpError) : Json :=
  Json.ofMembers
    ([("statusCode", Json.ofNat e.status.code),
      ("error", .string (e.status.reason?.getD "Unknown")),
      ("message", .string e.message)] ++
      (match e.data with | some d => [("data", d)] | none => []))

/-- The answer. -/
def toReply (e : HttpError) : Reply := (Reply.json e.body).withStatus e.status

end HttpError

/-- The innermost cause of a failure. -/
inductive Root where
  | text (message : String)
  | http (error : HttpError)
  | sourced (message : String) (source : HttpError)

/-- What a failure was wrapped in on its way out. -/
inductive Wrapping where
  | text (message : String)
  | http (error : HttpError)

/-- A root cause and its wrappings, the outermost first. -/
structure Failure where
  wrappings : List Wrapping
  root : Root

namespace Failure

/-- A failure that only has a message. -/
def ofText (message : String) : Failure := ⟨[], .text message⟩

/-- A failure that knows its answer. -/
def ofHttp (error : HttpError) : Failure := ⟨[], .http error⟩

/-- Wrap a failure. -/
def wrap (f : Failure) (w : Wrapping) : Failure := ⟨w :: f.wrappings, f.root⟩

/-- The wording of a wrapping. -/
def describeWrapping : Wrapping → String
  | .text m => m
  | .http e => e.describe

/-- The wordings of a root and of its source. -/
def describeRoot : Root → List String
  | .text m => [m]
  | .http e => [e.describe]
  | .sourced m e => [m, e.describe]

/-- The wordings of a failure from the outside in. -/
def chain (f : Failure) : List String :=
  f.wrappings.map describeWrapping ++ describeRoot f.root

/-- The outermost wording. -/
def describe (f : Failure) : String := f.chain.headD ""

/-- Further lines of a text are indented. -/
def indentLines (indent text : String) : String :=
  String.ofList (text.toList.flatMap fun c => if c = '\n' then '\n' :: indent.toList else [c])

/-- A number right-aligned in five columns. -/
def rightAligned (n : Nat) : String :=
  let digits := toString n
  String.ofList (List.replicate (5 - digits.length) ' ') ++ digits

/-- One cause among several, with its place in the list. -/
def numberedCause (entry : String × Nat) : String :=
  "\n" ++ rightAligned entry.2 ++ ": " ++ indentLines "       " entry.1

/-- The wordings from the outside in: the first alone, the others as a list of
causes. -/
def trace (f : Failure) : String :=
  match f.chain with
  | [] => ""
  | [only] => only
  | [outer, cause] => outer ++ "\n\nCaused by:\n    " ++ indentLines "    " cause
  | outer :: causes =>
    outer ++ "\n\nCaused by:" ++ String.join (causes.zipIdx.map numberedCause)

/-- The error of a wrapping that knows its answer. -/
def Wrapping.http? : Wrapping → Option HttpError
  | .http e => some e
  | .text _ => none

/-- The error of a root that knows its answer. A source is not looked at. -/
def Root.http? : Root → Option HttpError
  | .http e => some e
  | .text _ => none
  | .sourced _ _ => none

/-- The error that answers a failure: the outermost among the wrappings, or else the
root. -/
def recognised? (f : Failure) : Option HttpError :=
  (f.wrappings.findSome? Wrapping.http?).or (Root.http? f.root)

end Failure

end RouteTree
