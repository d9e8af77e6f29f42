import RouteTree.Failure
import RouteTree.Schema.Rule

/-!
# Validation of captured parameters

Captured values are checked in ascending order of their names, and the first violation
is answered with a 400 that names the parameter. A captured value without a rule and a
rule without a captured value are fine.
-/

namespace RouteTree

namespace Schema

/-- The requirement that the captured value of a rule's parameter violates. -/
def entryViolation? (params : SortedMap String String) (entry : String × Rule) :
    Option (String × String) :=
  (params.get? entry.1).bind fun value =>
    (entry.2.violation? value).map fun reason => (entry.1, reason)

/-- The first violation by ascending name: the name and what its value must be. -/
def violation? (schema : Schema) (params : SortedMap String String) : Option (String × String) :=
  schema.entries.findSome? (entryViolation? params)

/-- The error of a violated parameter. -/
def violationError (name reason : String) : HttpError :=
  (HttpError.badRequest ("\"" ++ name ++ "\" " ++ reason)).withData
    (Json.ofMembers [("source", .string "params"), ("key", .string name)])

/-- The error of the first violation, if there is one. -/
def validate (schema : Schema) (params : SortedMap String String) : Except HttpError Unit :=
  match violation? schema params with
  | some (name, reason) => .error (violationError name reason)
  | none => .ok ()

end Schema

end RouteTree
