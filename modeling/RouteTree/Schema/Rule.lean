import RouteTree.Decimal.Numeral
import RouteTree.Schema.Uuid
import RouteTree.SortedMap

/-!
# Rules for path parameters

A rule accepts or refuses the text that a path parameter captured. A refusal says what
the text must be. A schema gives at most one rule for each parameter name.
-/

namespace RouteTree

/-- What the text of a path parameter must be. -/
inductive Rule where
  | any
  | integer
  | uuid
  | alphanumeric
  | length (least greatest : Nat)
  | oneOf (allowed : List String)
  deriving DecidableEq, Repr

/-- Rules by parameter name. -/
abbrev Schema := SortedMap String Rule

namespace Rule

/-- Whether a text keeps to the rule. -/
def accepts : Rule → String → Bool
  | .any, _ => true
  | .integer, text => (signedWord? text).isSome
  | .uuid, text => Uuid.accepts text
  | .alphanumeric, text => !text.toList.isEmpty && text.toList.all Char.isAlphanum
  | .length least greatest, text =>
    least ≤ text.toList.length && text.toList.length ≤ greatest
  | .oneOf allowed, text => allowed.contains text

/-- What a refused text must be. -/
def requirement : Rule → String
  | .any => "may be anything"
  | .integer => "must be an integer"
  | .uuid => "must be a valid UUID"
  | .alphanumeric => "must only contain alpha-numeric characters"
  | .length least greatest =>
    "length must be between " ++ toString least ++ " and " ++ toString greatest
  | .oneOf allowed => "must be one of [" ++ ", ".intercalate allowed ++ "]"

/-- The requirement that a text violates, if it violates one. -/
def violation? (rule : Rule) (text : String) : Option String :=
  if rule.accepts text then none else some rule.requirement

theorem violation?_eq_none_iff (rule : Rule) (text : String) :
    rule.violation? text = none ↔ rule.accepts text = true := by
  simp [violation?]

end Rule

end RouteTree
