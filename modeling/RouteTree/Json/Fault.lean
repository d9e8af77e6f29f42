import RouteTree.Json.Printer
import RouteTree.Text.Utf8

/-!
# Faults of JSON input

A fault says what is wrong and where: it keeps the input that was still unread at the
reported place, so its line and column follow from the whole input. A fault found by
looking at the next octet is placed just behind that octet, one found by consuming an
octet behind what was consumed.
-/

namespace RouteTree.Json

/-- What a typed reader found in place of what it expected. -/
inductive Found where
  | null
  | bool (value : Bool)
  | number (value : Number)
  | string (value : String)
  | sequence
  | map

/-- The wording of what was found. -/
def Found.describe : Found → String
  | .null => "null"
  | .bool b => "boolean `" ++ (if b then "true" else "false") ++ "`"
  | .number (.integer n) => "integer `" ++ String.ofList (integerText n) ++ "`"
  | .number (.float x) => "floating point `" ++ String.ofList (floatText x) ++ "`"
  | .string s => "string " ++ Text.quote s
  | .sequence => "sequence"
  | .map => "map"

/-- What is wrong with an input. -/
inductive Problem where
  | endInValue
  | endInList
  | endInObject
  | endInString
  | valueExpected
  | literalExpected
  | numberInvalid
  | numberOutOfRange
  | trailingCharacters
  | trailingComma
  | listCommaExpected
  | objectCommaExpected
  | colonExpected
  | nameExpected
  | escapeInvalid
  | surrogateAlone
  | surrogateUnpaired
  | controlCharacter
  | notUtf8
  | tooDeep
  | wrongType (found : Found) (expected : String)
  | wrongValue (found : Found) (expected : String)
  | wrongLength (length : Nat) (expected : String)
  | missingField (name : String)
  | duplicateField (name : String)

/-- The wording of a problem. -/
def Problem.message : Problem → String
  | .endInValue => "EOF while parsing a value"
  | .endInList => "EOF while parsing a list"
  | .endInObject => "EOF while parsing an object"
  | .endInString => "EOF while parsing a string"
  | .valueExpected => "expected value"
  | .literalExpected => "expected ident"
  | .numberInvalid => "invalid number"
  | .numberOutOfRange => "number out of range"
  | .trailingCharacters => "trailing characters"
  | .trailingComma => "trailing comma"
  | .listCommaExpected => "expected `,` or `]`"
  | .objectCommaExpected => "expected `,` or `\x7d`"
  | .colonExpected => "expected `:`"
  | .nameExpected => "key must be a string"
  | .escapeInvalid => "invalid escape"
  | .surrogateAlone => "lone leading surrogate in hex escape"
  | .surrogateUnpaired => "unexpected end of hex escape"
  | .controlCharacter => "control character (\\u0000-\\u001F) found while parsing a string"
  | .notUtf8 => "invalid unicode code point"
  | .tooDeep => "recursion limit exceeded"
  | .wrongType found expected => "invalid type: " ++ found.describe ++ ", expected " ++ expected
  | .wrongValue found expected => "invalid value: " ++ found.describe ++ ", expected " ++ expected
  | .wrongLength length expected =>
    "invalid length " ++ String.ofList (digitsOf length) ++ ", expected " ++ expected
  | .missingField name => "missing field `" ++ name ++ "`"
  | .duplicateField name => "duplicate field `" ++ name ++ "`"

/-- A problem and the input that was unread behind its place. -/
structure Fault where
  problem : Problem
  unread : Bytes

/-- A fault behind the octets consumed so far. -/
def Fault.here {α : Type} (problem : Problem) (unread : Bytes) : Except Fault α :=
  .error ⟨problem, unread⟩

/-- A fault at the next octet, which is placed behind it. -/
def Fault.peek {α : Type} (problem : Problem) (unread : Bytes) : Except Fault α :=
  .error ⟨problem, unread.tail⟩

/-- Lines from 1 and octets of the last line, for the octets read so far. -/
def position (read : Bytes) : Nat × Nat :=
  (read.count 10 + 1, (read.reverse.takeWhile (· ≠ 10)).length)

/-- The wording of a fault of an input. -/
def Fault.message (fault : Fault) (input : Bytes) : String :=
  let place := position (input.take (input.length - fault.unread.length))
  fault.problem.message ++ " at line " ++ String.ofList (digitsOf place.1) ++
    " column " ++ String.ofList (digitsOf place.2)

end RouteTree.Json
