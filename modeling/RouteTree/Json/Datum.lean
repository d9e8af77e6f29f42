import RouteTree.Json.Printer
import RouteTree.Text.Utf8

/-!
# Data to be answered as JSON

What a handler computes is a datum: a scalar, a sequence, a map with keys of any kind,
or a JSON value. Encoding turns it into JSON or says why it has no JSON form: an integer
that fits no 64-bit word, a key that is not a scalar, or a datum that refuses to be
encoded.
-/

namespace RouteTree

/-- A value that a handler answers with. -/
inductive Datum where
  | absent
  | json (value : Json)
  | bool (value : Bool)
  | integer (value : Int)
  | real (value : Float)
  | text (value : String)
  | bytes (value : Bytes)
  | sequence (items : List Datum)
  | map (entries : List (Datum × Datum))
  | variant (name : String) (content : Datum)
  | refused (reason : String)

/-- Why a datum has no JSON form. -/
inductive EncodeError where
  | outOfRange
  | keyNotText
  | keyNotFinite
  | refused (reason : String)
  deriving DecidableEq, Repr

/-- The wording of an encoding error. -/
def EncodeError.message : EncodeError → String
  | .outOfRange => "number out of range"
  | .keyNotText => "key must be a string"
  | .keyNotFinite => "float key must be finite"
  | .refused reason => reason

namespace Datum

/-- A member name: texts as they are, other scalars by their JSON text. -/
def toKey : Datum → Except EncodeError String
  | .text s => .ok s
  | .bool b => .ok (if b then "true" else "false")
  | .integer n => .ok (String.ofList (Json.integerText n))
  | .real x =>
    if x.isFinite then .ok (String.ofList (Json.floatText x)) else .error .keyNotFinite
  | .json (.string s) => .ok s
  | .json (.bool b) => .ok (if b then "true" else "false")
  | .json (.number n) => .ok (String.ofList (Json.numberText n))
  | .refused reason => .error (.refused reason)
  | _ => .error .keyNotText

mutual

/-- The JSON form of a datum. What is absent and what is no finite number is `null`. -/
def encode : Datum → Except EncodeError Json
  | .absent => .ok .null
  | .json v => .ok v
  | .bool b => .ok (.bool b)
  | .integer n => if Json.fitsWord n then .ok (.number (.integer n)) else .error .outOfRange
  | .real x => .ok (if x.isFinite then .number (.float x) else .null)
  | .text s => .ok (.string s)
  | .bytes bs => .ok (.array (bs.map fun b => Json.ofNat b.toNat))
  | .sequence items => do
    let vs ← encodeItems items
    .ok (.array vs)
  | .map entries => do
    let ms ← encodeEntries entries
    .ok (Json.ofMembers ms)
  | .variant name content => do
    let v ← encode content
    .ok (Json.ofMembers [(name, v)])
  | .refused reason => .error (.refused reason)

/-- The JSON forms of items, in order. -/
def encodeItems : List Datum → Except EncodeError (List Json)
  | [] => .ok []
  | d :: ds => do
    let v ← encode d
    let vs ← encodeItems ds
    .ok (v :: vs)

/-- The members of map entries, in order. -/
def encodeEntries : List (Datum × Datum) → Except EncodeError (List (String × Json))
  | [] => .ok []
  | (k, d) :: rest => do
    let name ← toKey k
    let v ← encode d
    let ms ← encodeEntries rest
    .ok ((name, v) :: ms)

end

@[simp]
theorem encode_json (v : Json) : encode (.json v) = .ok v := by
  simp [encode]

end Datum

end RouteTree
