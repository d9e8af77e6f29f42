import RouteTree.SortedMap

/-!
# JSON values

A number is an integer that fits 64 bits, signed or unsigned, or a finite double. An
object holds its members by ascending name, each name once, which `Json.ofMembers`
establishes.
-/

namespace RouteTree

/-- A number of a JSON text. -/
inductive Number where
  | integer (value : Int)
  | float (value : Float)
  deriving Inhabited

/-- A JSON value. -/
inductive Json where
  | null
  | bool (value : Bool)
  | number (value : Number)
  | string (value : String)
  | array (items : List Json)
  | object (members : List (String × Json))
  deriving Inhabited

namespace Json

/-- Integers that are written as such; others are out of range. -/
def fitsWord (n : Int) : Bool := -0x8000000000000000 ≤ n && n < 0x10000000000000000

/-- The object of a list of members, of which the last of a name counts. -/
def ofMembers (members : List (String × Json)) : Json :=
  .object (members.foldl (fun acc m => insertEntry m.1 m.2 acc) [])

/-- A natural number as a value. -/
def ofNat (n : Nat) : Json := .number (.integer n)

/-- A map of texts as an object. -/
def ofTexts (m : SortedMap String String) : Json :=
  .object (m.entries.map fun e => (e.1, .string e.2))

/-- The member of an object. -/
def get? (name : String) : Json → Option Json
  | .object members => lookupEntry name members
  | _ => none

end Json

end RouteTree
