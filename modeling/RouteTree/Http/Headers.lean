import RouteTree.Http.Method
import RouteTree.Text.Utf8

/-!
# Header fields

A header field has a lower-case token for a name and octets for a value. A name may
occur repeatedly; the fields keep the order in which they were added, and a look-up
finds the first.
-/

namespace RouteTree

/-- The fields of a message, names in lower case. -/
structure Headers where
  fields : List (String × Bytes)

namespace Headers

/-- No field. -/
def empty : Headers := ⟨[]⟩

instance : Inhabited Headers := ⟨empty⟩

/-- ASCII letters in lower case. -/
def lowerCase (name : String) : String := String.ofList (name.toList.map Char.toLower)

/-- The name of a field, if the text is a token. -/
def name? (text : String) : Option String :=
  if isToken text && text.utf8ByteSize ≤ 65535 then some (lowerCase text) else none

/-- An octet that a value may hold: a tab or anything from the space on, except
delete. -/
def isValueOctet (b : UInt8) : Bool := b == 0x09 || (0x20 ≤ b && b ≠ 0x7F)

/-- A value that may stand in a field. -/
def isValue (value : Bytes) : Bool := value.all isValueOctet

/-- Add a field behind those that are there. -/
def append (h : Headers) (name : String) (value : Bytes) : Headers :=
  ⟨h.fields ++ [(name, value)]⟩

/-- Make a field the only one of its name. -/
def set (h : Headers) (name : String) (value : Bytes) : Headers :=
  ⟨h.fields.filter (fun f => f.1 ≠ name) ++ [(name, value)]⟩

/-- The value of the first field of a lower-case name. -/
def get? (h : Headers) (name : String) : Option Bytes :=
  (h.fields.find? fun f => f.1 == name).map Prod.snd

/-- Whether a field of a lower-case name is there. -/
def contains (h : Headers) (name : String) : Bool := (h.get? name).isSome

/-- Add a field unless one of its name is there. -/
def setIfAbsent (h : Headers) (name : String) (value : Bytes) : Headers :=
  if h.contains name then h else h.append name value

/-- A value as text, if each of its octets is a tab or visible ASCII. -/
def valueText? (value : Bytes) : Option String :=
  if value.all fun b => b == 0x09 || (0x20 ≤ b && b ≤ 0x7E) then
    some (String.ofList (value.map fun b => Char.ofNat b.toNat))
  else none

/-- The value of the first field of a name, written in any case, if it is readable as
text. -/
def text? (h : Headers) (name : String) : Option String :=
  (h.get? (lowerCase name)).bind valueText?

/-- Lexicographic order of octets. -/
def octetsLe : Bytes → Bytes → Bool
  | [], _ => true
  | _ :: _, [] => false
  | a :: as, b :: bs => if a = b then octetsLe as bs else decide (a < b)

/-- All fields, by name and then by value. -/
def sorted (h : Headers) : List (String × Bytes) :=
  h.fields.mergeSort fun a b => if a.1 = b.1 then octetsLe a.2 b.2 else decide (a.1 < b.1)

theorem get?_append (h : Headers) (name other : String) (value : Bytes) :
    (h.append name value).get? other =
      (h.get? other).or (if name = other then some value else none) := by
  simp only [get?, append, List.find?_append, List.find?_singleton]
  cases List.find? (fun f => f.1 == other) h.fields <;> by_cases hn : name = other <;> simp [hn]

theorem get?_setIfAbsent_self (h : Headers) (name : String) (value : Bytes) :
    (h.setIfAbsent name value).get? name = some ((h.get? name).getD value) := by
  unfold setIfAbsent contains
  cases hget : h.get? name with
  | none => simp [get?_append, hget]
  | some found => simp [hget]

theorem get?_setIfAbsent_of_ne (h : Headers) {name other : String} (value : Bytes)
    (hne : name ≠ other) : (h.setIfAbsent name value).get? other = h.get? other := by
  unfold setIfAbsent
  split
  · rfl
  · rw [get?_append, if_neg hne, Option.or_none]

end Headers

end RouteTree
