import RouteTree.Decimal.Shortest
import RouteTree.Json.Basic
import RouteTree.Text.Quoted

/-!
# Compact JSON text

Values are written without blanks, members in the order the object holds them. In a
string a quote, a backslash and the controls below the space are escaped and nothing
else is. A double has the fewest digits that read back, and always a point or an
exponent, so that it never looks like an integer.
-/

namespace RouteTree.Json

open Decimal

/-- Decimal digits of a number. -/
def digitsOf (n : Nat) : List Char := Nat.toDigits 10 n

/-- Least exponent of the leading digit that is written positionally. -/
def leastPlainExponent : Int := -5

/-- Greatest exponent of the leading digit that is written positionally. -/
def greatestPlainExponent : Int := 15

/-- A decimal in positional notation, or with one digit before the point and an exponent
when it is very small or very large. -/
def decimalText (d : Scaled) : List Char :=
  let digits := digitsOf d.digits
  let leading : Int := d.exponent + digits.length - 1
  if leastPlainExponent ≤ leading ∧ leading ≤ greatestPlainExponent then
    if 0 ≤ d.exponent then digits ++ List.replicate d.exponent.toNat '0' ++ ['.', '0']
    else if 0 ≤ leading then
      digits.take (leading.toNat + 1) ++ '.' :: digits.drop (leading.toNat + 1)
    else '0' :: '.' :: List.replicate (-leading - 1).toNat '0' ++ digits
  else
    let mantissa := match digits with
      | first :: second :: rest => first :: '.' :: second :: rest
      | short => short
    let sign := if leading < 0 then '-' else '+'
    mantissa ++ 'e' :: sign :: digitsOf leading.natAbs

/-- The text of a finite double. -/
def floatText (x : Float) : List Char :=
  match parts x with
  | .zero negative => if negative then ['-', '0', '.', '0'] else ['0', '.', '0']
  | .finite negative magnitude =>
    let text := decimalText magnitude.shortest
    if negative then '-' :: text else text
  | .notFinite => ['n', 'u', 'l', 'l']

/-- The text of an integer. -/
def integerText (n : Int) : List Char :=
  if n < 0 then '-' :: digitsOf n.natAbs else digitsOf n.natAbs

/-- The text of a number. -/
def numberText : Number → List Char
  | .integer n => integerText n
  | .float x => floatText x

/-- One character of a string. -/
def escape (c : Char) : List Char :=
  match c with
  | '"' => ['\\', '"']
  | '\\' => ['\\', '\\']
  | '\x08' => ['\\', 'b']
  | '\x0c' => ['\\', 'f']
  | '\n' => ['\\', 'n']
  | '\r' => ['\\', 'r']
  | '\t' => ['\\', 't']
  | c =>
    if c.toNat < 0x20 then
      ['\\', 'u', '0', '0', Text.hexDigit (c.toNat / 16), Text.hexDigit (c.toNat % 16)]
    else [c]

/-- A string in quotes. -/
def stringText (text : String) : List Char :=
  '"' :: text.toList.flatMap escape ++ ['"']

mutual

/-- The text of a value. -/
def text : Json → List Char
  | .null => ['n', 'u', 'l', 'l']
  | .bool true => ['t', 'r', 'u', 'e']
  | .bool false => ['f', 'a', 'l', 's', 'e']
  | .number n => numberText n
  | .string s => stringText s
  | .array [] => ['[', ']']
  | .array (item :: items) => '[' :: text item ++ itemsText items
  | .object [] => ['\x7b', '\x7d']
  | .object ((name, value) :: members) =>
    '\x7b' :: stringText name ++ ':' :: text value ++ membersText members

/-- The items of an array after the first, each behind a comma, and the closing
bracket. -/
def itemsText : List Json → List Char
  | [] => [']']
  | item :: items => ',' :: text item ++ itemsText items

/-- The members of an object after the first, each behind a comma, and the closing
brace. -/
def membersText : List (String × Json) → List Char
  | [] => ['\x7d']
  | (name, value) :: members =>
    ',' :: stringText name ++ ':' :: text value ++ membersText members

end

/-- Compact text. -/
def print (value : Json) : String := String.ofList (text value)

end RouteTree.Json
