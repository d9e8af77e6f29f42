import RouteTree.Decimal.Gather
import RouteTree.Json.Fault

/-!
# Scalars of JSON input

Literals, numbers and strings, each read from the front of the octets with the octets
left over. The same scalars can be skipped instead of read: skipping checks their form
but neither the size of a number nor the characters of a string.
-/

namespace RouteTree.Json.Reader

/-- The blanks between tokens: space, tab, line feed, carriage return. -/
def isBlank (b : UInt8) : Bool := b = 0x20 || b = 0x09 || b = 0x0A || b = 0x0D

/-- The input from its first octet that is not blank. -/
def skipBlanks (input : Bytes) : Bytes := input.dropWhile isBlank

/-- An ASCII digit. -/
def isDigit (b : UInt8) : Bool := 0x30 ≤ b && b ≤ 0x39

/-- The value of a digit. -/
def digitValue (b : UInt8) : Nat := b.toNat - 0x30

/-- The value of a hexadecimal digit of either case. -/
def hexValue? (b : UInt8) : Option Nat :=
  if isDigit b then some (b.toNat - 0x30)
  else if 0x61 ≤ b && b ≤ 0x66 then some (b.toNat - 0x57)
  else if 0x41 ≤ b && b ≤ 0x46 then some (b.toNat - 0x37)
  else none

/-- Consume the rest of a literal whose first letter has been consumed. -/
def literal : Bytes → Bytes → Except Fault Bytes
  | [], input => .ok input
  | _ :: _, [] => Fault.here .endInValue []
  | expected :: rest, b :: input =>
    if b = expected then literal rest input else Fault.here .literalExpected input

/-- The rest of `null`. -/
def nullTail : Bytes := [0x75, 0x6C, 0x6C]

/-- The rest of `true`. -/
def trueTail : Bytes := [0x72, 0x75, 0x65]

/-- The rest of `false`. -/
def falseTail : Bytes := [0x61, 0x6C, 0x73, 0x65]

/-! ## Numbers -/

/-- The exponent of a numeral behind its `e`, added to the exponent it has so far. -/
def exponentPart (negative : Bool) (word : Nat) (exponent : Int) (input : Bytes) :
    Except Fault (Number × Bytes) :=
  let (positive, input) := match input with
    | 0x2B :: rest => (true, rest)
    | 0x2D :: rest => (false, rest)
    | input => (true, input)
  match input with
  | [] => Fault.here .endInValue []
  | b :: behind =>
    if isDigit b then
      let digits := input.takeWhile isDigit
      let rest := input.dropWhile isDigit
      let (size, extra) := Decimal.gather Decimal.exponentLimit 0 (digits.map digitValue)
      if extra.isEmpty then
        match Decimal.assemble negative word
            (if positive then exponent + size else exponent - size) with
        | some x => .ok (.float x, rest)
        | none => Fault.here .numberOutOfRange rest
      else if word ≠ 0 ∧ positive then
        Fault.here .numberOutOfRange (input.drop (digits.length - extra.length + 1))
      else .ok (.float (if negative then -0.0 else 0.0), rest)
    else Fault.here .numberInvalid behind

/-- A gathered word as a double, or with the exponent that follows. -/
def afterDigits (negative : Bool) (word : Nat) (exponent : Int) (input : Bytes) :
    Except Fault (Number × Bytes) :=
  match input with
  | 0x65 :: rest => exponentPart negative word exponent rest
  | 0x45 :: rest => exponentPart negative word exponent rest
  | input =>
    match Decimal.assemble negative word exponent with
    | some x => .ok (.float x, input)
    | none => Fault.here .numberOutOfRange input

/-- The fraction of a numeral behind its point. -/
def fractionPart (negative : Bool) (word : Nat) (exponent : Int) (input : Bytes) :
    Except Fault (Number × Bytes) :=
  let digits := input.takeWhile isDigit
  let rest := input.dropWhile isDigit
  match digits with
  | [] => if rest.isEmpty then Fault.here .endInValue [] else Fault.peek .numberInvalid rest
  | _ :: _ =>
    let (word, extra) := Decimal.gather Decimal.wordLimit word (digits.map digitValue)
    afterDigits negative word (exponent - ((digits.length - extra.length : Nat) : Int)) rest

/-- What follows the integer digits of a numeral. A word without fraction and exponent
is an integer if it fits 64 bits, which a negated zero or a word below the least signed
one does not. -/
def afterInteger (negative : Bool) (word : Nat) (input : Bytes) : Except Fault (Number × Bytes) :=
  match input with
  | 0x2E :: rest => fractionPart negative word 0 rest
  | 0x65 :: rest => exponentPart negative word 0 rest
  | 0x45 :: rest => exponentPart negative word 0 rest
  | input =>
    if negative then
      if word = 0 ∨ 0x8000000000000000 < word then .ok (.float (-word.toUInt64.toFloat), input)
      else .ok (.integer (-(word : Int)), input)
    else .ok (.integer word, input)

/-- A number whose sign has been consumed. -/
def unsigned (negative : Bool) (input : Bytes) : Except Fault (Number × Bytes) :=
  match input with
  | [] => Fault.here .endInValue []
  | 0x30 :: rest =>
    match rest with
    | b :: _ => if isDigit b then Fault.peek .numberInvalid rest else afterInteger negative 0 rest
    | [] => afterInteger negative 0 []
  | b :: behind =>
    if isDigit b then
      let digits := input.takeWhile isDigit
      let rest := input.dropWhile isDigit
      let (word, extra) := Decimal.gather Decimal.wordLimit 0 (digits.map digitValue)
      if extra.isEmpty then afterInteger negative word rest
      else
        match rest with
        | 0x2E :: rest => fractionPart negative word extra.length rest
        | rest => afterDigits negative word extra.length rest
    else Fault.here .numberInvalid behind

/-- A number, whose first octet is a minus sign or a digit. -/
def number (input : Bytes) : Except Fault (Number × Bytes) :=
  match input with
  | 0x2D :: rest => unsigned true rest
  | input => unsigned false input

/-! ## Strings -/

/-- Four hexadecimal digits. -/
def hexQuad (input : Bytes) : Except Fault (Nat × Bytes) :=
  match input with
  | a :: b :: c :: d :: rest =>
    match hexValue? a, hexValue? b, hexValue? c, hexValue? d with
    | some a, some b, some c, some d => .ok (((a * 16 + b) * 16 + c) * 16 + d, rest)
    | _, _, _, _ => Fault.here .escapeInvalid rest
  | _ => Fault.here .endInString []

/-- A code unit that only stands before another one. -/
def isHighSurrogate (n : Nat) : Bool := 0xD800 ≤ n && n ≤ 0xDBFF

/-- A code unit that only stands behind another one. -/
def isLowSurrogate (n : Nat) : Bool := 0xDC00 ≤ n && n ≤ 0xDFFF

/-- The character of an escape whose `u` has been consumed: one code unit, or a pair of
them. -/
def unicodeEscape (input : Bytes) : Except Fault (Char × Bytes) := do
  let (unit, rest) ← hexQuad input
  if isLowSurrogate unit then Fault.here .surrogateAlone rest
  else if isHighSurrogate unit then
    match rest with
    | [] => Fault.here .endInString []
    | 0x5C :: [] => Fault.here .endInString []
    | 0x5C :: 0x75 :: rest => do
      let (second, rest) ← hexQuad rest
      if isLowSurrogate second then
        .ok (Char.ofNat ((unit - 0xD800) * 1024 + (second - 0xDC00) + 0x10000), rest)
      else Fault.here .surrogateAlone rest
    | 0x5C :: _ :: rest => Fault.here .surrogateUnpaired rest
    | _ :: rest => Fault.here .surrogateUnpaired rest
  else .ok (Char.ofNat unit, rest)

/-- The character of an escape whose backslash has been consumed. -/
def escaped (input : Bytes) : Except Fault (Char × Bytes) :=
  match input with
  | [] => Fault.here .endInString []
  | 0x22 :: rest => .ok ('"', rest)
  | 0x5C :: rest => .ok ('\\', rest)
  | 0x2F :: rest => .ok ('/', rest)
  | 0x62 :: rest => .ok ('\x08', rest)
  | 0x66 :: rest => .ok ('\x0c', rest)
  | 0x6E :: rest => .ok ('\n', rest)
  | 0x72 :: rest => .ok ('\r', rest)
  | 0x74 :: rest => .ok ('\t', rest)
  | 0x75 :: rest => unicodeEscape rest
  | _ :: rest => Fault.here .escapeInvalid rest

/-- One character of a string: an escape, or the octets of a character as they are.
Octets that are no UTF-8 count as one character each here; the first of them is kept for
`string` to report. -/
inductive Piece where
  | character (c : Char)
  | unreadable (behind : Bytes)

/-- The pieces of a string up to its closing quote, and the input behind that. The fuel
is the number of octets left, and each piece takes at least one. -/
def pieces : Nat → Bytes → Except Fault (List Piece × Bytes)
  | 0, _ => Fault.here .endInString []
  | _ + 1, [] => Fault.here .endInString []
  | fuel + 1, b :: rest =>
    if b = 0x22 then .ok ([], rest)
    else if b = 0x5C then do
      let (c, rest) ← escaped rest
      let (tail, rest) ← pieces fuel rest
      .ok (.character c :: tail, rest)
    else if b < 0x20 then Fault.here .controlCharacter rest
    else
      match Utf8.decodeChar? (b :: rest) with
      | some (c, rest) => do
        let (tail, rest) ← pieces fuel rest
        .ok (.character c :: tail, rest)
      | none => do
        let (tail, behind) ← pieces fuel rest
        .ok (.unreadable rest :: tail, behind)

/-- The characters of pieces; the first unreadable octet is a fault behind that
octet. -/
def characters : List Piece → Except Fault (List Char)
  | [] => .ok []
  | .unreadable behind :: _ => Fault.here .notUtf8 behind
  | .character c :: rest => do
    let cs ← characters rest
    .ok (c :: cs)

/-- A string whose opening quote has been consumed. -/
def string (input : Bytes) : Except Fault (String × Bytes) := do
  let (parts, rest) ← pieces input.length input
  let cs ← characters parts
  .ok (String.ofList cs, rest)

/-! ## Skipping -/

/-- Skip the exponent of a number behind its `e`. -/
def skipExponent (input : Bytes) : Except Fault Bytes :=
  let input := match input with
    | 0x2B :: rest => rest
    | 0x2D :: rest => rest
    | input => input
  match input with
  | [] => Fault.here .numberInvalid []
  | b :: rest => if isDigit b then .ok (rest.dropWhile isDigit) else Fault.here .numberInvalid rest

/-- Skip what follows the digits of a number. -/
def skipAfterDigits (input : Bytes) : Except Fault Bytes :=
  match input with
  | 0x65 :: rest => skipExponent rest
  | 0x45 :: rest => skipExponent rest
  | input => .ok input

/-- Skip what follows the integer digits of a number. -/
def skipAfterInteger (input : Bytes) : Except Fault Bytes :=
  match input with
  | 0x2E :: rest =>
    match rest with
    | b :: _ =>
      if isDigit b then skipAfterDigits (rest.dropWhile isDigit) else Fault.peek .numberInvalid rest
    | [] => Fault.here .numberInvalid []
  | input => skipAfterDigits input

/-- Skip a number whose sign has been consumed. -/
def skipUnsigned (input : Bytes) : Except Fault Bytes :=
  match input with
  | [] => Fault.here .numberInvalid []
  | 0x30 :: rest =>
    match rest with
    | b :: _ => if isDigit b then Fault.peek .numberInvalid rest else skipAfterInteger rest
    | [] => .ok []
  | b :: rest =>
    if isDigit b then skipAfterInteger (rest.dropWhile isDigit) else Fault.here .numberInvalid rest

/-- Skip a string whose opening quote has been consumed. -/
def skipString : Nat → Bytes → Except Fault Bytes
  | 0, _ => Fault.here .endInString []
  | _ + 1, [] => Fault.here .endInString []
  | fuel + 1, b :: rest =>
    if b = 0x22 then .ok rest
    else if b = 0x5C then
      match rest with
      | [] => Fault.here .endInString []
      | 0x75 :: rest => do
        let (_, rest) ← hexQuad rest
        skipString fuel rest
      | c :: rest =>
        if c = 0x22 || c = 0x5C || c = 0x2F || c = 0x62 || c = 0x66 || c = 0x6E || c = 0x72 ||
            c = 0x74 then skipString fuel rest
        else Fault.here .escapeInvalid rest
    else if b < 0x20 then Fault.here .controlCharacter (b :: rest)
    else skipString fuel rest

end RouteTree.Json.Reader
