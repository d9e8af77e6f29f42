import RouteTree.Toml.Document

/-!
# TOML scalars

Strings of four kinds, integers in four bases, floats, truth values and moments of time.
Each reader takes a scalar from the front of the characters and gives those left over;
`none` says that there is no such scalar.
-/

namespace RouteTree.Toml

/-- A blank inside a line. -/
def isBlank (c : Char) : Bool := c == ' ' || c == '\t'

/-- Drop blanks inside a line. -/
def dropBlanks (text : List Char) : List Char := text.dropWhile isBlank

/-- The characters behind a line end. -/
def lineEnd? : List Char → Option (List Char)
  | '\n' :: rest => some rest
  | '\r' :: '\n' :: rest => some rest
  | _ => none

/-- A character that comments and strings may hold as it is: a tab or no control. -/
def isPlain (c : Char) : Bool := c == '\t' || (0x20 ≤ c.toNat && c.toNat != 0x7F)

/-- A hexadecimal digit's value. -/
def hexValue? (c : Char) : Option Nat :=
  if '0' ≤ c ∧ c ≤ '9' then some (c.toNat - 48)
  else if 'a' ≤ c ∧ c ≤ 'f' then some (c.toNat - 87)
  else if 'A' ≤ c ∧ c ≤ 'F' then some (c.toNat - 55)
  else none

/-! ## Strings -/

/-- The character of a code point that is no surrogate. -/
def character? (code : Nat) : Option Char :=
  if h : code.isValidChar then some (Char.ofNatAux code h) else none

/-- The character that `count` hexadecimal digits denote. -/
def codePoint (count : Nat) (text : List Char) : Option (Char × List Char) :=
  let digits := (text.take count).filterMap hexValue?
  if digits.length = count then
    (character? (digits.foldl (fun n d => 16 * n + d) 0)).map fun c => (c, text.drop count)
  else none

/-- The character of an escape, behind its backslash. -/
def escape : List Char → Option (Char × List Char)
  | 'b' :: rest => some ('\x08', rest)
  | 'f' :: rest => some ('\x0c', rest)
  | 'n' :: rest => some ('\n', rest)
  | 'r' :: rest => some ('\r', rest)
  | 't' :: rest => some ('\t', rest)
  | '"' :: rest => some ('"', rest)
  | '\\' :: rest => some ('\\', rest)
  | 'u' :: rest => codePoint 4 rest
  | 'U' :: rest => codePoint 8 rest
  | _ => none

/-- A string in double quotes, behind the opening one. The fuel is the number of
characters left. -/
def basicString : Nat → List Char → Option (List Char × List Char)
  | 0, _ => none
  | _ + 1, [] => none
  | _ + 1, '"' :: rest => some ([], rest)
  | fuel + 1, '\\' :: rest => do
    let (c, rest) ← escape rest
    let (cs, rest) ← basicString fuel rest
    some (c :: cs, rest)
  | fuel + 1, c :: rest =>
    if isPlain c then do
      let (cs, rest) ← basicString fuel rest
      some (c :: cs, rest)
    else none

/-- A string in single quotes, behind the opening one. -/
def literalString : List Char → Option (List Char × List Char)
  | [] => none
  | '\x27' :: rest => some ([], rest)
  | c :: rest =>
    if isPlain c then (literalString rest).map fun (cs, rest) => (c :: cs, rest) else none

/-- A run of quotes in a string that three of them close. Fewer than three belong to the
string; of three to five the last three close it, and at most two more belong to it. -/
def closing? (quote : Char) (text : List Char) : Option (List Char × List Char) :=
  let run := (text.takeWhile (· == quote)).take 5
  if run.length < 3 then none
  else some (run.drop 3, text.drop run.length)

/-- Blanks and line ends behind a backslash at the end of a line. -/
def dropBlankLines : Nat → List Char → List Char
  | 0, text => text
  | fuel + 1, text =>
    match dropBlanks text with
    | text =>
      match lineEnd? text with
      | some rest => dropBlankLines fuel rest
      | none => text

/-- A string of several lines in double quotes, behind the opening ones. -/
def basicLines : Nat → List Char → Option (List Char × List Char)
  | 0, _ => none
  | _ + 1, [] => none
  | fuel + 1, '"' :: rest =>
    match closing? '"' ('"' :: rest) with
    | some (quotes, rest) => some (quotes, rest)
    | none => do
      let (cs, rest) ← basicLines fuel rest
      some ('"' :: cs, rest)
  | fuel + 1, '\\' :: rest =>
    match lineEnd? (dropBlanks rest) with
    | some below => basicLines fuel (dropBlankLines below.length below)
    | none => do
      let (c, rest) ← escape rest
      let (cs, rest) ← basicLines fuel rest
      some (c :: cs, rest)
  | fuel + 1, c :: rest =>
    match lineEnd? (c :: rest) with
    | some below => do
      let (cs, rest) ← basicLines fuel below
      some ('\n' :: cs, rest)
    | none =>
      if isPlain c then do
        let (cs, rest) ← basicLines fuel rest
        some (c :: cs, rest)
      else none

/-- A string of several lines in single quotes, behind the opening ones. -/
def literalLines : Nat → List Char → Option (List Char × List Char)
  | 0, _ => none
  | _ + 1, [] => none
  | fuel + 1, '\x27' :: rest =>
    match closing? '\x27' ('\x27' :: rest) with
    | some (quotes, rest) => some (quotes, rest)
    | none => do
      let (cs, rest) ← literalLines fuel rest
      some ('\x27' :: cs, rest)
  | fuel + 1, c :: rest =>
    match lineEnd? (c :: rest) with
    | some below => do
      let (cs, rest) ← literalLines fuel below
      some ('\n' :: cs, rest)
    | none =>
      if isPlain c then do
        let (cs, rest) ← literalLines fuel rest
        some (c :: cs, rest)
      else none

/-- A line end directly behind three opening quotes is not part of the string. -/
def dropFirstLineEnd (text : List Char) : List Char := (lineEnd? text).getD text

/-- A string of any kind. -/
def string : List Char → Option (String × List Char)
  | '"' :: '"' :: '"' :: rest =>
    (basicLines (rest.length + 1) (dropFirstLineEnd rest)).map fun (cs, rest) =>
      (String.ofList cs, rest)
  | '\x27' :: '\x27' :: '\x27' :: rest =>
    (literalLines (rest.length + 1) (dropFirstLineEnd rest)).map fun (cs, rest) =>
      (String.ofList cs, rest)
  | '"' :: rest =>
    (basicString (rest.length + 1) rest).map fun (cs, rest) => (String.ofList cs, rest)
  | '\x27' :: rest => (literalString rest).map fun (cs, rest) => (String.ofList cs, rest)
  | _ => none

/-! ## Numbers -/

/-- Digits with single underscores between them, at least one. An underscore must have a
digit behind it. -/
def digitsWith (isDigit : Char → Bool) : List Char → Option (List Char × List Char)
  | [] => none
  | c :: rest => if isDigit c then more isDigit [c] rest else none
where
  /-- The digits behind the first, with those so far in reverse. -/
  more (isDigit : Char → Bool) (sofar : List Char) : List Char → Option (List Char × List Char)
    | '_' :: c :: rest => if isDigit c then more isDigit (c :: sofar) rest else none
    | c :: rest =>
      if isDigit c then more isDigit (c :: sofar) rest
      else if c = '_' then none
      else some (sofar.reverse, c :: rest)
    | [] => some (sofar.reverse, [])

/-- The number of digits in a base. -/
def valueOf (base : Nat) (digits : List Char) : Nat :=
  digits.foldl (fun n c => base * n + (hexValue? c).getD 0) 0

/-- An optional sign: whether it is a minus sign. -/
def sign : List Char → Bool × List Char
  | '-' :: rest => (true, rest)
  | '+' :: rest => (false, rest)
  | text => (false, text)

/-- Decimal digits of an integer: zero alone, or digits that do not start with zero. -/
def decimalDigits : List Char → Option (List Char × List Char)
  | '0' :: rest => some (['0'], rest)
  | text => digitsWith Char.isDigit text

/-- An integer that fits 64 bits. -/
def integer (text : List Char) : Option (Int × List Char) :=
  let based := fun base isDigit rest => do
    let (digits, rest) ← digitsWith isDigit rest
    let n := valueOf base digits
    if n < 0x8000000000000000 then some ((n : Int), rest) else none
  match text with
  | '0' :: 'x' :: rest => based 16 (fun c => (hexValue? c).isSome) rest
  | '0' :: 'o' :: rest => based 8 (fun c => '0' ≤ c && c ≤ '7') rest
  | '0' :: 'b' :: rest => based 2 (fun c => c == '0' || c == '1') rest
  | text => do
    let (negative, rest) := sign text
    let (digits, rest) ← decimalDigits rest
    let n := valueOf 10 digits
    if negative then if n ≤ 0x8000000000000000 then some (-(n : Int), rest) else none
    else if n < 0x8000000000000000 then some ((n : Int), rest)
    else none

/-- An exponent: its sign and digits. -/
def exponent : List Char → Option ((Bool × List Char) × List Char)
  | c :: rest =>
    if c = 'e' ∨ c = 'E' then do
      let (negative, rest) := sign rest
      let (digits, rest) ← digitsWith Char.isDigit rest
      some ((negative, digits), rest)
    else none
  | [] => none

/-- Whether `digits · 10 ^ exponent` rounds to more than the largest double. Exponents
whose size alone decides are not multiplied out. -/
def overflows (digits : List Char) (exponent : Int) : Bool :=
  let significant := digits.dropWhile (· == '0')
  let magnitude : Int := significant.length + exponent
  if significant.isEmpty || magnitude < 300 then false
  else if 320 < magnitude then true
  else
    let n := valueOf 10 significant
    (Nat.pow 2 1024 - Nat.pow 2 970) * Nat.pow 10 (-exponent).toNat ≤ n * Nat.pow 10 exponent.toNat

/-- A float with a fraction or an exponent. A positive one beyond the largest double is
refused. -/
def decimalFloat (text : List Char) : Option (Unit × List Char) := do
  let (negative, rest) := sign text
  let (whole, rest) ← decimalDigits rest
  let (fraction, rest, pointed) ← match rest with
    | '.' :: rest => (digitsWith Char.isDigit rest).map fun (ds, rest) => (ds, rest, true)
    | rest => some ([], rest, false)
  let (power, rest) ← match rest with
    | c :: _ => if c = 'e' ∨ c = 'E' then exponent rest else
        if pointed then some ((false, []), rest) else none
    | [] => if pointed then some ((false, []), rest) else none
  let size : Int := valueOf 10 power.2
  if !negative && overflows (whole ++ fraction)
      ((if power.1 then -size else size) - fraction.length) then none
  else some ((), rest)

/-- Infinity or not a number, with an optional sign. -/
def specialFloat (text : List Char) : Option (Unit × List Char) :=
  match (sign text).2 with
  | 'i' :: 'n' :: 'f' :: rest => some ((), rest)
  | 'n' :: 'a' :: 'n' :: rest => some ((), rest)
  | _ => none

/-! ## Moments -/

/-- The first `count` decimal digits. -/
def fixedDigits (count : Nat) (text : List Char) : Option (Nat × List Char) :=
  let digits := text.takeWhile Char.isDigit
  if count ≤ digits.length then some (valueOf 10 (digits.take count), text.drop count) else none

/-- The days of a month. -/
def daysOf (year month : Nat) : Nat :=
  if month = 2 then
    if year % 4 = 0 ∧ (year % 100 ≠ 0 ∨ year % 400 = 0) then 29 else 28
  else if month = 4 ∨ month = 6 ∨ month = 9 ∨ month = 11 then 30
  else 31

/-- A date. -/
def date (text : List Char) : Option (List Char) := do
  let (year, rest) ← fixedDigits 4 text
  let (month, rest) ← match rest with
    | '-' :: rest => fixedDigits 2 rest
    | _ => none
  let (day, rest) ← match rest with
    | '-' :: rest => fixedDigits 2 rest
    | _ => none
  if 1 ≤ month ∧ month ≤ 12 ∧ 1 ≤ day ∧ day ≤ daysOf year month then some rest else none

/-- Hours and minutes. -/
def hourMinute (text : List Char) : Option (List Char) := do
  let (hour, rest) ← fixedDigits 2 text
  let (minute, rest) ← match rest with
    | ':' :: rest => fixedDigits 2 rest
    | _ => none
  if hour ≤ 23 ∧ minute ≤ 59 then some rest else none

/-- A time of day with an optional fraction of a second. -/
def time (text : List Char) : Option (List Char) := do
  let rest ← hourMinute text
  let (second, rest) ← match rest with
    | ':' :: rest => fixedDigits 2 rest
    | _ => none
  if 60 < second then none
  else
    match rest with
    | '.' :: c :: rest =>
      if c.isDigit then some (rest.dropWhile Char.isDigit) else none
    | rest => some rest

/-- An optional offset from universal time. -/
def offset : List Char → Option (List Char)
  | 'Z' :: rest => some rest
  | 'z' :: rest => some rest
  | '+' :: rest => hourMinute rest
  | '-' :: rest => hourMinute rest
  | text => some text

/-- A date, a time, or both with an optional offset. -/
def moment (text : List Char) : Option (List Char) :=
  match date text with
  | none => time text
  | some rest =>
    match rest with
    | c :: behind =>
      if c = 'T' ∨ c = 't' ∨ c = ' ' then
        match time behind with
        | some rest => offset rest
        | none => some rest
      else some rest
    | [] => some []

/-- A number or a moment: a moment if one stands there, else a float, else an
integer. -/
def numeric (text : List Char) : Option (Value × List Char) :=
  match moment text with
  | some rest => some (.moment, rest)
  | none =>
    match decimalFloat text with
    | some (_, rest) => some (.float, rest)
    | none =>
      match specialFloat text with
      | some (_, rest) => some (.float, rest)
      | none => (integer text).map fun (n, rest) => (.integer n, rest)

end RouteTree.Toml
