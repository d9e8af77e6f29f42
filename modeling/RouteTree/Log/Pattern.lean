/-!
# Patterns of field values

A field value in a filter is a number, a truth value or a pattern. This module decides
which texts are patterns: alternatives of sequences of repeated characters, classes,
groups and anchors. Word boundaries and look-around are not supported, and neither are
counted repetitions, whose closing brace ends the field.
-/

namespace RouteTree.Log.Pattern

/-- A letter that stands for a class behind a backslash. -/
def isClassLetter (c : Char) : Bool :=
  c == 'd' || c == 'D' || c == 's' || c == 'S' || c == 'w' || c == 'W'

/-- A letter that stands for a character behind a backslash. -/
def controlLetter? : Char → Option Char
  | 'n' => some '\n'
  | 'r' => some '\r'
  | 't' => some '\t'
  | 'f' => some '\x0c'
  | 'v' => some '\x0b'
  | 'a' => some '\x07'
  | _ => none

/-- A character that stands for itself behind a backslash. -/
def isEscapable (c : Char) : Bool :=
  c.toNat < 128 && !c.isAlphanum && c != '<' && c != '>'

/-- The number of exactly `count` hexadecimal digits. -/
def hexNumber? (count : Nat) (text : List Char) : Option (Nat × List Char) :=
  let run := text.take count
  if run.length = count ∧ run.all (fun c => c.isDigit || ('a' ≤ c.toLower && c.toLower ≤ 'f')) then
    some (run.foldl (fun n c =>
      16 * n + (if c.isDigit then c.toNat - 48 else c.toLower.toNat - 87)) 0, text.drop count)
  else none

/-- The character of a hexadecimal escape. -/
def hexEscape? (count : Nat) (text : List Char) : Option (Option Char × List Char) :=
  match hexNumber? count text with
  | some (n, rest) => if n.isValidChar then some (some (Char.ofNat n), rest) else none
  | none => none

/-- What stands behind a backslash: one character, or a class of them. -/
def escape? : List Char → Option (Option Char × List Char)
  | [] => none
  | 'x' :: rest => hexEscape? 2 rest
  | 'u' :: rest => hexEscape? 4 rest
  | 'U' :: rest => hexEscape? 8 rest
  | 'p' :: c :: rest => if "CLMNPSZ".toList.contains c.toUpper then some (none, rest) else none
  | 'P' :: c :: rest => if "CLMNPSZ".toList.contains c.toUpper then some (none, rest) else none
  | c :: rest =>
    if isClassLetter c then some (none, rest)
    else
      match controlLetter? c with
      | some d => some (some d, rest)
      | none => if isEscapable c then some (some c, rest) else none

/-- Names of classes between `[:` and `:]`. -/
def namedClasses : List String :=
  ["alnum", "alpha", "ascii", "blank", "cntrl", "digit", "graph", "lower", "print", "punct",
    "space", "upper", "word", "xdigit"]

/-- A named class, behind its opening bracket. -/
def namedClass? : List Char → Option (List Char)
  | ':' :: rest =>
    let rest := if rest.head? == some '^' then rest.tail else rest
    let name := rest.takeWhile Char.isAlpha
    match rest.drop name.length with
    | ':' :: ']' :: rest => if namedClasses.contains (String.ofList name) then some rest else none
    | _ => none
  | _ => none

/-- A single member of a class: a character, or `none` for a class of them. -/
def classMember? : List Char → Option (Option Char × List Char)
  | [] => none
  | '\\' :: rest => escape? rest
  | c :: rest => some (some c, rest)

mutual

/-- The members of a class up to and including its closing bracket. Two hyphens between
members take the later ones away. -/
def classRest : Nat → List Char → Option (List Char)
  | 0, _ => none
  | _ + 1, [] => none
  | _ + 1, ']' :: rest => some rest
  | fuel + 1, '[' :: rest =>
    match namedClass? rest with
    | some rest => classRest fuel rest
    | none => (classStart fuel rest).bind (classRest fuel)
  | fuel + 1, '-' :: '-' :: rest => classRest fuel rest
  | fuel + 1, text => do
    let (first, rest) ← classMember? text
    match rest with
    | '-' :: '-' :: _ => classRest fuel rest
    | '-' :: ']' :: _ => classRest fuel rest
    | '-' :: rest => do
      let (last, rest) ← classMember? rest
      match first, last with
      | some a, some b => if a ≤ b then classRest fuel rest else none
      | _, _ => none
    | rest => classRest fuel rest

/-- A class behind its opening bracket. A closing bracket directly behind it stands for
itself, and so do hyphens. -/
def classStart : Nat → List Char → Option (List Char)
  | 0, _ => none
  | fuel + 1, text =>
    let text := if text.head? == some '^' then text.tail else text
    let hyphens := text.takeWhile (· == '-')
    let rest := text.drop hyphens.length
    match hyphens, rest with
    | [], ']' :: rest => classRest fuel rest
    | _, rest => classRest fuel rest

end

/-- A flag that may be set or cleared in a group. -/
def isFlag (c : Char) : Bool :=
  c == 'i' || c == 'm' || c == 's' || c == 'U' || c == 'u' || c == 'R' || c == 'x'

/-- Flags, cleared ones behind a hyphen, none of them twice. -/
def areFlags (flags : List Char) : Bool :=
  let letters := flags.filter (· != '-')
  letters.all isFlag && letters.eraseDups.length == letters.length &&
    (flags.count '-') ≤ 1 && flags.getLast? != some '-'

/-- The name of a group up to its closing bracket. -/
def groupName? (text : List Char) : Option (List Char) :=
  let name := text.takeWhile (· != '>')
  let starts := match name.head? with
    | some c => c.isAlpha || c == '_'
    | none => false
  if starts && name.all (fun c => c.isAlphanum || c == '_' || c == '.' || c == '[' || c == ']')
  then
    match text.drop name.length with
    | '>' :: rest => some rest
    | _ => none
  else none

/-- What opens a group, behind its parenthesis: the characters of its content, or, for
flags that hold from here on, `none` and the characters behind them. -/
def groupStart? : List Char → Option (Bool × List Char)
  | '?' :: 'P' :: '<' :: rest => (groupName? rest).map fun rest => (true, rest)
  | '?' :: '<' :: rest => (groupName? rest).map fun rest => (true, rest)
  | '?' :: rest =>
    let flags := rest.takeWhile fun c => isFlag c || c == '-'
    if areFlags flags then
      match rest.drop flags.length with
      | ':' :: rest => some (true, rest)
      | ')' :: rest => if flags.isEmpty then none else some (false, rest)
      | _ => none
    else none
  | rest => some (true, rest)

/-- The rest of a pattern, with `depth` groups to close; `repeatable` says whether
something stands before that a repetition sign may repeat. -/
def rest : Nat → Nat → Bool → List Char → Bool
  | 0, _, _, _ => false
  | _ + 1, depth, _, [] => depth == 0
  | fuel + 1, depth, repeatable, c :: text =>
    match c with
    | '(' =>
      match groupStart? text with
      | some (true, text) => rest fuel (depth + 1) false text
      | some (false, text) => rest fuel depth false text
      | none => false
    | ')' => depth != 0 && rest fuel (depth - 1) true text
    | '|' => rest fuel depth false text
    | '*' => repeatable && rest fuel depth true (if text.head? == some '?' then text.tail else text)
    | '+' => repeatable && rest fuel depth true (if text.head? == some '?' then text.tail else text)
    | '?' => repeatable && rest fuel depth true (if text.head? == some '?' then text.tail else text)
    | '\x7b' => false
    | '[' =>
      match classStart (text.length + 1) text with
      | some text => rest fuel depth true text
      | none => false
    | '\\' =>
      match text with
      | 'A' :: text => rest fuel depth true text
      | 'z' :: text => rest fuel depth true text
      | text =>
        match escape? text with
        | some (_, text) => rest fuel depth true text
        | none => false
    | _ => rest fuel depth true text

/-- Whether a text is a pattern. -/
def isValid (text : List Char) : Bool := rest (text.length + 1) 0 false text

/-- Whether a text is a floating point numeral: digits with an optional point and
exponent, or the names of infinity and of no number. -/
def isNumeral (text : List Char) : Bool :=
  let unsigned := match text with
    | '+' :: rest => rest
    | '-' :: rest => rest
    | rest => rest
  let lower := String.ofList (unsigned.map Char.toLower)
  if lower == "inf" || lower == "infinity" || lower == "nan" then true
  else
    let whole := unsigned.takeWhile Char.isDigit
    let behind := unsigned.drop whole.length
    let (fraction, behind) := match behind with
      | '.' :: rest => (rest.takeWhile Char.isDigit, rest.dropWhile Char.isDigit)
      | rest => ([], rest)
    !(whole.isEmpty && fraction.isEmpty) &&
      match behind with
      | [] => true
      | e :: rest =>
        let digits := match rest with
          | '+' :: rest => rest
          | '-' :: rest => rest
          | rest => rest
        (e == 'e' || e == 'E') && !digits.isEmpty && digits.all Char.isDigit

/-- Whether a text may stand for the value of a field. -/
def isFieldValue (text : List Char) : Bool := isNumeral text || isValid text

end RouteTree.Log.Pattern
