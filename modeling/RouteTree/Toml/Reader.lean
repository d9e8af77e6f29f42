import RouteTree.Toml.Scalar

/-!
# Reading TOML

A document is a sequence of lines: a key with its value, the header of a table or of an
element of an array of tables, or nothing; a comment may end any of them. Values in
brackets may be nested 79 deep.
-/

namespace RouteTree.Toml

/-- Brackets that may be open at once. -/
def depthLimit : Nat := 79

/-- The characters behind a comment, at the line end or the end of the text; other text
is left as it is. -/
def comment? : List Char → Option (List Char)
  | '#' :: rest => some (rest.dropWhile isPlain)
  | text => some text

/-- What may stand behind a value or a header in its line, up to the next line. -/
def restOfLine (text : List Char) : Option (List Char) := do
  let rest ← comment? (dropBlanks text)
  if rest.isEmpty then some [] else lineEnd? rest

/-- Blanks, line ends and comments between the parts of an array. -/
def dropFiller : Nat → List Char → Option (List Char)
  | 0, text => some text
  | fuel + 1, text =>
    match dropBlanks text with
    | '#' :: rest => (lineEnd? (rest.dropWhile isPlain)).bind (dropFiller fuel)
    | rest =>
      match lineEnd? rest with
      | some below => dropFiller fuel below
      | none => if rest.head? == some '\r' then none else some rest

/-- A letter, digit, underscore or hyphen. -/
def isBareKeyChar (c : Char) : Bool := c.isAlphanum || c == '_' || c == '-'

/-- One part of a key. -/
def keyPart (text : List Char) : Option (String × List Char) :=
  match text with
  | '"' :: rest =>
    (basicString (rest.length + 1) rest).map fun (cs, rest) => (String.ofList cs, rest)
  | '\x27' :: rest => (literalString rest).map fun (cs, rest) => (String.ofList cs, rest)
  | text =>
    let name := text.takeWhile isBareKeyChar
    if name.isEmpty then none else some (String.ofList name, text.drop name.length)

/-- A key: parts with dots between them, and blanks around each. -/
def key : Nat → List Char → Option (List String × List Char)
  | 0, _ => none
  | fuel + 1, text => do
    let (part, rest) ← keyPart (dropBlanks text)
    match dropBlanks rest with
    | '.' :: rest => do
      let (parts, rest) ← key fuel rest
      some (part :: parts, rest)
    | rest => some ([part], rest)

/-- A key of no more parts than brackets may be nested, split before its last part. -/
def splitKey (text : List Char) : Option ((List String × String) × List Char) := do
  let (parts, rest) ← key (text.length + 1) text
  let last ← parts.getLast?
  if parts.length ≤ depthLimit then some ((parts.dropLast, last), rest) else none

mutual

/-- A value, with `depth` more brackets allowed. -/
def value : Nat → Nat → List Char → Option (Value × List Char)
  | 0, _, _ => none
  | fuel + 1, depth, text =>
    match text with
    | [] => none
    | '[' :: rest =>
      match depth with
      | 0 => none
      | depth + 1 => (items fuel depth rest).map fun (vs, rest) => (.array vs, rest)
    | '\x7b' :: rest =>
      match depth with
      | 0 => none
      | depth + 1 =>
        match dropBlanks rest with
        | '\x7d' :: rest => some (.table .braces [], rest)
        | rest => (members fuel depth [] rest).map fun (es, rest) => (.table .braces es, rest)
    | 't' :: 'r' :: 'u' :: 'e' :: rest => some (.boolean true, rest)
    | 'f' :: 'a' :: 'l' :: 's' :: 'e' :: rest => some (.boolean false, rest)
    | c :: rest =>
      if c = '"' ∨ c = '\x27' then
        (string (c :: rest)).map fun (s, rest) => (.string s, rest)
      else numeric (c :: rest)

/-- The items of an array up to and including its closing bracket. A comma may stand
behind the last. -/
def items : Nat → Nat → List Char → Option (List Value × List Char)
  | 0, _, _ => none
  | fuel + 1, depth, text => do
    match ← dropFiller text.length text with
    | ']' :: rest => some ([], rest)
    | rest => do
      let (v, rest) ← value fuel depth rest
      match ← dropFiller rest.length rest with
      | ']' :: rest => some ([v], rest)
      | ',' :: rest => do
        let (vs, rest) ← items fuel depth rest
        some (v :: vs, rest)
      | _ => none

/-- The members of a table in braces up to and including the closing one, added to those
so far. -/
def members : Nat → Nat → Entries → List Char → Option (Entries × List Char)
  | 0, _, _, _ => none
  | fuel + 1, depth, entries, text => do
    let ((path, last), rest) ← splitKey text
    match rest with
    | '=' :: rest => do
      let (v, rest) ← value fuel depth (dropBlanks rest)
      let entries ← assign path last v .header entries
      match dropBlanks rest with
      | '\x7d' :: rest => some (entries, rest)
      | ',' :: rest => members fuel depth entries rest
      | _ => none
    | _ => none

end

/-- What has been read: the document and the path of the last header. -/
structure Progress where
  root : Entries
  header : List String

/-- A header behind its opening brackets, with `closing` behind the key. -/
def headerLine (closing : List Char) (place : List String → String → Entries → Option Entries)
    (progress : Progress) (text : List Char) : Option (Progress × List Char) := do
  let ((parents, last), rest) ← splitKey text
  let root ← place parents last progress.root
  if closing.isPrefixOf rest then do
    let rest ← restOfLine (rest.drop closing.length)
    some (⟨root, parents ++ [last]⟩, rest)
  else none

/-- A key and its value. -/
def assignment (progress : Progress) (text : List Char) : Option (Progress × List Char) := do
  let ((path, last), rest) ← splitKey text
  match rest with
  | '=' :: rest => do
    let start := dropBlanks rest
    let (v, rest) ← value (2 * start.length + 2) depthLimit start
    let rest ← restOfLine rest
    let root ← assignUnder progress.header path last v progress.root
    some (⟨root, progress.header⟩, rest)
  | _ => none

/-- All lines of a text. The fuel is the number of characters left, and each line takes
at least one. -/
def lines : Nat → Progress → List Char → Option Progress
  | 0, progress, text => if (dropBlanks text).isEmpty then some progress else none
  | fuel + 1, progress, text =>
    match dropBlanks text with
    | [] => some progress
    | '#' :: rest => (restOfLine ('#' :: rest)).bind (lines fuel progress)
    | '[' :: '[' :: rest => do
      let (progress, rest) ← headerLine [']', ']'] openElement progress rest
      lines fuel progress rest
    | '[' :: rest => do
      let (progress, rest) ← headerLine [']'] openTable progress rest
      lines fuel progress rest
    | c :: rest =>
      match lineEnd? (c :: rest) with
      | some below => lines fuel progress below
      | none => do
        let (progress, rest) ← assignment progress (c :: rest)
        lines fuel progress rest

/-- The document that a text denotes. A byte order mark in front is dropped. -/
def parse? (text : String) : Option Entries :=
  let chars := match text.toList with
    | '\uFEFF' :: rest => rest
    | chars => chars
  (lines (chars.length + 1) ⟨[], []⟩ chars).map Progress.root

end RouteTree.Toml
