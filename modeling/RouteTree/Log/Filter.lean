import RouteTree.Log.Level
import RouteTree.Log.Pattern
import RouteTree.Text.Alphanumeric
import RouteTree.Text.Utf8

/-!
# Log filters

A filter is a list of directives with commas between them. A directive names a target, a
span with fields and a level, and each may be missing. It is read by a machine that
moves over the directive without its blanks at the ends, but whose parts are cut out of
the directive with the blanks, at the same offsets: blanks in front move every cut to
the left, and a cut that falls inside a character leaves the filter unreadable.
-/

namespace RouteTree.Log

/-- Why a directive is refused. -/
inductive DirectiveError where
  | malformed
  | badField
  | badLevel
  | cutInsideCharacter
  deriving DecidableEq, Repr

/-- One directive: which records it is about, and up to which level it lets them
through. -/
structure Directive where
  target : Option String
  span : Option String
  fields : List (String × Bool)
  threshold : Threshold

/-- What the machine is reading; parts are known by the offset at which they start. -/
inductive Reading where
  | start
  | name (start : Nat)
  | span (start : Nat)
  | field (start : Nat)
  | fields
  | target
  | level (start : Nat)

/-- The machine's state: what it is reading, and the parts it has cut out. -/
structure Scan where
  reading : Reading
  target : Option String
  span : Option String
  fields : List (String × Bool)

/-- Drop white space at both ends. -/
def trim (text : List Char) : List Char :=
  ((text.dropWhile Text.isWhiteSpace).reverse.dropWhile Text.isWhiteSpace).reverse

/-- Whether octets start or end between characters. -/
def isBoundary (bytes : Bytes) (offset : Nat) : Bool :=
  match bytes[offset]? with
  | some b => !Utf8.isContinuation b
  | none => offset == bytes.length

/-- The text between two offsets, unless one of them falls inside a character. -/
def cut (bytes : Bytes) (first last : Nat) : Except DirectiveError String :=
  if isBoundary bytes first && isBoundary bytes last then
    match Utf8.toString? ((bytes.drop first).take (last - first)) with
    | some text => .ok text
    | none => .error .cutInsideCharacter
  else .error .cutInsideCharacter

/-- A field: its name, and whether it has a value, which must be a number, a truth value
or a pattern. -/
def parseField (text : String) : Except DirectiveError (String × Bool) :=
  match text.toList.splitOn '=' with
  | name :: value :: _ =>
    if Pattern.isFieldValue value then .ok (String.ofList name, true) else .error .badField
  | _ => .ok (text, false)

/-- The characters that a directive may start with, apart from a bracket. -/
def startsName (c : Char) : Bool := c == '-' || c == ':' || c == '_' || Text.isAlphanumeric c

/-- One step: a character at its offset in the directive without blanks at the ends. -/
def Scan.step (bytes : Bytes) (s : Scan) (offset : Nat) (c : Char) : Except DirectiveError Scan :=
  match s.reading with
  | .start =>
    if c = '[' then .ok { s with reading := .span (offset + 1) }
    else if startsName c then .ok { s with reading := .name offset }
    else .error .malformed
  | .name start =>
    if c = '=' then do
      let text ← cut bytes start offset
      .ok { s with target := some text, reading := .level (offset + 1) }
    else if c = '[' then do
      let text ← cut bytes start offset
      .ok { s with target := some text, reading := .span (offset + 1) }
    else .ok s
  | .span start =>
    if c = ']' then do
      let text ← cut bytes start offset
      .ok { s with span := some text, reading := .target }
    else if c = '\x7b' then do
      let text ← cut bytes start offset
      .ok { s with
        span := if text.isEmpty then none else some text
        reading := .field (offset + 1) }
    else .ok s
  | .field start =>
    if c = '\x7d' then do
      let text ← cut bytes start offset
      if text.isEmpty then .error .malformed
      else do
        let field ← parseField text
        .ok { s with fields := s.fields ++ [field], reading := .fields }
    else .ok s
  | .fields => if c = ']' then .ok { s with reading := .target } else .error .malformed
  | .target => if c = '=' then .ok { s with reading := .level (offset + 1) } else .error .malformed
  | .level _ => .ok s

/-- All steps. -/
def Scan.run (bytes : Bytes) : Scan → Nat → List Char → Except DirectiveError Scan
  | s, _, [] => .ok s
  | s, offset, c :: rest => do
    let s ← s.step bytes offset c
    s.run bytes (offset + (String.utf8EncodeChar c).length) rest

/-- The directive of a machine that has read everything. A name alone is a level, or
else a target of which everything is let through, and so is an empty level. -/
def Scan.finish (bytes : Bytes) (s : Scan) : Except DirectiveError Directive :=
  match s.reading with
  | .name start => do
    let text ← cut bytes start bytes.length
    if text.isEmpty then .ok ⟨none, s.span, s.fields, some .trace⟩
    else
      match threshold? text with
      | some threshold => .ok ⟨none, s.span, s.fields, threshold⟩
      | none => .ok ⟨some text, s.span, s.fields, some .trace⟩
  | .level start => do
    let text ← cut bytes start bytes.length
    if text.isEmpty then .ok ⟨s.target, s.span, s.fields, some .trace⟩
    else
      match threshold? text with
      | some threshold => .ok ⟨s.target, s.span, s.fields, threshold⟩
      | none => .error .badLevel
  | .target => .ok ⟨s.target, s.span, s.fields, some .trace⟩
  | _ => .error .malformed

/-- The directive of a text without commas. -/
def Directive.parse (text : List Char) : Except DirectiveError Directive := do
  let bytes := Utf8.encode text
  let s ← Scan.run bytes ⟨.start, none, none, []⟩ 0 (trim text)
  s.finish bytes

/-- The non-empty pieces between commas. -/
def pieces (text : String) : List (List Char) :=
  (text.toList.splitOn ',').filter fun piece => !piece.isEmpty

/-- A filter: its directives in the order in which they are written. -/
abbrev Filter := List Directive

/-- The filter of a text, all of whose pieces must be directives. -/
def Filter.parse (text : String) : Except DirectiveError Filter :=
  (pieces text).mapM Directive.parse

/-- One more piece is read, or left out because it is no directive. -/
def Filter.collect (read : Filter) (piece : List Char) : Except DirectiveError Filter :=
  match Directive.parse piece with
  | .ok d => .ok (read ++ [d])
  | .error .cutInsideCharacter => .error .cutInsideCharacter
  | .error _ => .ok read

/-- The directives of a text, without the pieces that are none. A cut inside a character
leaves the whole text unreadable. -/
def Filter.parseLossy (text : String) : Except DirectiveError Filter :=
  (pieces text).foldlM Filter.collect []

/-- A directive about records outside of spans: it names no span, and no field by
value. -/
def Directive.isStatic (d : Directive) : Bool := d.span.isNone && d.fields.all fun f => !f.2

/-- Whether a directive is about a record with a target and fields. -/
def Directive.isAbout (d : Directive) (target : String) (fields : List String) : Bool :=
  (match d.target with
    | some t => t.toList.isPrefixOf target.toList
    | none => true) && d.fields.all fun f => fields.contains f.1

/-- The size of the target of a directive; one without a target is less than an empty
one. -/
def Directive.targetSize (d : Directive) : Nat :=
  match d.target with
  | some t => t.utf8ByteSize + 1
  | none => 0

/-- Whether a directive goes before another that is about the same record: the longer
target first, then more fields, then the greater target and fields. -/
def Directive.before (a b : Directive) : Bool :=
  if a.targetSize ≠ b.targetSize then b.targetSize < a.targetSize
  else if a.fields.length ≠ b.fields.length then b.fields.length < a.fields.length
  else if a.target ≠ b.target then b.target.getD "" < a.target.getD ""
  else (b.fields.map Prod.fst) < (a.fields.map Prod.fst)

/-- The directives with the one given, before the first that it goes before, in place of
one about exactly the same records. -/
def place (d : Directive) : List Directive → List Directive
  | [] => [d]
  | e :: rest =>
    if d.before e then d :: e :: rest
    else if e.before d then e :: place d rest
    else d :: rest

/-- The directives about records outside of spans, those to be asked first in front. A
filter without any directive lets errors through. -/
def Filter.arranged (f : Filter) : List Directive :=
  if f.isEmpty then [⟨none, none, [], some .error⟩]
  else (f.filter Directive.isStatic).foldl (fun acc d => place d acc) []

/-- Whether a filter lets a record outside of spans through: the first directive about
it decides. -/
def Filter.passes (f : Filter) (level : Level) (target : String) (fields : List String) : Bool :=
  match f.arranged.find? fun d => d.isAbout target fields with
  | some d => level.passes d.threshold
  | none => false

end RouteTree.Log
