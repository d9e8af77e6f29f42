/-!
# Path patterns

A pattern is written as a path. In braces stands the name of a parameter, which takes
the characters of a request path up to the next slash; a name that starts with a star
takes all the rest. Any other character stands for itself, a doubled brace for one
brace.

A parameter may stand behind other characters of its segment, but its closing brace ends
the segment, and nothing stands behind one that takes all the rest.
-/

namespace RouteTree

/-- What one part of a pattern takes. -/
inductive Piece where
  | char (c : Char)
  | param (name : String)
  | rest (name : String)
  deriving DecidableEq, Repr

/-- What a router compares with request paths. -/
abbrev Pattern := List Piece

namespace Pattern

/-- A character of a written pattern, and whether it was a doubled brace. -/
structure Glyph where
  char : Char
  doubled : Bool
  deriving DecidableEq, Repr

/-- Whether a glyph is the start of a parameter. -/
def Glyph.opens (g : Glyph) : Bool := g.char == '\x7b' && !g.doubled

/-- Whether a glyph is the end of a parameter. -/
def Glyph.closes (g : Glyph) : Bool := g.char == '\x7d' && !g.doubled

/-- The glyphs of a written pattern; doubled braces are taken together from the left. -/
def glyphs : List Char → List Glyph
  | '\x7b' :: '\x7b' :: rest => ⟨'\x7b', true⟩ :: glyphs rest
  | '\x7d' :: '\x7d' :: rest => ⟨'\x7d', true⟩ :: glyphs rest
  | c :: rest => ⟨c, false⟩ :: glyphs rest
  | [] => []

/-- The piece of a parameter from what stands between its braces and what stands behind
them. -/
def parameter (name : List Char) (behind : List Glyph) : Option Piece :=
  match name, behind with
  | ['*'], _ => none
  | '*' :: name, [] => some (.rest (String.ofList name))
  | '*' :: _, _ :: _ => none
  | name, [] => some (.param (String.ofList name))
  | name, g :: _ => if g.char = '/' then some (.param (String.ofList name)) else none

/-- The pieces of a sequence of glyphs. Behind an open brace, `name` holds what has been
read of the name, whose first character may be anything but a closing brace. -/
def ofGlyphs : Option (List Char) → List Glyph → Option Pattern
  | none, [] => some []
  | some _, [] => none
  | none, g :: gs =>
    if g.opens then ofGlyphs (some []) gs
    else if g.closes then none
    else (ofGlyphs none gs).map (.char g.char :: ·)
  | some [], g :: gs => if g.char = '\x7d' then none else ofGlyphs (some [g.char]) gs
  | some (c :: name), g :: gs =>
    if g.closes then
      (parameter (c :: name) gs).bind fun piece => (ofGlyphs none gs).map (piece :: ·)
    else if g.char = '*' || g.char = '/' then none
    else ofGlyphs (some (c :: name ++ [g.char])) gs

/-- Whether a segment of a written pattern starts like a parameter of an older
notation. -/
def isReserved (segment : List Char) : Bool :=
  match segment with
  | c :: _ => c == ':' || c == '*'
  | [] => false

/-- How many parameters a pattern has that end at a slash. -/
def paramCount (p : Pattern) : Nat :=
  p.countP fun
    | .param _ => true
    | _ => false

/-- The most parameters of a pattern that end at a slash. -/
def maxParams : Nat := 25

/-- The pattern that a text writes. It starts with a slash, and no segment starts with a
colon or a star. -/
def parse? (text : String) : Option Pattern :=
  match text.toList with
  | '/' :: rest =>
    if (rest.splitOn '/').any isReserved then none
    else
      (ofGlyphs none (glyphs ('/' :: rest))).filter fun p => decide (p.paramCount ≤ maxParams)
  | _ => none

/-- The values that a request path has for the parameters of a pattern, if it has the
form of the pattern. A parameter at the end takes at least one character. -/
def captures? : Pattern → List Char → Option (List (String × String))
  | [], [] => some []
  | [], _ :: _ => none
  | _ :: _, [] => none
  | .char c :: pieces, d :: path => if c = d then captures? pieces path else none
  | .param name :: pieces, d :: path =>
    (captures? pieces ((d :: path).dropWhile (· ≠ '/'))).map
      ((name, String.ofList ((d :: path).takeWhile (· ≠ '/'))) :: ·)
  | .rest name :: _, d :: path => some [(name, String.ofList (d :: path))]

/-- Whether a pattern goes before another if both take a request path: where they first
differ, a character goes before a parameter, and a parameter before one that takes all
the rest. -/
def goesBefore : Pattern → Pattern → Bool
  | .char _ :: ps, .char _ :: qs => goesBefore ps qs
  | .char _ :: _, _ => true
  | .param _ :: ps, .param _ :: qs => goesBefore ps qs
  | .param _ :: _, .rest _ :: _ => true
  | _, _ => false

/-- Whether two patterns cannot be told apart: they only differ in names, or where one
takes all the rest the other has a parameter. -/
def collides : Pattern → Pattern → Bool
  | [], [] => true
  | .char c :: ps, .char d :: qs => c == d && collides ps qs
  | .param _ :: ps, .param _ :: qs => collides ps qs
  | .param _ :: _, .rest _ :: _ => true
  | .rest _ :: _, .param _ :: _ => true
  | .rest _ :: _, .rest _ :: _ => true
  | _, _ => false

/-- Colliding is symmetric. -/
theorem collides_comm (p q : Pattern) : p.collides q = q.collides p := by
  induction p generalizing q with
  | nil => cases q <;> simp [collides]
  | cons x ps ih =>
    cases q with
    | nil => simp [collides]
    | cons y qs => cases x <;> cases y <;> simp [collides, ih qs, Bool.beq_comm]

end Pattern

end RouteTree
