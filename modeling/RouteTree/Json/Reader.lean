import RouteTree.Json.Token

/-!
# Reading JSON values

A value, its lists and its objects are read together, with as much fuel as the input is
long: every bracket, item and member consumes an octet. Brackets may be nested 127 deep.
Of several members of one name the last counts.
-/

namespace RouteTree.Json

namespace Reader

/-- Brackets that may be open at once. -/
def depthLimit : Nat := 127

/-- Fuel that suffices for an input. -/
def fuelFor (input : Bytes) : Nat := 2 * input.length + 2

/-- The rest of a member behind its name: the colon and the blanks around it. -/
def colon (input : Bytes) : Except Fault Bytes :=
  match skipBlanks input with
  | 0x3A :: rest => .ok rest
  | [] => Fault.here .endInObject []
  | rest => Fault.peek .colonExpected rest

/-- Whether a list goes on: `none` at its closing bracket, which is left unread, else
the input from the next item on. -/
def nextItem (first : Bool) (input : Bytes) : Except Fault (Option Bytes × Bytes) :=
  match skipBlanks input with
  | [] => Fault.here .endInList []
  | 0x5D :: rest => .ok (none, 0x5D :: rest)
  | b :: rest =>
    if first then .ok (some (b :: rest), b :: rest)
    else if b = 0x2C then
      match skipBlanks rest with
      | [] => Fault.here .endInValue []
      | 0x5D :: rest => Fault.peek .trailingComma (0x5D :: rest)
      | rest => .ok (some rest, rest)
    else Fault.peek .listCommaExpected (b :: rest)

/-- Whether an object goes on: `none` at its closing brace, which is left unread, else
the input behind the opening quote of the next name. -/
def nextMember (first : Bool) (input : Bytes) : Except Fault (Option Bytes × Bytes) :=
  match skipBlanks input with
  | [] => Fault.here .endInObject []
  | 0x7D :: rest => .ok (none, 0x7D :: rest)
  | b :: rest =>
    if first then
      if b = 0x22 then .ok (some rest, rest) else Fault.peek .nameExpected (b :: rest)
    else if b = 0x2C then
      match skipBlanks rest with
      | [] => Fault.here .endInValue []
      | 0x7D :: rest => Fault.peek .trailingComma (0x7D :: rest)
      | 0x22 :: rest => .ok (some rest, rest)
      | rest => Fault.peek .nameExpected rest
    else Fault.peek .objectCommaExpected (b :: rest)

mutual

/-- A value behind any blanks, with `depth` more brackets allowed. -/
def value : Nat → Nat → Bytes → Except Fault (Json × Bytes)
  | 0, _, _ => Fault.here .endInValue []
  | fuel + 1, depth, input =>
    match skipBlanks input with
    | [] => Fault.here .endInValue []
    | 0x6E :: rest => do
      let rest ← literal nullTail rest
      .ok (.null, rest)
    | 0x74 :: rest => do
      let rest ← literal trueTail rest
      .ok (.bool true, rest)
    | 0x66 :: rest => do
      let rest ← literal falseTail rest
      .ok (.bool false, rest)
    | 0x22 :: rest => do
      let (s, rest) ← string rest
      .ok (.string s, rest)
    | 0x5B :: rest =>
      match depth with
      | 0 => Fault.peek .tooDeep (0x5B :: rest)
      | depth + 1 => do
        let (vs, rest) ← items fuel depth true rest
        .ok (.array vs, rest)
    | 0x7B :: rest =>
      match depth with
      | 0 => Fault.peek .tooDeep (0x7B :: rest)
      | depth + 1 => do
        let (ms, rest) ← members fuel depth true rest
        .ok (ofMembers ms, rest)
    | b :: rest =>
      if b = 0x2D || isDigit b then do
        let (n, rest) ← number (b :: rest)
        .ok (.number n, rest)
      else Fault.peek .valueExpected (b :: rest)

/-- The items of a list up to and including its closing bracket. -/
def items : Nat → Nat → Bool → Bytes → Except Fault (List Json × Bytes)
  | 0, _, _, _ => Fault.here .endInValue []
  | fuel + 1, depth, first, input => do
    match ← nextItem first input with
    | (none, rest) => .ok ([], rest.tail)
    | (some start, _) => do
      let (v, rest) ← value fuel depth start
      let (vs, rest) ← items fuel depth false rest
      .ok (v :: vs, rest)

/-- The members of an object up to and including its closing brace. -/
def members : Nat → Nat → Bool → Bytes → Except Fault (List (String × Json) × Bytes)
  | 0, _, _, _ => Fault.here .endInValue []
  | fuel + 1, depth, first, input => do
    match ← nextMember first input with
    | (none, rest) => .ok ([], rest.tail)
    | (some start, _) => do
      let (name, rest) ← string start
      let rest ← colon rest
      let (v, rest) ← value fuel depth rest
      let (ms, rest) ← members fuel depth false rest
      .ok ((name, v) :: ms, rest)

end

/-- Only blanks are left. -/
def finished {α : Type} (result : α × Bytes) : Except Fault α :=
  match skipBlanks result.2 with
  | [] => .ok result.1
  | rest => Fault.peek .trailingCharacters rest

end Reader

/-- The value that a whole input denotes. -/
def read (input : Bytes) : Except Fault Json := do
  Reader.finished (← Reader.value (Reader.fuelFor input) Reader.depthLimit input)

/-- The value that a text denotes, if it denotes one. -/
def parse? (text : String) : Option Json :=
  match read (Utf8.ofString text) with
  | .ok v => some v
  | .error _ => none

end RouteTree.Json
