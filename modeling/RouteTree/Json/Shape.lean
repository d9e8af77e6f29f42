import RouteTree.Json.Reader

/-!
# Reading values of a declared shape

A shape says what a caller wants to find in an input: any value, a scalar, a list, a map
or a record with named fields. Reading checks the shape while it consumes the input, so
that a fault stands where the input first departs from the shape. A record may also be
written as the list of its fields in order; members that no field names are skipped
without being read.
-/

namespace RouteTree.Json

/-- What an input is expected to hold. -/
inductive Shape where
  | any
  | text
  | bool
  | integer (least greatest : Int) (name : String)
  | optional (inner : Shape)
  | list (inner : Shape)
  | map (inner : Shape)
  | record (name : String) (fields : List (String × Shape))

/-- How faults name a shape. -/
def Shape.describe : Shape → String
  | .any => "any value"
  | .text => "a string"
  | .bool => "a boolean"
  | .integer _ _ name => name
  | .optional inner => inner.describe
  | .list _ => "a sequence"
  | .map _ => "a map"
  | .record name _ => "struct " ++ name

/-- Unsigned integers of eight bits. -/
def Shape.byte : Shape := .integer 0 255 "u8"

/-- Signed integers of 32 bits. -/
def Shape.word : Shape := .integer (-0x80000000) 0x7FFFFFFF "i32"

namespace Reader

/-! ## Skipping values -/

mutual

/-- Skip a value behind any blanks. -/
def skipValue : Nat → Bytes → Except Fault Bytes
  | 0, _ => Fault.here .endInValue []
  | fuel + 1, input =>
    match skipBlanks input with
    | [] => Fault.here .endInValue []
    | 0x6E :: rest => literal nullTail rest
    | 0x74 :: rest => literal trueTail rest
    | 0x66 :: rest => literal falseTail rest
    | 0x22 :: rest => skipString rest.length rest
    | 0x5B :: rest => skipItems fuel true rest
    | 0x7B :: rest => skipMembers fuel true rest
    | 0x2D :: rest => skipUnsigned rest
    | b :: rest =>
      if isDigit b then skipUnsigned (b :: rest) else Fault.peek .valueExpected (b :: rest)

/-- Skip the items of a list up to and including its closing bracket. -/
def skipItems : Nat → Bool → Bytes → Except Fault Bytes
  | 0, _, _ => Fault.here .endInValue []
  | fuel + 1, first, input =>
    match skipBlanks input with
    | [] => Fault.here .endInList []
    | 0x5D :: rest => .ok rest
    | b :: rest =>
      if first then do
        let rest ← skipValue fuel (b :: rest)
        skipItems fuel false rest
      else if b = 0x2C then do
        let rest ← skipValue fuel rest
        skipItems fuel false rest
      else Fault.peek .listCommaExpected (b :: rest)

/-- Skip the members of an object up to and including its closing brace. -/
def skipMembers : Nat → Bool → Bytes → Except Fault Bytes
  | 0, _, _ => Fault.here .endInValue []
  | fuel + 1, first, input =>
    match skipBlanks input with
    | [] => Fault.here .endInObject []
    | 0x7D :: rest => .ok rest
    | b :: rest => do
      if !first && b ≠ 0x2C then Fault.peek .objectCommaExpected (b :: rest)
      else
        match skipBlanks (if first then b :: rest else rest) with
        | [] => Fault.here .endInObject []
        | 0x22 :: rest => do
          let rest ← skipString rest.length rest
          let rest ← colon rest
          let rest ← skipValue fuel rest
          skipMembers fuel false rest
        | rest => Fault.peek .nameExpected rest

end

/-! ## Departures from a shape -/

/-- What stands at the front of the input instead of the expected shape. A scalar is
consumed first; a bracket is not. -/
def departure {α : Type} (expected : String) (input : Bytes) : Except Fault α :=
  match input with
  | [] => Fault.here .endInValue []
  | 0x6E :: rest => do
    let rest ← literal nullTail rest
    Fault.here (.wrongType .null expected) rest
  | 0x74 :: rest => do
    let rest ← literal trueTail rest
    Fault.here (.wrongType (.bool true) expected) rest
  | 0x66 :: rest => do
    let rest ← literal falseTail rest
    Fault.here (.wrongType (.bool false) expected) rest
  | 0x22 :: rest => do
    let (s, rest) ← string rest
    Fault.here (.wrongType (.string s) expected) rest
  | 0x5B :: rest => Fault.here (.wrongType .sequence expected) (0x5B :: rest)
  | 0x7B :: rest => Fault.here (.wrongType .map expected) (0x7B :: rest)
  | b :: rest =>
    if b = 0x2D || isDigit b then do
      let (n, rest) ← number (b :: rest)
      Fault.here (.wrongType (.number n) expected) rest
    else Fault.peek .valueExpected (b :: rest)

/-- The input behind an attempt to close a list, where faults of the list as a whole are
placed. -/
def behindList (input : Bytes) : Bytes :=
  match skipBlanks input with
  | 0x5D :: rest => rest
  | 0x2C :: rest => skipBlanks rest
  | rest => rest

/-- The input behind an attempt to close an object, where faults of the object as a
whole are placed. -/
def behindObject (input : Bytes) : Bytes :=
  match skipBlanks input with
  | 0x7D :: rest => rest
  | rest => rest

/-- Close a list of which every wanted item has been read. -/
def closeList (input : Bytes) : Except Fault Bytes :=
  match skipBlanks input with
  | [] => Fault.here .endInList []
  | 0x5D :: rest => .ok rest
  | 0x2C :: rest =>
    match skipBlanks rest with
    | 0x5D :: rest => Fault.peek .trailingComma (0x5D :: rest)
    | rest => Fault.peek .trailingCharacters rest
  | rest => Fault.peek .trailingCharacters rest

/-- A count of elements in words. -/
def elements (count : Nat) : String :=
  String.ofList (digitsOf count) ++ (if count = 1 then " element" else " elements")

/-- The fields of a record in order, absent optional ones as `null`; `none` names a
missing one. -/
def completed (read : List (String × Json)) : List (String × Shape) →
    Except String (List (String × Json))
  | [] => .ok []
  | (name, shape) :: fields =>
    match lookupEntry name read, shape with
    | some v, _ => (completed read fields).map fun rest => (name, v) :: rest
    | none, .optional _ => (completed read fields).map fun rest => (name, .null) :: rest
    | none, _ => .error name

/-! ## Reading by shape -/

mutual

/-- A value of a shape behind any blanks, with `depth` more brackets allowed. -/
def shaped : Nat → Nat → Shape → Bytes → Except Fault (Json × Bytes)
  | 0, _, _, _ => Fault.here .endInValue []
  | fuel + 1, depth, shape, input =>
    match shape with
    | .any => value (fuel + 1) depth input
    | .text =>
      match skipBlanks input with
      | 0x22 :: rest => do
        let (s, rest) ← string rest
        .ok (.string s, rest)
      | rest => departure shape.describe rest
    | .bool =>
      match skipBlanks input with
      | 0x74 :: rest => do
        let rest ← literal trueTail rest
        .ok (.bool true, rest)
      | 0x66 :: rest => do
        let rest ← literal falseTail rest
        .ok (.bool false, rest)
      | rest => departure shape.describe rest
    | .integer least greatest name =>
      match skipBlanks input with
      | [] => Fault.here .endInValue []
      | b :: rest =>
        if b = 0x2D || isDigit b then do
          let (n, rest) ← number (b :: rest)
          match n with
          | .float x => Fault.here (.wrongType (.number (.float x)) name) rest
          | .integer k =>
            if least ≤ k ∧ k ≤ greatest then .ok (.number (.integer k), rest)
            else Fault.here (.wrongValue (.number (.integer k)) name) rest
        else departure name (b :: rest)
    | .optional inner =>
      match skipBlanks input with
      | 0x6E :: rest => do
        let rest ← literal nullTail rest
        .ok (.null, rest)
      | rest => shaped fuel depth inner rest
    | .list inner =>
      match skipBlanks input with
      | 0x5B :: rest =>
        match depth with
        | 0 => Fault.peek .tooDeep (0x5B :: rest)
        | depth + 1 => do
          let (vs, rest) ← shapedItems fuel depth inner true rest
          .ok (.array vs, rest)
      | rest => departure shape.describe rest
    | .map inner =>
      match skipBlanks input with
      | 0x7B :: rest =>
        match depth with
        | 0 => Fault.peek .tooDeep (0x7B :: rest)
        | depth + 1 => do
          let (ms, rest) ← shapedMembers fuel depth inner true rest
          .ok (ofMembers ms, rest)
      | rest => departure shape.describe rest
    | .record name fields =>
      match skipBlanks input with
      | 0x5B :: rest =>
        match depth with
        | 0 => Fault.peek .tooDeep (0x5B :: rest)
        | depth + 1 => do
          let expected := "struct " ++ name ++ " with " ++ elements fields.length
          let (ms, rest) ← fieldsInOrder fuel depth expected 0 fields rest
          let rest ← closeList rest
          .ok (ofMembers ms, rest)
      | 0x7B :: rest =>
        match depth with
        | 0 => Fault.peek .tooDeep (0x7B :: rest)
        | depth + 1 => do
          let (ms, rest) ← fieldsByName fuel depth fields [] true rest
          .ok (ofMembers ms, rest)
      | rest => departure shape.describe rest

/-- The items of a list of one shape up to and including its closing bracket. -/
def shapedItems : Nat → Nat → Shape → Bool → Bytes → Except Fault (List Json × Bytes)
  | 0, _, _, _, _ => Fault.here .endInValue []
  | fuel + 1, depth, inner, first, input => do
    match ← nextItem first input with
    | (none, rest) => .ok ([], rest.tail)
    | (some start, _) => do
      let (v, rest) ← shaped fuel depth inner start
      let (vs, rest) ← shapedItems fuel depth inner false rest
      .ok (v :: vs, rest)

/-- The members of a map of one shape up to and including its closing brace. -/
def shapedMembers : Nat → Nat → Shape → Bool → Bytes →
    Except Fault (List (String × Json) × Bytes)
  | 0, _, _, _, _ => Fault.here .endInValue []
  | fuel + 1, depth, inner, first, input => do
    match ← nextMember first input with
    | (none, rest) => .ok ([], rest.tail)
    | (some start, _) => do
      let (name, rest) ← string start
      let rest ← colon rest
      let (v, rest) ← shaped fuel depth inner rest
      let (ms, rest) ← shapedMembers fuel depth inner false rest
      .ok ((name, v) :: ms, rest)

/-- The fields of a record that is written as a list, up to its closing bracket. -/
def fieldsInOrder : Nat → Nat → String → Nat → List (String × Shape) → Bytes →
    Except Fault (List (String × Json) × Bytes)
  | 0, _, _, _, _, _ => Fault.here .endInValue []
  | _ + 1, _, _, _, [], input => .ok ([], input)
  | fuel + 1, depth, expected, index, (name, shape) :: fields, input => do
    match ← nextItem (index == 0) input with
    | (none, rest) => Fault.here (.wrongLength index expected) (behindList rest)
    | (some start, _) => do
      let (v, rest) ← shaped fuel depth shape start
      let (ms, rest) ← fieldsInOrder fuel depth expected (index + 1) fields rest
      .ok ((name, v) :: ms, rest)

/-- The members of a record up to and including its closing brace, after those in
`read`. -/
def fieldsByName : Nat → Nat → List (String × Shape) → List (String × Json) → Bool → Bytes →
    Except Fault (List (String × Json) × Bytes)
  | 0, _, _, _, _, _ => Fault.here .endInValue []
  | fuel + 1, depth, fields, read, first, input => do
    match ← nextMember first input with
    | (none, rest) =>
      match completed read fields with
      | .ok ms => .ok (ms, rest.tail)
      | .error name => Fault.here (.missingField name) (behindObject rest)
    | (some start, _) => do
      let (name, rest) ← string start
      match lookupEntry name fields with
      | none => do
        let rest ← colon rest
        let rest ← skipValue (fuelFor rest) rest
        fieldsByName fuel depth fields read false rest
      | some shape =>
        if (lookupEntry name read).isSome then
          Fault.here (.duplicateField name) (behindObject rest)
        else do
          let rest ← colon rest
          let (v, rest) ← shaped fuel depth shape rest
          fieldsByName fuel depth fields ((name, v) :: read) false rest

end

end Reader

/-- The value of a shape that a whole input denotes. -/
def readAs (shape : Shape) (input : Bytes) : Except Fault Json := do
  Reader.finished
    (← Reader.shaped (2 * Reader.fuelFor input) Reader.depthLimit shape input)

end RouteTree.Json
