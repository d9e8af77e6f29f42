/-!
# Socket addresses

A socket address is an IPv4 address and a port, or an IPv6 address in brackets, with an
optional zone, and a port. Ports are decimal numbers of 16 bits, with any number of
leading zeros. An address is printed without leading zeros, and the first longest run of
zero groups of an IPv6 address as a double colon.
-/

namespace RouteTree

/-- The address of a host: four octets, or eight groups of 16 bits and a zone. -/
inductive Host where
  | v4 (octets : List Nat)
  | v6 (groups : List Nat) (zone : Nat)
  deriving DecidableEq, Repr

/-- A host and a port. -/
structure SocketAddress where
  host : Host
  port : Nat
  deriving DecidableEq, Repr

namespace SocketAddress

/-- The value of a digit in a base up to sixteen. -/
def digitValue? (base : Nat) (c : Char) : Option Nat :=
  let value :=
    if '0' ≤ c ∧ c ≤ '9' then some (c.toNat - 48)
    else if 'a' ≤ c ∧ c ≤ 'f' then some (c.toNat - 87)
    else if 'A' ≤ c ∧ c ≤ 'F' then some (c.toNat - 55)
    else none
  value.filter (· < base)

/-- The digits at the front of the characters, as values, and the characters behind
them. -/
def digits (base : Nat) (text : List Char) : List Nat × List Char :=
  let run := text.takeWhile fun c => (digitValue? base c).isSome
  (run.filterMap (digitValue? base), text.drop run.length)

/-- The number of at least one and at most `most` digits, no greater than `greatest`. -/
def number (base greatest : Nat) (most : Option Nat) (leadingZeros : Bool) (text : List Char) :
    Option (Nat × List Char) :=
  let (ds, rest) := digits base text
  let value := ds.foldl (fun n d => base * n + d) 0
  let tooLong := match most with
    | some m => decide (m < ds.length)
    | none => false
  if ds.isEmpty || tooLong || greatest < value ||
      (!leadingZeros && ds.head? == some 0 && 1 < ds.length) then none
  else some (value, rest)

/-- A character in front. -/
def expect (c : Char) : List Char → Option (List Char)
  | d :: rest => if d = c then some rest else none
  | [] => none

/-- One of the four numbers of an IPv4 address, without leading zeros. -/
def octet (text : List Char) : Option (Nat × List Char) := number 10 255 (some 3) false text

/-- Four numbers with points between them. -/
def ipv4 (text : List Char) : Option (List Nat × List Char) := do
  let (a, rest) ← octet text
  let (b, rest) ← octet (← expect '.' rest)
  let (c, rest) ← octet (← expect '.' rest)
  let (d, rest) ← octet (← expect '.' rest)
  some ([a, b, c, d], rest)

/-- The colon before every group but the first. -/
def groupStart (isFirst : Bool) (text : List Char) : Option (List Char) :=
  if isFirst then some text else expect ':' text

/-- The two groups that four octets fill. -/
def groupsOfOctets : List Nat → List Nat
  | [a, b, c, d] => [256 * a + b, 256 * c + d]
  | _ => []

/-- Groups of up to four hexadecimal digits with colons between them, at most `limit`
behind those that are `read`; an IPv4 address at the end counts for two. Tells whether
they ended so. -/
def groups : Nat → List Nat → List Char → List Nat × Bool × List Char
  | 0, read, text => (read, false, text)
  | limit + 1, read, text =>
    let embedded :=
      if 0 < limit then (groupStart read.isEmpty text).bind ipv4 else none
    match embedded with
    | some (octets, rest) => (read ++ groupsOfOctets octets, true, rest)
    | none =>
      match (groupStart read.isEmpty text).bind (number 16 65535 (some 4) true) with
      | some (group, rest) => groups limit (read ++ [group]) rest
      | none => (read, false, text)

/-- Eight groups, or fewer around a double colon. -/
def ipv6 (text : List Char) : Option (List Nat × List Char) := do
  let (front, embedded, rest) := groups 8 [] text
  if front.length = 8 then some (front, rest)
  else if embedded then none
  else
    let rest ← expect ':' rest
    let rest ← expect ':' rest
    let (back, _, rest) := groups (7 - front.length) [] rest
    some (front ++ List.replicate (8 - front.length - back.length) 0 ++ back, rest)

/-- An optional zone behind a percent sign. -/
def zone (text : List Char) : Nat × List Char :=
  ((expect '%' text).bind (number 10 0xFFFFFFFF none true)).getD (0, text)

/-- A colon and a port at the end. -/
def portBehind (text : List Char) : Option Nat := do
  let (port, rest) ← number 10 65535 none true (← expect ':' text)
  if rest.isEmpty then some port else none

/-- An IPv4 address and a port. -/
def version4? (text : List Char) : Option SocketAddress := do
  let (octets, rest) ← ipv4 text
  some ⟨.v4 octets, ← portBehind rest⟩

/-- An IPv6 address in brackets and a port. -/
def version6? (text : List Char) : Option SocketAddress := do
  let (groups, rest) ← ipv6 (← expect '[' text)
  let (zone, rest) := zone rest
  some ⟨.v6 groups zone, ← portBehind (← expect ']' rest)⟩

/-- The socket address that a text denotes. -/
def parse? (text : String) : Option SocketAddress :=
  (version4? text.toList).or (version6? text.toList)

/-- Whether a text is a socket address. -/
def isValid (text : String) : Bool := (parse? text).isSome

end SocketAddress

namespace Host

/-- Octets with points between them. -/
def octetsText (octets : List Nat) : String := ".".intercalate (octets.map toString)

/-- Groups in hexadecimal with colons between them. -/
def groupsText (groups : List Nat) : String :=
  ":".intercalate (groups.map fun g => String.ofList (Nat.toDigits 16 g))

/-- How many zeros there are in front. -/
def leadingZeros (groups : List Nat) : Nat := (groups.takeWhile (· = 0)).length

/-- Where the first longest run of zeros starts, and how long it is. -/
def longestZeros (groups : List Nat) : Nat × Nat :=
  (List.range groups.length).foldl (fun best start =>
    let run := leadingZeros (groups.drop start)
    if best.2 < run then (start, run) else best) (0, 0)

/-- The text of the groups of an IPv6 address. -/
def ipv6Text (groups : List Nat) : String :=
  match groups with
  | [0, 0, 0, 0, 0, 0xFFFF, high, low] =>
    "::ffff:" ++ octetsText [high / 256, high % 256, low / 256, low % 256]
  | _ =>
    let (start, run) := longestZeros groups
    if 1 < run then groupsText (groups.take start) ++ "::" ++ groupsText (groups.drop (start + run))
    else groupsText groups

/-- The text of a host without its zone. -/
def text : Host → String
  | .v4 octets => octetsText octets
  | .v6 groups _ => ipv6Text groups

end Host

/-- The text of a socket address. -/
def SocketAddress.text (a : SocketAddress) : String :=
  match a.host with
  | .v4 _ => a.host.text ++ ":" ++ toString a.port
  | .v6 _ zone =>
    "[" ++ a.host.text ++ (if zone = 0 then "" else "%" ++ toString zone) ++ "]:" ++
      toString a.port

end RouteTree
