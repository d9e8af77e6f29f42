/-!
# UTF-8 octets

Text is written as octets character by character, and octets are read back strictly:
overlong forms, surrogates and values above the last code point are refused. A refused
sequence is reported by the octets that start at its first octet, so that a caller can
tell where it stands in its input.
-/

namespace RouteTree

/-- A sequence of octets, such as a message body or a header value. -/
abbrev Bytes := List UInt8

namespace Utf8

/-- The octets of a list of characters. -/
def encode (text : List Char) : Bytes := text.flatMap String.utf8EncodeChar

/-- The octets of a text. -/
def ofString (text : String) : Bytes := encode text.toList

/-- A continuation octet lies in `0x80 .. 0xBF`. -/
def isContinuation (b : UInt8) : Bool := 0x80 ≤ b && b ≤ 0xBF

/-- The low bits that a continuation octet carries. -/
def payload (b : UInt8) : Nat := b.toNat % 64

/-- The second octet after a lead of three may start later (no overlong form) or stop
earlier (no surrogate). -/
def secondOfThree (lead second : UInt8) : Bool :=
  if lead = 0xE0 then 0xA0 ≤ second && second ≤ 0xBF
  else if lead = 0xED then 0x80 ≤ second && second ≤ 0x9F
  else isContinuation second

/-- The second octet after a lead of four keeps the value between `0x10000` and
`0x10FFFF`. -/
def secondOfFour (lead second : UInt8) : Bool :=
  if lead = 0xF0 then 0x90 ≤ second && second ≤ 0xBF
  else if lead = 0xF4 then 0x80 ≤ second && second ≤ 0x8F
  else isContinuation second

/-- The first character of a sequence of octets and the octets after it. -/
def decodeChar? : Bytes → Option (Char × Bytes)
  | [] => none
  | a :: rest =>
    if a < 0x80 then some (Char.ofNat a.toNat, rest)
    else if 0xC2 ≤ a && a ≤ 0xDF then
      match rest with
      | b :: rest =>
        if isContinuation b then some (Char.ofNat (a.toNat % 32 * 64 + payload b), rest) else none
      | _ => none
    else if 0xE0 ≤ a && a ≤ 0xEF then
      match rest with
      | b :: c :: rest =>
        if secondOfThree a b && isContinuation c then
          some (Char.ofNat (a.toNat % 16 * 4096 + payload b * 64 + payload c), rest)
        else none
      | _ => none
    else if 0xF0 ≤ a && a ≤ 0xF4 then
      match rest with
      | b :: c :: d :: rest =>
        if secondOfFour a b && isContinuation c && isContinuation d then
          some (Char.ofNat
            (a.toNat % 8 * 262144 + payload b * 4096 + payload c * 64 + payload d), rest)
        else none
      | _ => none
    else none

theorem length_lt_of_decodeChar? {bytes rest : Bytes} {c : Char}
    (h : decodeChar? bytes = some (c, rest)) : rest.length < bytes.length := by
  unfold decodeChar? at h
  grind

/-- Read all octets as characters; a failure names the octets from the first one that
starts no character. -/
def decode (bytes : Bytes) : Except Bytes (List Char) :=
  if bytes.isEmpty then .ok []
  else
    match _h : decodeChar? bytes with
    | none => .error bytes
    | some (c, rest) =>
      match decode rest with
      | .ok cs => .ok (c :: cs)
      | .error at_ => .error at_
termination_by bytes.length
decreasing_by exact length_lt_of_decodeChar? (by assumption)

/-- The text of octets that are UTF-8. -/
def toString? (bytes : Bytes) : Option String :=
  match decode bytes with
  | .ok cs => some (String.ofList cs)
  | .error _ => none

end Utf8

end RouteTree
