import RouteTree.Text.Utf8

/-!
# Percent encoding

A percent sign with two hexadecimal digits stands for an octet. Where no two digits
follow, the sign stands for itself.
-/

namespace RouteTree.Percent

/-- The value of a hexadecimal digit of either case. -/
def hexValue? (b : UInt8) : Option Nat :=
  if 0x30 ≤ b && b ≤ 0x39 then some (b.toNat - 0x30)
  else if 0x61 ≤ b && b ≤ 0x66 then some (b.toNat - 0x57)
  else if 0x41 ≤ b && b ≤ 0x46 then some (b.toNat - 0x37)
  else none

/-- The octets that a text with percent signs stands for. -/
def decode : Bytes → Bytes
  | 0x25 :: a :: b :: rest =>
    match hexValue? a, hexValue? b with
    | some x, some y => UInt8.ofNat (16 * x + y) :: decode rest
    | _, _ => 0x25 :: decode (a :: b :: rest)
  | b :: rest => b :: decode rest
  | [] => []

@[simp]
theorem decode_nil : decode [] = [] := by simp [decode]

/-- The text behind percent signs, if its octets are UTF-8. -/
def decodeText? (text : String) : Option String := Utf8.toString? (decode (Utf8.ofString text))

end RouteTree.Percent
