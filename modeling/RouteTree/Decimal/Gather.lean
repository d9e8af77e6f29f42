/-!
# Decimals gathered in a machine word

A decimal numeral is read by gathering its digits in a 64-bit word for as long as they
fit, turning the word into a double, and scaling it once by a power of ten. Digits that
do not fit only count for the magnitude (before the point) or not at all (after it). The
result is near the numeral's value without always being the nearest double, and a
numeral beyond the largest double has none.
-/

namespace RouteTree.Decimal

/-- Append digits to a number for as long as it stays at most `limit`; gives the number
and the digits from the first one that did not fit. -/
def gather (limit : Nat) : Nat → List Nat → Nat × List Nat
  | n, [] => (n, [])
  | n, d :: rest => if 10 * n + d ≤ limit then gather limit (10 * n + d) rest else (n, d :: rest)

/-- The number that digits denote. -/
def ofDigits (digits : List Nat) : Nat := digits.foldl (fun n d => 10 * n + d) 0

/-- The largest 64-bit word. -/
def wordLimit : Nat := 0xFFFFFFFFFFFFFFFF

/-- The greatest exponent that is read digit by digit. -/
def exponentLimit : Nat := 0x7FFFFFFF

/-- Scale a double by a power of ten; `none` beyond the largest double. Below `10 ^
-308` it is first divided by `10 ^ 308` until the rest of the exponent is in reach or
nothing is left of it. -/
def scale (x : Float) (exponent : Int) : Option Float :=
  if exponent.natAbs ≤ 308 then
    let power := Float.ofScientific 1 false exponent.natAbs
    if 0 ≤ exponent then
      let scaled := x * power
      if scaled.isInf then none else some scaled
    else some (x / power)
  else if x == 0.0 then some x
  else if 0 ≤ exponent then none
  else scale (x / Float.ofScientific 1 false 308) (exponent + 308)
termination_by exponent.natAbs
decreasing_by omega

/-- The double of a gathered word and its exponent of ten. -/
def assemble (negative : Bool) (word : Nat) (exponent : Int) : Option Float :=
  (scale word.toUInt64.toFloat exponent).map fun x => if negative then -x else x

end RouteTree.Decimal
