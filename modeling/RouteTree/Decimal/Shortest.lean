/-!
# The fewest digits that read back

A finite double is `m · 2 ^ q`. All reals nearer to it than to its neighbours form an
interval around it, and a decimal in that interval reads back as the same double. The
shortest text takes the coarsest decimal grid that has a point in the interval, and of
two points the nearer one. Whether a grid has such a point shows in its two points next
to the value, so the search is exact in natural numbers.
-/

namespace RouteTree.Decimal

/-- The number `digits · 10 ^ exponent`. -/
structure Scaled where
  digits : Nat
  exponent : Int
  deriving DecidableEq, Repr

/-- A positive double `mantissa · 2 ^ exponent`; `narrow` says that the neighbour below
is only half as far away as the neighbour above. -/
structure Binary where
  mantissa : Nat
  exponent : Int
  narrow : Bool
  deriving DecidableEq, Repr

/-- Numerators over one denominator of a double and of the ends of its interval. -/
structure Interval where
  value : Nat
  lower : Nat
  upper : Nat
  denominator : Nat
  closed : Bool

/-- The reals that round to a double, ends included exactly when its mantissa is
even. -/
def Binary.interval (b : Binary) : Interval :=
  let scale : Nat := Nat.pow 2 (b.exponent - 2).toNat
  { value := 4 * b.mantissa * scale
    lower := (4 * b.mantissa - (if b.narrow then 1 else 2)) * scale
    upper := (4 * b.mantissa + 2) * scale
    denominator := Nat.pow 2 (2 - b.exponent).toNat
    closed := b.mantissa % 2 == 0 }

/-- The exponent of ten of the leading digit of a positive fraction. -/
def leadingExponent (numerator denominator : Nat) : Int :=
  if denominator ≤ numerator then
    ((Nat.toDigits 10 (numerator / denominator)).length : Int) - 1
  else -((Nat.toDigits 10 (denominator / numerator)).length : Int)

/-- Whether `count · 10 ^ exponent` lies in the interval. -/
def Interval.covers (i : Interval) (count : Nat) (exponent : Int) : Bool :=
  let point := count * Nat.pow 10 exponent.toNat * i.denominator
  let scale := Nat.pow 10 (-exponent).toNat
  if i.closed then i.lower * scale ≤ point && point ≤ i.upper * scale
  else i.lower * scale < point && point < i.upper * scale

/-- The point of the grid `10 ^ exponent` that stands for the value, if one of the two
next to it does: the nearer one, and the even one when both are equally near. -/
def Interval.onGrid (i : Interval) (exponent : Int) : Option Nat :=
  let numerator := i.value * Nat.pow 10 (-exponent).toNat
  let unit := i.denominator * Nat.pow 10 exponent.toNat
  let below := numerator / unit
  let above := below + 1
  match i.covers below exponent, i.covers above exponent with
  | false, false => none
  | true, false => some below
  | false, true => some above
  | true, true =>
    let remainder := numerator % unit
    if 2 * remainder < unit then some below
    else if unit < 2 * remainder then some above
    else if below % 2 = 0 then some below
    else some above

/-- The first grid with a hit, from `fuel` digits fewer than seventeen upward. -/
def Interval.search (i : Interval) (leading : Int) : Nat → Scaled
  | 0 => ⟨i.value / i.denominator, 0⟩
  | fuel + 1 =>
    let exponent := leading + 1 - ((17 - fuel : Nat) : Int)
    match i.onGrid exponent with
    | some count => ⟨count, exponent⟩
    | none => i.search leading fuel

/-- Drop the zeros at the end of the digits. -/
def Scaled.trim (d : Scaled) : Scaled :=
  if h : d.digits ≠ 0 ∧ d.digits % 10 = 0 then
    Scaled.trim ⟨d.digits / 10, d.exponent + 1⟩
  else d
termination_by d.digits
decreasing_by omega

/-- The shortest decimal that reads back as a positive double. -/
def Binary.shortest (b : Binary) : Scaled :=
  let i := b.interval
  (i.search (leadingExponent i.value i.denominator) 17).trim

/-- What a double holds. -/
inductive Parts where
  | zero (negative : Bool)
  | finite (negative : Bool) (magnitude : Binary)
  | notFinite

/-- Take a double apart by its sign, exponent and fraction bits. -/
def parts (x : Float) : Parts :=
  let bits := x.toBits.toNat
  let negative := decide (0x8000000000000000 ≤ bits)
  let exponent : Nat := bits / 0x10000000000000 % 2048
  let fraction : Nat := bits % 0x10000000000000
  if exponent = 2047 then .notFinite
  else if exponent = 0 then
    if fraction = 0 then .zero negative else .finite negative ⟨fraction, -1074, false⟩
  else .finite negative
    ⟨0x10000000000000 + fraction, (exponent : Int) - 1075, decide (fraction = 0 ∧ 1 < exponent)⟩

end RouteTree.Decimal
