/-!
# Binary floats as exact numbers

A 64-bit binary float is read off its bits: not a number, a signed infinity, or a signed
finite value `mantissa * 2 ^ exponent`. Every decimal printer of the library starts here, so
that digits come from exact natural-number arithmetic and never from the float unit.

The rounding interval of a finite value is the set of reals that read back as that value:
its ends are the midpoints to the two neighbouring floats, and they belong to it exactly when
the mantissa is even (a tie reads back to the even neighbour).
-/

namespace HttpTelemetry.Decimal

/-- What the bits of a 64-bit float stand for. -/
inductive Binary where
  | nan
  | infinite (negative : Bool)
  /-- The value `(-1) ^ negative * mantissa * 2 ^ exponent`, with `mantissa < 2 ^ 53`. -/
  | finite (negative : Bool) (mantissa : Nat) (exponent : Int)
  deriving Repr, DecidableEq

/-- Number of stored fraction bits. -/
def fractionBits : Nat := 52

/-- The exponent of the smallest subnormal step, `2 ^ minExponent`. -/
def minExponent : Int := -1074

/-- Decodes sign, biased exponent and fraction: a zero biased exponent is subnormal, the
largest one is an infinity or not a number. -/
def Binary.ofBits (bits : UInt64) : Binary :=
  let negative := bits >>> 63 == 1
  let biased := ((bits >>> 52) &&& 0x7FF).toNat
  let fraction := (bits &&& 0xFFFFFFFFFFFFF).toNat
  if biased == 0x7FF then
    if fraction == 0 then .infinite negative else .nan
  else if biased == 0 then
    .finite negative fraction minExponent
  else
    .finite negative (fraction + Nat.pow 2 fractionBits) (Int.ofNat biased - 1075)

/-- The exact meaning of a float. -/
def Binary.ofFloat (x : Float) : Binary := Binary.ofBits x.toBits

/-- The rounding interval of the positive value `m * 2 ^ e`, scaled by `2 ^ (2 - e)`: the
value is `4 * m`, the upper end `4 * m + 2`, and the lower end `4 * m - 2`, or `4 * m - 1`
when `m` is the smallest mantissa of its binade and a smaller binade exists below it. -/
structure Interval where
  low : Nat
  value : Nat
  high : Nat
  /-- The ends belong to the interval. -/
  inclusive : Bool
  /-- The scale: the numbers above stand for themselves times `2 ^ (scale)`. -/
  scale : Int
  deriving Repr, DecidableEq

/-- The rounding interval of `m * 2 ^ e` for a mantissa of a finite float. -/
def Interval.ofFinite (m : Nat) (e : Int) : Interval :=
  let closerBelow := m == Nat.pow 2 fractionBits && decide (e > minExponent)
  { low := 4 * m - (if closerBelow then 1 else 2)
    value := 4 * m
    high := 4 * m + 2
    inclusive := m % 2 == 0
    scale := e - 2 }

end HttpTelemetry.Decimal
