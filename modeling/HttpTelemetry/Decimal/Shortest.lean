import HttpTelemetry.Decimal.Binary
/-!
# The fewest decimal digits that read back

For a positive finite float this module finds the decimal with the fewest significant digits
inside the float's rounding interval, and of two such decimals the nearer one. A decimal is a
significand and a power of ten; the search tries one digit, two digits, and so on, and on each
grid it looks only at the two grid points next to the value, because when a point of the grid
lies in the interval, so does one of those two.

All arithmetic is on natural numbers: a value `v * 2 ^ s` is compared with `d * 10 ^ k` after
both sides are multiplied up to whole numbers.
-/

namespace HttpTelemetry.Decimal

/-- A positive decimal `significand * 10 ^ exponent`. -/
structure Scientific where
  significand : Nat
  exponent : Int
  deriving Repr, DecidableEq, Inhabited

/-- `a * 2 ^ s` as a fraction of two natural numbers. -/
def binaryFraction (a : Nat) (s : Int) : Nat × Nat :=
  (a * Nat.pow 2 s.toNat, Nat.pow 2 (-s).toNat)

/-- Compares `a * 2 ^ s` with `b * 10 ^ k` exactly. -/
def compareScaled (a : Nat) (s : Int) (b : Nat) (k : Int) : Ordering :=
  compare (a * Nat.pow 2 s.toNat * Nat.pow 10 (-k).toNat) (b * Nat.pow 10 k.toNat * Nat.pow 2 (-s).toNat)

/-- The number of decimal digits of a positive number. -/
def digitCount (n : Nat) : Nat := (Nat.toDigits 10 n).length

/-- `⌊log₁₀ (a * 2 ^ s)⌋` for `a > 0`: the value is multiplied by `10 ^ 400`, which makes
every finite float at least one, and the digits of the whole part are counted. -/
def decimalExponent (a : Nat) (s : Int) : Int :=
  let (num, den) := binaryFraction a s
  Int.ofNat (digitCount (num * Nat.pow 10 400 / den)) - 401

/-- `⌊a * 2 ^ s / 10 ^ k⌋`. -/
def floorOnGrid (a : Nat) (s : Int) (k : Int) : Nat :=
  let (num, den) := binaryFraction a s
  num * Nat.pow 10 (-k).toNat / (den * Nat.pow 10 k.toNat)

/-- The decimal `d * 10 ^ k` lies in the rounding interval. -/
def Interval.contains (i : Interval) (d : Nat) (k : Int) : Bool :=
  let fromLow := compareScaled i.low i.scale d k
  let fromHigh := compareScaled i.high i.scale d k
  if i.inclusive then fromLow != .gt && fromHigh != .lt
  else fromLow == .lt && fromHigh == .gt

/-- Drops trailing zeros of the significand into the exponent. -/
def Scientific.trim (d : Nat) (k : Int) (fuel : Nat) : Scientific :=
  match fuel with
  | 0 => ⟨d, k⟩
  | fuel + 1 => if d % 10 == 0 && d != 0 then trim (d / 10) (k + 1) fuel else ⟨d, k⟩

/-- On the grid `10 ^ k`, the point below the value and the one above it, if either lies in
the interval; of two, the nearer. -/
def Interval.pickOnGrid (i : Interval) (k : Int) : Option Nat :=
  let d := floorOnGrid i.value i.scale k
  match i.contains d k, i.contains (d + 1) k with
  | true, true =>
    -- the value against the midpoint `(2d + 1) * 10 ^ k / 2` of the two grid points
    match compareScaled (2 * i.value) i.scale (2 * d + 1) k with
    | .lt => some d
    | .gt => some (d + 1)
    | .eq => some (if d % 2 == 0 then d else d + 1)
  | true, false => some d
  | false, true => some (d + 1)
  | false, false => none

/-- Tries the grids for `n`, `n + 1`, … significant digits; seventeen always suffice for a
64-bit float, so the last grid tried falls back to the grid point below only for a value
whose interval holds neither neighbour, which no finite float has. -/
def Interval.search (i : Interval) (top : Int) (n : Nat) : Nat → Scientific
  | 0 =>
    let k := top + 1 - n
    match i.pickOnGrid k with
    | some d => Scientific.trim d k 40
    | none => Scientific.trim (floorOnGrid i.value i.scale k) k 40
  | fuel + 1 =>
    let k := top + 1 - n
    match i.pickOnGrid k with
    | some d => Scientific.trim d k 40
    | none => i.search top (n + 1) fuel

/-- The shortest decimal that reads back as the positive float `m * 2 ^ e`. -/
def shortestOf (m : Nat) (e : Int) : Scientific :=
  let i := Interval.ofFinite m e
  i.search (decimalExponent i.value i.scale) 1 16

/-- The decimal exponent of the leading digit: `d₀.d₁d₂… × 10 ^ leadingExponent`. -/
def Scientific.leadingExponent (s : Scientific) : Int :=
  s.exponent + Int.ofNat (digitCount s.significand) - 1

/-- The significant digits as characters. -/
def Scientific.digits (s : Scientific) : List Char := Nat.toDigits 10 s.significand

/-- What a float prints as, before layout: its sign and shortest digits. -/
inductive Shape where
  | nan
  | infinite (negative : Bool)
  | zero (negative : Bool)
  | finite (negative : Bool) (digits : Scientific)
  deriving Repr, DecidableEq

/-- The shape of a float with the digits a given digit generator chooses for positive finite
values `m * 2 ^ e`. -/
def Shape.ofBinary (digitsOf : Nat → Int → Scientific) : Binary → Shape
  | .nan => .nan
  | .infinite neg => .infinite neg
  | .finite neg m e => if m == 0 then .zero neg else .finite neg (digitsOf m e)

/-- The shape of a float with its shortest digits. -/
def Shape.shortest (x : Float) : Shape := Shape.ofBinary shortestOf (Binary.ofFloat x)

end HttpTelemetry.Decimal
