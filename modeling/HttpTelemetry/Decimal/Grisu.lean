import HttpTelemetry.Decimal.Notation
/-!
# Grisu2 digits

The exposition format writes its numbers with Grisu2: fast digit generation in 64-bit
arithmetic against a cached power of ten. The digits always read back as the float they came
from, but they are not always the shortest such digits, nor the closest: `2 ^ 64` comes out
as `18446744073709553000.0`. Matching that output means following the algorithm step by step,
so every quantity here is the exact value the 64-bit computation holds.

A `Diy` number is `f * 2 ^ e` with a 64-bit `f`. The value and the two ends of its rounding
interval are scaled into `[2 ^ 63, 2 ^ 64)`, multiplied by a cached power `10 ^ -K`, narrowed by
one unit on each side, and digits are produced from the upper end until the rest fits in the
narrowed interval; the last digit is then lowered while that brings the digits closer to the
value.
-/

namespace HttpTelemetry.Decimal

/-- The number `f * 2 ^ e`, with `f` meant to fit in 64 bits. -/
structure Diy where
  f : Nat
  e : Int
  deriving Repr, DecidableEq

/-- Two to the 64. -/
def wordSize : Nat := Nat.pow 2 64

/-- The product of two 64-bit significands, rounded to its upper 64 bits. -/
def Diy.mul (a b : Diy) : Diy := ⟨(a.f * b.f + Nat.pow 2 63) / wordSize, a.e + b.e + 64⟩

/-- Shifts a positive significand left until its top bit is bit 63. -/
def Diy.normalize (x : Diy) : Diy :=
  let s := 63 - Nat.log2 x.f
  ⟨x.f * Nat.pow 2 s, x.e - s⟩

/-- `a / b` rounded to the nearest integer, halves up. -/
def roundedQuotient (a b : Nat) : Nat := (2 * a + b) / (2 * b)

/-- The cached power `10 ^ k` as a normalized `Diy`, rounded to nearest. -/
def cachedPower (k : Int) : Diy :=
  if 0 ≤ k then
    let n := Nat.pow 10 k.toNat
    let s := Nat.log2 n
    if s ≤ 63 then ⟨n * Nat.pow 2 (63 - s), -(Int.ofNat (63 - s))⟩
    else ⟨roundedQuotient n (Nat.pow 2 (s - 63)), Int.ofNat (s - 63)⟩
  else
    -- With `2 ^ s < 10 ^ -k < 2 ^ (s + 1)` (no power of ten below one is a power of two),
    -- `2 ^ (s + 64) / 10 ^ -k` lies in `(2 ^ 63, 2 ^ 64)`.
    let d := Nat.pow 10 (-k).toNat
    let t := Nat.log2 d + 64
    ⟨roundedQuotient (Nat.pow 2 t) d, -(Int.ofNat t)⟩

/-- The index of the cached power for a binary exponent `e`: powers of ten go in steps of
eight from `10 ^ -348`, and the one chosen brings a number `f * 2 ^ e` with a 64-bit `f` into
the range where the digit loop works. The estimate is computed in floating point, as the
algorithm does. -/
def cachedIndex (e : Int) : Nat :=
  let dk : Float := Float.ofInt (-61 - e) * 0.30102999566398114 + 347.0
  let k := dk.toUInt64.toNat
  let k := if dk - Float.ofNat k > 0.0 then k + 1 else k
  k / 8 + 1

/-- The number of decimal digits of the integral part, counted up to nine. -/
def countDigits (p : Nat) : Nat :=
  match (List.range 8).find? (fun i => p < Nat.pow 10 (i + 1)) with
  | some i => i + 1
  | none => 9

/-- Lowers the last digit while the digits stay in the interval and move closer to the value;
`rest` is how far the digits are below the upper end, `wpw` how far the value is. -/
def roundDown (delta tenKappa wpw : Nat) (sig rest : Nat) : Nat → Nat
  | 0 => sig
  | fuel + 1 =>
    if rest < wpw && tenKappa ≤ delta - rest &&
        (rest + tenKappa < wpw || wpw - rest > rest + tenKappa - wpw) then
      roundDown delta tenKappa wpw (sig - 1) (rest + tenKappa) fuel
    else sig

/-- Digits of the fraction part: each step multiplies the rest and the interval width by ten
and takes the next digit, until the rest is below the width. Returns the digits and the
exponent of the last one. -/
def fractionDigits (oneE wpw : Nat) (p2 delta sig : Nat) (kappa : Int) : Nat → Nat × Int
  | 0 => (sig, kappa)
  | fuel + 1 =>
    let p2 := p2 * 10 % wordSize
    let delta := delta * 10 % wordSize
    let sig := sig * 10 + p2 / Nat.pow 2 oneE
    let p2 := p2 % Nat.pow 2 oneE
    let kappa := kappa - 1
    if p2 < delta then
      let index := (-kappa).toNat
      let wpw := wpw * (if index < 9 then Nat.pow 10 index else 0) % wordSize
      (roundDown delta (Nat.pow 2 oneE) wpw sig p2 10, kappa)
    else fractionDigits oneE wpw p2 delta sig kappa fuel

/-- Digits of the integral part `p1`, from the digit at `10 ^ (kappa - 1)` down, stopping as
soon as the rest fits in the interval; then the fraction digits. -/
def integerDigits (oneE wpw p2 delta : Nat) : (kappa p1 sig : Nat) → Nat × Int
  | 0, _, sig => fractionDigits oneE wpw p2 delta sig 0 64
  | kappa + 1, p1, sig =>
    let pow := Nat.pow 10 kappa
    let sig := sig * 10 + p1 / pow
    let p1 := p1 % pow
    let rest := p1 * Nat.pow 2 oneE + p2
    if rest ≤ delta then (roundDown delta (pow * Nat.pow 2 oneE) wpw sig rest 10, Int.ofNat kappa)
    else integerDigits oneE wpw p2 delta kappa p1 sig

/-- The Grisu2 digits of the positive float `m * 2 ^ e`. -/
def grisuOf (m : Nat) (e : Int) : Scientific :=
  let upper := Diy.normalize ⟨2 * m + 1, e - 1⟩
  let lower : Diy := if m == Nat.pow 2 fractionBits then ⟨4 * m - 1, e - 2⟩ else ⟨2 * m - 1, e - 1⟩
  let lower : Diy := ⟨lower.f * Nat.pow 2 (lower.e - upper.e).toNat, upper.e⟩
  let index := cachedIndex upper.e
  let bigK : Int := 348 - 8 * Int.ofNat index
  let c := cachedPower (-348 + 8 * Int.ofNat index)
  let w := (Diy.normalize ⟨m, e⟩).mul c
  let wp := upper.mul c
  let wm := lower.mul c
  let top := wp.f - 1
  let delta := top - (wm.f + 1)
  let oneE := (-wp.e).toNat
  let p1 := top / Nat.pow 2 oneE
  let p2 := top % Nat.pow 2 oneE
  let (sig, kappa) := integerDigits oneE (top - w.f) p2 delta (countDigits p1) p1 0
  ⟨sig, bigK + kappa⟩

/-- The shape of a float with its Grisu2 digits. -/
def Shape.grisu (x : Float) : Shape := Shape.ofBinary grisuOf (Binary.ofFloat x)

/-- The number format of the metrics exposition: Grisu2 digits, positional for leading
exponents from `-6` to `20`. -/
def Notation.exposition : Notation :=
  { positionalFrom := -6, positionalTo := 20, nanText := "NaN", infinityText := "inf" }

/-- The exposition text of a float. -/
def expositionText (x : Float) : String := Notation.exposition.render (Shape.grisu x)

end HttpTelemetry.Decimal
