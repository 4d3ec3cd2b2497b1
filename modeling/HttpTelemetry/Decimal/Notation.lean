import HttpTelemetry.Decimal.Shortest
/-!
# Laying out decimal digits

A `Notation` says how a float's shape becomes text: which leading exponents are written
positionally, and the words for not-a-number and infinity. Positional text always shows a
fraction, `.0` at least; exponential text is `d.ddde<exp>` with a minus sign on negative
exponents and none on positive ones, and a lone digit has no point.
-/

namespace HttpTelemetry.Decimal

/-- The layout choices of one number format. -/
structure Notation where
  /-- The smallest leading exponent written positionally. -/
  positionalFrom : Int
  /-- The largest leading exponent written positionally. -/
  positionalTo : Int
  nanText : String
  infinityText : String
  deriving Repr, DecidableEq

/-- `n` zeros. -/
def zeros (n : Nat) : List Char := List.replicate n '0'

/-- Digits with the leading one at `10 ^ lead`, written with a point and no exponent. -/
def positionalText (ds : List Char) (lead : Int) : String :=
  if lead < 0 then
    String.ofList ('0' :: '.' :: (zeros (-lead - 1).toNat ++ ds))
  else
    let whole := (lead + 1).toNat
    let intPart := ds.take whole ++ zeros (whole - ds.length)
    let fracPart := ds.drop whole
    String.ofList (intPart ++ '.' :: (if fracPart.isEmpty then ['0'] else fracPart))

/-- Digits with the leading one at `10 ^ lead`, written as `d.ddde<lead>`. -/
def exponentialText (ds : List Char) (lead : Int) : String :=
  let mantissa := match ds with
    | [] => ['0']
    | [d] => [d]
    | d :: rest => d :: '.' :: rest
  String.ofList mantissa ++ "e" ++ toString lead

/-- The text of a float's shape in this notation. -/
def Notation.render (n : Notation) : Shape → String
  | .nan => n.nanText
  | .infinite neg => (if neg then "-" else "") ++ n.infinityText
  | .zero neg => if neg then "-0.0" else "0.0"
  | .finite neg s =>
    let lead := s.leadingExponent
    let body :=
      if n.positionalFrom ≤ lead ∧ lead ≤ n.positionalTo then positionalText s.digits lead
      else exponentialText s.digits lead
    (if neg then "-" else "") ++ body

/-- Shortest digits, positional for magnitudes from `1e-4` up to below `1e16`: the debugging
text of a float, and a faithful number text for data formats. -/
def Notation.debug : Notation :=
  { positionalFrom := -4, positionalTo := 15, nanText := "NaN", infinityText := "inf" }

/-- The debugging text of a float: its shortest digits in `Notation.debug`. -/
def debugText (x : Float) : String := Notation.debug.render (Shape.shortest x)

end HttpTelemetry.Decimal
