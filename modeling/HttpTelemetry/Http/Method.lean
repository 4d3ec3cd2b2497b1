/-!
# Request methods

A method is a token: a non-empty run of the characters RFC 9110 allows in tokens. Any such
token is a method; the standard ones are not special here, and case is kept.
-/

namespace HttpTelemetry.Http

/-- A character allowed in a token. -/
def isTokenChar (c : Char) : Bool :=
  c.isAlphanum || [0x21, 0x23, 0x24, 0x25, 0x26, 0x27, 0x2A, 0x2B, 0x2D, 0x2E, 0x5E, 0x5F, 0x60,
    0x7C, 0x7E].contains c.toNat

/-- A request method, as written. -/
structure Method where
  name : String
  deriving DecidableEq, Repr

/-- The method a text names, if it is a token. -/
def Method.parse (text : String) : Option Method :=
  if !text.isEmpty && text.all isTokenChar then some ⟨text⟩ else none

end HttpTelemetry.Http
