/-!
# Labels and observations

Every measurement carries the method, the host, the path label and, once the response is
known, the status code. While a request is in flight the status code is unknown, so the
active-requests gauge always sees `none` there.

An `Observation` is one call the middleware makes on a recorder; backends turn observations
into stored series.
-/

namespace HttpTelemetry

/-- The labels of a measurement. -/
structure Labels where
  verb : String
  host : String
  path : String
  statusCode : Option String
  deriving DecidableEq, Repr

/-- The status code as label text, `""` while unknown. -/
def Labels.statusText (l : Labels) : String := l.statusCode.getD ""

/-- One call on a recorder. -/
inductive Observation where
  /-- Creates the duration series of the labels without observing anything. -/
  | touch (labels : Labels)
  /-- Adds to the active-requests gauge. -/
  | active (labels : Labels) (delta : Int)
  | duration (labels : Labels) (millis : Float)
  | requestSize (labels : Labels) (bytes : Nat)
  | responseSize (labels : Labels) (bytes : Nat)

/-- The labels an observation carries. -/
def Observation.labels : Observation → Labels
  | .touch l | .active l _ | .duration l _ | .requestSize l _ | .responseSize l _ => l

/-- Wraps an integer into the signed 64-bit range, as 64-bit addition does. -/
def wrapI64 (x : Int) : Int :=
  let m := x % Int.pow 2 64
  if m ≥ Int.pow 2 63 then m - Int.pow 2 64 else m

/-- Wraps a natural number into the unsigned 64-bit range. -/
def wrapU64 (x : Nat) : Nat := x % Nat.pow 2 64

/-- A `u64` as a float, rounded to nearest. -/
def u64ToFloat (n : Nat) : Float := (UInt64.ofNat n).toFloat

/-- The largest finite float. -/
def maxFinite : Float := Float.ofBits 0x7FEFFFFFFFFFFFFF

/-- Adds one to entry `i` of a list of counts. -/
def bumpAt : List Nat → Nat → List Nat
  | [], _ => []
  | c :: cs, 0 => (c + 1) :: cs
  | c :: cs, i + 1 => c :: bumpAt cs i

end HttpTelemetry
