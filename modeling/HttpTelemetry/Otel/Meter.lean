import HttpTelemetry.Labels
import HttpTelemetry.Config
/-!
# OpenTelemetry instruments

Four instruments: a float histogram of durations, an integer up-down counter of active
requests, and two unsigned histograms of body sizes. A data point exists from the first
measurement of its attribute set; touching creates nothing.

The attributes are `http.verb`, `http.host`, `http.path` and, when known, `http.status_code`,
kept sorted by key. A histogram point counts, sums (unsigned sums wrap at `2 ^ 64`) and keeps
the least and the greatest value, starting from the extremes of the value type and updated by
strict comparison, so a NaN never becomes either. A value goes to the bucket numbered by how
many bounds lie below it: NaN to the first, values above every bound to the last.
-/

namespace HttpTelemetry.Otel

/-- Attributes of a data point, sorted by key. -/
abbrev Attributes := List (String × String)

/-- The attributes of some labels; an unknown status code is left out. -/
def attributesOf (l : Labels) : Attributes :=
  [("http.host", l.host), ("http.path", l.path)] ++
    (match l.statusCode with
     | some s => [("http.status_code", s)]
     | none => []) ++
    [("http.verb", l.verb)]

/-- How the values of a histogram add and compare, and where least and greatest start. -/
structure Scale (α : Type) where
  add : α → α → α
  lt : α → α → Bool
  zero : α
  lowest : α
  highest : α
  toFloat : α → Float

/-- Float values. -/
def floatScale : Scale Float :=
  ⟨(· + ·), (fun a b => decide (a < b)), 0.0, -maxFinite, maxFinite, id⟩

/-- Unsigned 64-bit values. -/
def u64Scale : Scale Nat :=
  ⟨(fun a b => wrapU64 (a + b)), (fun a b => decide (a < b)), 0, 0, Nat.pow 2 64 - 1, u64ToFloat⟩

/-- One histogram data point. -/
structure HistogramPoint (α : Type) where
  count : Nat
  sum : α
  min : α
  max : α
  bucketCounts : List Nat

/-- An empty point with `n` bounds. -/
def HistogramPoint.empty (s : Scale α) (n : Nat) : HistogramPoint α :=
  ⟨0, s.zero, s.highest, s.lowest, List.replicate (n + 1) 0⟩

/-- The bucket of a value: the number of leading bounds below it. -/
def bucketIndex (bounds : List Float) (v : Float) : Nat :=
  (bounds.takeWhile (fun b => decide (b < v))).length

/-- Records one value. -/
def HistogramPoint.record (s : Scale α) (bounds : List Float) (p : HistogramPoint α) (v : α) :
    HistogramPoint α :=
  { count := p.count + 1
    sum := s.add p.sum v
    min := if s.lt v p.min then v else p.min
    max := if s.lt p.max v then v else p.max
    bucketCounts := bumpAt p.bucketCounts (bucketIndex bounds (s.toFloat v)) }

/-- Points in the order they were created, each under its attributes. -/
abbrev Points (α : Type) := List (Attributes × α)

/-- The point of some attributes, created by `fresh` when missing, after `f`. -/
def Points.update (ps : Points α) (key : Attributes) (fresh : α) (f : α → α) : Points α :=
  match ps.find? (·.1 == key) with
  | some _ => ps.map (fun (k, v) => if k == key then (k, f v) else (k, v))
  | none => ps ++ [(key, f fresh)]

/-- The state of the four instruments. -/
structure Meter where
  durationBounds : List Float
  requestSizeBounds : List Float
  responseSizeBounds : List Float
  durations : Points (HistogramPoint Float)
  active : Points Int
  requestSizes : Points (HistogramPoint Nat)
  responseSizes : Points (HistogramPoint Nat)

/-- The instruments of a configuration, after checking its bounds. -/
def Meter.new (c : Config) : Except Error Meter := do
  c.validate
  return ⟨c.durationBuckets, c.requestSizeBuckets, c.responseSizeBuckets, [], [], [], []⟩

/-- Applies one observation. -/
def Meter.record (m : Meter) : Observation → Meter
  | .touch _ => m
  | .active l delta =>
    let active := m.active.update (attributesOf l) 0 (fun v => wrapI64 (v + delta))
    { m with active }
  | .duration l millis =>
    let fresh := HistogramPoint.empty floatScale m.durationBounds.length
    let durations := m.durations.update (attributesOf l) fresh
      (fun p => p.record floatScale m.durationBounds millis)
    { m with durations }
  | .requestSize l bytes =>
    let fresh := HistogramPoint.empty u64Scale m.requestSizeBounds.length
    let requestSizes := m.requestSizes.update (attributesOf l) fresh
      (fun p => p.record u64Scale m.requestSizeBounds bytes)
    { m with requestSizes }
  | .responseSize l bytes =>
    let fresh := HistogramPoint.empty u64Scale m.responseSizeBounds.length
    let responseSizes := m.responseSizes.update (attributesOf l) fresh
      (fun p => p.record u64Scale m.responseSizeBounds bytes)
    { m with responseSizes }

end HttpTelemetry.Otel
