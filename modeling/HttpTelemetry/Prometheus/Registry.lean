import HttpTelemetry.Labels
import HttpTelemetry.Config
/-!
# A Prometheus registry of the four instruments

Three histogram families (durations, request sizes, response sizes) keyed by method, host,
path and status code, and one gauge family (active requests) keyed by method, host and path.
A series exists from the first observation of its labels; touching a duration series creates
it empty.

A histogram counts observations, sums them, and puts each one in the first bucket whose upper
bound is at least the value. The bounds are the configured ones followed by the largest finite
float, so a non-finite value (or one above every bound) is counted and summed but lands in no
bucket. The gauge adds in 64-bit wrapping arithmetic.
-/

namespace HttpTelemetry.Prometheus

/-- One histogram series. -/
structure Histogram where
  /-- Upper bounds of the buckets, the last one `maxFinite`. -/
  bounds : List Float
  /-- Observations per bucket (not cumulative). -/
  counts : List Nat
  sum : Float
  count : Nat

/-- An empty histogram with the configured bounds. -/
def Histogram.empty (bounds : List Float) : Histogram :=
  let bounds := bounds ++ [maxFinite]
  ⟨bounds, bounds.map (fun _ => 0), 0.0, 0⟩

/-- Records one value. -/
def Histogram.observe (h : Histogram) (v : Float) : Histogram :=
  let counts := match h.bounds.findIdx? (fun b => decide (v ≤ b)) with
    | some i => bumpAt h.counts i
    | none => h.counts
  { h with counts, sum := h.sum + v, count := h.count + 1 }

/-- Series in the order they were created, each under its label values. -/
abbrev Family (α : Type) := List (List String × α)

/-- The series of a family for some label values, created by `fresh` when missing, after `f`. -/
def Family.update (fam : Family α) (key : List String) (fresh : α) (f : α → α) : Family α :=
  match fam.find? (·.1 == key) with
  | some _ => fam.map (fun (k, v) => if k == key then (k, f v) else (k, v))
  | none => fam ++ [(key, f fresh)]

/-- Label names of the histogram families, in order. -/
def requestLabelNames : List String := ["http_verb", "http_host", "http_path", "http_status_code"]

/-- Label names of the gauge family, in order. -/
def activeLabelNames : List String := ["http_verb", "http_host", "http_path"]

/-- The label values of a histogram series. -/
def requestKey (l : Labels) : List String := [l.verb, l.host, l.path, l.statusText]

/-- The label values of a gauge series. -/
def activeKey (l : Labels) : List String := [l.verb, l.host, l.path]

/-- The registry: the service label and the four families. -/
structure Registry where
  service : String
  durationBounds : List Float
  requestSizeBounds : List Float
  responseSizeBounds : List Float
  durations : Family Histogram
  active : Family Int
  requestSizes : Family Histogram
  responseSizes : Family Histogram

/-- A registry for a configuration, after checking its bounds. -/
def Registry.new (c : Config) : Except Error Registry := do
  c.validate
  return ⟨c.service, c.durationBuckets, c.requestSizeBuckets, c.responseSizeBuckets, [], [], [], []⟩

/-- Applies one observation. Sizes are observed as floats. -/
def Registry.record (r : Registry) : Observation → Registry
  | .touch l =>
    let durations := r.durations.update (requestKey l) (Histogram.empty r.durationBounds) id
    { r with durations }
  | .active l delta =>
    let active := r.active.update (activeKey l) 0 (fun v => wrapI64 (v + delta))
    { r with active }
  | .duration l millis =>
    let durations := r.durations.update (requestKey l) (Histogram.empty r.durationBounds)
      (·.observe millis)
    { r with durations }
  | .requestSize l bytes =>
    let requestSizes := r.requestSizes.update (requestKey l) (Histogram.empty r.requestSizeBounds)
      (·.observe (u64ToFloat bytes))
    { r with requestSizes }
  | .responseSize l bytes =>
    let responseSizes := r.responseSizes.update (requestKey l)
      (Histogram.empty r.responseSizeBounds) (·.observe (u64ToFloat bytes))
    { r with responseSizes }

end HttpTelemetry.Prometheus
