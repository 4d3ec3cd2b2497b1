import HttpTelemetry.Otel.Meter
import HttpTelemetry.Text.Json
/-!
# Exported OpenTelemetry metrics

An export lists the instruments that hold at least one data point, sorted by name, each with
its name, unit, description and kind. Points are cumulative and sorted by the JSON text of their
attributes, since the store keeps them in no particular order.

A histogram point of a float instrument reports floats; one of an unsigned instrument reports
integers. `clockFree` removes from the duration points what the real clock decides: the sum,
the least and greatest value and the bucket counts. The count and the bounds remain.
-/

namespace HttpTelemetry.Otel

/-- A reported number. -/
inductive Num where
  | int (i : Int)
  | float (x : Float)

/-- One exported data point; fields left out are `none`. -/
inductive DataPoint where
  | histogram (attributes : Attributes) (count : Nat) (sum min max : Option Num)
      (bounds : List Float) (bucketCounts : Option (List Nat))
  | sum (attributes : Attributes) (value : Int)

/-- The attributes of a point. -/
def DataPoint.attributes : DataPoint → Attributes
  | .histogram a .. => a
  | .sum a _ => a

/-- One exported instrument. -/
structure Metric where
  name : String
  unit : String
  description : String
  kind : String
  points : List DataPoint

/-- The export of a histogram point. -/
def histogramPoint (num : α → Num) (bounds : List Float) (a : Attributes)
    (p : HistogramPoint α) : DataPoint :=
  .histogram a p.count (some (num p.sum)) (some (num p.min)) (some (num p.max)) bounds
    (some p.bucketCounts)

/-- Points sorted by the JSON text of their attributes. -/
def sortPoints (ps : List DataPoint) : List DataPoint :=
  ps.mergeSort fun a b => !decide (Text.jsonObject b.attributes < Text.jsonObject a.attributes)

/-- The instruments of the meter that hold data, sorted by name. -/
def Meter.export (m : Meter) : List Metric :=
  let metrics : List Metric :=
    [⟨"http.server.active_requests", "\x7brequest\x7d", "Number of active HTTP server requests",
        "i64_up_down_counter", m.active.map fun (a, v) => .sum a v⟩,
     ⟨"http.server.duration", "ms", "Duration of HTTP server requests", "f64_histogram",
        m.durations.map fun (a, p) => histogramPoint .float m.durationBounds a p⟩,
     ⟨"http.server.request.size", "By", "Size of HTTP server request bodies", "u64_histogram",
        m.requestSizes.map fun (a, p) => histogramPoint (.int ∘ Int.ofNat) m.requestSizeBounds a p⟩,
     ⟨"http.server.response.size", "By", "Size of HTTP server response bodies", "u64_histogram",
        m.responseSizes.map fun (a, p) =>
          histogramPoint (.int ∘ Int.ofNat) m.responseSizeBounds a p⟩]
  (metrics.filter (!·.points.isEmpty)).map fun x => { x with points := sortPoints x.points }

/-- A duration point without what the real clock decides. -/
def DataPoint.clockFree : DataPoint → DataPoint
  | .histogram a count _ _ _ bounds _ => .histogram a count none none none bounds none
  | p => p

/-- An export without what the real clock decides. -/
def clockFree (ms : List Metric) : List Metric :=
  ms.map fun x =>
    if x.name == "http.server.duration" then { x with points := x.points.map DataPoint.clockFree }
    else x

end HttpTelemetry.Otel
