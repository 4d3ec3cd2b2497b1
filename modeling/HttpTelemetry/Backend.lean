import HttpTelemetry.Prometheus.Text
import HttpTelemetry.Otel.Export
/-!
# Metric backends

A backend keeps what the middleware observes: a Prometheus registry, OpenTelemetry
instruments, or nothing. Its snapshot is the canonical exposition lines, the sorted export, or
nothing.
-/

namespace HttpTelemetry

/-- Where observations are kept. -/
inductive Backend where
  | prometheus (r : Prometheus.Registry)
  | otel (m : Otel.Meter)
  | discard

/-- What a backend shows of its state. -/
inductive Snapshot where
  | exposition (lines : List String)
  | export (metrics : List Otel.Metric)
  | nothing

/-- Applies one observation. -/
def Backend.record : Backend → Observation → Backend
  | .prometheus r, o => .prometheus (r.record o)
  | .otel m, o => .otel (m.record o)
  | .discard, _ => .discard

/-- Applies observations in order. -/
def Backend.recordAll (b : Backend) (os : List Observation) : Backend := os.foldl Backend.record b

/-- The snapshot of a backend. -/
def Backend.snapshot : Backend → Snapshot
  | .prometheus r => .exposition r.canonicalLines
  | .otel m => .export m.export
  | .discard => .nothing

/-- A snapshot without what the real clock decides. -/
def Snapshot.clockFree : Snapshot → Snapshot
  | .exposition ls => .exposition (Prometheus.clockFree ls)
  | .export ms => .export (Otel.clockFree ms)
  | .nothing => .nothing

end HttpTelemetry
