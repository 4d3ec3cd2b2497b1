import HttpTelemetry.Error
import HttpTelemetry.Http.Message
import HttpTelemetry.Decimal.Notation
import HttpTelemetry.Text.Quoted
/-!
# Metrics configuration

A configuration names the service, gives the bucket boundaries of the three histograms and may
carry a route resolver: a function from the request head to the path label, used instead of
the request path.

Boundaries are valid when there is at least one, all are finite and each is below the next.
Validation checks the duration boundaries, then the request sizes, then the response sizes, and
reports the first list that fails.
-/

namespace HttpTelemetry

open HttpTelemetry.Http

/-- The default duration boundaries, in milliseconds. -/
def defaultDurationBuckets : List Float :=
  [5.0, 10.0, 25.0, 50.0, 100.0, 250.0, 500.0, 1000.0, 2500.0, 5000.0]

/-- The default size boundaries, in bytes: powers of four from 64 to 1 MiB. -/
def defaultSizeBuckets : List Float :=
  [64.0, 256.0, 1024.0, 4096.0, 16384.0, 65536.0, 262144.0, 1048576.0]

/-- The settings of the metrics layer. -/
structure Config where
  service : String
  durationBuckets : List Float := defaultDurationBuckets
  requestSizeBuckets : List Float := defaultSizeBuckets
  responseSizeBuckets : List Float := defaultSizeBuckets
  resolver : Option (RequestHead → String) := none

/-- The default configuration of a service. -/
def Config.new (service : String) : Config := { service }

/-- The boundaries of a measure's histogram. -/
def Config.buckets (c : Config) : Measure → List Float
  | .duration => c.durationBuckets
  | .requestSize => c.requestSizeBuckets
  | .responseSize => c.responseSizeBuckets

/-- Whether each boundary is below the next. -/
def strictlyIncreasing : List Float → Bool
  | a :: b :: rest => decide (a < b) && strictlyIncreasing (b :: rest)
  | _ => true

/-- Whether a list of boundaries describes buckets: non-empty, finite, strictly increasing. -/
def bucketsValid (bs : List Float) : Bool :=
  !bs.isEmpty && bs.all Float.isFinite && strictlyIncreasing bs

/-- Checks the three lists of boundaries in order. -/
def Config.validate (c : Config) : Except Error Unit :=
  match [Measure.duration, .requestSize, .responseSize].find? (fun m => !bucketsValid (c.buckets m)) with
  | some m => .error (.invalidBuckets m)
  | none => .ok ()

/-- The debugging text of a list of numbers. -/
def floatListText (xs : List Float) : String :=
  "[" ++ ", ".intercalate (xs.map Decimal.debugText) ++ "]"

/-- The debugging text of a configuration; the resolver shows only whether there is one. -/
def Config.debugText (c : Config) : String :=
  "MetricsConfig \x7b service: " ++ Text.quote c.service ++
    ", duration_buckets: " ++ floatListText c.durationBuckets ++
    ", request_size_buckets: " ++ floatListText c.requestSizeBuckets ++
    ", response_size_buckets: " ++ floatListText c.responseSizeBuckets ++
    ", resolver: " ++ toString c.resolver.isSome ++ " \x7d"

end HttpTelemetry
