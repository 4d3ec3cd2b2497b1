import HttpTelemetry.Route.Table
/-!
# Errors of building the metrics layer

Building the layer can fail in two ways: an endpoint pattern that does not compile, or a list
of histogram boundaries that cannot describe buckets. The message of each names what was
refused.
-/

namespace HttpTelemetry

/-- The three measured quantities whose histograms take configured boundaries. -/
inductive Measure
  | duration
  | requestSize
  | responseSize
  deriving DecidableEq, Repr

/-- The name a measure goes by in messages. -/
def Measure.label : Measure → String
  | .duration => "duration"
  | .requestSize => "request size"
  | .responseSize => "response size"

/-- Why the layer could not be built. -/
inductive Error
  | invalidPattern (pattern : String) (cause : Pattern.Error)
  | invalidBuckets (measure : Measure)

/-- The error of a pattern that does not compile. -/
def Error.ofPattern (e : Route.PatternError) : Error := .invalidPattern e.pattern e.cause

/-- The message of an error. -/
def Error.message : Error → String
  | .invalidPattern pattern cause =>
    "invalid endpoint pattern `" ++ pattern ++ "`: " ++ cause.message
  | .invalidBuckets m =>
    "invalid buckets for `" ++ m.label ++ "`: boundaries must be finite and strictly increasing"

end HttpTelemetry
