import HttpTelemetry.Middleware.Layer
import HttpTelemetry.Prometheus.Registry
import HttpTelemetry.Otel.Meter
/-!
# Building the layer with its own recorder

The layer can build its recorder itself, on a Prometheus registry or an OpenTelemetry meter
that belongs to the application and may already hold anything. The recorder is built first:
it checks the configuration and only then registers its four families in the registry, under
the constant label `service` (or creates its four instruments from the meter). The layer is
built after that, compiling the endpoint patterns and touching the known series.

What registering does to a registry is the registry's own business, so it is a parameter:
`attach reg r` is the registry `reg` once the families of the recorder `r` are registered in
it, and `create meter m` is the meter once the instruments of `m` are created from it. The
registry keeps handles on the families, so it shows them as the recorder leaves them.
-/

namespace HttpTelemetry.Middleware

variable {ρ μ : Type}

/-- A Prometheus recorder built on an application registry: the configuration is checked, then
the recorder's families are registered. -/
def prometheusRecorder (attach : ρ → Prometheus.Registry → ρ) (reg : ρ) (c : Config) :
    ρ × Except Error Prometheus.Registry :=
  match Prometheus.Registry.new c with
  | .error e => (reg, .error e)
  | .ok r => (attach reg r, .ok r)

/-- An OpenTelemetry recorder built on an application meter: the configuration is checked, then
the instruments are created. -/
def otelRecorder (create : μ → Otel.Meter → μ) (meter : μ) (c : Config) :
    μ × Except Error Otel.Meter :=
  match Otel.Meter.new c with
  | .error e => (meter, .error e)
  | .ok m => (create meter m, .ok m)

/-- The layer recording into a Prometheus recorder it builds on the registry: the recorder
first, then the layer, whose touches reach the registered families. -/
def Layer.prometheus (attach : ρ → Prometheus.Registry → ρ) (reg : ρ) (c : Config)
    (catalog : Option Route.Catalog) : ρ × Except Error (Layer × Prometheus.Registry) :=
  match Prometheus.Registry.new c with
  | .error e => (reg, .error e)
  | .ok r =>
    match Layer.new c catalog with
    | .error e => (attach reg r, .error e)
    | .ok (layer, touches) =>
      let r := touches.foldl Prometheus.Registry.record r
      (attach reg r, .ok (layer, r))

/-- The layer recording into an OpenTelemetry recorder it builds on the meter. -/
def Layer.otel (create : μ → Otel.Meter → μ) (meter : μ) (c : Config)
    (catalog : Option Route.Catalog) : μ × Except Error (Layer × Otel.Meter) :=
  match Otel.Meter.new c with
  | .error e => (meter, .error e)
  | .ok m =>
    match Layer.new c catalog with
    | .error e => (create meter m, .error e)
    | .ok (layer, touches) =>
      let m := touches.foldl Otel.Meter.record m
      (create meter m, .ok (layer, m))

end HttpTelemetry.Middleware
