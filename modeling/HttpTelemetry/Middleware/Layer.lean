import HttpTelemetry.Config
import HttpTelemetry.Route.Table
import HttpTelemetry.Labels
/-!
# The metrics layer

A layer holds the route table of the endpoints it knows and the configured route resolver.
Building it compiles every endpoint pattern, the first one that fails being the error, and
touches the duration series of every known endpoint and status code, so that they are exported
before any request.

A request starts with the labels of its method, its host and its path label: the resolver's
answer, or the request path. When the response comes, the status code joins the labels and the
path label becomes the pattern of the first route that accepts it, if any.
-/

namespace HttpTelemetry.Middleware

open HttpTelemetry.Route

/-- The metrics layer. -/
structure Layer where
  routes : RouteTable
  resolver : Option (Http.RequestHead → String)

/-- The series to create for known endpoints: each endpoint with each status code. -/
def initialTouches (c : Catalog) : List Observation :=
  c.endpoints.flatMap fun e =>
    c.statusCodes.map fun code => .touch ⟨e.verb, c.host, e.path, some code⟩

/-- Builds the layer, and the touches it makes, for a configuration and optional known
endpoints. -/
def Layer.new (config : Config) (catalog : Option Catalog) : Except Error (Layer × List Observation) :=
  let catalog := catalog.getD ⟨[], "", []⟩
  match RouteTable.ofEndpoints catalog.endpoints with
  | .error e => .error (Error.ofPattern e)
  | .ok routes => .ok (⟨routes, config.resolver⟩, initialTouches catalog.normalize)

/-- The labels of a request as it starts. -/
def Layer.startLabels (l : Layer) (head : Http.RequestHead) : Labels :=
  let path := match l.resolver with
    | some resolve => resolve head
    | none => head.uri.path
  ⟨head.method.name, head.host, path, none⟩

/-- The labels of a finished request. -/
def Layer.finishLabels (l : Layer) (start : Labels) (status : Nat) : Labels :=
  { start with statusCode := some (toString status), path := (l.routes.find start.path).getD start.path }

/-- The debugging text of the layer. -/
def Layer.debugText (l : Layer) : String :=
  "HttpLayer \x7b routes: " ++ l.routes.debugText ++ ", resolver: " ++ toString l.resolver.isSome ++
    ", .. \x7d"

/-- The debugging text of the service the layer makes around an inner service. -/
def Layer.serviceDebugText (l : Layer) (inner : String) : String :=
  "Http \x7b inner: " ++ inner ++ ", routes: " ++ l.routes.debugText ++ ", .. \x7d"

end HttpTelemetry.Middleware
