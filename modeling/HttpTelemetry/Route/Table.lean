import HttpTelemetry.Route.Template
import HttpTelemetry.Pattern.Regex
import HttpTelemetry.Text.Quoted
/-!
# Route tables

A route pairs a template with its normalized pattern and the pattern compiled to match whole
paths (`^(?:pattern)$`). A `RouteTable` holds the routes of a list of endpoints, in order; the
first route whose template equals the path, or whose pattern matches it, gives the path's
label, its pattern.

`firstMatch` answers the same question once, without a table and without normalizing: it
compiles each entry in turn and stops at the first match, so an entry that does not compile
is only an error when the search reaches it.
-/

namespace HttpTelemetry

open HttpTelemetry.Pattern

/-- The text compiled for a pattern: anchored at both ends of the path. -/
def Route.anchoredSource (pattern : String) : String := "^(?:" ++ pattern ++ ")$"

/-- A pattern that does not compile, with the reason. -/
structure Route.PatternError where
  pattern : String
  cause : Pattern.Error

/-- Compiles a pattern to match whole paths. -/
def Route.compileAnchored (pattern : String) : Except Route.PatternError Regex :=
  match Regex.compile (Route.anchoredSource pattern) with
  | .ok r => .ok r
  | .error e => .error ⟨pattern, e⟩

/-- A registered route. -/
structure Route where
  template : String
  pattern : String
  regex : Regex

/-- Whether a path belongs to the route: it is the template itself, or the pattern matches it. -/
def Route.accepts (r : Route) (path : String) : Bool :=
  r.template == path || r.regex.isMatch path

/-- Routes in registration order. -/
structure RouteTable where
  routes : List Route

/-- The route of an endpoint. -/
def Route.ofEndpoint (e : Route.Endpoint) : Except Route.PatternError Route := do
  let pattern := Route.normalize e.path
  let regex ← Route.compileAnchored pattern
  return ⟨e.path, pattern, regex⟩

/-- The table of a list of endpoints; the first endpoint whose pattern does not compile is an
error. -/
def RouteTable.ofEndpoints (endpoints : List Route.Endpoint) :
    Except Route.PatternError RouteTable := do
  return ⟨← endpoints.mapM Route.ofEndpoint⟩

def RouteTable.size (t : RouteTable) : Nat := t.routes.length

def RouteTable.isEmpty (t : RouteTable) : Bool := t.routes.isEmpty

/-- The pattern of the first route that accepts the path. -/
def RouteTable.find (t : RouteTable) (path : String) : Option String :=
  (t.routes.find? (·.accepts path)).map (·.pattern)

/-- The first entry whose path, used as a pattern as it is, matches the path; entries
are compiled one at a time, up to the first match. -/
def Route.firstMatch (path : String) : List Route.Endpoint → Except Route.PatternError (Option String)
  | [] => .ok none
  | e :: rest => do
    let regex ← Route.compileAnchored e.path
    if regex.isMatch path then return some e.path
    Route.firstMatch path rest

/-- The debugging text of a compiled pattern. -/
def Pattern.Regex.debugText (r : Regex) : String := "Regex(" ++ Text.quote r.source ++ ")"

/-- The debugging text of a route. -/
def Route.debugText (r : Route) : String :=
  "Route \x7b template: " ++ Text.quote r.template ++ ", pattern: " ++ Text.quote r.pattern ++
    ", regex: " ++ Regex.debugText r.regex ++ " \x7d"

/-- The debugging text of a route table. -/
def RouteTable.debugText (t : RouteTable) : String :=
  "RouteTable \x7b routes: [" ++ ", ".intercalate (t.routes.map Route.debugText) ++ "] \x7d"

end HttpTelemetry
