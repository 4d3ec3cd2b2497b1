import HttpTelemetry.Http.Message
/-!
# Stock route resolvers

A route resolver turns a request head into the path label. Three common ones:

* `constant`: one label for every request;
* `methodPath`: the method and the path, as `GET /users`;
* `stripPrefix`: the path without a mount prefix, renamed through a table; requests outside the
  prefix share one label.
-/

namespace HttpTelemetry.Resolver

open HttpTelemetry.Http

/-- The same label for every request. -/
def constant (label : String) : RequestHead → String := fun _ => label

/-- The method and the path, separated by a space. -/
def methodPath : RequestHead → String := fun r => r.method.name ++ " " ++ r.uri.path

/-- The path without `prefix`, renamed by the first entry of `renames` for it; `otherwise` for
paths that do not start with `prefix`. -/
def stripPrefix (pre : String) (renames : List (String × String)) (otherwise : String) :
    RequestHead → String := fun r =>
  let path := r.uri.path
  if path.startsWith pre then
    let rest := String.ofList (path.toList.drop pre.length)
    ((renames.find? (·.1 == rest)).map (·.2)).getD rest
  else otherwise

end HttpTelemetry.Resolver
