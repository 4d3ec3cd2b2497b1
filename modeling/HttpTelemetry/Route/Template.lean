/-!
# Route templates

Endpoints are registered with templates such as `/users/{id}`. Normalizing a template
replaces each wildcard segment `/{name}`, whose name is one or more ASCII letters, digits or
`_`, by `/` followed by the segment pattern `[a-zA-Z0-9-_]+`. Segments are found from left to
right without overlap; text that only resembles a segment (`/{a-b}`, `/{}`, `{id}` without a
slash) stays as it is.

A `Catalog` lists the endpoints of a service with its host and the status codes it answers
with; the series for every endpoint and status code are registered before the first request.
-/

namespace HttpTelemetry.Route

/-- The pattern that stands for one path segment. -/
def segmentPattern : String := "[a-zA-Z0-9-_]+"

/-- Characters of a wildcard name. -/
def isNameChar (c : Char) : Bool :=
  c.toNat < 128 && (c.isAlphanum || c == '_')

/-- The rest of the text after a wildcard name and its closing brace, if the text starts
with one. -/
def afterName (cs : List Char) : Option (List Char) :=
  match cs.dropWhile isNameChar with
  | '}' :: rest => if (cs.takeWhile isNameChar).isEmpty then none else some rest
  | _ => none

theorem length_dropWhile_le (p : Char → Bool) (cs : List Char) :
    (cs.dropWhile p).length ≤ cs.length := by
  induction cs with
  | nil => simp
  | cons c rest ih =>
    simp only [List.dropWhile_cons]
    split
    · simp only [List.length_cons]
      omega
    · simp

theorem afterName_length {cs rest : List Char} (h : afterName cs = some rest) :
    rest.length < cs.length := by
  have hle := length_dropWhile_le isNameChar cs
  unfold afterName at h
  generalize cs.dropWhile isNameChar = d at h hle
  split at h
  · rename_i tail
    split at h
    · contradiction
    · cases h
      simp only [List.length_cons] at hle
      omega
  · contradiction

/-- Normalizes the characters of a template. -/
def normalizeChars : List Char → List Char
  | [] => []
  | '/' :: '{' :: rest =>
    match h : afterName rest with
    | some after =>
      have : after.length < rest.length := afterName_length h
      '/' :: segmentPattern.toList ++ normalizeChars after
    | none => '/' :: normalizeChars ('{' :: rest)
  | c :: rest => c :: normalizeChars rest
termination_by cs => cs.length

/-- A template with every wildcard segment replaced by the segment pattern. -/
def normalize (template : String) : String := String.ofList (normalizeChars template.toList)

/-- An endpoint: a path template and the verb it answers. -/
structure Endpoint where
  path : String
  verb : String
  deriving Repr, DecidableEq, Inhabited

/-- The endpoints of a service, in matching order, with its host and status codes. -/
structure Catalog where
  endpoints : List Endpoint
  host : String
  statusCodes : List String
  deriving Repr, DecidableEq, Inhabited

/-- The catalog with every endpoint path normalized. -/
def Catalog.normalize (c : Catalog) : Catalog :=
  { c with endpoints := c.endpoints.map fun e => { e with path := Route.normalize e.path } }

end HttpTelemetry.Route
