/-!
# Request targets

A request target is read the way HTTP servers read the request line:

* `/` followed by a path and an optional query (origin form);
* `*` (asterisk form);
* a host with an optional port and user information, and nothing else (authority form);
* a scheme, `://`, an authority and an optional path and query (absolute form).

A `#` ends the target; what follows it is dropped. The path allows the characters that need no
percent-encoding, with `"`, `{` and `}` besides, and every non-ASCII character; the query
allows a little more. An authority allows only the characters of URIs, with `%` only in the user
information, brackets only around one IPv6 literal, and at most one port colon.
-/

namespace HttpTelemetry.Http

/-- Why a request target was refused. -/
inductive UriError
  | invalidChar
  | invalidAuthority
  | invalidFormat
  | empty
  | schemeTooLong
  | tooLong
  deriving DecidableEq, Repr

/-- The message of a refused target. -/
def UriError.message : UriError → String
  | .invalidChar => "invalid uri character"
  | .invalidAuthority => "invalid authority"
  | .invalidFormat => "invalid format"
  | .empty => "empty string"
  | .schemeTooLong => "scheme too long"
  | .tooLong => "uri too long"

/-- A parsed request target. The authority is `""` when absent; the fragment is dropped. -/
structure Uri where
  scheme : Option String
  authority : String
  pathPart : String
  query : Option String
  deriving DecidableEq, Repr

/-- The longest target accepted, in bytes. -/
def maxUriLength : Nat := 65534

/-- The longest scheme accepted. -/
def maxSchemeLength : Nat := 64

/-- A character allowed in a scheme. -/
def isSchemeChar (c : Char) : Bool := c.isAlphanum || c == '+' || c == '-' || c == '.'

/-- A character allowed in an authority (and ending it: `/`, `?`, `#`). -/
def isUriChar (c : Char) : Bool :=
  c.isAlphanum || c.toNat == 0x27 || "!#$&()*+,-./:;=?@[]_~".contains c

/-- A character allowed in a path. -/
def isPathChar (c : Char) : Bool :=
  let n := c.toNat
  n == 0x21 || (0x24 ≤ n && n ≤ 0x3B) || n == 0x3D || (0x40 ≤ n && n ≤ 0x5F) ||
    (0x61 ≤ n && n ≤ 0x7A) || n == 0x7C || n == 0x7E || 0x7F ≤ n ||
    c == '"' || c == '\x7b' || c == '\x7d'

/-- A character allowed in a query. -/
def isQueryChar (c : Char) : Bool :=
  let n := c.toNat
  n == 0x21 || (0x24 ≤ n && n ≤ 0x3B) || n == 0x3D || (0x3F ≤ n && n ≤ 0x7E) || 0x7F ≤ n

/-- Where the scheme of an absolute target ends, if the text starts with one: the scheme
characters up to `://`. -/
def schemeEnd (i : Nat) : List Char → Except UriError (Option Nat)
  | [] => .ok none
  | c :: rest =>
    if c == ':' then
      match rest with
      | '/' :: '/' :: _ => if i > maxSchemeLength then .error .schemeTooLong else .ok (some i)
      | _ => .ok none
    else if isSchemeChar c then schemeEnd (i + 1) rest
    else .ok none

/-- Whether a text starts with a prefix, ASCII case aside. -/
def startsWithIgnoringCase (cs : List Char) (pre : String) : Bool :=
  (cs.take pre.length).map Char.toLower == pre.toList

/-- The scheme a target starts with, and the text after its `://`. -/
def splitScheme (cs : List Char) : Except UriError (Option String × List Char) :=
  if startsWithIgnoringCase cs "http://" then .ok (some "http", cs.drop 7)
  else if startsWithIgnoringCase cs "https://" then .ok (some "https", cs.drop 8)
  else if cs.length > 3 then
    match schemeEnd 0 cs with
    | .error e => .error e
    | .ok none => .ok (none, cs)
    | .ok (some n) => .ok (some (String.ofList (cs.take n)), cs.drop (n + 3))
  else .ok (none, cs)

/-- What the scan of an authority has seen so far. -/
structure AuthorityScan where
  colons : Nat := 0
  openBracket : Bool := false
  closeBracket : Bool := false
  percent : Bool := false
  atSign : Option Nat := none

/-- Scans an authority up to `/`, `?`, `#` or the end, giving what it saw and where it
stopped. -/
def scanAuthority (st : AuthorityScan) (i : Nat) : List Char → Except UriError (AuthorityScan × Nat)
  | [] => .ok (st, i)
  | c :: rest =>
    if c == '/' || c == '?' || c == '#' then .ok (st, i)
    else if c == ':' then
      if st.colons ≥ 8 then .error .invalidAuthority
      else scanAuthority { st with colons := st.colons + 1 } (i + 1) rest
    else if c == '[' then
      if st.percent || st.openBracket then .error .invalidAuthority
      else scanAuthority { st with openBracket := true } (i + 1) rest
    else if c == ']' then
      if !st.openBracket || st.closeBracket then .error .invalidAuthority
      else scanAuthority { st with closeBracket := true, colons := 0, percent := false } (i + 1) rest
    else if c == '@' then
      scanAuthority { st with atSign := some i, colons := 0, percent := false } (i + 1) rest
    else if c == '%' then scanAuthority { st with percent := true } (i + 1) rest
    else if isUriChar c then scanAuthority st (i + 1) rest
    else .error .invalidChar

/-- The length of the authority a text starts with. -/
def authorityLength (cs : List Char) : Except UriError Nat := do
  let (st, stop) ← scanAuthority {} 0 cs
  if st.openBracket != st.closeBracket then throw .invalidAuthority
  if st.colons > 1 then throw .invalidAuthority
  if stop > 0 && st.atSign == some (stop - 1) then throw .invalidAuthority
  if st.percent then throw .invalidAuthority
  return stop

/-- A text that must be an authority and nothing else. -/
def wholeAuthority (cs : List Char) : Except UriError String := do
  if cs.isEmpty then throw .empty
  let n ← authorityLength cs
  if n != cs.length then throw .invalidChar
  return String.ofList cs

/-- Reads a query up to `#` or the end. -/
def scanQuery : List Char → Except UriError (List Char)
  | [] => .ok []
  | c :: rest =>
    if c == '#' then .ok []
    else if isQueryChar c then do return c :: (← scanQuery rest)
    else .error .invalidChar

/-- Reads a path and an optional query, dropping a fragment. -/
def scanPath : List Char → Except UriError (List Char × Option (List Char))
  | [] => .ok ([], none)
  | c :: rest =>
    if c == '?' then do return ([], some (← scanQuery rest))
    else if c == '#' then .ok ([], none)
    else if isPathChar c then do
      let (p, q) ← scanPath rest
      return (c :: p, q)
    else .error .invalidChar

/-- A target made of its parts. -/
def Uri.ofPathAndQuery (scheme : Option String) (authority : String) (cs : List Char) :
    Except UriError Uri := do
  let (p, q) ← scanPath cs
  return ⟨scheme, authority, String.ofList p, q.map String.ofList⟩

/-- Reads an absolute or authority-form target. -/
def Uri.parseFull (cs : List Char) : Except UriError Uri := do
  let (scheme, rest) ← splitScheme cs
  match scheme with
  | none =>
    let n ← authorityLength rest
    if n != rest.length then throw .invalidFormat
    return ⟨none, String.ofList rest, "", none⟩
  | some _ =>
    if rest.isEmpty then throw .empty
    let n ← authorityLength rest
    if n == 0 then throw .invalidFormat
    Uri.ofPathAndQuery scheme (String.ofList (rest.take n)) (rest.drop n)

/-- Reads a request target. -/
def Uri.parse (text : String) : Except UriError Uri :=
  if text.utf8ByteSize > maxUriLength then .error .tooLong
  else match text.toList with
    | [] => .error .empty
    | ['/'] => .ok ⟨none, "", "/", none⟩
    | ['*'] => .ok ⟨none, "", "*", none⟩
    | [c] => do return ⟨none, ← wholeAuthority [c], "", none⟩
    | cs@('/' :: _) => Uri.ofPathAndQuery none "" cs
    | cs => Uri.parseFull cs

/-- The path of a target: `/` for an absolute target without one, `""` for the authority
form. -/
def Uri.path (u : Uri) : String :=
  if u.pathPart.isEmpty && u.query.isNone && u.scheme.isNone then ""
  else if u.pathPart.isEmpty then "/"
  else u.pathPart

/-- The authority, if the target has one. -/
def Uri.authority? (u : Uri) : Option String :=
  if u.authority.isEmpty then none else some u.authority

end HttpTelemetry.Http
