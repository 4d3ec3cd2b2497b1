import HttpTelemetry.Http.Uri
import HttpTelemetry.Http.Header
/-!
# Request and response heads

A request head is a method, a target and header fields; a response head is a status and
header fields. Building one checks each part in order and stops at the first refusal.

The host of a request is its target's authority, else the first `host` field when it reads as
text, else `""`.
-/

namespace HttpTelemetry.Http

/-- Why a part of a request or response was refused. -/
inductive Refusal
  | method
  | uri (kind : UriError)
  | headerName
  | headerValue
  | status
  deriving DecidableEq, Repr

/-- The message of a refusal. -/
def Refusal.message : Refusal → String
  | .method => "invalid HTTP method"
  | .uri kind => kind.message
  | .headerName => "invalid HTTP header name"
  | .headerValue => "failed to parse header value"
  | .status => "invalid status code"

/-- The header fields of raw name and value pairs, names in lower case. -/
def buildHeaders : List (String × String) → Except Refusal Headers
  | [] => .ok []
  | (name, value) :: rest => do
    let some n := headerName? name | throw .headerName
    if !value.all isValueChar then throw .headerValue
    return (n, value) :: (← buildHeaders rest)

/-- The protocol version of a request. -/
inductive Version where
  | http09
  | http10
  | http11
  | http2
  | http3
  deriving DecidableEq, Repr

/-- What a service sees of a request before its body. -/
structure RequestHead where
  method : Method
  uri : Uri
  headers : Headers
  deriving DecidableEq, Repr

/-- The method and the target of a request, checked in that order. -/
def requestLine (method uri : String) : Except Refusal (Method × Uri) := do
  let some m := Method.parse method | throw .method
  let u ← (Uri.parse uri).mapError Refusal.uri
  return (m, u)

/-- Builds a request head from its raw parts. -/
def RequestHead.build (method uri : String) (headers : List (String × String)) :
    Except Refusal RequestHead := do
  let (m, u) ← requestLine method uri
  return ⟨m, u, ← buildHeaders headers⟩

/-- The host a request was sent to. -/
def RequestHead.host (r : RequestHead) : String :=
  match r.uri.authority? with
  | some a => a
  | none => (r.headers.firstText? "host").getD ""

/-- A response status and its header fields. -/
structure ResponseHead where
  status : Nat
  headers : Headers
  deriving DecidableEq, Repr

/-- Whether a number is a status code: three digits, from 100 to 999. -/
def isStatus (n : Nat) : Bool := 100 ≤ n && n ≤ 999

/-- Builds a response head from its raw parts. -/
def ResponseHead.build (status : Nat) (headers : List (String × String)) :
    Except Refusal ResponseHead := do
  if !isStatus status then throw .status
  return ⟨status, ← buildHeaders headers⟩

/-- The length the `content-length` field announces, when its first value is a `u64`. -/
def ResponseHead.contentLength (r : ResponseHead) : Option Nat :=
  (r.headers.firstText? "content-length").bind parseU64

end HttpTelemetry.Http
