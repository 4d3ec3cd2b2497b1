import HttpTelemetry.Middleware.Script
import HttpTelemetry.Middleware.Layer
import HttpTelemetry.Backend
/-!
# A session of the metrics middleware

A session runs the middleware around a scripted service, one step at a time, and logs what the
middleware reports to its recorder and what the service reports.

* `begin` takes an id that no request on its way holds, builds the scripted response (unless
  the service is to fail) and then the request; a part the HTTP rules refuse ends the step.
  Otherwise the request starts: the active-requests gauge goes up by one under the start
  labels, and the request body is wrapped to count its bytes.
* `poll` runs the service once. On its first poll it reads the request body; then it answers
  "not yet" as often as its script says, and then it reports and finishes. A failure brings the
  gauge back down. A response records the duration and the request size under the finished
  labels, brings the gauge back down, and records the response size at once when the
  `content-length` field or an exact size hint gives it; otherwise the response body counts its
  bytes and records them when it ends, when a frame leaves it at its end, or when it is
  dropped.
* `cancel` drops a request on its way, which brings the gauge back down.
* `readResponse` reads frames of a response body, `dropResponse` drops it. Requests and
  response bodies have ids of their own: a response body kept under an id replaces, and so
  drops, the one kept there before.
* `request` begins, polls once and then reads and drops the body, drops it, or keeps it.
* At teardown the requests still on their way are dropped, then the response bodies, each in the
  order of their ids.

With the wall clock (`Clock.wall`) the durations the middleware measures are unknown here: they
are recorded as zero and left out of snapshots, and nothing is logged for the recorder.
-/

namespace HttpTelemetry.Middleware

open HttpTelemetry.Body

/-- What a session logs. -/
inductive Event where
  | observed (o : Observation)
  | served (s : Served)

/-- Where durations come from. -/
inductive Clock where
  /-- Each poll says how long its request has taken. -/
  | given
  /-- The wall clock. -/
  | wall
  deriving DecidableEq, Repr

/-- A request on its way. -/
structure Flight where
  head : Http.RequestHead
  labels : Labels
  request : LengthBody
  script : Script
  /-- What reading the request body gave, once it is read. -/
  reading : Option Reading
  /-- How many more polls answer "not yet". -/
  pendingLeft : Nat

/-- A response body on its way to the client. -/
structure Reply where
  body : LengthBody
  /-- The labels the response size is still to be recorded with. -/
  pending : Option Labels

/-- The raw parts of one request and the script of its response. -/
structure Exchange where
  method : String
  uri : String
  headers : List (String × String)
  body : Source
  read : ReadPlan
  pendingPolls : Nat
  status : Nat
  responseHeaders : List (String × String)
  responseBody : Source
  fail : Option String

/-- Builds the script and the request head, or the first refused part. The request line is
checked first, then the response (a service that is to fail builds none), and the request's
header fields last. -/
def Exchange.build (x : Exchange) : Except Http.Refusal (Http.RequestHead × Script) := do
  let (method, uri) ← Http.requestLine x.method x.uri
  let outcome ← match x.fail with
    | some e => pure (Except.error e)
    | none => do
      let response ← Http.ResponseHead.build x.status x.responseHeaders
      pure (Except.ok (response, x.responseBody))
  let headers ← Http.buildHeaders x.headers
  return (⟨method, uri, headers⟩, ⟨x.read, x.pendingPolls, outcome⟩)

/-- What polling a request gave. -/
inductive Outcome where
  | pending
  | failed (message : String)
  | ready (status : Nat) (endStream : Bool) (hint : SizeHint)

/-- What became of a response body after a request. -/
inductive Consume where
  /-- Read it (up to a number of frames) and drop it. -/
  | readAndDrop (limit : Option Nat)
  | drop
  | keep

/-- One step of a session. -/
inductive Step where
  | begin (id : String) (x : Exchange)
  | poll (id : String) (elapsed : Float)
  | cancel (id : String)
  | readResponse (id : String) (limit : Option Nat)
  | dropResponse (id : String)
  | request (id : String) (x : Exchange) (elapsed : Float) (consume : Consume)
  | snapshot

/-- The answer to a step. -/
inductive Answer where
  | began
  | refused (r : Http.Refusal)
  | unknownId
  | idInUse
  | polled (o : Outcome)
  | cancelled
  | read (polls : List Poll) (endStream : Bool)
  | dropped
  | requested (o : Outcome) (read : Option (List Poll × Bool))
  | snapshot (s : Snapshot)

/-- How a session records. -/
inductive Setup where
  /-- Into a Prometheus registry, through the logging recorder. -/
  | prometheus
  /-- Into OpenTelemetry instruments, through the logging recorder. -/
  | otel
  /-- Nowhere, through the logging recorder. -/
  | discard
  /-- Into a Prometheus registry directly, with the wall clock. -/
  | prometheusLayer
  /-- Into OpenTelemetry instruments directly, with the wall clock. -/
  | otelLayer
  deriving DecidableEq, Repr

/-- The backend of a setup; building a real one checks the configuration. -/
def Setup.backend (k : Setup) (c : Config) : Except Error Backend :=
  match k with
  | .prometheus | .prometheusLayer => Backend.prometheus <$> Prometheus.Registry.new c
  | .otel | .otelLayer => Backend.otel <$> Otel.Meter.new c
  | .discard => .ok .discard

/-- Whether the recorder's calls are logged, with durations given by the steps. -/
def Setup.logged : Setup → Bool
  | .prometheus | .otel | .discard => true
  | .prometheusLayer | .otelLayer => false

/-- The state of a session. -/
structure Session where
  layer : Layer
  backend : Backend
  logged : Bool
  clock : Clock
  /-- Events of the current step, oldest first. -/
  events : List Event
  flights : List (String × Flight)
  replies : List (String × Reply)

/-- The entry of a key. -/
def lookup (xs : List (String × α)) (k : String) : Option α := (xs.find? (·.1 == k)).map (·.2)

/-- Without the entry of a key. -/
def erase (xs : List (String × α)) (k : String) : List (String × α) := xs.filter (·.1 != k)

/-- With the entry of a key set. -/
def put (xs : List (String × α)) (k : String) (v : α) : List (String × α) := erase xs k ++ [(k, v)]

/-- Ids in byte order. -/
def sortedIds (xs : List (String × α)) : List String :=
  (xs.map (·.1)).mergeSort fun a b => !decide (b < a)

/-- Sends an observation to the recorder. -/
def Session.observe (s : Session) (o : Observation) : Session :=
  { s with backend := s.backend.record o,
           events := if s.logged then s.events ++ [.observed o] else s.events }

/-- Logs what the service reports. -/
def Session.logServed (s : Session) (served : Served) : Session :=
  { s with events := s.events ++ [.served served] }

/-- A session of the layer of a configuration and optional known endpoints; the events of
building it are the session's first events. -/
def Session.new (k : Setup) (config : Config) (catalog : Option Route.Catalog) :
    Except Error Session := do
  let backend ← k.backend config
  let (layer, touches) ← Layer.new config catalog
  let s : Session := ⟨layer, backend, k.logged, if k.logged then .given else .wall, [], [], []⟩
  return touches.foldl Session.observe s

/-- Whether a request on its way holds an id. -/
def Session.isLive (s : Session) (id : String) : Bool := (lookup s.flights id).isSome

/-- Starts a request. -/
def Session.begin (s : Session) (id : String) (x : Exchange) : Answer × Session :=
  if s.isLive id then (.idInUse, s)
  else
    match x.build with
    | .error r => (.refused r, s)
    | .ok (head, script) =>
      let labels := s.layer.startLabels head
      let s := s.observe (.active labels 1)
      let flight : Flight := ⟨head, labels, LengthBody.new x.body, script, none, script.pendingPolls⟩
      (.began, { s with flights := put s.flights id flight })

/-- Records the response size of a reply still owing it. -/
def Session.settle (s : Session) (r : Reply) : Reply × Session :=
  match r.pending with
  | some labels => ({ r with pending := none }, s.observe (.responseSize labels r.body.length))
  | none => (r, s)

/-- Keeps a reply under an id; the reply kept there before is dropped. -/
def Session.keep (s : Session) (id : String) (r : Reply) : Session :=
  let s := match lookup s.replies id with
    | some old => (s.settle old).2
    | none => s
  { s with replies := put s.replies id r }

/-- Finishes a request with the service's response. -/
def Session.respond (s : Session) (id : String) (f : Flight) (request : LengthBody)
    (elapsed : Float) (head : Http.ResponseHead) (body : Source) : Answer × Session :=
  let labels := s.layer.finishLabels f.labels head.status
  let millis := match s.clock with
    | .given => elapsed
    | .wall => 0.0
  let s := s.observe (.duration labels millis)
  let s := s.observe (.requestSize labels request.length)
  let s := s.observe (.active f.labels (-1))
  let (pending, s) := match head.contentLength <|> body.sizeHint.exact with
    | some n => (none, s.observe (.responseSize labels n))
    | none => (some labels, s)
  let reply : Reply := ⟨LengthBody.new body, pending⟩
  (.polled (.ready head.status reply.body.isEndStream reply.body.sizeHint), s.keep id reply)

/-- Polls a request once. -/
def Session.poll (s : Session) (id : String) (elapsed : Float) : Answer × Session :=
  match lookup s.flights id with
  | none => (.unknownId, s)
  | some f =>
    let (reading, request) := match f.reading with
      | some r => (r, f.request)
      | none => f.script.read.run f.request
    if f.pendingLeft > 0 then
      let f := { f with reading := some reading, request, pendingLeft := f.pendingLeft - 1 }
      (.polled .pending, { s with flights := put s.flights id f })
    else
      let served : Served :=
        ⟨f.head.uri.path, reading.readBytes, reading.readError, reading.close, request.length⟩
      let s := { s.logServed served with flights := erase s.flights id }
      match f.script.outcome with
      | .error message => (.polled (.failed message), s.observe (.active f.labels (-1)))
      | .ok (head, body) => s.respond id f request elapsed head body

/-- Drops a request on its way. -/
def Session.cancel (s : Session) (id : String) : Answer × Session :=
  match lookup s.flights id with
  | none => (.unknownId, s)
  | some f => (.cancelled, { s with flights := erase s.flights id }.observe (.active f.labels (-1)))

/-- Reads up to `fuel` frames of a reply, stopping after the end or an error; the response
size is recorded when the body ends or a frame leaves it at its end. -/
def Session.readReply (s : Session) (r : Reply) : Nat → List Poll × Reply × Session
  | 0 => ([], r, s)
  | fuel + 1 =>
    let (p, body) := r.body.poll
    let r := { r with body }
    let (r, s) := if p == .done || body.isEndStream then s.settle r else (r, s)
    if p.stops then ([p], r, s)
    else
      let (ps, r, s) := s.readReply r fuel
      (p :: ps, r, s)

/-- Reads frames of a response body: at most `limit`, or up to the end. -/
def Session.readResponse (s : Session) (id : String) (limit : Option Nat) : Answer × Session :=
  match lookup s.replies id with
  | none => (.unknownId, s)
  | some r =>
    let (ps, r, s) := s.readReply r (limit.getD (r.body.inner.framesLeft + 1))
    (.read ps r.body.isEndStream, { s with replies := put s.replies id r })

/-- Drops a response body. -/
def Session.dropResponse (s : Session) (id : String) : Answer × Session :=
  match lookup s.replies id with
  | none => (.unknownId, s)
  | some r =>
    let (_, s) := s.settle r
    (.dropped, { s with replies := erase s.replies id })

/-- What the session's backend shows. -/
def Session.snapshot (s : Session) : Snapshot :=
  match s.clock with
  | .given => s.backend.snapshot
  | .wall => s.backend.snapshot.clockFree

/-- Begins a request, polls it once and deals with its response body. -/
def Session.request (s : Session) (id : String) (x : Exchange) (elapsed : Float)
    (consume : Consume) : Answer × Session :=
  match s.begin id x with
  | (.began, s) =>
    match s.poll id elapsed with
    | (.polled o@(.ready ..), s) =>
      match consume with
      | .readAndDrop limit =>
        match s.readResponse id limit with
        | (.read ps endStream, s) => (.requested o (some (ps, endStream)), (s.dropResponse id).2)
        | (_, s) => (.requested o none, (s.dropResponse id).2)
      | .drop => (.requested o none, (s.dropResponse id).2)
      | .keep => (.requested o none, s)
    | (.polled o, s) => (.requested o none, s)
    | other => other
  | other => other

/-- Runs one step. -/
def Session.run (s : Session) : Step → Answer × Session
  | .begin id x => s.begin id x
  | .poll id elapsed => s.poll id elapsed
  | .cancel id => s.cancel id
  | .readResponse id limit => s.readResponse id limit
  | .dropResponse id => s.dropResponse id
  | .request id x elapsed consume => s.request id x elapsed consume
  | .snapshot => (.snapshot s.snapshot, s)

/-- Runs one step, with the events it logged. -/
def Session.step (s : Session) (st : Step) : (Answer × List Event) × Session :=
  let (a, s) := { s with events := [] }.run st
  ((a, s.events), { s with events := [] })

/-- Drops what is still alive: the requests on their way, then the response bodies, each in
the order of their ids; gives the events this logs. -/
def Session.teardown (s : Session) : List Event × Session :=
  let s := { s with events := [] }
  let s := (sortedIds s.flights).foldl (fun s id => (s.cancel id).2) s
  let s := (sortedIds s.replies).foldl (fun s id => (s.dropResponse id).2) s
  (s.events, { s with events := [] })

end HttpTelemetry.Middleware
