import HttpTelemetry.Body.Length
import HttpTelemetry.Http.Message
/-!
# A scripted service

The service behind the middleware is given, for each request, a script: how to read the request
body, how many times to answer "not yet" before finishing, and the response to give or the error
to fail with.

Reading happens on the first poll. `all` reads frames to the end, `nothing` reads none,
`frames n` reads at most `n`, `close` closes the body (reading the rest and keeping the first
error), `framesThenClose n` reads at most `n` frames and then closes. Frame reading stops at the
end or at an error.

Once done, the service reports what it saw: the request path, the bytes it read itself, the read
error, the outcome of closing, and the byte count the middleware's counter holds.
-/

namespace HttpTelemetry.Middleware

open HttpTelemetry.Body

/-- How the service reads the request body. -/
inductive ReadPlan where
  | all
  | nothing
  | frames (n : Nat)
  | close
  | framesThenClose (n : Nat)
  deriving DecidableEq, Repr

/-- What the service does with one request. -/
structure Script where
  read : ReadPlan
  /-- How many polls answer "not yet" after the read. -/
  pendingPolls : Nat
  /-- The response head and body, or the error the service fails with. -/
  outcome : Except String (Http.ResponseHead × Source)

/-- What reading under a plan gave. -/
structure Reading where
  readBytes : Nat
  readError : Option String
  close : Option (Except String Unit)

/-- Reads at most `n` frames: the data bytes read, the error met, and the body after. -/
def readFrames (b : LengthBody) (n : Nat) : Nat × Option String × LengthBody :=
  let (ps, b) := b.pollMany n
  (dataBytesOf ps, firstError ps, b)

/-- Reads the request body under a plan. -/
def ReadPlan.run (plan : ReadPlan) (b : LengthBody) : Reading × LengthBody :=
  match plan with
  | .all =>
    let (bytes, err, b) := readFrames b (b.inner.framesLeft + 1)
    (⟨bytes, err, none⟩, b)
  | .nothing => (⟨0, none, none⟩, b)
  | .frames n =>
    let (bytes, err, b) := readFrames b n
    (⟨bytes, err, none⟩, b)
  | .close =>
    let (r, b) := b.close
    (⟨0, none, some r⟩, b)
  | .framesThenClose n =>
    let (bytes, err, b) := readFrames b n
    let (r, b) := b.close
    (⟨bytes, err, some r⟩, b)

/-- What the service reports once it is done with a request. -/
structure Served where
  path : String
  readBytes : Nat
  readError : Option String
  close : Option (Except String Unit)
  bodyLength : Nat

end HttpTelemetry.Middleware
