import HttpTelemetry.Body.Frame
/-!
# Counting the bytes of a body

`LengthBody` reads a body and adds the size of every data frame it passes on to a counter;
trailers and errors add nothing. Everything else about the body (its end, its size hint) is
the body's own.

The counter outlives the body: the middleware reads it after the service is done with the
request, and the service may find it in the request's extensions. Here it is the `length` field,
which `close` and `collect` hand back with their results.

`close` reads the rest of the body and stops at the first error, which it returns; `collect`
does the same and returns the number of data bytes it read.
-/

namespace HttpTelemetry.Body

/-- A body with the counter of the data bytes read from it. -/
structure LengthBody where
  inner : Source
  length : Nat
  deriving DecidableEq, Repr

/-- A body with a fresh counter. -/
def LengthBody.new (s : Source) : LengthBody := ⟨s, 0⟩

/-- Polls one frame, counting its data bytes. -/
def LengthBody.poll (b : LengthBody) : Poll × LengthBody :=
  let (p, s) := b.inner.poll
  (p, ⟨s, wrapU64 (b.length + p.dataBytes)⟩)

def LengthBody.isEndStream (b : LengthBody) : Bool := b.inner.isEndStream

def LengthBody.sizeHint (b : LengthBody) : SizeHint := b.inner.sizeHint

/-- Polls up to `fuel` frames, stopping after the end or an error; gives the polls in order. -/
def LengthBody.pollMany (b : LengthBody) : Nat → List Poll × LengthBody
  | 0 => ([], b)
  | fuel + 1 =>
    let (p, b) := b.poll
    if p.stops then ([p], b)
    else
      let (ps, b) := b.pollMany fuel
      (p :: ps, b)

/-- Polls until the end or an error. -/
def LengthBody.drain (b : LengthBody) : List Poll × LengthBody :=
  b.pollMany (b.inner.framesLeft + 1)

/-- The first error among some polls. -/
def firstError : List Poll → Option String
  | [] => none
  | .error e :: _ => some e
  | _ :: rest => firstError rest

/-- Reads the rest of the body; the first error, if any, is the result. -/
def LengthBody.close (b : LengthBody) : Except String Unit × LengthBody :=
  let (ps, b) := b.drain
  match firstError ps with
  | some e => (.error e, b)
  | none => (.ok (), b)

/-- Reads the rest of the body, giving the number of data bytes read, or the first error. -/
def LengthBody.collect (b : LengthBody) : Except String Nat × LengthBody :=
  let (ps, b) := b.drain
  match firstError ps with
  | some e => (.error e, b)
  | none => (.ok (dataBytesOf ps), b)

end HttpTelemetry.Body
