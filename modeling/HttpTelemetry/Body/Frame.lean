import HttpTelemetry.Labels
/-!
# Bodies as sequences of frames

A body is read one frame at a time: a data frame (only its size matters here), a trailers frame
(the number of its fields), an error, or the end. Three kinds of body:

* a full body holds its bytes in one data frame, or none when it is empty; its size is exact and
  it is at its end once the frame is taken;
* an empty body has no frame, an exact size of zero, and is at its end from the start;
* a chunked body yields its chunks as data frames (empty chunks too), then an optional trailers
  frame, then an optional error, then the end. Its size is exact only when announced. It reports
  its end only when asked to, and only once no frame and no error is left.

Polling a body at its end keeps giving the end.
-/

namespace HttpTelemetry.Body

/-- A frame of a body. -/
inductive Frame where
  /-- A data frame of `size` bytes. -/
  | data (size : Nat)
  /-- A trailers frame with `count` fields. -/
  | trailers (count : Nat)
  deriving DecidableEq, Repr

/-- What polling a body gives. -/
inductive Poll where
  | frame (f : Frame)
  | error (message : String)
  | done
  deriving DecidableEq, Repr

/-- The bytes of a data frame, zero for anything else. -/
def Poll.dataBytes : Poll → Nat
  | .frame (.data n) => n
  | _ => 0

/-- The data bytes of some polls. -/
def dataBytesOf (ps : List Poll) : Nat := ps.foldl (fun acc p => acc + p.dataBytes) 0

/-- Whether polling stops here: the end, or an error. -/
def Poll.stops : Poll → Bool
  | .frame _ => false
  | _ => true

/-- Bounds on the size of what is left of a body. -/
structure SizeHint where
  lower : Nat
  upper : Option Nat
  deriving DecidableEq, Repr

/-- A size known exactly. -/
def SizeHint.exactly (n : Nat) : SizeHint := ⟨n, some n⟩

/-- Nothing known. -/
def SizeHint.unknown : SizeHint := ⟨0, none⟩

/-- The exact size, when the bounds meet. -/
def SizeHint.exact (h : SizeHint) : Option Nat :=
  if h.upper == some h.lower then some h.lower else none

/-- What is left of a chunked body. -/
structure Chunks where
  /-- Sizes of the data chunks still to come. -/
  chunks : List Nat
  /-- Whether a trailers frame is still to come. -/
  trailers : Bool
  /-- The error still to come, if any. -/
  error : Option String
  /-- The announced size, if any. -/
  sizeHint : Option Nat
  /-- Whether the body reports its end once nothing is left. -/
  endStream : Bool
  deriving DecidableEq, Repr

/-- A body, with what is left of it. -/
inductive Source where
  /-- A full body; `none` once its frame is taken, or from the start when it is empty. -/
  | full (remaining : Option Nat)
  | empty
  | chunks (c : Chunks)
  deriving DecidableEq, Repr

/-- A full body of `n` bytes. -/
def Source.ofSize (n : Nat) : Source := .full (if n == 0 then none else some n)

/-- The next frame and what is left after it. -/
def Source.poll : Source → Poll × Source
  | .full (some n) => (.frame (.data n), .full none)
  | .full none => (.done, .full none)
  | .empty => (.done, .empty)
  | .chunks c =>
    match c.chunks with
    | n :: rest => (.frame (.data n), .chunks { c with chunks := rest })
    | [] =>
      if c.trailers then (.frame (.trailers 1), .chunks { c with trailers := false })
      else match c.error with
        | some e => (.error e, .chunks { c with error := none })
        | none => (.done, .chunks c)

/-- Whether the body reports that nothing is left. -/
def Source.isEndStream : Source → Bool
  | .full r => r.isNone
  | .empty => true
  | .chunks c => c.endStream && c.chunks.isEmpty && !c.trailers && c.error.isNone

/-- What the body says of its remaining size. -/
def Source.sizeHint : Source → SizeHint
  | .full r => .exactly (r.getD 0)
  | .empty => .exactly 0
  | .chunks c => match c.sizeHint with
    | some n => .exactly n
    | none => .unknown

/-- How many polls are left before the end: frames and the error. -/
def Source.framesLeft : Source → Nat
  | .full r => if r.isSome then 1 else 0
  | .empty => 0
  | .chunks c => c.chunks.length + (if c.trailers then 1 else 0) + (if c.error.isSome then 1 else 0)

end HttpTelemetry.Body
