import HttpTelemetry.Body.Length
import HttpTelemetry.Http.Message
/-!
# Counting the bytes of any body

The counting wrapper works over bodies of any kind, not only the ones built here. A body is read
through three calls: a poll gives the next frame, an error, the end, or nothing yet; the body can
say whether it has ended, and what it knows of the size left. `Readable` gives these calls for a
type of body; the bodies of `Frame` are one instance, and never answer "not yet".

The byte count lives in a cell with several holders: the wrapper adds to it, the middleware keeps
a handle on it, and `track` installs one in the request's extensions. Cells are kept by address in
a store of `u64` values; a `BodyLength` is an address, so every handle on one cell reads the same
value.

Reading a body to its end (`close`, `collect`) is a loop that stops at the end or at the first
error, and runs forever on a body that has neither. It is given a number of polls to make
(`fuel`) and answers `none` when they run out first.
-/

namespace HttpTelemetry.Body

/-- The calls a body answers. `poll` gives `none` while the next frame is not ready. -/
class Readable (β : Type) where
  poll : β → Option Poll × β
  isEndStream : β → Bool
  sizeHint : β → SizeHint

instance : Readable Source where
  poll s := (some s.poll.1, s.poll.2)
  isEndStream := Source.isEndStream
  sizeHint := Source.sizeHint

/-- A handle on a byte-count cell. -/
structure BodyLength where
  addr : Nat
  deriving DecidableEq, Repr

/-- The byte-count cells by address, with the first address not given out yet. -/
structure Cells where
  next : Nat
  value : Nat → UInt64

/-- A store with no cell given out. -/
def Cells.empty : Cells := ⟨0, fun _ => 0⟩

/-- The value a handle reads. -/
def BodyLength.get (l : BodyLength) (m : Cells) : UInt64 := m.value l.addr

/-- A new cell holding zero. -/
def BodyLength.fresh (m : Cells) : BodyLength × Cells :=
  (⟨m.next⟩, ⟨m.next + 1, fun a => if a = m.next then 0 else m.value a⟩)

/-- Adds to the cell of a handle, wrapping around at `2^64`. -/
def BodyLength.add (l : BodyLength) (n : Nat) (m : Cells) : Cells :=
  { m with value := fun a => if a = l.addr then m.value a + UInt64.ofNat n else m.value a }

/-- A body whose data bytes are added to a cell as they are read. -/
structure Counted (β : Type) where
  inner : β
  length : BodyLength

/-- A call a reader makes on a body. -/
inductive Call where
  | pollFrame
  | isEndStream
  | sizeHint
  deriving DecidableEq, Repr

/-- What a call answers. -/
inductive Answer where
  | frame (p : Option Poll)
  | endStream (b : Bool)
  | sizeHint (h : SizeHint)
  deriving DecidableEq, Repr

section

variable {β : Type} [Readable β]

/-- Answers one call. -/
def Readable.answer (b : β) : Call → Answer × β
  | .pollFrame =>
    let (p, b) := Readable.poll b
    (.frame p, b)
  | .isEndStream => (.endStream (Readable.isEndStream b), b)
  | .sizeHint => (.sizeHint (Readable.sizeHint b), b)

/-- Answers calls in order. -/
def Readable.answerAll (b : β) : List Call → List Answer × β
  | [] => ([], b)
  | c :: cs =>
    let (a, b) := Readable.answer b c
    let (as, b) := Readable.answerAll b cs
    (a :: as, b)

/-- Polls the inner body; a data frame adds its bytes to the cell. -/
def Counted.poll (b : Counted β) (m : Cells) : Option Poll × Counted β × Cells :=
  let (p, inner) := Readable.poll b.inner
  let m := match p with
    | some (.frame (.data n)) => b.length.add n m
    | _ => m
  (p, ⟨inner, b.length⟩, m)

def Counted.isEndStream (b : Counted β) : Bool := Readable.isEndStream b.inner

def Counted.sizeHint (b : Counted β) : SizeHint := Readable.sizeHint b.inner

/-- Answers one call. -/
def Counted.answer (b : Counted β) (m : Cells) : Call → Answer × Counted β × Cells
  | .pollFrame =>
    let (p, b, m) := b.poll m
    (.frame p, b, m)
  | .isEndStream => (.endStream b.isEndStream, b, m)
  | .sizeHint => (.sizeHint b.sizeHint, b, m)

/-- Answers calls in order. -/
def Counted.answerAll (b : Counted β) (m : Cells) : List Call → List Answer × Counted β × Cells
  | [] => ([], b, m)
  | c :: cs =>
    let (a, b, m) := b.answer m c
    let (as, b, m) := b.answerAll m cs
    (a :: as, b, m)

/-- Polls until the end or an error, at most `fuel` times: what the polls gave once ready, and
what they leave; `none` when the polls run out first. -/
def Counted.drainWithin : Nat → Counted β → Cells → Option (List Poll × Counted β × Cells)
  | 0, _, _ => none
  | fuel + 1, b, m =>
    let (p, b, m) := b.poll m
    match p with
    | none => Counted.drainWithin fuel b m
    | some q =>
      if q.stops then some ([q], b, m)
      else (Counted.drainWithin fuel b m).map fun (ps, b, m) => (q :: ps, b, m)

/-- Reads the rest of the body, within `fuel` polls; the first error, if any, is the result. -/
def Counted.closeWithin (fuel : Nat) (b : Counted β) (m : Cells) :
    Option (Except String Unit × Counted β × Cells) :=
  (b.drainWithin fuel m).map fun (ps, b, m) =>
    match firstError ps with
    | some e => (.error e, b, m)
    | none => (.ok (), b, m)

/-- Reads the rest of the body, within `fuel` polls, giving the data bytes read or the first
error. -/
def Counted.collectWithin (fuel : Nat) (b : Counted β) (m : Cells) :
    Option (Except String Nat × Counted β × Cells) :=
  (b.drainWithin fuel m).map fun (ps, b, m) =>
    match firstError ps with
    | some e => (.error e, b, m)
    | none => (.ok (dataBytesOf ps), b, m)

end

/-- The extensions of a request: the byte-count handle installed there, if any, and the others,
of whatever kinds. -/
structure Extensions (ω : Type) where
  bodyLength : Option BodyLength
  others : ω

/-- The handle installed in some extensions. -/
def BodyLength.fromExtensions {ω : Type} (x : Extensions ω) : Option BodyLength := x.bodyLength

/-- A request: its head, its version, its extensions and its body. -/
structure Request (ω β : Type) where
  head : Http.RequestHead
  version : Http.Version
  extensions : Extensions ω
  body : β

/-- Wraps the body of a request to count its data bytes into a new cell, which is installed in
the request's extensions, in place of any there, and returned as well. -/
def track {ω β : Type} (r : Request ω β) (m : Cells) : (Request ω (Counted β) × BodyLength) × Cells :=
  let (l, m) := BodyLength.fresh m
  ((⟨r.head, r.version, ⟨some l, r.extensions.others⟩, ⟨r.body, l⟩⟩, l), m)

end HttpTelemetry.Body
