import HttpTelemetry.Body.Counted
import HttpTelemetry.Proofs.BodyCounting
/-!
# Counting is invisible to the reader

Whatever the inner body and whatever calls are made on the counting wrapper, the wrapper answers
each call as the inner body would at that point, and its cell grows, modulo `2^64`, by the bytes
of the data frames it has passed on: trailers, errors and "not yet" add nothing, and no other
cell changes. The whole run is one equation, `Counted.answerAll_eq`, built from the same
equation for one call.

`track` leaves the head, version and other extensions of a request as they were, installs a new
zeroed cell, and hands out that one handle three times: in the extensions, as its result, and in
the body. What each of them reads after any calls is then one value.
-/

namespace HttpTelemetry.Body

/-! ## Cells -/

section Cells

variable (l : BodyLength) (m : Cells)

theorem BodyLength.get_add_self (n : Nat) : l.get (l.add n m) = l.get m + UInt64.ofNat n := by
  simp [BodyLength.get, BodyLength.add]

theorem BodyLength.get_add_of_ne {l' : BodyLength} (h : l' ≠ l) (n : Nat) :
    l'.get (l.add n m) = l'.get m := by
  have haddr : l'.addr ≠ l.addr := fun heq => h (by cases l'; cases l; simp_all)
  simp [BodyLength.get, BodyLength.add, haddr]

theorem BodyLength.add_zero : l.add 0 m = m := by
  simp [BodyLength.add]

theorem BodyLength.add_add (x y : Nat) : l.add y (l.add x m) = l.add (x + y) m := by
  simp only [BodyLength.add, UInt64.ofNat_add]
  congr 1
  funext a
  by_cases ha : a = l.addr <;> simp [ha, UInt64.add_assoc]

/-- A cell after an addition reads, as a number, the sum modulo `2^64`. -/
theorem BodyLength.toNat_get_add (n : Nat) :
    (l.get (l.add n m)).toNat = wrapU64 ((l.get m).toNat + n) := by
  rw [BodyLength.get_add_self, UInt64.toNat_add, UInt64.toNat_ofNat', Nat.add_mod_mod]
  rfl

@[simp] theorem BodyLength.get_fresh : (BodyLength.fresh m).1.get (BodyLength.fresh m).2 = 0 := by
  simp [BodyLength.fresh, BodyLength.get]

/-- A new cell leaves the cells given out before it as they were. -/
theorem BodyLength.get_fresh_of_lt {l' : BodyLength} (h : l'.addr < m.next) :
    l'.get (BodyLength.fresh m).2 = l'.get m := by
  simp [BodyLength.fresh, BodyLength.get, Nat.ne_of_lt h]

end Cells

/-! ## One call -/

/-- The data bytes an answer carries: those of a data frame, none otherwise. -/
def Answer.dataBytes : Answer → Nat
  | .frame (some p) => p.dataBytes
  | _ => 0

/-- The data bytes of some answers. -/
def dataOfAnswers (as : List Answer) : Nat := as.foldr (fun a n => a.dataBytes + n) 0

@[simp] theorem dataOfAnswers_nil : dataOfAnswers [] = 0 := rfl

@[simp] theorem dataOfAnswers_cons (a : Answer) (as : List Answer) :
    dataOfAnswers (a :: as) = a.dataBytes + dataOfAnswers as := rfl

section Calls

variable {β : Type} [Readable β]

/-- One poll through the wrapper: the inner body's poll, with the bytes of a data frame added to
the cell. -/
theorem Counted.poll_eq (b : Counted β) (m : Cells) :
    b.poll m = ((Readable.poll b.inner).1, ⟨(Readable.poll b.inner).2, b.length⟩,
      b.length.add (Answer.frame (Readable.poll b.inner).1).dataBytes m) := by
  simp only [Counted.poll]
  rcases Readable.poll b.inner with ⟨_ | ((_ | _) | _ | _), inner⟩ <;>
    simp [Answer.dataBytes, Poll.dataBytes, BodyLength.add_zero]

/-- One call on the wrapper: the inner body's answer, with its data bytes added to the cell. -/
theorem Counted.answer_eq (b : Counted β) (m : Cells) (c : Call) :
    b.answer m c = ((Readable.answer b.inner c).1, ⟨(Readable.answer b.inner c).2, b.length⟩,
      b.length.add (Readable.answer b.inner c).1.dataBytes m) := by
  cases c with
  | pollFrame =>
    simp only [Counted.answer, Counted.poll_eq]
    rfl
  | isEndStream | sizeHint =>
    simp [Counted.answer, Readable.answer, Counted.isEndStream, Counted.sizeHint, Answer.dataBytes,
      BodyLength.add_zero]

/-- Any run of calls on the wrapper: the inner body's answers, the inner body as those calls
leave it, and the cell grown by the data bytes of the answers. -/
theorem Counted.answerAll_eq (b : Counted β) (m : Cells) (cs : List Call) :
    b.answerAll m cs = ((Readable.answerAll b.inner cs).1,
      ⟨(Readable.answerAll b.inner cs).2, b.length⟩,
      b.length.add (dataOfAnswers (Readable.answerAll b.inner cs).1) m) := by
  induction cs generalizing b m with
  | nil => simp [Counted.answerAll, Readable.answerAll, BodyLength.add_zero]
  | cons c cs ih =>
    -- the first call keeps the handle, so the rest of the run adds to the same cell
    simp only [Counted.answerAll, Readable.answerAll, Counted.answer_eq, ih,
      BodyLength.add_add, dataOfAnswers_cons]

end Calls

/-! ## The law -/

/-- Counting bodies are transparent and count data bytes. Any run of calls on a counting body,
whatever its inner body and its cell, answers as the inner body does, leaves the inner body as
those calls leave it, keeps the handle, grows the cell modulo `2^64` by the data bytes passed on
and changes no other cell. Tracking a request keeps its head, version and other extensions, and
gives one new zeroed cell, leaving the cells given out before it alone, to the extensions, to the
caller and to the body, which after any run of calls reads the data bytes passed on. -/
theorem Counted.transparent_counting {ω β : Type} [Readable β] (b : Counted β) (r : Request ω β)
    (m : Cells) (cs : List Call) :
    (let run := b.answerAll m cs
     let plain := Readable.answerAll b.inner cs
     run.1 = plain.1 ∧ run.2.1 = ⟨plain.2, b.length⟩ ∧
     (b.length.get run.2.2).toNat = wrapU64 ((b.length.get m).toNat + dataOfAnswers plain.1) ∧
     ∀ l, l ≠ b.length → l.get run.2.2 = l.get m) ∧
    (let t := track r m
     let run := t.1.1.body.answerAll t.2 cs
     t.1.1.head = r.head ∧ t.1.1.version = r.version ∧
     t.1.1.extensions.others = r.extensions.others ∧ t.1.1.body.inner = r.body ∧
     t.1.2.get t.2 = 0 ∧ (∀ l : BodyLength, l.addr < m.next → l.get t.2 = l.get m) ∧
     BodyLength.fromExtensions t.1.1.extensions = some t.1.2 ∧
     run.2.1.length = t.1.2 ∧ run.1 = (Readable.answerAll r.body cs).1 ∧
     (t.1.2.get run.2.2).toNat = wrapU64 (dataOfAnswers run.1)) := by
  constructor
  · rw [Counted.answerAll_eq]
    exact ⟨rfl, rfl, BodyLength.toNat_get_add .., fun l hl => BodyLength.get_add_of_ne _ _ hl _⟩
  · -- the body of the tracked request counts into the fresh cell
    have hfresh : (track r m).1.2.get (track r m).2 = 0 := BodyLength.get_fresh m
    dsimp only
    rw [Counted.answerAll_eq]
    refine ⟨rfl, rfl, rfl, rfl, hfresh, fun l hl => BodyLength.get_fresh_of_lt m hl, rfl, rfl, rfl, ?_⟩
    show ((track r m).1.2.get ((track r m).1.2.add _ (track r m).2)).toNat = _
    rw [BodyLength.toNat_get_add, hfresh, UInt64.toNat_zero, Nat.zero_add]

end HttpTelemetry.Body
