import HttpTelemetry.Middleware.Script
/-!
# Counting what a body passes on

A `LengthBody` adds the bytes of every data frame it passes on to its counter. Measured against
`Source.dataLeft`, the data bytes a body still holds, this is one law: whatever is read, the
counter moves (modulo `2^64`) by exactly what the body lost. `LengthBody.Reads b b'` says that
`b'` is `b` after some polls, and every reader of the library (`pollMany`, `close`, `collect`, a
service's read plan) is shown to read its body in this sense.
-/

namespace HttpTelemetry.Body

/-- The data bytes a body still holds. -/
def Source.dataLeft : Source → Nat
  | .full r => r.getD 0
  | .empty => 0
  | .chunks c => c.chunks.foldr (· + ·) 0

theorem Source.dataLeft_poll (s : Source) :
    s.poll.2.dataLeft + s.poll.1.dataBytes = s.dataLeft := by
  cases s with
  | full r => cases r <;> simp [Source.poll, Source.dataLeft, Poll.dataBytes]
  | empty => simp [Source.poll, Source.dataLeft, Poll.dataBytes]
  | chunks c =>
    rcases c with ⟨chunks, trailers, error, hint, endStream⟩
    cases chunks with
    | cons n rest => simp [Source.poll, Source.dataLeft, Poll.dataBytes, Nat.add_comm]
    | nil =>
      cases trailers
      · cases error <;> simp [Source.poll, Source.dataLeft, Poll.dataBytes]
      · simp [Source.poll, Source.dataLeft, Poll.dataBytes]

@[simp] theorem LengthBody.poll_fst (b : LengthBody) : b.poll.1 = b.inner.poll.1 := rfl

@[simp] theorem LengthBody.poll_inner (b : LengthBody) : b.poll.2.inner = b.inner.poll.2 := rfl

@[simp] theorem LengthBody.poll_length (b : LengthBody) :
    b.poll.2.length = wrapU64 (b.length + b.inner.poll.1.dataBytes) := rfl

theorem wrapU64_add_wrapU64 (a b : Nat) : wrapU64 (wrapU64 a + b) = wrapU64 (a + b) := by
  simp [wrapU64, Nat.mod_add_mod]

theorem wrapU64_of_lt {a : Nat} (h : a < Nat.pow 2 64) : wrapU64 a = a := Nat.mod_eq_of_lt h

/-- `b'` is `b` after some polls. -/
inductive LengthBody.Reads : LengthBody → LengthBody → Prop
  | refl (b : LengthBody) : LengthBody.Reads b b
  | poll {b b' : LengthBody} : LengthBody.Reads b b' → LengthBody.Reads b b'.poll.2

theorem LengthBody.Reads.trans {b b' b'' : LengthBody} (h₁ : b.Reads b') (h₂ : b'.Reads b'') :
    b.Reads b'' := by
  induction h₂ with
  | refl => exact h₁
  | poll _ ih => exact ih.poll

theorem LengthBody.Reads.dataLeft_le {b b' : LengthBody} (h : b.Reads b') :
    b'.inner.dataLeft ≤ b.inner.dataLeft := by
  induction h with
  | refl => exact Nat.le_refl _
  | @poll b'' _ ih =>
    have hleft := Source.dataLeft_poll b''.inner
    simp only [LengthBody.poll_inner]
    omega

/-- **The counting law.** After any reading, the counter has grown, modulo `2^64`, by exactly the
data bytes the body lost. -/
theorem LengthBody.Reads.length_eq {b b' : LengthBody} (h : b.Reads b')
    (hb : b.length < Nat.pow 2 64) :
    b'.length = wrapU64 (b.length + (b.inner.dataLeft - b'.inner.dataLeft)) := by
  induction h with
  | refl => simp [wrapU64_of_lt hb]
  | @poll b'' hread ih =>
    have hleft := Source.dataLeft_poll b''.inner
    have hle := hread.dataLeft_le
    rw [LengthBody.poll_length, ih, wrapU64_add_wrapU64, LengthBody.poll_inner]
    congr 1
    omega

theorem LengthBody.reads_pollMany (b : LengthBody) (fuel : Nat) : b.Reads (b.pollMany fuel).2 := by
  induction fuel generalizing b with
  | zero => exact .refl b
  | succ fuel ih =>
    have hstep : b.Reads b.poll.2 := (LengthBody.Reads.refl b).poll
    simp only [LengthBody.pollMany]
    split
    · exact hstep
    · exact hstep.trans (ih _)

theorem LengthBody.reads_drain (b : LengthBody) : b.Reads b.drain.2 := b.reads_pollMany _

@[simp] theorem LengthBody.close_snd (b : LengthBody) : b.close.2 = b.drain.2 := by
  simp only [LengthBody.close]
  split <;> rfl

@[simp] theorem LengthBody.collect_snd (b : LengthBody) : b.collect.2 = b.drain.2 := by
  simp only [LengthBody.collect]
  split <;> rfl

theorem LengthBody.reads_close (b : LengthBody) : b.Reads b.close.2 := by
  simpa using b.reads_drain

end HttpTelemetry.Body

namespace HttpTelemetry.Middleware

open HttpTelemetry.Body

/-- A service's read plan only polls the request body. -/
theorem ReadPlan.reads_run (plan : ReadPlan) (b : LengthBody) : b.Reads (plan.run b).2 := by
  cases plan with
  | all =>
    simp only [ReadPlan.run, readFrames]
    exact b.reads_pollMany _
  | nothing =>
    simp only [ReadPlan.run]
    exact .refl b
  | frames n =>
    simp only [ReadPlan.run, readFrames]
    exact b.reads_pollMany n
  | close =>
    simp only [ReadPlan.run]
    exact b.reads_close
  | framesThenClose n =>
    simp only [ReadPlan.run, readFrames]
    exact (b.reads_pollMany n).trans (LengthBody.reads_close _)

/-- Reading a fresh body under a plan counts, modulo `2^64`, exactly the data bytes the body
lost. -/
theorem ReadPlan.run_new_length (plan : ReadPlan) (body : Source) :
    (plan.run (LengthBody.new body)).2.length =
      wrapU64 (body.dataLeft - (plan.run (LengthBody.new body)).2.inner.dataLeft) := by
  have hfresh : (LengthBody.new body).length < Nat.pow 2 64 := Nat.pow_pos (by decide)
  have hcount := (plan.reads_run (LengthBody.new body)).length_eq hfresh
  rw [hcount]
  show wrapU64 (0 + (body.dataLeft - _)) = _
  rw [Nat.zero_add]

end HttpTelemetry.Middleware
