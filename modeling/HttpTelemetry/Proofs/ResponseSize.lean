import HttpTelemetry.Proofs.RequestRecording
/-!
# The response size is recorded once

When a request is answered, the middleware hands the client the response body wrapped in a fresh
counter, and owes the response-size call unless the size is known: the `content-length` field,
else an exact size hint. A known size is recorded at once. An owed call is made at the first
frame that ends the body or leaves it at its end, with the count after that frame, or, when no
such frame is polled, when the body is dropped, with the count at that moment.

`Reply.pollFrames` polls the frames of a response body one after another, as the client does.
Whatever the body, the frames it passes on are those of the body it wraps, and over any number of
frames and a drop the response size is recorded exactly once (`Reply.pollFrames_once`).
`Session.responseSize_once` follows the body through the session: the poll that answers the
request, any number of single-frame reads, then the drop.
-/

namespace HttpTelemetry.Body

/-- A body after `i` polls. -/
def Source.after (src : Source) : Nat → Source
  | 0 => src
  | i + 1 => (src.after i).poll.2

/-- Whether the poll a body gives after `i` polls settles its size: it is the end, or it leaves
the body at its end. -/
def Source.settlesAt (src : Source) (i : Nat) : Bool :=
  (src.after i).poll.1 == .done || (src.after (i + 1)).isEndStream

end HttpTelemetry.Body

namespace HttpTelemetry.Middleware

open HttpTelemetry.Body

/-! ## One frame -/

section Frame

variable (r : Reply)

theorem Reply.pollFrame_fst : r.pollFrame.1 = r.body.inner.poll.1 := by
  unfold Reply.pollFrame
  split <;> rfl

theorem Reply.pollFrame_body : r.pollFrame.2.1.body = r.body.poll.2 := by
  unfold Reply.pollFrame
  split <;> rfl

/-- A frame that ends the body, or leaves it at its end, makes the call the body owes, with the
count after the frame, and the body owes nothing after. -/
theorem Reply.pollFrame_of_settles
    (h : (r.body.inner.poll.1 == .done || r.body.inner.poll.2.isEndStream) = true) :
    r.pollFrame.2.1.pending = none ∧
      r.pollFrame.2.2 = r.pending.toList.map (.responseSize · r.body.poll.2.length) := by
  have hend : (r.body.poll.1 == .done || r.body.poll.2.isEndStream) = true := h
  unfold Reply.pollFrame
  rw [if_pos hend]
  exact ⟨rfl, rfl⟩

/-- Any other frame makes no call, and the body owes what it owed. -/
theorem Reply.pollFrame_of_not_settles
    (h : (r.body.inner.poll.1 == .done || r.body.inner.poll.2.isEndStream) = false) :
    r.pollFrame.2.1.pending = r.pending ∧ r.pollFrame.2.2 = [] := by
  have hend : (r.body.poll.1 == .done || r.body.poll.2.isEndStream) = false := h
  unfold Reply.pollFrame
  rw [if_neg (Bool.eq_false_iff.mp hend)]
  exact ⟨rfl, rfl⟩

/-- A body that owes nothing records nothing at a frame. -/
theorem Reply.pollFrame_of_settled (h : r.pending = none) :
    r.pollFrame.2.1.pending = none ∧ r.pollFrame.2.2 = [] := by
  unfold Reply.pollFrame
  split
  · exact ⟨rfl, Reply.owed_settled h⟩
  · exact ⟨h, rfl⟩

theorem Reply.read_one : r.read 1 = ([r.pollFrame.1], r.pollFrame.2.1, r.pollFrame.2.2) := by
  unfold Reply.read
  split
  · rfl
  · simp [Reply.read]

end Frame

/-! ## Frame after frame -/

/-- A response body after `k` of its frames are polled, and the calls made meanwhile. -/
def Reply.pollFrames (r : Reply) : Nat → Reply × List Observation
  | 0 => (r, [])
  | k + 1 =>
    ((r.pollFrames k).1.pollFrame.2.1, (r.pollFrames k).2 ++ (r.pollFrames k).1.pollFrame.2.2)

section Frames

variable (r : Reply)

theorem Reply.pollFrames_inner (k : Nat) : (r.pollFrames k).1.body.inner = r.body.inner.after k := by
  induction k with
  | zero => rfl
  | succ k ih =>
    show (r.pollFrames k).1.pollFrame.2.1.body.inner = (r.body.inner.after k).poll.2
    rw [Reply.pollFrame_body, LengthBody.poll_inner, ih]

theorem Reply.reads_pollFrames (k : Nat) : r.body.Reads (r.pollFrames k).1.body := by
  induction k with
  | zero => exact .refl _
  | succ k ih =>
    show r.body.Reads (r.pollFrames k).1.pollFrame.2.1.body
    rw [Reply.pollFrame_body]
    exact ih.poll

theorem Reply.pollFrames_settles (k : Nat) :
    ((r.pollFrames k).1.body.inner.poll.1 == .done ||
      (r.pollFrames k).1.body.inner.poll.2.isEndStream) = r.body.inner.settlesAt k := by
  rw [Reply.pollFrames_inner]
  rfl

/-- A body owes its size until the first frame that settles it. -/
theorem Reply.pollFrames_pending (k : Nat) :
    (r.pollFrames k).1.pending =
      if ∃ i < k, r.body.inner.settlesAt i = true then none else r.pending := by
  induction k with
  | zero => simp [Reply.pollFrames]
  | succ k ih =>
    show (r.pollFrames k).1.pollFrame.2.1.pending = _
    cases hk : r.body.inner.settlesAt k
    · -- the frame does not settle the size: what was owed is still owed
      rw [(Reply.pollFrame_of_not_settles _ ((Reply.pollFrames_settles r k).trans hk)).1, ih]
      have hiff : (∃ i < k + 1, r.body.inner.settlesAt i = true) ↔
          ∃ i < k, r.body.inner.settlesAt i = true := by
        constructor
        · rintro ⟨i, hi, hsettles⟩
          have hne : i ≠ k := by
            rintro rfl
            rw [hk] at hsettles
            cases hsettles
          exact ⟨i, by omega, hsettles⟩
        · rintro ⟨i, hi, hsettles⟩
          exact ⟨i, by omega, hsettles⟩
      simp only [hiff]
    · rw [(Reply.pollFrame_of_settles _ ((Reply.pollFrames_settles r k).trans hk)).1]
      rw [if_pos ⟨k, Nat.lt_succ_self k, hk⟩]

/-- The count after `k` frames: the count before, with the data bytes the frames passed on,
modulo `2^64`. -/
theorem Reply.pollFrames_length (hb : r.body.length < Nat.pow 2 64) (k : Nat) :
    (r.pollFrames k).1.body.length =
      wrapU64 (r.body.length + (r.body.inner.dataLeft - (r.body.inner.after k).dataLeft)) := by
  rw [(r.reads_pollFrames k).length_eq hb, Reply.pollFrames_inner]

/-- The calls of the frame polled after `k` frames: the owed call when it is the first frame
that settles the size, nothing otherwise. -/
theorem Reply.pollFrames_frameCalls (k : Nat) :
    (r.pollFrames k).1.pollFrame.2.2 =
      if r.body.inner.settlesAt k = true ∧ ∀ i < k, r.body.inner.settlesAt i = false then
        r.pending.toList.map (.responseSize · (r.pollFrames (k + 1)).1.body.length)
      else [] := by
  have hbody : (r.pollFrames (k + 1)).1.body = (r.pollFrames k).1.body.poll.2 :=
    Reply.pollFrame_body _
  cases hk : r.body.inner.settlesAt k
  · rw [(Reply.pollFrame_of_not_settles _ ((Reply.pollFrames_settles r k).trans hk)).2]
    simp
  · rw [(Reply.pollFrame_of_settles _ ((Reply.pollFrames_settles r k).trans hk)).2,
      Reply.pollFrames_pending, hbody]
    -- the call is owed here exactly when no earlier frame settled the size
    by_cases hfirst : ∀ i < k, r.body.inner.settlesAt i = false
    · have hnone : ¬∃ i < k, r.body.inner.settlesAt i = true := by
        rintro ⟨i, hi, hsettles⟩
        rw [hfirst i hi] at hsettles
        cases hsettles
      rw [if_neg hnone, if_pos ⟨rfl, hfirst⟩]
    · have hsome : ∃ i < k, r.body.inner.settlesAt i = true := by
        apply Classical.byContradiction
        intro hno
        apply hfirst
        intro i hi
        cases hsettles : r.body.inner.settlesAt i
        · rfl
        · exact absurd ⟨i, hi, hsettles⟩ hno
      rw [if_pos hsome, if_neg (fun h => hfirst h.2)]
      rfl

/-- The calls over the first `k` frames are the calls of each frame in turn. -/
theorem Reply.pollFrames_calls (k : Nat) :
    (r.pollFrames k).2 = (List.range k).flatMap fun i => (r.pollFrames i).1.pollFrame.2.2 := by
  induction k with
  | zero => rfl
  | succ k ih =>
    show (r.pollFrames k).2 ++ (r.pollFrames k).1.pollFrame.2.2 = _
    rw [ih, List.range_succ, List.flatMap_append, List.flatMap_singleton]

/-- **Exactly once.** A body that owes its size makes the call once over any number of frames
and a drop: at a frame, or at the drop. -/
theorem Reply.pollFrames_once {L : Labels} (hr : r.pending = some L) (k : Nat) :
    ∃ size, (r.pollFrames k).2 ++ (r.pollFrames k).1.owed = [.responseSize L size] := by
  induction k with
  | zero => exact ⟨r.body.length, by simp [Reply.pollFrames, Reply.owed, hr]⟩
  | succ k ih =>
    obtain ⟨size, hsize⟩ := ih
    show ∃ size, ((r.pollFrames k).2 ++ (r.pollFrames k).1.pollFrame.2.2) ++
      (r.pollFrames k).1.pollFrame.2.1.owed = _
    cases hpending : (r.pollFrames k).1.pending with
    | none =>
      -- settled before: the frame and the drop record nothing more
      obtain ⟨hnone, hcalls⟩ := Reply.pollFrame_of_settled _ hpending
      refine ⟨size, ?_⟩
      rw [hcalls, List.append_nil, Reply.owed_settled hnone, List.append_nil]
      rw [Reply.owed_settled hpending, List.append_nil] at hsize
      exact hsize
    | some L' =>
      -- still owed: nothing was recorded yet, and this frame or the drop records it
      have hnil : (r.pollFrames k).2 = [] := by
        rw [Reply.owed, hpending] at hsize
        cases hcalls : (r.pollFrames k).2 with
        | nil => rfl
        | cons o os => simp [hcalls] at hsize
      have hL : L' = L := by
        rw [Reply.owed, hpending, hnil] at hsize
        simp only [Option.toList_some, List.map_cons, List.map_nil, List.nil_append,
          List.cons.injEq, Observation.responseSize.injEq, and_true] at hsize
        exact hsize.1
      subst hL
      cases hend : ((r.pollFrames k).1.body.inner.poll.1 == .done ||
          (r.pollFrames k).1.body.inner.poll.2.isEndStream)
      · obtain ⟨hkeep, hcalls⟩ := Reply.pollFrame_of_not_settles _ hend
        refine ⟨(r.pollFrames k).1.pollFrame.2.1.body.length, ?_⟩
        rw [hnil, hcalls, Reply.owed, hkeep, hpending]
        rfl
      · obtain ⟨hnone, hcalls⟩ := Reply.pollFrame_of_settles _ hend
        refine ⟨(r.pollFrames k).1.body.poll.2.length, ?_⟩
        rw [hnil, hcalls, Reply.owed_settled hnone, hpending]
        rfl

theorem Reply.pollFrames_of_settled (h : r.pending = none) (k : Nat) :
    (r.pollFrames k).1.pending = none ∧ (r.pollFrames k).2 = [] := by
  induction k with
  | zero => exact ⟨h, rfl⟩
  | succ k ih =>
    obtain ⟨hnone, hcalls⟩ := Reply.pollFrame_of_settled _ ih.1
    exact ⟨hnone, by rw [Reply.pollFrames, ih.2, hcalls]; rfl⟩

end Frames

/-! ## Through the session -/

section Session

variable {s : Session} {id : String} {f : Flight} {rhead : Http.ResponseHead} {body : Source}

theorem Session.poll_reply (elapsed : Float) (hf : lookup s.flights id = some f)
    (hdue : f.pendingLeft = 0) (hok : f.script.outcome = .ok (rhead, body)) :
    lookup (s.poll id elapsed).2.replies id =
      some (.start (s.layer.finishLabels f.labels rhead.status) rhead body) := by
  rw [Session.poll_of_ready hf hdue hok, Session.respond_eq]
  exact lookup_put_self _ _ _

/-- A read of one frame of the response body kept under an id: it gives the frame and whether
the body is then at its end, makes the frame's calls, and keeps the body after the frame. -/
theorem Session.readResponse_one {r : Reply} (hr : lookup s.replies id = some r) :
    (s.readResponse id (some 1)).1 = .read [r.pollFrame.1] r.pollFrame.2.1.body.isEndStream ∧
      callsOf (·.readResponse id (some 1)) s = r.pollFrame.2.2 ∧
      lookup (s.readResponse id (some 1)).2.replies id = some r.pollFrame.2.1 := by
  refine ⟨?_, ?_, ?_⟩
  · rw [Session.readResponse_of_kept hr]
    simp only [Option.getD_some, Reply.read_one]
  · rw [Session.readResponse_calls_of_kept hr]
    simp only [Option.getD_some, Reply.read_one]
  · rw [Session.readResponse_of_kept hr]
    simp only [Option.getD_some, Reply.read_one]
    exact lookup_put_self _ _ _

/-- After `i` single-frame reads, the body kept under the id is the body after `i` frames. -/
theorem Session.readFrames_reply {t : Session} {r : Reply} (hr : lookup t.replies id = some r)
    (i : Nat) :
    lookup (t.runAll (List.replicate i (.readResponse id (some 1)))).replies id =
      some (r.pollFrames i).1 := by
  induction i with
  | zero => exact hr
  | succ i ih =>
    rw [List.replicate_succ', Session.runAll_append, Session.runAll_cons, Session.runAll_nil,
      Session.step_replies]
    exact (Session.readResponse_one ih).2.2

/-- **The response size is recorded once.** Take a poll that answers a request with the response
head `rhead` and body `body`, then any number `k` of single-frame reads of the body, then its
drop. The answer reports the body's own end and size hint, and each read gives the body's own
frame and end. Over the poll, the reads and the drop, exactly one response-size call is made for
the request, with its finished labels `L₁`. A size known from the `content-length` field, else
from an exact size hint, is recorded by the poll, and reads and the drop record nothing. Otherwise
the call is made by the read of the first frame that ends the body or leaves it at its end, with
the data bytes of the frames up to it, modulo `2^64`; when no read polls such a frame, by the
drop, with the data bytes of the frames read. -/
theorem Session.responseSize_once (hf : lookup s.flights id = some f) (hdue : f.pendingLeft = 0)
    (hok : f.script.outcome = .ok (rhead, body)) (elapsed : Float) (k : Nat) :
    let L₁ := s.layer.finishLabels f.labels rhead.status
    let known := rhead.contentLength <|> body.sizeHint.exact
    let bytes := fun m => wrapU64 (body.dataLeft - (body.after m).dataLeft)
    let frame := fun i =>
      (s.poll id elapsed).2.runAll (List.replicate i (.readResponse id (some 1)))
    let reads := (List.range k).flatMap fun i => callsOf (·.readResponse id (some 1)) (frame i)
    let dropped := callsOf (·.dropResponse id) (frame k)
    (s.poll id elapsed).1 = .polled (.ready rhead.status body.isEndStream body.sizeHint) ∧
      callsOf (·.poll id elapsed) s =
        [.duration L₁ (s.clock.millis elapsed), .requestSize L₁ f.read.2.length,
          .active f.labels (-1)] ++ known.toList.map (.responseSize L₁) ++ owedAt s.replies id ∧
      (∀ i < k, ((frame i).readResponse id (some 1)).1 =
        .read [(body.after i).poll.1] (body.after (i + 1)).isEndStream) ∧
      (∃ size, known.toList.map (.responseSize L₁) ++ reads ++ dropped = [.responseSize L₁ size]) ∧
      (known.isSome → reads = [] ∧ dropped = []) ∧
      (known = none →
        (∀ i < k, callsOf (·.readResponse id (some 1)) (frame i) =
          if body.settlesAt i = true ∧ ∀ j < i, body.settlesAt j = false then
            [.responseSize L₁ (bytes (i + 1))]
          else []) ∧
        dropped = if ∀ i < k, body.settlesAt i = false then [.responseSize L₁ (bytes k)] else []) := by
  intro L₁ known bytes frame reads dropped
  -- the body handed to the client, and how it stands after each read
  let r₀ : Reply := .start L₁ rhead body
  have hpending : r₀.pending = if known.isSome then none else some L₁ := rfl
  have hframe : ∀ i, lookup (frame i).replies id = some (r₀.pollFrames i).1 :=
    Session.readFrames_reply (Session.poll_reply elapsed hf hdue hok)
  have hbytes : ∀ m, (r₀.pollFrames m).1.body.length = bytes m := by
    intro m
    rw [Reply.pollFrames_length r₀ (Nat.pow_pos (by decide)) m]
    show wrapU64 (0 + (body.dataLeft - (body.after m).dataLeft)) = _
    rw [Nat.zero_add]
  have hreadCalls : ∀ i, callsOf (·.readResponse id (some 1)) (frame i) =
      (r₀.pollFrames i).1.pollFrame.2.2 := fun i => (Session.readResponse_one (hframe i)).2.1
  have hreads : reads = (r₀.pollFrames k).2 := by
    rw [Reply.pollFrames_calls]
    exact congrArg (fun g => (List.range k).flatMap g) (funext hreadCalls)
  have hdropped : dropped = (r₀.pollFrames k).1.owed := Session.dropResponse_calls_of_kept (hframe k)
  refine ⟨?_, Session.poll_calls_of_ready hf hdue hok, ?_, ?_, ?_, ?_⟩
  · rw [Session.poll_of_ready hf hdue hok, Session.respond_eq]
    rfl
  · intro i _
    have hin : (r₀.pollFrames i).1.body.inner = body.after i := Reply.pollFrames_inner r₀ i
    rw [(Session.readResponse_one (hframe i)).1, Reply.pollFrame_fst, Reply.pollFrame_body]
    simp only [LengthBody.isEndStream, LengthBody.poll_inner, hin]
    rfl
  · by_cases hknown : known = none
    · -- the size is owed: one call, at a frame or at the drop
      have hp : r₀.pending = some L₁ := by rw [hpending, hknown]; rfl
      obtain ⟨size, hsize⟩ := Reply.pollFrames_once r₀ hp k
      refine ⟨size, ?_⟩
      rw [hknown, hreads, hdropped]
      exact hsize
    · -- the size is known: the poll's call is the only one
      obtain ⟨n, hn⟩ := Option.ne_none_iff_exists'.mp hknown
      have hp : r₀.pending = none := by rw [hpending, hn]; rfl
      obtain ⟨hnone, hcalls⟩ := Reply.pollFrames_of_settled r₀ hp k
      refine ⟨n, ?_⟩
      rw [hn, hreads, hdropped, hcalls, Reply.owed_settled hnone]
      rfl
  · intro hsome
    have hp : r₀.pending = none := by rw [hpending, if_pos hsome]
    obtain ⟨hnone, hcalls⟩ := Reply.pollFrames_of_settled r₀ hp k
    exact ⟨hreads.trans hcalls, hdropped.trans (Reply.owed_settled hnone)⟩
  · intro hnone
    have hp : r₀.pending = some L₁ := by rw [hpending, hnone]; rfl
    refine ⟨fun i _ => ?_, ?_⟩
    · rw [hreadCalls, Reply.pollFrames_frameCalls, hp, hbytes]
      rfl
    · rw [hdropped, Reply.owed, Reply.pollFrames_pending, hp, hbytes]
      -- owed at the drop exactly when no frame read settled the size
      by_cases hall : ∀ i < k, body.settlesAt i = false
      · have hno : ¬∃ i < k, r₀.body.inner.settlesAt i = true := by
          rintro ⟨i, hi, hsettles⟩
          rw [show r₀.body.inner = body from rfl, hall i hi] at hsettles
          cases hsettles
        rw [if_neg hno, if_pos hall]
        rfl
      · have hyes : ∃ i < k, r₀.body.inner.settlesAt i = true := by
          apply Classical.byContradiction
          intro hno
          apply hall
          intro i hi
          cases hsettles : body.settlesAt i
          · rfl
          · exact absurd ⟨i, hi, hsettles⟩ hno
        rw [if_pos hyes, if_neg hall]
        rfl

theorem Session.responseSize_once_of_chunks :
    let body : Source := .chunks ⟨[3, 4], false, none, none, true⟩
    let rhead : Http.ResponseHead := ⟨200, []⟩
    let f : Flight := .start ⟨⟨"GET"⟩, ⟨none, "", "/", none⟩, []⟩ ⟨"GET", "", "/", none⟩
      (.full (some 5)) ⟨.all, 0, .ok (rhead, body)⟩
    let s : Session := ⟨⟨⟨[]⟩, none⟩, .discard, true, .given, [], put [] "a" f, []⟩
    lookup s.flights "a" = some f ∧ f.pendingLeft = 0 ∧ f.script.outcome = .ok (rhead, body) ∧
      let L₁ := s.layer.finishLabels f.labels rhead.status
      let known := rhead.contentLength <|> body.sizeHint.exact
      let bytes := fun m => wrapU64 (body.dataLeft - (body.after m).dataLeft)
      let frame := fun i =>
        (s.poll "a" 1.0).2.runAll (List.replicate i (.readResponse "a" (some 1)))
      let reads := (List.range 2).flatMap fun i => callsOf (·.readResponse "a" (some 1)) (frame i)
      let dropped := callsOf (·.dropResponse "a") (frame 2)
      (s.poll "a" 1.0).1 = .polled (.ready rhead.status body.isEndStream body.sizeHint) ∧
        callsOf (·.poll "a" 1.0) s =
          [.duration L₁ (s.clock.millis 1.0), .requestSize L₁ f.read.2.length,
            .active f.labels (-1)] ++ known.toList.map (.responseSize L₁) ++ owedAt s.replies "a" ∧
        (∀ i < (2 : Nat), ((frame i).readResponse "a" (some 1)).1 =
          .read [(body.after i).poll.1] (body.after (i + 1)).isEndStream) ∧
        (∃ size, known.toList.map (.responseSize L₁) ++ reads ++ dropped =
          [.responseSize L₁ size]) ∧
        (known.isSome → reads = [] ∧ dropped = []) ∧
        (known = none →
          (∀ i < (2 : Nat), callsOf (·.readResponse "a" (some 1)) (frame i) =
            if body.settlesAt i = true ∧ ∀ j < i, body.settlesAt j = false then
              [.responseSize L₁ (bytes (i + 1))]
            else []) ∧
          dropped =
            if ∀ i < (2 : Nat), body.settlesAt i = false then [.responseSize L₁ (bytes 2)] else []) := by
  intro body rhead f s
  have hf : lookup s.flights "a" = some f := lookup_put_self _ _ _
  have hdue : f.pendingLeft = 0 := rfl
  have hok : f.script.outcome = .ok (rhead, body) := rfl
  exact ⟨hf, hdue, hok, Session.responseSize_once hf hdue hok 1.0 2⟩

end Session

end HttpTelemetry.Middleware
