import HttpTelemetry.Proofs.TransparentCounting
import Mathlib.Data.Nat.Find
/-!
# Reading a body to its end

`close` and `collect` poll the counting body until it gives the end or an error. Measured on the
inner body's own polls from where the reading starts, the outcome is fixed by the first poll that
stops it: the reading ends exactly when such a poll exists, after that many polls and not one
more; it fails with the error of that poll, if it is one; and the cell grows by the data bytes of
the polls before it. `collect` returns those bytes.

Read from the first poll of a body that keeps giving the end once it has ended, and after any
calls, a `close` that succeeds leaves in the cell the data bytes of the whole body, up to its end.
The full, empty and chunked bodies built here all end, and keep giving the end.
-/

namespace HttpTelemetry.Body

/-! ## The polls of a body -/

section Polls

variable {β : Type} [Readable β]

/-- The body after `n` polls. -/
def Readable.after (b : β) : Nat → β
  | 0 => b
  | n + 1 => Readable.after (Readable.poll b).2 n

/-- What the poll after `n` others gives. -/
def Readable.pollAt (b : β) (n : Nat) : Option Poll := (Readable.poll (Readable.after b n)).1

/-- What the first `n` polls give, once ready. -/
def Readable.readyUpTo (b : β) : Nat → List Poll
  | 0 => []
  | n + 1 => (Readable.poll b).1.toList ++ Readable.readyUpTo (Readable.poll b).2 n

/-- The data bytes of the first `n` polls. -/
def Readable.dataUpTo (b : β) (n : Nat) : Nat := dataBytesOf (Readable.readyUpTo b n)

/-- Whether a poll ends a reading: the end, or an error. -/
def stopsOn : Option Poll → Bool
  | some p => p.stops
  | none => false

/-- Poll `n` is the first to give the end or an error. -/
def Readable.StopsFirstAt (b : β) (n : Nat) : Prop :=
  (∀ i < n, stopsOn (Readable.pollAt b i) = false) ∧ stopsOn (Readable.pollAt b n) = true

/-- Poll `e` is the first to give the end. -/
def Readable.EndsFirstAt (b : β) (e : Nat) : Prop :=
  Readable.pollAt b e = some .done ∧ ∀ i < e, Readable.pollAt b i ≠ some .done

/-- Once the body has given the end, it keeps giving it. -/
def Readable.KeepsEnded (b : β) : Prop :=
  ∀ i, Readable.pollAt b i = some .done → Readable.pollAt b (i + 1) = some .done

theorem Readable.pollAt_zero (b : β) : Readable.pollAt b 0 = (Readable.poll b).1 := rfl

theorem Readable.pollAt_succ (b : β) (n : Nat) :
    Readable.pollAt b (n + 1) = Readable.pollAt (Readable.poll b).2 n := rfl

theorem Readable.after_add (b : β) (n k : Nat) :
    Readable.after b (n + k) = Readable.after (Readable.after b n) k := by
  induction n generalizing b with
  | zero => rw [Nat.zero_add]; rfl
  | succ n ih =>
    rw [Nat.succ_add]
    exact ih _

theorem Readable.pollAt_after (b : β) (n k : Nat) :
    Readable.pollAt (Readable.after b n) k = Readable.pollAt b (n + k) := by
  rw [Readable.pollAt, Readable.pollAt, Readable.after_add]

theorem foldl_dataBytes (ps : List Poll) (a : Nat) :
    ps.foldl (fun acc p => acc + p.dataBytes) a = a + dataBytesOf ps := by
  induction ps generalizing a with
  | nil => rfl
  | cons p ps ih =>
    have hcons : dataBytesOf (p :: ps) = p.dataBytes + dataBytesOf ps := by
      rw [dataBytesOf, List.foldl_cons, ih, Nat.zero_add]
    rw [List.foldl_cons, ih, hcons, Nat.add_assoc]

theorem dataBytesOf_cons (p : Poll) (ps : List Poll) :
    dataBytesOf (p :: ps) = p.dataBytes + dataBytesOf ps := by
  rw [dataBytesOf, List.foldl_cons, foldl_dataBytes, Nat.zero_add]

theorem dataBytesOf_append (ps qs : List Poll) :
    dataBytesOf (ps ++ qs) = dataBytesOf ps + dataBytesOf qs := by
  rw [dataBytesOf, List.foldl_append, foldl_dataBytes, foldl_dataBytes, Nat.zero_add]

theorem Readable.dataUpTo_succ (b : β) (n : Nat) :
    Readable.dataUpTo b (n + 1) =
      (Answer.frame (Readable.poll b).1).dataBytes + Readable.dataUpTo (Readable.poll b).2 n := by
  rw [Readable.dataUpTo, Readable.readyUpTo, dataBytesOf_append, ← Readable.dataUpTo]
  congr 1
  cases (Readable.poll b).1 with
  | none => rfl
  | some p => rw [Option.toList_some, dataBytesOf_cons, Answer.dataBytes]; rfl

theorem Readable.dataUpTo_add (b : β) (n k : Nat) :
    Readable.dataUpTo b (n + k) = Readable.dataUpTo b n + Readable.dataUpTo (Readable.after b n) k := by
  induction n generalizing b with
  | zero => simp [Readable.dataUpTo, Readable.readyUpTo, dataBytesOf, Readable.after]
  | succ n ih =>
    rw [Nat.succ_add, Readable.dataUpTo_succ, Readable.dataUpTo_succ, ih, Nat.add_assoc]
    rfl

/-- Polls that all give the end carry no data. -/
theorem Readable.dataUpTo_of_done {b : β} {k : Nat} (h : ∀ i < k, Readable.pollAt b i = some .done) :
    Readable.dataUpTo b k = 0 := by
  induction k generalizing b with
  | zero => rfl
  | succ k ih =>
    have hfirst : (Readable.poll b).1 = some .done := h 0 (Nat.succ_pos k)
    rw [Readable.dataUpTo_succ, hfirst, ih fun i hi => h (i + 1) (Nat.succ_lt_succ hi)]
    rfl

theorem Readable.StopsFirstAt.of_succ {b : β} {n : Nat}
    (h : Readable.StopsFirstAt b (n + 1)) : Readable.StopsFirstAt (Readable.poll b).2 n :=
  ⟨fun i hi => h.1 (i + 1) (Nat.succ_lt_succ hi), h.2⟩

/-- A body that stops somewhere stops first somewhere. -/
theorem Readable.exists_stopsFirstAt {b : β} (h : ∃ n, stopsOn (Readable.pollAt b n) = true) :
    ∃ n, Readable.StopsFirstAt b n := by
  classical
  refine ⟨Nat.find h, fun i hi => ?_, Nat.find_spec h⟩
  simpa using Nat.find_min h hi

/-- The poll that stops a reading is the first error, if it is an error, and there is none before
it. -/
theorem Readable.firstError_readyUpTo {b : β} {n : Nat} (h : Readable.StopsFirstAt b n) :
    firstError (Readable.readyUpTo b (n + 1)) =
      match Readable.pollAt b n with
      | some (.error e) => some e
      | _ => none := by
  induction n generalizing b with
  | zero =>
    have hstop := h.2
    rw [Readable.pollAt_zero] at hstop ⊢
    simp only [Readable.readyUpTo, List.append_nil]
    generalize (Readable.poll b).1 = p at hstop ⊢
    rcases p with _ | (_ | e | _)
    · cases hstop
    · cases hstop
    · rfl
    · rfl
  | succ n ih =>
    have hfirst := h.1 0 (Nat.succ_pos n)
    rw [Readable.pollAt_zero] at hfirst
    rw [Readable.pollAt_succ, ← ih h.of_succ, Readable.readyUpTo]
    generalize (Readable.poll b).1 = p at hfirst ⊢
    rcases p with _ | (_ | e | _)
    · rfl
    · rfl
    · cases hfirst
    · cases hfirst

/-- The poll that stops a reading carries no data. -/
theorem Readable.dataUpTo_of_stopsFirstAt {b : β} {n : Nat} (h : Readable.StopsFirstAt b n) :
    Readable.dataUpTo b (n + 1) = Readable.dataUpTo b n := by
  have hstop : stopsOn (Readable.poll (Readable.after b n)).1 = true := h.2
  rw [Readable.dataUpTo_add, Readable.dataUpTo_succ]
  generalize (Readable.poll (Readable.after b n)).1 = p at hstop ⊢
  rcases p with _ | (_ | e | _)
  · cases hstop
  · cases hstop
  · rfl
  · rfl

/-- The polls among some calls. -/
def pollsIn : List Call → Nat
  | [] => 0
  | .pollFrame :: cs => pollsIn cs + 1
  | .isEndStream :: cs => pollsIn cs
  | .sizeHint :: cs => pollsIn cs

/-- Calls on a body leave it as their polls do, and pass on the data of those polls. -/
theorem Readable.answerAll_polls (b : β) (cs : List Call) :
    (Readable.answerAll b cs).2 = Readable.after b (pollsIn cs) ∧
      dataOfAnswers (Readable.answerAll b cs).1 = Readable.dataUpTo b (pollsIn cs) := by
  induction cs generalizing b with
  | nil => exact ⟨rfl, rfl⟩
  | cons c cs ih =>
    cases c with
    | pollFrame =>
      obtain ⟨hafter, hdata⟩ := ih (Readable.poll b).2
      refine ⟨hafter, ?_⟩
      rw [pollsIn, Readable.dataUpTo_succ, ← hdata]
      rfl
    | isEndStream | sizeHint =>
      -- these calls leave the body as it is and carry no data
      obtain ⟨hafter, hdata⟩ := ih b
      refine ⟨hafter, ?_⟩
      rw [pollsIn, ← hdata]
      simp only [Readable.answerAll, Readable.answer, dataOfAnswers_cons, Answer.dataBytes,
        Nat.zero_add]

/-- A body that keeps giving the end gives it at every poll from its first end on. -/
theorem Readable.KeepsEnded.done_of_le {b : β} (hkeep : Readable.KeepsEnded b) {e : Nat}
    (he : Readable.pollAt b e = some .done) : ∀ k, Readable.pollAt b (e + k) = some .done := by
  intro k
  induction k with
  | zero => exact he
  | succ k ih => exact hkeep (e + k) ih

end Polls

/-! ## Draining -/

section Drain

variable {β : Type} [Readable β]

/-- One round of the reading loop, in terms of the inner body's poll. -/
theorem Counted.drainWithin_succ (b : Counted β) (m : Cells) (fuel : Nat) :
    b.drainWithin (fuel + 1) m =
      match (Readable.poll b.inner).1 with
      | none => Counted.drainWithin fuel ⟨(Readable.poll b.inner).2, b.length⟩ m
      | some q =>
        if q.stops then some ([q], ⟨(Readable.poll b.inner).2, b.length⟩, b.length.add q.dataBytes m)
        else (Counted.drainWithin fuel ⟨(Readable.poll b.inner).2, b.length⟩
          (b.length.add q.dataBytes m)).map fun (ps, b, m) => (q :: ps, b, m) := by
  rw [Counted.drainWithin, Counted.poll_eq]
  cases (Readable.poll b.inner).1 with
  | none => simp only [Answer.dataBytes, BodyLength.add_zero]
  | some q => rfl

/-- Reading through the counting body from any point, with poll `n` of the inner body the first
to stop it: the reading ends after exactly `n + 1` polls, with what they gave once ready, the
inner body after them, and the cell grown by their data bytes. -/
theorem Counted.drainWithin_of_stopsFirstAt {b : Counted β} {n : Nat}
    (h : Readable.StopsFirstAt b.inner n) (m : Cells) (fuel : Nat) :
    b.drainWithin fuel m = if fuel ≤ n then none else
      some (Readable.readyUpTo b.inner (n + 1), ⟨Readable.after b.inner (n + 1), b.length⟩,
        b.length.add (Readable.dataUpTo b.inner (n + 1)) m) := by
  induction n generalizing b m fuel with
  | zero =>
    cases fuel with
    | zero => rfl
    | succ fuel =>
      -- the first poll stops the reading
      have hstop := h.2
      rw [Readable.pollAt_zero] at hstop
      rw [Counted.drainWithin_succ, if_neg (Nat.not_succ_le_zero fuel), Readable.dataUpTo_succ]
      cases hp : (Readable.poll b.inner).1 with
      | none => rw [hp] at hstop; cases hstop
      | some q =>
        rw [hp] at hstop
        simp only [stopsOn] at hstop
        simp only [hstop, if_true, Readable.readyUpTo, hp, Option.toList_some, List.append_nil,
          Answer.dataBytes, Readable.dataUpTo, dataBytesOf, List.foldl_nil, Nat.add_zero]
        rfl
  | succ n ih =>
    -- the first poll does not stop the reading; the rest starts one poll later
    have hfirst := h.1 0 (Nat.succ_pos n)
    rw [Readable.pollAt_zero] at hfirst
    cases fuel with
    | zero => rfl
    | succ fuel =>
      have hrest := ih (b := ⟨(Readable.poll b.inner).2, b.length⟩) h.of_succ
      rw [Counted.drainWithin_succ, Readable.dataUpTo_succ]
      cases hp : (Readable.poll b.inner).1 with
      | none =>
        simp only [hrest, Nat.succ_le_succ_iff, Readable.readyUpTo, hp, Option.toList_none,
          List.nil_append, Answer.dataBytes, Nat.zero_add]
        rfl
      | some q =>
        rw [hp] at hfirst
        simp only [stopsOn] at hfirst
        simp only [hfirst, Bool.false_eq_true, if_false, hrest, Nat.succ_le_succ_iff,
          Readable.readyUpTo, hp, Option.toList_some, Answer.dataBytes, BodyLength.add_add]
        split <;> rfl

/-- A reading that ends within some polls met a poll that stops it. -/
theorem Counted.stops_of_drainWithin {b : Counted β} {m : Cells} {fuel : Nat}
    (h : (b.drainWithin fuel m).isSome) : ∃ n, stopsOn (Readable.pollAt b.inner n) = true := by
  induction fuel generalizing b m with
  | zero => cases h
  | succ fuel ih =>
    rw [Counted.drainWithin_succ] at h
    cases hp : (Readable.poll b.inner).1 with
    | none =>
      rw [hp] at h
      obtain ⟨n, hn⟩ := ih h
      exact ⟨n + 1, hn⟩
    | some q =>
      rw [hp] at h
      dsimp only at h
      cases hq : q.stops
      · -- a frame: the reading goes on from the next poll
        rw [hq, if_neg Bool.false_ne_true, Option.isSome_map] at h
        obtain ⟨n, hn⟩ := ih h
        exact ⟨n + 1, hn⟩
      · exact ⟨0, by rw [Readable.pollAt_zero, hp]; exact hq⟩

/-- Closing from any point, with poll `n` of the inner body the first to stop the reading: it
takes `n + 1` polls, fails with the error of the last one if it is an error, and adds the data
bytes of the others. -/
theorem Counted.closeWithin_of_stopsFirstAt {b : Counted β} {n : Nat}
    (h : Readable.StopsFirstAt b.inner n) (m : Cells) {fuel : Nat} (hfuel : n < fuel) :
    b.closeWithin fuel m =
      some ((match Readable.pollAt b.inner n with
          | some (.error e) => .error e
          | _ => .ok ()), ⟨Readable.after b.inner (n + 1), b.length⟩,
        b.length.add (Readable.dataUpTo b.inner n) m) := by
  rw [Counted.closeWithin, Counted.drainWithin_of_stopsFirstAt h, if_neg (Nat.not_le.mpr hfuel),
    Option.map_some]
  dsimp only
  rw [Readable.firstError_readyUpTo h, Readable.dataUpTo_of_stopsFirstAt h]
  rcases Readable.pollAt b.inner n with _ | (_ | e | _) <;> rfl

/-- Collecting from any point: the same reading, returning the data bytes it read. -/
theorem Counted.collectWithin_of_stopsFirstAt {b : Counted β} {n : Nat}
    (h : Readable.StopsFirstAt b.inner n) (m : Cells) {fuel : Nat} (hfuel : n < fuel) :
    b.collectWithin fuel m =
      some ((match Readable.pollAt b.inner n with
          | some (.error e) => .error e
          | _ => .ok (Readable.dataUpTo b.inner n)), ⟨Readable.after b.inner (n + 1), b.length⟩,
        b.length.add (Readable.dataUpTo b.inner n) m) := by
  rw [Counted.collectWithin, Counted.drainWithin_of_stopsFirstAt h, if_neg (Nat.not_le.mpr hfuel),
    Option.map_some]
  dsimp only
  rw [Readable.firstError_readyUpTo h, ← Readable.dataUpTo, Readable.dataUpTo_of_stopsFirstAt h]
  rcases Readable.pollAt b.inner n with _ | (_ | e | _) <;> rfl

/-- Closing ends exactly when some poll of the inner body stops the reading. -/
theorem Counted.closeWithin_ends_iff (b : Counted β) (m : Cells) :
    (∃ fuel, (b.closeWithin fuel m).isSome) ↔ ∃ n, stopsOn (Readable.pollAt b.inner n) = true := by
  constructor
  · rintro ⟨fuel, hfuel⟩
    rw [Counted.closeWithin, Option.isSome_map] at hfuel
    exact Counted.stops_of_drainWithin hfuel
  · intro hstops
    obtain ⟨n, hn⟩ := Readable.exists_stopsFirstAt hstops
    exact ⟨n + 1, by rw [Counted.closeWithin_of_stopsFirstAt hn m (Nat.lt_succ_self n)]; rfl⟩

/-- Closing a body after any calls on it, when the body keeps giving the end once it has ended:
a close that succeeds leaves in the cell the data bytes of the whole body, up to its first end. -/
theorem Counted.closeWithin_whole {B : β} (hkeep : Readable.KeepsEnded B) (l : BodyLength)
    (m : Cells) (cs : List Call) {fuel : Nat} {b' : Counted β} {m' : Cells}
    (hclose : ((⟨B, l⟩ : Counted β).answerAll m cs).2.1.closeWithin fuel
      ((⟨B, l⟩ : Counted β).answerAll m cs).2.2 = some (.ok (), b', m')) :
    ∃ e, Readable.EndsFirstAt B e ∧
      (l.get m').toNat = wrapU64 ((l.get m).toNat + Readable.dataUpTo B e) := by
  classical
  obtain ⟨hafter, hdata⟩ := Readable.answerAll_polls B cs
  rw [Counted.answerAll_eq] at hclose
  dsimp only at hclose
  rw [hafter, hdata] at hclose
  generalize pollsIn cs = p at hclose
  -- the close starts where the calls left the body, and stops first at some poll `n` from there
  have hends : ∃ n, stopsOn (Readable.pollAt (Readable.after B p) n) = true :=
    (Counted.closeWithin_ends_iff ⟨Readable.after B p, l⟩ _).mp ⟨fuel, by rw [hclose]; rfl⟩
  obtain ⟨n, hn⟩ := Readable.exists_stopsFirstAt hends
  have hfuel : n < fuel := by
    have hsome := congrArg Option.isSome hclose
    rw [Counted.closeWithin, Option.isSome_map, Counted.drainWithin_of_stopsFirstAt hn] at hsome
    apply Nat.lt_of_not_le
    intro hle
    rw [if_pos hle] at hsome
    cases hsome
  rw [Counted.closeWithin_of_stopsFirstAt hn _ hfuel] at hclose
  simp only [Option.some.injEq, Prod.mk.injEq] at hclose
  obtain ⟨hres, -, hm'⟩ := hclose
  -- it succeeded, so the poll that stopped it gave the end
  have hdone : Readable.pollAt B (p + n) = some .done := by
    rw [← Readable.pollAt_after]
    have hstop := hn.2
    generalize Readable.pollAt (Readable.after B p) n = q at hstop hres ⊢
    rcases q with _ | (_ | e | _)
    · cases hstop
    · cases hstop
    · cases hres
    · rfl
  have hex : ∃ i, Readable.pollAt B i = some .done := ⟨p + n, hdone⟩
  refine ⟨Nat.find hex, ⟨Nat.find_spec hex, fun i hi => Nat.find_min hex hi⟩, ?_⟩
  have hle : Nat.find hex ≤ p + n := Nat.find_min' hex hdone
  -- from its first end on the body gives only the end, which carries no data
  have htail : Readable.dataUpTo (Readable.after B (Nat.find hex)) (p + n - Nat.find hex) = 0 := by
    apply Readable.dataUpTo_of_done
    intro i _
    rw [Readable.pollAt_after]
    exact hkeep.done_of_le (Nat.find_spec hex) i
  have hwhole : Readable.dataUpTo B p + Readable.dataUpTo (Readable.after B p) n =
      Readable.dataUpTo B (Nat.find hex) := by
    rw [← Readable.dataUpTo_add, ← Nat.add_sub_cancel' hle, Readable.dataUpTo_add, htail,
      Nat.add_zero]
  rw [← hm', BodyLength.add_add, BodyLength.toNat_get_add, hwhole]

end Drain

/-! ## The bodies built here end

A full, empty or chunked body gives the end or an error within as many polls as it has frames
and errors left, plus one, and keeps giving the end once it has. So every reading of one ends,
within the polls the driver of these bodies allows. -/

theorem Source.poll_of_done {s : Source} (h : s.poll.1 = .done) : s.poll.2 = s := by
  rcases s with (_ | n) | _ | ⟨_ | ⟨k, chunks⟩, trailers, error, hint, endStream⟩
  · rfl
  · cases h
  · rfl
  · cases trailers
    · cases error
      · rfl
      · cases h
    · cases h
  · cases h

/-- A poll that does not stop the reading takes one frame or error off what is left. -/
theorem Source.framesLeft_poll {s : Source} (h : s.poll.1.stops = false) :
    s.poll.2.framesLeft + 1 = s.framesLeft := by
  rcases s with (_ | n) | _ | ⟨_ | ⟨k, chunks⟩, trailers, error, hint, endStream⟩
  · cases h
  · rfl
  · cases h
  · cases trailers
    · cases error <;> cases h
    · simp [Source.poll, Source.framesLeft]
      omega
  · simp [Source.poll, Source.framesLeft]
    omega

theorem Source.keepsEnded (s : Source) : Readable.KeepsEnded s := by
  intro i hi
  have hdone : (Readable.after s i).poll.1 = .done := by
    change (some (Readable.after s i).poll.1) = some .done at hi
    exact Option.some.inj hi
  rw [Readable.pollAt, Readable.after_add]
  change (some ((Readable.after s i).poll.2.poll.1)) = some .done
  rw [Source.poll_of_done hdone, hdone]

/-- Some poll within as many as the body has frames and errors left stops a reading. -/
theorem Source.stops_within (s : Source) :
    ∃ n ≤ s.framesLeft, stopsOn (Readable.pollAt s n) = true := by
  induction hk : s.framesLeft generalizing s with
  | zero =>
    refine ⟨0, Nat.le_refl 0, ?_⟩
    cases hstops : s.poll.1.stops
    · have := Source.framesLeft_poll hstops
      omega
    · exact hstops
  | succ k ih =>
    cases hstops : s.poll.1.stops
    · obtain ⟨n, hn, hstop⟩ := ih s.poll.2 (by have := Source.framesLeft_poll hstops; omega)
      exact ⟨n + 1, Nat.succ_le_succ hn, hstop⟩
    · exact ⟨0, Nat.zero_le _, hstops⟩

/-- Closing a body built here ends within as many polls as it has frames and errors left, plus
one. -/
theorem Source.closeWithin_isSome (s : Source) (l : BodyLength) (m : Cells) :
    ((⟨s, l⟩ : Counted Source).closeWithin (s.framesLeft + 1) m).isSome := by
  classical
  obtain ⟨n, hn, hstop⟩ := Source.stops_within s
  have hex : ∃ i, stopsOn (Readable.pollAt s i) = true := ⟨n, hstop⟩
  obtain ⟨i, hi⟩ := Readable.exists_stopsFirstAt hex
  have hle : i ≤ n := by
    apply Nat.le_of_not_lt
    intro hlt
    rw [hi.1 n hlt] at hstop
    cases hstop
  rw [Counted.closeWithin_of_stopsFirstAt hi m (by omega)]
  rfl

/-! ## The law -/

/-- Closing drains the body and reports the first error. After any calls on a counting body,
closing it ends exactly when some later poll of the inner body gives the end or an error. With
poll `n` the first to do so, closing and collecting take `n + 1` polls and no more, fail with the
error of that poll if it is one and succeed otherwise, and grow the cell by the data bytes of the
polls before it, which collecting returns. When the body keeps giving the end once it has ended,
a close that succeeds leaves in the cell the data bytes of the whole body. -/
theorem Counted.close_drains {β : Type} [Readable β] (B : β) (l : BodyLength) (m : Cells)
    (cs : List Call) :
    let run := (⟨B, l⟩ : Counted β).answerAll m cs
    ((∃ fuel, (run.2.1.closeWithin fuel run.2.2).isSome) ↔
      ∃ n, stopsOn (Readable.pollAt run.2.1.inner n) = true) ∧
    (∀ n, Readable.StopsFirstAt run.2.1.inner n → ∀ fuel, n < fuel →
      run.2.1.closeWithin fuel run.2.2 =
        some ((match Readable.pollAt run.2.1.inner n with
            | some (.error e) => .error e
            | _ => .ok ()), ⟨Readable.after run.2.1.inner (n + 1), l⟩,
          l.add (Readable.dataUpTo run.2.1.inner n) run.2.2) ∧
      run.2.1.collectWithin fuel run.2.2 =
        some ((match Readable.pollAt run.2.1.inner n with
            | some (.error e) => .error e
            | _ => .ok (Readable.dataUpTo run.2.1.inner n)), ⟨Readable.after run.2.1.inner (n + 1), l⟩,
          l.add (Readable.dataUpTo run.2.1.inner n) run.2.2)) ∧
    (Readable.KeepsEnded B → ∀ fuel b' m', run.2.1.closeWithin fuel run.2.2 = some (.ok (), b', m') →
      ∃ e, Readable.EndsFirstAt B e ∧
        (l.get m').toNat = wrapU64 ((l.get m).toNat + Readable.dataUpTo B e)) := by
  intro run
  -- the calls keep the handle
  have hlength : run.2.1.length = l := by
    simp only [run, Counted.answerAll_eq]
  refine ⟨Counted.closeWithin_ends_iff _ _, fun n hn fuel hfuel => ?_,
    fun hkeep fuel b' m' hclose => Counted.closeWithin_whole hkeep l m cs hclose⟩
  rw [← hlength]
  exact ⟨Counted.closeWithin_of_stopsFirstAt hn _ hfuel, Counted.collectWithin_of_stopsFirstAt hn _ hfuel⟩

/- Chunks of 3, 4 and 2 bytes, one of them read before closing: the close reads the other two and
the cell ends at 9. Chunks of 3 and 2 bytes, then an error: the close fails with it, at 5. -/
example : (let (_, b, m) := (⟨.chunks ⟨[3, 4, 2], false, none, none, false⟩, ⟨0⟩⟩ :
      Counted Source).answerAll Cells.empty [.pollFrame]
    (b.closeWithin 4 m).map fun (r, b, m) => (r, (b.length.get m).toNat)) = some (.ok (), 9) := by
  decide

example : ((⟨.chunks ⟨[3, 2], false, some "connection reset", none, false⟩, ⟨0⟩⟩ :
      Counted Source).closeWithin 4 Cells.empty).map (fun (r, b, m) => (r, (b.length.get m).toNat)) =
    some (.error "connection reset", 5) := by
  decide

end HttpTelemetry.Body
