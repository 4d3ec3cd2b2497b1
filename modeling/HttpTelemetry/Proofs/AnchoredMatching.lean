import HttpTelemetry.Pattern.Match
/-!
# Matching anchored sequences

The patterns of route templates mean sequences of literals and of greedy repetitions of a class,
held between a look for the start and a look for the end of the text. On such a sequence the
matcher does what the sequence says: it accepts a text exactly when the text spells the sequence
(`Spells`).

The matcher keeps continuations, the lists of expressions still to match after the characters
read so far. Here every continuation is a plain sequence followed by the look for the end. Reading
a character moves into a literal, stays in a repetition, or leaves a repetition that may stop; no
continuation can end before the end of the text. The attempts that begin after the first
character die at once, on the look for the start.
-/

namespace HttpTelemetry.Pattern

open HttpTelemetry.Unicode

/-! ## Equality of expressions -/

mutual
theorem Hir.eq_of_beq : (a b : Hir) → a.beq b = true → a = b
  | .repetition m n g s, b, h => by
    cases b with
    | repetition m' n' g' s' =>
      simp only [Hir.beq, Bool.and_eq_true, beq_iff_eq] at h
      obtain ⟨⟨⟨rfl, rfl⟩, rfl⟩, hs⟩ := h
      rw [Hir.eq_of_beq s s' hs]
    | _ => simp [Hir.beq] at h
  | .capture i n s, b, h => by
    cases b with
    | capture i' n' s' =>
      simp only [Hir.beq, Bool.and_eq_true, beq_iff_eq] at h
      obtain ⟨⟨rfl, rfl⟩, hs⟩ := h
      rw [Hir.eq_of_beq s s' hs]
    | _ => simp [Hir.beq] at h
  | .concat xs, b, h => by
    cases b with
    | concat ys => rw [Hir.eqAll_of_beqAll xs ys h]
    | _ => simp [Hir.beq] at h
  | .alternation xs, b, h => by
    cases b with
    | alternation ys => rw [Hir.eqAll_of_beqAll xs ys h]
    | _ => simp [Hir.beq] at h
  | .empty, b, h | .literal _, b, h | .cls _, b, h | .look _, b, h => by
    cases b <;> simp_all [Hir.beq]

theorem Hir.eqAll_of_beqAll : (xs ys : List Hir) → Hir.beqAll xs ys = true → xs = ys
  | [], [], _ => rfl
  | x :: xs, y :: ys, h => by
    simp only [Hir.beqAll, Bool.and_eq_true] at h
    rw [Hir.eq_of_beq x y h.1, Hir.eqAll_of_beqAll xs ys h.2]
  | [], _ :: _, h | _ :: _, [], h => by simp [Hir.beqAll] at h
end

mutual
theorem Hir.beq_self : (a : Hir) → a.beq a = true
  | .repetition _ _ _ s => by simp [Hir.beq, Hir.beq_self s]
  | .capture _ _ s => by simp [Hir.beq, Hir.beq_self s]
  | .concat xs => by simp [Hir.beq, Hir.beqAll_self xs]
  | .alternation xs => by simp [Hir.beq, Hir.beqAll_self xs]
  | .empty | .literal _ | .cls _ | .look _ => by simp [Hir.beq]

theorem Hir.beqAll_self : (xs : List Hir) → Hir.beqAll xs xs = true
  | [] => rfl
  | x :: xs => by simp [Hir.beqAll, Hir.beq_self x, Hir.beqAll_self xs]
end

/-- Structural equality of expressions is equality, so dropping repeated continuations keeps
exactly the continuations there were. -/
instance : LawfulBEq Hir where
  eq_of_beq h := Hir.eq_of_beq _ _ h
  rfl := Hir.beq_self _

/-! ## Plain sequences and what they spell -/

/-- The expressions of a plain sequence: a non-empty literal, or a greedy repetition of a class
with no upper bound and at most one required pass. -/
inductive Hir.Plain : Hir → Prop
  | literal (c : Char) (cs : List Char) : Hir.Plain (.literal (c :: cs))
  | repetition (min : Nat) (s : RangeSet) (h : min ≤ 1) :
      Hir.Plain (.repetition min none true (.cls s))

/-- The texts a sequence of literals and class repetitions spells: a literal spells itself, a
repetition of a class at least `min` times spells at least `min` members of the class. -/
inductive Spells : List Hir → List Char → Prop
  | nil : Spells [] []
  | literal {cs : List Char} {k : List Hir} {w : List Char} :
      Spells k w → Spells (.literal cs :: k) (cs ++ w)
  | repetition {min : Nat} {s : RangeSet} {u : List Char} {k : List Hir} {w : List Char} :
      min ≤ u.length → (∀ c ∈ u, s.contains c.toNat = true) → Spells k w →
      Spells (.repetition min none true (.cls s) :: k) (u ++ w)

theorem spells_nil_iff {w : List Char} : Spells [] w ↔ w = [] := by
  constructor
  · rintro ⟨⟩
    rfl
  · rintro rfl
    exact .nil

theorem spells_literal_iff {cs : List Char} {k : List Hir} {w : List Char} :
    Spells (.literal cs :: k) w ↔ ∃ v, w = cs ++ v ∧ Spells k v := by
  constructor
  · rintro ⟨⟩
    exact ⟨_, rfl, ‹_›⟩
  · rintro ⟨v, rfl, hv⟩
    exact .literal hv

theorem spells_repetition_iff {min : Nat} {s : RangeSet} {k : List Hir} {w : List Char} :
    Spells (.repetition min none true (.cls s) :: k) w ↔
      ∃ u v, w = u ++ v ∧ min ≤ u.length ∧ (∀ c ∈ u, s.contains c.toNat = true) ∧ Spells k v := by
  constructor
  · rintro ⟨⟩
    exact ⟨_, _, rfl, ‹_›, ‹_›, ‹_›⟩
  · rintro ⟨u, v, rfl, hmin, hu, hv⟩
    exact .repetition hmin hu hv

theorem spells_literal_append {a b : List Char} {k : List Hir} {w : List Char} :
    Spells (.literal (a ++ b) :: k) w ↔ Spells (.literal a :: .literal b :: k) w := by
  simp only [spells_literal_iff]
  constructor
  · rintro ⟨v, rfl, hv⟩
    exact ⟨b ++ v, by simp, v, rfl, hv⟩
  · rintro ⟨v', rfl, v, rfl, hv⟩
    exact ⟨v, by simp, hv⟩

theorem spells_cons_congr {x : Hir} {k k' : List Hir} (h : ∀ v, Spells k v ↔ Spells k' v)
    (w : List Char) : Spells (x :: k) w ↔ Spells (x :: k') w := by
  constructor
  · rintro (_ | ⟨hk⟩ | ⟨hmin, hu, hk⟩)
    · exact .literal ((h _).mp hk)
    · exact .repetition hmin hu ((h _).mp hk)
  · rintro (_ | ⟨hk⟩ | ⟨hmin, hu, hk⟩)
    · exact .literal ((h _).mpr hk)
    · exact .repetition hmin hu ((h _).mpr hk)

/-! ## One step of the matcher

A continuation of an anchored plain sequence is a plain sequence followed by the look for the
end. It can stop only at the end of the text, and reading a character leaves continuations of the
same form: those of the texts the sequence spells that begin with the character.
-/

section Step

variable {a : Around} {c : Char}

@[simp] theorem nullableAll_finish (a : Around) :
    Hir.nullableAll a [.look .finish] = a.after.isNone := by
  simp [Hir.nullableAll, Hir.nullable, Look.holds]

theorem nullableAll_literal_cons (a : Around) (d : Char) (ds : List Char) (k : List Hir) :
    Hir.nullableAll a (.literal (d :: ds) :: k) = false := by
  simp [Hir.nullableAll, Hir.nullable]

theorem nullableAll_repetition_cons (a : Around) (min : Nat) (s : RangeSet) (k : List Hir) :
    Hir.nullableAll a (.repetition min none true (.cls s) :: k) =
      (min == 0 && Hir.nullableAll a k) := by
  simp [Hir.nullableAll, Hir.nullable]

theorem stepSeq_finish (ha : a.after = some c) : Hir.stepSeq a c [.look .finish] = [] := by
  simp [Hir.stepSeq, Hir.step, Hir.nullable, Look.holds, ha]

theorem stepSeq_literal_cons (a : Around) (c d : Char) (ds : List Char) (k : List Hir) :
    Hir.stepSeq a c (.literal (d :: ds) :: k) =
      if d = c then [(if ds.isEmpty then [] else [.literal ds]) ++ k] else [] := by
  by_cases hd : d = c <;> simp [Hir.stepSeq, Hir.step, Hir.nullable, hd]

theorem stepSeq_repetition_cons (a : Around) (c : Char) (min : Nat) (s : RangeSet)
    (k : List Hir) :
    Hir.stepSeq a c (.repetition min none true (.cls s) :: k) =
      (if s.contains c.toNat then [.repetition (min - 1) none true (.cls s) :: k] else []) ++
        (if min = 0 then Hir.stepSeq a c k else []) := by
  cases min <;> by_cases hs : s.contains c.toNat <;>
    simp [Hir.stepSeq, Hir.step, Hir.nullable, stepRepetition, hs]

/-- A continuation stops exactly at the end of the text, when its sequence spells the empty
text. -/
theorem nullableAll_continuation {k : List Hir} (hk : ∀ x ∈ k, x.Plain) :
    Hir.nullableAll a (k ++ [.look .finish]) = true ↔ a.after = none ∧ Spells k [] := by
  induction k with
  | nil => simp [spells_nil_iff]
  | cons x k ih =>
    obtain ⟨hx, hrest⟩ := List.forall_mem_cons.mp hk
    cases hx with
    | literal d ds => simp [nullableAll_literal_cons, spells_literal_iff]
    | repetition min s _ =>
      rw [List.cons_append, nullableAll_repetition_cons, spells_repetition_iff]
      simp only [Bool.and_eq_true, beq_iff_eq, ih hrest, List.nil_eq_append_iff]
      constructor
      · rintro ⟨rfl, hn, hk⟩
        exact ⟨hn, [], [], ⟨rfl, rfl⟩, Nat.le_refl 0, by simp, hk⟩
      · rintro ⟨hn, u, v, ⟨rfl, rfl⟩, hmin, -, hk⟩
        exact ⟨by simpa using hmin, hn, hk⟩

theorem spells_literal_cons_cons {d c : Char} {ds w : List Char} {k : List Hir} :
    Spells (.literal (d :: ds) :: k) (c :: w) ↔
      d = c ∧ Spells ((if ds.isEmpty then [] else [.literal ds]) ++ k) w := by
  rw [spells_literal_iff]
  constructor
  · rintro ⟨v, hv, hk⟩
    simp only [List.cons_append, List.cons.injEq] at hv
    obtain ⟨rfl, rfl⟩ := hv
    cases ds with
    | nil => exact ⟨rfl, hk⟩
    | cons e es => exact ⟨rfl, .literal hk⟩
  · rintro ⟨rfl, hk⟩
    cases ds with
    | nil => exact ⟨w, rfl, hk⟩
    | cons e es =>
      obtain ⟨v, rfl, hv⟩ := spells_literal_iff.mp hk
      exact ⟨v, rfl, hv⟩

/-- What a repetition spells from its first character: the character is one more pass, or the
repetition may stop before it. -/
theorem spells_repetition_cons {min : Nat} {s : RangeSet} {k : List Hir} {c : Char}
    {w : List Char} :
    Spells (.repetition min none true (.cls s) :: k) (c :: w) ↔
      (s.contains c.toNat = true ∧ Spells (.repetition (min - 1) none true (.cls s) :: k) w) ∨
        (min = 0 ∧ Spells k (c :: w)) := by
  simp only [spells_repetition_iff]
  constructor
  · rintro ⟨u, v, huv, hmin, hu, hv⟩
    cases u with
    | nil =>
      simp only [List.nil_append] at huv
      subst huv
      exact Or.inr ⟨by simpa using hmin, hv⟩
    | cons e u =>
      simp only [List.cons_append, List.cons.injEq] at huv
      obtain ⟨rfl, rfl⟩ := huv
      obtain ⟨hc, hu⟩ := List.forall_mem_cons.mp hu
      refine Or.inl ⟨hc, u, v, rfl, ?_, hu, hv⟩
      simp only [List.length_cons] at hmin
      omega
  · rintro (⟨hc, u, v, rfl, hmin, hu, hv⟩ | ⟨rfl, hk⟩)
    · refine ⟨c :: u, v, rfl, ?_, ?_, hv⟩
      · simp only [List.length_cons]
        omega
      · exact List.forall_mem_cons.mpr ⟨hc, hu⟩
    · exact ⟨[], c :: w, rfl, Nat.le_refl 0, by simp, hk⟩

theorem stepSeq_continuation_plain {k : List Hir} (hk : ∀ x ∈ k, x.Plain) (ha : a.after = some c) :
    ∀ k' ∈ Hir.stepSeq a c (k ++ [.look .finish]),
      ∃ j, k' = j ++ [.look .finish] ∧ ∀ x ∈ j, x.Plain := by
  induction k with
  | nil => simp [stepSeq_finish ha]
  | cons x k ih =>
    obtain ⟨hx, hrest⟩ := List.forall_mem_cons.mp hk
    intro k' hk'
    cases hx with
    | literal d ds =>
      rw [List.cons_append, stepSeq_literal_cons] at hk'
      split at hk'
      · rw [List.mem_singleton] at hk'
        subst hk'
        cases ds with
        | nil => exact ⟨k, by simp, hrest⟩
        | cons e es =>
          exact ⟨.literal (e :: es) :: k, by simp, List.forall_mem_cons.mpr ⟨.literal e es, hrest⟩⟩
      · simp at hk'
    | repetition min s hmin =>
      rw [List.cons_append, stepSeq_repetition_cons, List.mem_append] at hk'
      rcases hk' with hk' | hk'
      · split at hk'
        · rw [List.mem_singleton] at hk'
          subst hk'
          refine ⟨.repetition (min - 1) none true (.cls s) :: k, by simp, ?_⟩
          exact List.forall_mem_cons.mpr ⟨.repetition (min - 1) s (by omega), hrest⟩
        · simp at hk'
      · split at hk'
        · exact ih hrest k' hk'
        · simp at hk'

theorem append_singleton_eq_cons_append {α : Type} {j k : List α} {x y : α} :
    j ++ [x] = y :: (k ++ [x]) ↔ j = y :: k := by
  rw [← List.cons_append, List.append_left_inj]

/-- Reading one character: a plain sequence spells `c :: w` exactly when one of its
continuations after `c` spells `w`. -/
theorem spells_cons_iff_stepSeq {k : List Hir} (hk : ∀ x ∈ k, x.Plain) (ha : a.after = some c)
    (w : List Char) :
    Spells k (c :: w) ↔ ∃ j, j ++ [.look .finish] ∈ Hir.stepSeq a c (k ++ [.look .finish]) ∧
      Spells j w := by
  induction k generalizing w with
  | nil => simp [stepSeq_finish ha, spells_nil_iff]
  | cons x k ih =>
    obtain ⟨hx, hrest⟩ := List.forall_mem_cons.mp hk
    cases hx with
    | literal d ds =>
      rw [spells_literal_cons_cons, List.cons_append, stepSeq_literal_cons]
      by_cases hd : d = c
      · simp only [hd, if_true, true_and, List.mem_singleton, ← List.append_assoc,
          List.append_left_inj, exists_eq_left]
      · simp [hd]
    | repetition min s _ =>
      rw [spells_repetition_cons, List.cons_append, stepSeq_repetition_cons, ih hrest]
      by_cases hs : s.contains c.toNat = true <;> by_cases hmin : min = 0 <;>
        simp [hs, hmin, append_singleton_eq_cons_append]

end Step

/-! ## The search -/

/-- The continuations the matcher keeps on an anchored plain sequence. -/
def Continuations (states : List (List Hir)) : Prop :=
  ∀ k ∈ states, ∃ j, k = j ++ [.look .finish] ∧ ∀ x ∈ j, x.Plain

theorem Continuations.plain {states : List (List Hir)} (hs : Continuations states)
    {j : List Hir} (hj : j ++ [.look .finish] ∈ states) : ∀ x ∈ j, x.Plain := by
  obtain ⟨j', hj', hp⟩ := hs _ hj
  rw [List.append_left_inj] at hj'
  exact hj' ▸ hp

section Search

variable {ys : List Hir}

theorem nullableAll_late_attempt (b : Char) (after : Option Char) :
    Hir.nullableAll ⟨some b, after⟩ [.concat (.look .start :: ys)] = false := by
  simp [Hir.nullableAll, Hir.nullable, Look.holds]

theorem stepSeq_late_attempt (b c : Char) (after : Option Char) :
    Hir.stepSeq ⟨some b, after⟩ c [.concat (.look .start :: ys)] = [] := by
  -- the last branch is empty either way; its condition is left as the unfolding gives it
  rw [Hir.stepSeq, Hir.stepSeq, ite_self]
  simp [Hir.step, Hir.stepSeq, Hir.nullable, Look.holds]

/-- After the first character, the search accepts the rest of the text exactly when one of the
continuations spells it. Induction on the rest of the text; the continuations keep their form
from one character to the next. -/
theorem searchFrom_continuations (states : List (List Hir)) (hs : Continuations states)
    (b : Char) (w : List Char) :
    (Hir.concat (.look .start :: ys)).searchFrom states (some b) w = true ↔
      ∃ j, j ++ [.look .finish] ∈ states ∧ Spells j w := by
  induction w generalizing states b with
  | nil =>
    simp only [Hir.searchFrom, List.any_cons, nullableAll_late_attempt, Bool.false_or,
      List.any_eq_true]
    constructor
    · rintro ⟨k, hk, hn⟩
      obtain ⟨j, rfl, hj⟩ := hs k hk
      exact ⟨j, hk, ((nullableAll_continuation hj).mp hn).2⟩
    · rintro ⟨j, hj, hw⟩
      exact ⟨_, hj, (nullableAll_continuation (hs.plain hj)).mpr ⟨rfl, hw⟩⟩
  | cons c w ih =>
    have hstop : states.any (Hir.nullableAll ⟨some b, some c⟩) = false := by
      rw [List.any_eq_false]
      intro k hk hn
      obtain ⟨j, rfl, hj⟩ := hs k hk
      exact Option.some_ne_none c ((nullableAll_continuation hj).mp hn).1
    have hnext : Continuations
        (states.flatMap (Hir.stepSeq ⟨some b, some c⟩ c)).eraseDups := by
      intro k' hk'
      obtain ⟨k, hk, hk'⟩ := List.mem_flatMap.mp (List.mem_eraseDups.mp hk')
      obtain ⟨j, rfl, hj⟩ := hs k hk
      exact stepSeq_continuation_plain hj rfl k' hk'
    simp only [Hir.searchFrom, List.any_cons, nullableAll_late_attempt, Bool.false_or, hstop,
      List.flatMap_cons, stepSeq_late_attempt, List.nil_append]
    rw [ih _ hnext]
    simp only [List.mem_eraseDups, List.mem_flatMap]
    constructor
    · rintro ⟨j, ⟨k, hk, hj⟩, hw⟩
      obtain ⟨j₀, rfl, hj₀⟩ := hs k hk
      exact ⟨j₀, hk, (spells_cons_iff_stepSeq (a := ⟨some b, some c⟩) hj₀ rfl w).mpr ⟨j, hj, hw⟩⟩
    · rintro ⟨j₀, hj₀, hw⟩
      obtain ⟨j, hj, hw⟩ :=
        (spells_cons_iff_stepSeq (a := ⟨some b, some c⟩) (hs.plain hj₀) rfl w).mp hw
      exact ⟨j, ⟨_, hj₀, hj⟩, hw⟩

/-- A plain sequence between the looks for the start and the end of the text matches exactly
the texts it spells. -/
theorem matches_anchored (hys : ∀ y ∈ ys, y.Plain) (s : String) :
    (Hir.concat (.look .start :: (ys ++ [.look .finish]))).matches s = true ↔
      Spells ys s.toList := by
  unfold Hir.matches
  cases s.toList with
  | nil =>
    simp [Hir.searchFrom, Hir.nullableAll, Hir.nullable, Look.holds, nullableAll_continuation hys]
  | cons c w =>
    -- the attempt at the first position cannot stop before the text ends
    have hstop : Hir.nullableAll ⟨none, some c⟩
        [.concat (.look .start :: (ys ++ [.look .finish]))] = false := by
      have h : Hir.nullableAll ⟨none, some c⟩ (ys ++ [.look .finish]) ≠ true := fun hn =>
        Option.some_ne_none c ((nullableAll_continuation hys).mp hn).1
      simpa [Hir.nullableAll, Hir.nullable, Look.holds] using h
    -- and its continuations after the first character are those of the sequence
    have hstep : Hir.stepSeq ⟨none, some c⟩ c
        [.concat (.look .start :: (ys ++ [.look .finish]))] =
          Hir.stepSeq ⟨none, some c⟩ c (ys ++ [.look .finish]) := by
      rw [Hir.stepSeq, Hir.stepSeq, ite_self]
      simp [Hir.step, Hir.stepSeq, Hir.nullable, Look.holds]
    have hnext : Continuations (Hir.stepSeq ⟨none, some c⟩ c (ys ++ [.look .finish])).eraseDups :=
      fun k hk => stepSeq_continuation_plain hys rfl k (List.mem_eraseDups.mp hk)
    simp only [Hir.searchFrom, List.any_cons, List.any_nil, Bool.or_false, hstop, Bool.false_or,
      List.flatMap_cons, List.flatMap_nil, List.append_nil, hstep]
    rw [searchFrom_continuations _ hnext, spells_cons_iff_stepSeq (a := ⟨none, some c⟩) hys rfl]
    simp only [List.mem_eraseDups]

end Search

/-! ## Flattening and merging sequences

`Hir.mkConcat` flattens the sequences among its items and merges adjacent literals. Merging
keeps what a plain sequence spells, so the anchored sequence built for a plain sequence is again
a plain sequence between the two looks, spelling the same texts.
-/

def Hir.flatItems : Hir → List Hir
  | .concat inner => inner
  | .empty => []
  | h => [h]

/-- Puts an expression in front of a merged sequence, joining two adjacent literals. -/
def Hir.joinLiteral (h : Hir) (acc : List Hir) : List Hir :=
  match h, acc with
  | .literal a, .literal b :: rest => .literal (a ++ b) :: rest
  | _, _ => h :: acc

def Hir.ofItems : List Hir → Hir
  | [] => .empty
  | [h] => h
  | hs => .concat hs

theorem Hir.mkConcat_eq (items : List Hir) :
    Hir.mkConcat items = Hir.ofItems ((items.flatMap Hir.flatItems).foldr Hir.joinLiteral []) :=
  rfl

theorem Hir.Plain.flatItems {x : Hir} (hx : x.Plain) : x.flatItems = [x] := by
  cases hx <;> rfl

theorem flatMap_flatItems {xs : List Hir} (hxs : ∀ x ∈ xs, x.Plain) :
    xs.flatMap Hir.flatItems = xs := by
  induction xs with
  | nil => rfl
  | cons x xs ih =>
    obtain ⟨hx, hrest⟩ := List.forall_mem_cons.mp hxs
    rw [List.flatMap_cons, hx.flatItems, ih hrest]
    rfl

theorem flatItems_ofItems {xs : List Hir} (hxs : ∀ x ∈ xs, x.Plain) :
    (Hir.ofItems xs).flatItems = xs := by
  match xs, hxs with
  | [], _ => rfl
  | [x], hxs => exact (List.forall_mem_singleton.mp hxs).flatItems
  | _ :: _ :: _, _ => rfl

theorem Hir.joinLiteral_cons {x : Hir} {acc : List Hir}
    (h : ∀ a b rest, x = .literal a → acc ≠ .literal b :: rest) :
    Hir.joinLiteral x acc = x :: acc := by
  unfold Hir.joinLiteral
  split
  · exact absurd rfl (h _ _ _ rfl)
  · rfl

/-- Merging the literals of a plain sequence in front of a tail that does not begin with a
literal gives a plain sequence that spells the same texts, followed by the tail. Induction on the
sequence, merged from its end. -/
theorem foldr_joinLiteral {zs : List Hir} (hzs : ∀ z ∈ zs, z.Plain) (tail : List Hir)
    (htail : ∀ b rest, tail ≠ .literal b :: rest) :
    ∃ ys, zs.foldr Hir.joinLiteral tail = ys ++ tail ∧ (∀ y ∈ ys, y.Plain) ∧
      ∀ w, Spells ys w ↔ Spells zs w := by
  induction zs with
  | nil => exact ⟨[], rfl, by simp, fun _ => Iff.rfl⟩
  | cons z zs ih =>
    obtain ⟨hz, hrest⟩ := List.forall_mem_cons.mp hzs
    obtain ⟨ys, hfold, hys, hspells⟩ := ih hrest
    rw [List.foldr_cons, hfold]
    -- the item in front stays apart unless it and the merged sequence both begin with a literal
    have hcons : (∀ a b rest, z = .literal a → ys ++ tail ≠ .literal b :: rest) →
        ∃ ys', Hir.joinLiteral z (ys ++ tail) = ys' ++ tail ∧ (∀ y ∈ ys', y.Plain) ∧
          ∀ w, Spells ys' w ↔ Spells (z :: zs) w := fun h =>
      ⟨z :: ys, Hir.joinLiteral_cons h, List.forall_mem_cons.mpr ⟨hz, hys⟩,
        spells_cons_congr hspells⟩
    cases hz with
    | repetition min s _ => exact hcons fun _ _ _ h => nomatch h
    | literal c cs =>
      cases ys with
      | nil => exact hcons fun _ b rest _ h => htail b rest h
      | cons y ys =>
        obtain ⟨hy, hys'⟩ := List.forall_mem_cons.mp hys
        cases hy with
        | repetition min s _ => exact hcons fun _ _ _ _ h => nomatch h
        | literal d ds =>
          refine ⟨.literal ((c :: cs) ++ (d :: ds)) :: ys, rfl, ?_, fun w => ?_⟩
          · exact List.forall_mem_cons.mpr ⟨.literal c (cs ++ d :: ds), hys'⟩
          · rw [spells_literal_append]
            exact spells_cons_congr hspells w

/-- The anchored sequence built around a plain sequence is a plain sequence spelling the same
texts, between the looks for the start and the end of the text. -/
theorem mkConcat_anchored {hs : List Hir} (hhs : ∀ h ∈ hs, h.Plain) :
    ∃ ys, Hir.mkConcat [.look .start, Hir.mkConcat hs, .look .finish] =
        .concat (.look .start :: (ys ++ [.look .finish])) ∧ (∀ y ∈ ys, y.Plain) ∧
      ∀ w, Spells ys w ↔ Spells hs w := by
  -- the inner sequence merges its literals
  obtain ⟨xs, hinner, hxs, hxspells⟩ :=
    foldr_joinLiteral hhs [] fun _ _ h => nomatch h
  rw [List.append_nil] at hinner
  -- the outer one flattens it between the looks and merges nothing more
  obtain ⟨ys, houter, hys, hyspells⟩ :=
    foldr_joinLiteral hxs [.look .finish] fun _ _ h => nomatch h
  refine ⟨ys, ?_, hys, fun w => (hyspells w).trans (hxspells w)⟩
  have hflat : [.look .start, Hir.mkConcat hs, .look .finish].flatMap Hir.flatItems =
      .look .start :: (xs ++ [.look .finish]) := by
    rw [Hir.mkConcat_eq, flatMap_flatItems hhs, hinner]
    simp only [List.flatMap_cons, List.flatMap_nil, flatItems_ofItems hxs]
    rfl
  rw [Hir.mkConcat_eq, hflat, List.foldr_cons, List.foldr_append]
  rw [show [Hir.look .finish].foldr Hir.joinLiteral [] = [.look .finish] from rfl, houter]
  cases ys <;> rfl

/-- What the anchored sequence of a plain sequence matches: exactly the texts the sequence
spells. -/
theorem matches_mkConcat_anchored {hs : List Hir} (hhs : ∀ h ∈ hs, h.Plain) (s : String) :
    (Hir.mkConcat [.look .start, Hir.mkConcat hs, .look .finish]).matches s = true ↔
      Spells hs s.toList := by
  obtain ⟨ys, hmk, hys, hspells⟩ := mkConcat_anchored hhs
  rw [hmk, matches_anchored hys, hspells]

end HttpTelemetry.Pattern
