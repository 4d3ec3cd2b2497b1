import Mathlib
/-!
# The order of floats

Floats compare by the IEEE rules: a NaN is neither below nor above anything, the two zeros are
equal, and every other value has its place between the two infinities. On the unpacked form of
a float (sign, mantissa, exponent) that order is lexicographic on a key of integers: first the
class of the value (negative infinity, negative finite values, the zeros, positive finite
values, positive infinity), then, for a finite value, its exponent and its mantissa, both
negated when the value is negative. So `<` on floats is transitive and irreflexive, and `≤`
is followed by `<` as on lists of integers; the bucket lemmas use nothing more.
-/

namespace HttpTelemetry.FloatOrder

open Float.Model

/-- The key of an unpacked float in the IEEE order; a NaN has none. -/
def orderKey : UnpackedFloat → Option (List Int)
  | .notANumber => none
  | .infinity .negative => some [0]
  | .finite .negative m e _ => some [1, -e, -m]
  | .zero _ => some [2]
  | .finite .positive m e _ => some [3, e, m]
  | .infinity .positive => some [4]

theorem compare_negative_positive :
    compare UnpackedFloat.Sign.negative UnpackedFloat.Sign.positive = .lt := rfl

theorem compare_positive_negative :
    compare UnpackedFloat.Sign.positive UnpackedFloat.Sign.negative = .gt := rfl

/-- The unpacked order is the order of keys. The finite values of one sign are the only case
with an argument: their comparison is exponent first, then mantissa, reversed when negative. -/
theorem lt_iff_orderKey {a b : UnpackedFloat} :
    a.lt b = true ↔ ∃ x y, orderKey a = some x ∧ orderKey b = some y ∧ x < y := by
  rcases a with ⟨⟨⟩⟩ | _ | ⟨⟨⟩⟩ | ⟨⟨⟩, m₁, e₁, -⟩ <;>
    rcases b with ⟨⟨⟩⟩ | _ | ⟨⟨⟩⟩ | ⟨⟨⟩, m₂, e₂, -⟩ <;>
    simp [UnpackedFloat.lt, UnpackedFloat.compare, orderKey, List.cons_lt_cons_iff,
      Ordering.then_eq_lt, Ordering.swap_eq_lt, Ordering.then_eq_gt, Int.compare_eq_lt,
      Int.compare_eq_gt, Nat.compare_eq_lt, Nat.compare_eq_gt, compare_negative_positive]

theorem compare_sign_self (s : UnpackedFloat.Sign) : compare s s = .eq := by
  cases s <;> rfl

/-- At most is below or equal: `le` accepts exactly the comparisons `lt` and `eq`. -/
theorem le_iff_lt_or_compare_eq (a b : UnpackedFloat) :
    a.le b = true ↔ a.lt b = true ∨ a.compare b = some .eq := by
  unfold UnpackedFloat.le UnpackedFloat.lt
  cases a.compare b with
  | none => simp
  | some o => cases o <;> simp

/-- Two values compare equal exactly when they have one key: the zeros of both signs share
theirs. -/
theorem compare_eq_iff_orderKey {a b : UnpackedFloat} :
    a.compare b = some .eq ↔ ∃ x, orderKey a = some x ∧ orderKey b = some x := by
  rcases a with ⟨⟨⟩⟩ | _ | ⟨⟨⟩⟩ | ⟨⟨⟩, m₁, e₁, -⟩ <;>
    rcases b with ⟨⟨⟩⟩ | _ | ⟨⟨⟩⟩ | ⟨⟨⟩, m₂, e₂, -⟩ <;>
    simp [UnpackedFloat.compare, orderKey, Ordering.then_eq_eq, Ordering.swap_eq_eq,
      compare_sign_self, compare_negative_positive, compare_positive_negative] <;>
    omega

theorem le_iff_orderKey {a b : UnpackedFloat} :
    a.le b = true ↔ ∃ x y, orderKey a = some x ∧ orderKey b = some y ∧ (x < y ∨ x = y) := by
  rw [le_iff_lt_or_compare_eq, lt_iff_orderKey, compare_eq_iff_orderKey]
  constructor
  · rintro (⟨x, y, hx, hy, hxy⟩ | ⟨x, hx, hy⟩)
    · exact ⟨x, y, hx, hy, .inl hxy⟩
    · exact ⟨x, x, hx, hy, .inr rfl⟩
  · rintro ⟨x, y, hx, hy, hxy | rfl⟩
    · exact .inl ⟨x, y, hx, hy, hxy⟩
    · exact .inr ⟨x, hx, hy⟩

/-- The key of a float in the IEEE order. -/
def key (x : Float) : Option (List Int) := orderKey x.toModel.unpack

theorem lt_iff_key {a b : Float} : a < b ↔ ∃ x y, key a = some x ∧ key b = some y ∧ x < y := by
  show decide (a.toModel < b.toModel) = true ↔ _
  rw [decide_eq_true_iff]
  exact lt_iff_orderKey

theorem le_iff_key {a b : Float} :
    a ≤ b ↔ ∃ x y, key a = some x ∧ key b = some y ∧ (x < y ∨ x = y) := by
  show decide (a.toModel ≤ b.toModel) = true ↔ _
  rw [decide_eq_true_iff]
  exact le_iff_orderKey

theorem lt_trans {a b c : Float} (hab : a < b) (hbc : b < c) : a < c := by
  obtain ⟨x, y, hx, hy, hxy⟩ := lt_iff_key.mp hab
  obtain ⟨y', z, hy', hz, hyz⟩ := lt_iff_key.mp hbc
  rw [hy, Option.some.injEq] at hy'
  subst hy'
  exact lt_iff_key.mpr ⟨x, z, hx, hz, List.lt_trans hxy hyz⟩

/-- No float is below itself: a NaN has no key, and any other float has the key it has. -/
theorem lt_irrefl (a : Float) : ¬ a < a := by
  intro h
  obtain ⟨x, y, hx, hy, hxy⟩ := lt_iff_key.mp h
  rw [hx, Option.some.injEq] at hy
  subst hy
  exact List.lt_irrefl x hxy

theorem le_of_le_of_lt {a b c : Float} (hab : a ≤ b) (hbc : b < c) : a ≤ c := by
  obtain ⟨x, y, hx, hy, hxy⟩ := le_iff_key.mp hab
  obtain ⟨y', z, hy', hz, hyz⟩ := lt_iff_key.mp hbc
  rw [hy, Option.some.injEq] at hy'
  subst hy'
  have hxz : x < z := hxy.elim (fun h => List.lt_trans h hyz) (fun h => h ▸ hyz)
  exact le_iff_key.mpr ⟨x, z, hx, hz, .inl hxz⟩

/-- The zeros are equal, so neither is below the other. -/
example : ¬ ((0.0 : Float) < -0.0) ∧ ¬ ((-0.0 : Float) < 0.0) := by decide

end HttpTelemetry.FloatOrder
