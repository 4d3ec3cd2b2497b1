import HttpTelemetry.Middleware.Construction
import HttpTelemetry.Proofs.FloatOrder
/-!
# Checking the bucket boundaries

A list of boundaries describes buckets when it has at least one boundary, every boundary is
finite and each is below every later one. The check only compares neighbours; that is the same
because `<` on floats is transitive (`strictlyIncreasing_iff_pairwise`), and it refuses equal
neighbours and a zero followed by a negative zero, which are equal.

The configuration checks the duration boundaries, then the request sizes, then the response
sizes, and names the first list that fails. Every way of building a recorder, alone or with
its layer, checks first: a configuration that fails gives its error before anything is
registered, created or compiled, so a bad list of boundaries is reported even when an endpoint
pattern is bad too.
-/

namespace HttpTelemetry

/-- Boundaries that describe buckets: at least one, all finite, each below every later one. -/
def BucketsValid (bs : List Float) : Prop :=
  bs ≠ [] ∧ (∀ b ∈ bs, b.isFinite = true) ∧ bs.Pairwise (· < ·)

theorem strictlyIncreasing_iff_pairwise (bs : List Float) :
    strictlyIncreasing bs = true ↔ bs.Pairwise (· < ·) := by
  fun_induction strictlyIncreasing bs with
  | case1 a b rest ih =>
    rw [Bool.and_eq_true, decide_eq_true_eq, ih]
    constructor
    · rintro ⟨hab, hrest⟩
      refine List.pairwise_cons.mpr ⟨?_, hrest⟩
      intro x hx
      rcases List.mem_cons.mp hx with rfl | hx
      · exact hab
      · exact FloatOrder.lt_trans hab (List.rel_of_pairwise_cons hrest hx)
    · intro h
      exact ⟨List.rel_of_pairwise_cons h List.mem_cons_self, h.of_cons⟩
  | case2 bs hshort =>
    -- fewer than two boundaries: nothing to compare
    match bs, hshort with
    | [], _ => simp
    | [_], _ => simp
    | _ :: _ :: _, h => exact absurd rfl (h _ _ _)

theorem bucketsValid_iff (bs : List Float) : bucketsValid bs = true ↔ BucketsValid bs := by
  simp only [bucketsValid, Bool.and_eq_true, Bool.not_eq_true', List.isEmpty_eq_false_iff,
    List.all_eq_true, strictlyIncreasing_iff_pairwise, BucketsValid, and_assoc]

/-- Equal neighbours are refused, and so is a zero followed by a negative zero. -/
example : bucketsValid [10.0, 110.0] = true ∧ bucketsValid [1.0, 1.0] = false ∧
    bucketsValid [0.0, -0.0] = false ∧ bucketsValid [1.0, 1.0 / 0.0] = false := by
  decide

theorem Measure.forall_iff {P : Measure → Prop} :
    (∀ m, P m) ↔ P .duration ∧ P .requestSize ∧ P .responseSize :=
  ⟨fun h => ⟨h _, h _, h _⟩, fun ⟨hd, hr, hs⟩ m => by cases m <;> assumption⟩

theorem Measure.exists_iff {P : Measure → Prop} :
    (∃ m, P m) ↔ P .duration ∨ P .requestSize ∨ P .responseSize := by
  constructor
  · rintro ⟨m, hm⟩
    cases m <;> simp [hm]
  · rintro (h | h | h) <;> exact ⟨_, h⟩

/-- The measures whose boundaries are checked before those of `m`. -/
def Measure.checkedBefore : Measure → List Measure
  | .duration => []
  | .requestSize => [.duration]
  | .responseSize => [.duration, .requestSize]

/-- The first list of boundaries, in the order of the check, that describes no buckets. -/
def Config.FirstInvalid (c : Config) (m : Measure) : Prop :=
  ¬ BucketsValid (c.buckets m) ∧ ∀ m' ∈ m.checkedBefore, BucketsValid (c.buckets m')

theorem Config.validate_eq_ok_iff (c : Config) :
    c.validate = .ok () ↔ ∀ m, BucketsValid (c.buckets m) := by
  simp only [Measure.forall_iff, ← bucketsValid_iff]
  cases hd : bucketsValid (c.buckets .duration) <;>
    cases hr : bucketsValid (c.buckets .requestSize) <;>
    cases hs : bucketsValid (c.buckets .responseSize) <;>
    simp [Config.validate, List.find?, hd, hr, hs]

theorem Config.validate_eq_error_iff (c : Config) (e : Error) :
    c.validate = .error e ↔ ∃ m, e = .invalidBuckets m ∧ c.FirstInvalid m := by
  simp only [Measure.exists_iff, Config.FirstInvalid, Measure.checkedBefore, ← bucketsValid_iff]
  cases hd : bucketsValid (c.buckets .duration) <;>
    cases hr : bucketsValid (c.buckets .requestSize) <;>
    cases hs : bucketsValid (c.buckets .responseSize) <;>
    simp [Config.validate, List.find?, hd, hr, hs] <;>
    exact eq_comm

/-! ## Every builder checks first -/

section Builders

variable {c : Config} {e : Error}

theorem Prometheus.Registry.new_of_validate (h : c.validate = .error e) :
    Prometheus.Registry.new c = .error e := by
  rw [Prometheus.Registry.new, h]
  rfl

theorem Otel.Meter.new_of_validate (h : c.validate = .error e) :
    Otel.Meter.new c = .error e := by
  rw [Otel.Meter.new, h]
  rfl

theorem Middleware.prometheusRecorder_of_validate {ρ : Type} (attach : ρ → Prometheus.Registry → ρ)
    (reg : ρ) (h : c.validate = .error e) :
    Middleware.prometheusRecorder attach reg c = (reg, .error e) := by
  simp [Middleware.prometheusRecorder, Prometheus.Registry.new_of_validate h]

theorem Middleware.otelRecorder_of_validate {μ : Type} (create : μ → Otel.Meter → μ) (meter : μ)
    (h : c.validate = .error e) : Middleware.otelRecorder create meter c = (meter, .error e) := by
  simp [Middleware.otelRecorder, Otel.Meter.new_of_validate h]

theorem Middleware.Layer.prometheus_of_validate {ρ : Type}
    (attach : ρ → Prometheus.Registry → ρ) (reg : ρ) (catalog : Option Route.Catalog)
    (h : c.validate = .error e) : Middleware.Layer.prometheus attach reg c catalog = (reg, .error e) := by
  simp [Middleware.Layer.prometheus, Prometheus.Registry.new_of_validate h]

theorem Middleware.Layer.otel_of_validate {μ : Type} (create : μ → Otel.Meter → μ) (meter : μ)
    (catalog : Option Route.Catalog) (h : c.validate = .error e) :
    Middleware.Layer.otel create meter c catalog = (meter, .error e) := by
  simp [Middleware.Layer.otel, Otel.Meter.new_of_validate h]

theorem Prometheus.Registry.new_of_valid (h : c.validate = .ok ()) :
    Prometheus.Registry.new c =
      .ok ⟨c.service, c.durationBuckets, c.requestSizeBuckets, c.responseSizeBuckets, [], [], [], []⟩ := by
  rw [Prometheus.Registry.new, h]
  rfl

theorem Otel.Meter.new_of_valid (h : c.validate = .ok ()) :
    Otel.Meter.new c =
      .ok ⟨c.durationBuckets, c.requestSizeBuckets, c.responseSizeBuckets, [], [], [], []⟩ := by
  rw [Otel.Meter.new, h]
  rfl

end Builders

/-- The configuration is valid exactly when all three lists of boundaries describe buckets;
otherwise its error names the first list that fails, and every builder of a recorder, alone or
with its layer, returns that error with the registry or meter left as it was and whatever the
endpoints are. -/
theorem validate_precedes_building (c : Config) :
    (c.validate = .ok () ↔ ∀ m, BucketsValid (c.buckets m)) ∧
    (∀ e, c.validate = .error e ↔ ∃ m, e = .invalidBuckets m ∧ c.FirstInvalid m) ∧
    ∀ e, c.validate = .error e →
      Prometheus.Registry.new c = .error e ∧ Otel.Meter.new c = .error e ∧
      (∀ {ρ : Type} (attach : ρ → Prometheus.Registry → ρ) (reg : ρ),
        Middleware.prometheusRecorder attach reg c = (reg, .error e) ∧
        ∀ catalog, Middleware.Layer.prometheus attach reg c catalog = (reg, .error e)) ∧
      ∀ {μ : Type} (create : μ → Otel.Meter → μ) (meter : μ),
        Middleware.otelRecorder create meter c = (meter, .error e) ∧
        ∀ catalog, Middleware.Layer.otel create meter c catalog = (meter, .error e) := by
  refine ⟨c.validate_eq_ok_iff, c.validate_eq_error_iff, fun e h => ?_⟩
  refine ⟨Prometheus.Registry.new_of_validate h, Otel.Meter.new_of_validate h, ?_, ?_⟩
  · intro ρ attach reg
    exact ⟨Middleware.prometheusRecorder_of_validate attach reg h,
      fun catalog => Middleware.Layer.prometheus_of_validate attach reg catalog h⟩
  · intro μ create meter
    exact ⟨Middleware.otelRecorder_of_validate create meter h,
      fun catalog => Middleware.Layer.otel_of_validate create meter catalog h⟩

end HttpTelemetry
