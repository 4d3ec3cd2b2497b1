import HttpTelemetry.Proofs.RegistryStore
/-!
# The two backends keep the same series

The middleware moves the active-requests gauge while the status code is unknown and makes every
other call once it is known. On calls of these shapes, a Prometheus registry and the
OpenTelemetry instruments built from one configuration group the calls alike: two calls that
measure share a Prometheus series exactly when they share a data point. A histogram series
counts the same observations in both, but for a series that only a touch created, which
Prometheus keeps empty and OpenTelemetry does not have; the two gauges hold the same value.

Both backends keep their series as lists under keys, updated alike (`Keyed.update`). Read
through `List.lookup`, the series of a key moves only on the calls that reach it, so after a run
it is the fold of those calls over what it was (`view_foldl`). The backends differ in their
keys: a Prometheus key is the list of label values, with an unknown status code written as
`""`, and an OpenTelemetry key is the attributes, which leave an unknown status code out. On
the shapes the middleware uses both keys tell the labels apart, so the same calls reach one
series in both.
-/

namespace HttpTelemetry

open Prometheus Otel

/-! ## Stores under keys -/

section Keyed

variable {κ α : Type} [BEq κ] [LawfulBEq κ]

/-- The update both backends make: the value of a key is created by `fresh` when missing, then
stepped by `f`. -/
def Keyed.update (ps : List (κ × α)) (key : κ) (fresh : α) (f : α → α) : List (κ × α) :=
  match ps.find? (·.1 == key) with
  | some _ => ps.map fun (k, v) => if k == key then (k, f v) else (k, v)
  | none => ps ++ [(key, f fresh)]

theorem Keyed.lookup_map_step (ps : List (κ × α)) (key k : κ) (f : α → α) :
    (ps.map fun (k', v) => if k' == key then (k', f v) else (k', v)).lookup k =
      if k == key then (ps.lookup k).map f else ps.lookup k := by
  induction ps with
  | nil => split <;> rfl
  | cons p ps ih =>
    obtain ⟨k', v⟩ := p
    by_cases hk : k = k'
    · subst hk
      by_cases hkey : k = key <;> simp [hkey]
    · have hne : (k == k') = false := beq_eq_false_iff_ne.mpr hk
      by_cases hkey : k' = key
      · subst hkey
        simp [List.lookup_cons, hne, ih]
      · simp [List.lookup_cons, hkey, hne, ih]

/-- Read by key, an update steps the value of its key, a fresh one if it had none, and keeps
the others. -/
theorem Keyed.lookup_update (ps : List (κ × α)) (key k : κ) (fresh : α) (f : α → α) :
    (Keyed.update ps key fresh f).lookup k =
      if k == key then some (f ((ps.lookup k).getD fresh)) else ps.lookup k := by
  unfold Keyed.update
  split
  · rename_i p hp
    rw [Keyed.lookup_map_step]
    split
    · rename_i hk
      rw [beq_iff_eq] at hk
      subst hk
      -- the entry `find?` met has the key, so `lookup` finds a value
      have hpk := List.find?_some hp
      obtain ⟨v, hv⟩ := Option.isSome_iff_exists.mp
        (List.lookup_isSome_iff.mpr ⟨p, List.mem_of_find?_eq_some hp, by rw [BEq.comm]; exact hpk⟩)
      rw [hv]
      rfl
    · rfl
  · rename_i hnone
    rw [List.lookup_append]
    split
    · rename_i hk
      rw [beq_iff_eq] at hk
      subst hk
      have hkey : ps.lookup k = none := by
        rw [List.lookup_eq_none_iff]
        intro p hp
        have hpk : ¬(p.1 == k) = true := List.find?_eq_none.mp hnone p hp
        rw [bne_iff_ne, ne_eq]
        exact fun h => hpk (h ▸ beq_self_eq_true k)
      rw [hkey, Option.none_or, List.lookup_cons, beq_self_eq_true]
      rfl
    · rename_i hk
      rw [List.lookup_cons, Bool.eq_false_iff.mpr hk, List.lookup_nil, Option.or_none]

/-- Read through a count, an update adds `δ` to the count of its key, counting from nothing if
the key had no value. -/
theorem Keyed.count_lookup_update (ps : List (κ × α)) (key k : κ) (fresh : α) (f : α → α)
    (count : α → Nat) (δ : Nat) (hfresh : count fresh = 0) (hf : ∀ x, count (f x) = count x + δ) :
    ((Keyed.update ps key fresh f).lookup k).map count =
      if k == key then some (((ps.lookup k).map count).getD 0 + δ) else (ps.lookup k).map count := by
  rw [Keyed.lookup_update]
  split
  · cases ps.lookup k <;> simp [hf, hfresh]
  · rfl

end Keyed

theorem Prometheus.Family.update_eq_keyed {α : Type} (fam : Family α) (key : List String)
    (fresh : α) (f : α → α) : fam.update key fresh f = Keyed.update fam key fresh f := by
  unfold Family.update Keyed.update
  cases fam.find? (·.1 == key) <;> rfl

theorem Otel.Points.update_eq_keyed {α : Type} (ps : Points α) (key : Attributes) (fresh : α)
    (f : α → α) : ps.update key fresh f = Keyed.update ps key fresh f := by
  unfold Points.update Keyed.update
  cases ps.find? (·.1 == key) <;> rfl

/-! ## Views that only some calls move -/

section Views

variable {ω σ β : Type}

/-- A view of a state that only the calls reaching it move, each by `g`: after a run it is the
fold of `g` over the calls that reached it, from what it was, or what it was if none did. -/
theorem view_foldl (step : σ → ω → σ) (view : σ → Option β) (reaches : ω → Prop)
    [DecidablePred reaches] (g : β → ω → β) (z : β)
    (hstep : ∀ s o, view (step s o) = if reaches o then some (g ((view s).getD z) o) else view s)
    (os : List ω) (s : σ) :
    view (os.foldl step s) =
      if ∃ o ∈ os, reaches o then some ((os.filter (reaches ·)).foldl g ((view s).getD z))
      else view s := by
  induction os generalizing s with
  | nil => simp
  | cons o os ih =>
    rw [List.foldl_cons, ih, hstep]
    by_cases ho : reaches o
    · -- the first call reaches the view, which is then there whatever the rest does
      have hrest : ¬(∃ o' ∈ os, reaches o') → os.filter (reaches ·) = [] := fun h =>
        List.filter_eq_nil_iff.mpr fun o' ho' hr => h ⟨o', ho', of_decide_eq_true hr⟩
      have hany : ∃ o' ∈ o :: os, reaches o' := ⟨o, by simp, ho⟩
      have hfilter : (o :: os).filter (reaches ·) = o :: os.filter (reaches ·) := by simp [ho]
      rw [if_pos ho, if_pos hany, Option.getD_some, hfilter, List.foldl_cons]
      split
      · rfl
      · rename_i hnone
        rw [hrest hnone]
        rfl
    · simp [ho]

theorem foldl_add_countP (p : ω → Bool) (os : List ω) (n : Nat) :
    os.foldl (fun c o => c + if p o then 1 else 0) n = n + os.countP p := by
  induction os generalizing n with
  | nil => rfl
  | cons o os ih =>
    rw [List.foldl_cons, ih, List.countP_cons]
    omega

end Views

/-! ## Where a call lands -/

/-- The instruments both backends keep: a histogram for each measure, and the gauge of active
requests. -/
inductive Instrument where
  | histogram (m : Measure)
  | gauge
  deriving DecidableEq

/-- The instrument a call reaches; a touch reaches the duration histogram. -/
def Observation.instrument : Observation → Instrument
  | .touch _ | .duration .. => .histogram .duration
  | .active .. => .gauge
  | .requestSize .. => .histogram .requestSize
  | .responseSize .. => .histogram .responseSize

/-- Whether a call records a measurement: every call but a touch. -/
def Observation.measures : Observation → Bool
  | .touch _ => false
  | _ => true

/-- What a call adds to the gauge. -/
def Observation.delta : Observation → Int
  | .active _ d => d
  | _ => 0

/-- The Prometheus series a call reaches: the family of its instrument and the label values of
the series, which leave the status code out for the gauge. -/
def Observation.seriesKey : Observation → Instrument × List String
  | .active l _ => (.gauge, activeKey l)
  | o => (o.instrument, requestKey o.labels)

/-- The OpenTelemetry data point a call reaches: its instrument and the attributes of its labels.
A touch names a point without creating it. -/
def Observation.pointKey (o : Observation) : Instrument × Attributes :=
  (o.instrument, attributesOf o.labels)

/-- The label shapes of the middleware's calls: the gauge moves while the status code is
unknown, and every other call comes once it is known. -/
def Observation.shaped : Observation → Bool
  | .active l _ => l.statusCode.isNone
  | o => o.labels.statusCode.isSome

theorem Observation.seriesKey_of_histogram {o : Observation} {i : Measure}
    (h : o.instrument = .histogram i) : o.seriesKey = (.histogram i, requestKey o.labels) := by
  cases o <;> simp_all [Observation.seriesKey, Observation.instrument]

theorem Observation.seriesKey_of_gauge {o : Observation} (h : o.instrument = .gauge) :
    o.seriesKey = (.gauge, activeKey o.labels) := by
  cases o <;> simp_all [Observation.seriesKey, Observation.instrument, Observation.labels]

/-! ## The keys tell the labels apart -/

/-- The attributes of a point tell labels apart: an unknown status code leaves one attribute
out, so the lists differ in length. -/
theorem attributesOf_inj {l₁ l₂ : Labels} : attributesOf l₁ = attributesOf l₂ ↔ l₁ = l₂ := by
  obtain ⟨verb₁, host₁, path₁, s₁⟩ := l₁
  obtain ⟨verb₂, host₂, path₂, s₂⟩ := l₂
  cases s₁ <;> cases s₂ <;> simp [attributesOf, and_comm, and_left_comm]

/-- With known status codes, the label values of a histogram series tell labels apart. -/
theorem requestKey_inj {l₁ l₂ : Labels} (h₁ : l₁.statusCode.isSome) (h₂ : l₂.statusCode.isSome) :
    requestKey l₁ = requestKey l₂ ↔ l₁ = l₂ := by
  obtain ⟨verb₁, host₁, path₁, _ | s₁⟩ := l₁ <;> obtain ⟨verb₂, host₂, path₂, _ | s₂⟩ := l₂ <;>
    simp_all [requestKey, Labels.statusText, and_comm]

/-- Without the shapes, the keys part ways: an unknown status code and an empty one are one
Prometheus series but two data points. -/
example :
    requestKey ⟨"GET", "h", "/", none⟩ = requestKey ⟨"GET", "h", "/", some ""⟩ ∧
      attributesOf ⟨"GET", "h", "/", none⟩ ≠ attributesOf ⟨"GET", "h", "/", some ""⟩ := by
  decide

/-- With unknown status codes, the label values of a gauge series tell labels apart. -/
theorem activeKey_inj {l₁ l₂ : Labels} (h₁ : l₁.statusCode = none) (h₂ : l₂.statusCode = none) :
    activeKey l₁ = activeKey l₂ ↔ l₁ = l₂ := by
  obtain ⟨verb₁, host₁, path₁, s₁⟩ := l₁
  obtain ⟨verb₂, host₂, path₂, s₂⟩ := l₂
  simp_all [activeKey]

theorem Observation.pointKey_eq_iff {o₁ o₂ : Observation} :
    o₁.pointKey = o₂.pointKey ↔ o₁.instrument = o₂.instrument ∧ o₁.labels = o₂.labels := by
  simp [Observation.pointKey, attributesOf_inj]

theorem Observation.seriesKey_eq_iff {o₁ o₂ : Observation} (h₁ : o₁.shaped) (h₂ : o₂.shaped) :
    o₁.seriesKey = o₂.seriesKey ↔ o₁.instrument = o₂.instrument ∧ o₁.labels = o₂.labels := by
  cases o₁ <;> cases o₂ <;>
    simp_all [Observation.seriesKey, Observation.instrument, Observation.shaped,
      Observation.labels, requestKey_inj, activeKey_inj]

/-- On the middleware's shapes, two calls reach one Prometheus series exactly when they reach
one data point. -/
theorem Observation.seriesKey_eq_iff_pointKey_eq {o₁ o₂ : Observation} (h₁ : o₁.shaped)
    (h₂ : o₂.shaped) : o₁.seriesKey = o₂.seriesKey ↔ o₁.pointKey = o₂.pointKey :=
  (Observation.seriesKey_eq_iff h₁ h₂).trans Observation.pointKey_eq_iff.symm

/-! ## The registry, series by series -/

namespace Prometheus

/-- The histogram family of a measure. -/
def Registry.histograms (r : Registry) : Measure → Family Histogram
  | .duration => r.durations
  | .requestSize => r.requestSizes
  | .responseSize => r.responseSizes

/-- The number of observations of a histogram series, if the series exists. -/
def Registry.count? (r : Registry) (i : Measure) (k : List String) : Option Nat :=
  ((r.histograms i).lookup k).map (·.count)

theorem Family.lookup_update {α : Type} (fam : Family α) (key k : List String) (fresh : α)
    (f : α → α) :
    (fam.update key fresh f).lookup k =
      if k = key then some (f ((fam.lookup k).getD fresh)) else fam.lookup k := by
  rw [Family.update_eq_keyed, Keyed.lookup_update]
  simp only [beq_iff_eq]

@[simp] theorem Family.count_touch (fam : Family Histogram) (key k : List String)
    (bs : List Float) :
    ((fam.update key (Histogram.empty bs) id).lookup k).map (·.count) =
      if k = key then some (((fam.lookup k).map (·.count)).getD 0)
      else (fam.lookup k).map (·.count) := by
  rw [Family.update_eq_keyed,
    Keyed.count_lookup_update _ _ _ _ id (fun h : Histogram => h.count) 0 rfl (fun _ => rfl)]
  simp only [beq_iff_eq, Nat.add_zero]

@[simp] theorem Family.count_observe (fam : Family Histogram) (key k : List String)
    (bs : List Float) (v : Float) :
    ((fam.update key (Histogram.empty bs) (·.observe v)).lookup k).map (·.count) =
      if k = key then some (((fam.lookup k).map (·.count)).getD 0 + 1)
      else (fam.lookup k).map (·.count) := by
  rw [Family.update_eq_keyed,
    Keyed.count_lookup_update _ _ _ _ _ (fun h : Histogram => h.count) 1 rfl (fun _ => rfl)]
  simp only [beq_iff_eq]

/-- A call moves the count of the histogram series it reaches, by one if it measures. -/
theorem Registry.count?_record (r : Registry) (o : Observation) (i : Measure) (k : List String) :
    (r.record o).count? i k =
      if o.seriesKey = (.histogram i, k) then
        some ((r.count? i k).getD 0 + if o.measures then 1 else 0)
      else r.count? i k := by
  cases o <;> cases i <;>
    simp [Registry.record, Registry.count?, Registry.histograms, Observation.seriesKey,
      Observation.instrument, Observation.measures, Observation.labels, eq_comm]

/-- A call moves the gauge series it reaches by its delta, wrapping. -/
theorem Registry.active_record (r : Registry) (o : Observation) (k : List String) :
    (r.record o).active.lookup k =
      if o.seriesKey = (.gauge, k) then some (wrapI64 ((r.active.lookup k).getD 0 + o.delta))
      else r.active.lookup k := by
  cases o <;>
    simp [Registry.record, Observation.seriesKey, Observation.instrument, Observation.delta,
      Family.lookup_update, eq_comm]

/-- After a run, a histogram series counts the measuring calls that reached it. -/
theorem Registry.count?_foldl (os : List Observation) (r : Registry) (i : Measure)
    (k : List String) :
    (os.foldl Registry.record r).count? i k =
      if ∃ o ∈ os, o.seriesKey = (.histogram i, k) then
        some ((r.count? i k).getD 0 +
          os.countP fun o => o.measures && decide (o.seriesKey = (.histogram i, k)))
      else r.count? i k := by
  rw [view_foldl Registry.record (·.count? i k) (·.seriesKey = (.histogram i, k))
    (fun n o => n + if o.measures then 1 else 0) 0 (fun s o => Registry.count?_record s o i k),
    foldl_add_countP, List.countP_filter]

/-- After a run, a gauge series is the wrapped fold of the deltas that reached it. -/
theorem Registry.active_foldl (os : List Observation) (r : Registry) (k : List String) :
    (os.foldl Registry.record r).active.lookup k =
      if ∃ o ∈ os, o.seriesKey = (.gauge, k) then
        some ((os.filter (·.seriesKey = (.gauge, k))).foldl (fun v o => wrapI64 (v + o.delta))
          ((r.active.lookup k).getD 0))
      else r.active.lookup k :=
  view_foldl Registry.record (·.active.lookup k) (·.seriesKey = (.gauge, k))
    (fun v o => wrapI64 (v + o.delta)) 0 (fun s o => Registry.active_record s o k) os r

/-- A registry built from a configuration holds no series. -/
theorem Registry.empty_of_new {c : Config} {r : Registry} (hnew : Registry.new c = .ok r) :
    (∀ i k, r.count? i k = none) ∧ ∀ k, r.active.lookup k = none := by
  obtain ⟨-, rfl⟩ := Registry.eq_of_new hnew
  exact ⟨fun i k => by cases i <;> rfl, fun k => rfl⟩

end Prometheus

/-! ## The instruments, point by point -/

namespace Otel

/-- The number of observations of a histogram point, if the point exists. -/
def Meter.count? (m : Meter) : Measure → Attributes → Option Nat
  | .duration, a => (m.durations.lookup a).map (·.count)
  | .requestSize, a => (m.requestSizes.lookup a).map (·.count)
  | .responseSize, a => (m.responseSizes.lookup a).map (·.count)

theorem Points.lookup_update {α : Type} (ps : Points α) (key a : Attributes) (fresh : α)
    (f : α → α) :
    (ps.update key fresh f).lookup a =
      if a = key then some (f ((ps.lookup a).getD fresh)) else ps.lookup a := by
  rw [Points.update_eq_keyed, Keyed.lookup_update]
  simp only [beq_iff_eq]

@[simp] theorem Points.count_record {α : Type} (ps : Points (HistogramPoint α)) (key a : Attributes)
    (s : Scale α) (n : Nat) (bs : List Float) (v : α) :
    ((ps.update key (HistogramPoint.empty s n) (·.record s bs v)).lookup a).map (·.count) =
      if a = key then some (((ps.lookup a).map (·.count)).getD 0 + 1)
      else (ps.lookup a).map (·.count) := by
  rw [Points.update_eq_keyed, Keyed.count_lookup_update _ _ _ _ _
    (fun p : HistogramPoint α => p.count) 1 rfl (fun _ => rfl)]
  simp only [beq_iff_eq]

/-- A measuring call adds one to the count of the histogram point it reaches; a touch changes
nothing. -/
theorem Meter.count?_record (m : Meter) (o : Observation) (i : Measure) (a : Attributes) :
    (m.record o).count? i a =
      if o.measures ∧ o.pointKey = (.histogram i, a) then some ((m.count? i a).getD 0 + 1)
      else m.count? i a := by
  cases o <;> cases i <;>
    simp [Meter.record, Meter.count?, Observation.pointKey, Observation.instrument,
      Observation.measures, Observation.labels, eq_comm]

/-- A call moves the gauge point it reaches by its delta, wrapping. -/
theorem Meter.active_record (m : Meter) (o : Observation) (a : Attributes) :
    (m.record o).active.lookup a =
      if o.pointKey = (.gauge, a) then some (wrapI64 ((m.active.lookup a).getD 0 + o.delta))
      else m.active.lookup a := by
  cases o <;>
    simp [Meter.record, Observation.pointKey, Observation.instrument, Observation.delta,
      Observation.labels, Points.lookup_update, eq_comm]

/-- After a run, a histogram point counts the measuring calls that reached it. -/
theorem Meter.count?_foldl (os : List Observation) (m : Meter) (i : Measure) (a : Attributes) :
    (os.foldl Meter.record m).count? i a =
      if ∃ o ∈ os, o.measures ∧ o.pointKey = (.histogram i, a) then
        some ((m.count? i a).getD 0 +
          os.countP fun o => o.measures && decide (o.pointKey = (.histogram i, a)))
      else m.count? i a := by
  have hstep : ∀ (s : Meter) (o : Observation), (s.record o).count? i a =
      if o.measures ∧ o.pointKey = (.histogram i, a) then
        some ((s.count? i a).getD 0 + if o.measures then 1 else 0)
      else s.count? i a := fun s o => by
    rw [Meter.count?_record]
    split
    · rename_i h
      rw [if_pos h.1]
    · rfl
  have hcount : (os.countP fun o => o.measures &&
        decide (o.measures = true ∧ o.pointKey = (.histogram i, a))) =
      os.countP fun o => o.measures && decide (o.pointKey = (.histogram i, a)) :=
    List.countP_congr fun o _ => by cases o.measures <;> simp
  rw [view_foldl Meter.record (·.count? i a) (fun o => o.measures ∧ o.pointKey = (.histogram i, a))
    (fun n o => n + if o.measures then 1 else 0) 0 hstep, foldl_add_countP, List.countP_filter,
    hcount]

/-- After a run, a gauge point is the wrapped fold of the deltas that reached it. -/
theorem Meter.active_foldl (os : List Observation) (m : Meter) (a : Attributes) :
    (os.foldl Meter.record m).active.lookup a =
      if ∃ o ∈ os, o.pointKey = (.gauge, a) then
        some ((os.filter (·.pointKey = (.gauge, a))).foldl (fun v o => wrapI64 (v + o.delta))
          ((m.active.lookup a).getD 0))
      else m.active.lookup a :=
  view_foldl Meter.record (·.active.lookup a) (·.pointKey = (.gauge, a))
    (fun v o => wrapI64 (v + o.delta)) 0 (fun s o => Meter.active_record s o a) os m

/-- Instruments built from a configuration hold no point. -/
theorem Meter.empty_of_new {c : Config} {m : Meter} (hnew : Meter.new c = .ok m) :
    (∀ i a, m.count? i a = none) ∧ ∀ a, m.active.lookup a = none := by
  cases hv : c.validate with
  | error e =>
    rw [Meter.new_of_validate hv] at hnew
    cases hnew
  | ok u =>
    rw [Meter.new_of_valid hv] at hnew
    cases hnew
    exact ⟨fun i a => by cases i <;> rfl, fun a => rfl⟩

end Otel

/-- Wrapping after each delta is wrapping their sum. -/
theorem foldl_wrap_delta (os : List Observation) :
    os.foldl (fun v o => wrapI64 (v + o.delta)) 0 = wrapI64 ((os.map (·.delta)).foldl (· + ·) 0) := by
  have hzero : (0 : Int) = wrapI64 0 := by decide
  rw [← foldl_wrapI64, List.foldl_map, ← hzero]

/-! ## Agreement -/

/-- What a Prometheus registry and the OpenTelemetry instruments hold after the same calls, when
they hold the same series. -/
structure SameSeries (os : List Observation) (r : Registry) (m : Meter) : Prop where
  /-- Two measuring calls share a Prometheus series exactly when they share a data point. -/
  grouping : ∀ o₁ ∈ os, ∀ o₂ ∈ os, o₁.measures → o₂.measures →
    (o₁.seriesKey = o₂.seriesKey ↔ o₁.pointKey = o₂.pointKey)
  /-- Every series of the registry is the series of a call. -/
  series_of_calls :
    (∀ i k, (r.count? i k).isSome → ∃ o ∈ os, o.seriesKey = (.histogram i, k)) ∧
    (∀ k, (r.active.lookup k).isSome → ∃ o ∈ os, o.seriesKey = (.gauge, k))
  /-- Every data point is the point of a measuring call. -/
  points_of_calls :
    (∀ i a, (m.count? i a).isSome → ∃ o ∈ os, o.measures ∧ o.pointKey = (.histogram i, a)) ∧
    (∀ a, (m.active.lookup a).isSome → ∃ o ∈ os, o.pointKey = (.gauge, a))
  /-- The histogram series of a measuring call counts, in both backends, the measuring calls that
  share it. -/
  count_eq : ∀ o ∈ os, o.measures → ∀ i, o.instrument = .histogram i →
    r.count? i (requestKey o.labels) =
      some (os.countP fun o' => o'.measures && decide (o'.seriesKey = o.seriesKey)) ∧
    m.count? i (attributesOf o.labels) = r.count? i (requestKey o.labels)
  /-- A series that no measuring call shares, one only touches created, counts nothing and has
  no data point. -/
  touched_only : ∀ o ∈ os, ∀ i, o.instrument = .histogram i →
    (∀ o' ∈ os, o'.measures → o'.seriesKey ≠ o.seriesKey) →
    r.count? i (requestKey o.labels) = some 0 ∧ m.count? i (attributesOf o.labels) = none
  /-- The gauge series of a call holds, in both backends, the wrapped sum of the deltas of the
  calls that share it. -/
  gauge_eq : ∀ o ∈ os, o.instrument = .gauge →
    r.active.lookup (activeKey o.labels) =
      some (wrapI64 (((os.filter (·.seriesKey = o.seriesKey)).map (·.delta)).foldl (· + ·) 0)) ∧
    m.active.lookup (attributesOf o.labels) = r.active.lookup (activeKey o.labels)

section Runs

variable {c : Config} {r₀ : Registry} {m₀ : Meter} {os : List Observation}

/-- After a run from a built registry, every series is the series of a call of the run. -/
theorem Registry.series_of_run (hr : Registry.new c = .ok r₀) :
    (∀ i k, ((os.foldl Registry.record r₀).count? i k).isSome →
      ∃ o ∈ os, o.seriesKey = (.histogram i, k)) ∧
    (∀ k, ((os.foldl Registry.record r₀).active.lookup k).isSome →
      ∃ o ∈ os, o.seriesKey = (.gauge, k)) := by
  obtain ⟨hcount₀, hactive₀⟩ := Registry.empty_of_new hr
  refine ⟨fun i k h => ?_, fun k h => ?_⟩
  · rw [Registry.count?_foldl, hcount₀] at h
    simpa using h
  · rw [Registry.active_foldl, hactive₀] at h
    simpa using h

/-- After a run from built instruments, every data point is the point of a measuring call of
the run. -/
theorem Meter.points_of_run (hm : Meter.new c = .ok m₀) :
    (∀ i a, ((os.foldl Meter.record m₀).count? i a).isSome →
      ∃ o ∈ os, o.measures ∧ o.pointKey = (.histogram i, a)) ∧
    (∀ a, ((os.foldl Meter.record m₀).active.lookup a).isSome →
      ∃ o ∈ os, o.pointKey = (.gauge, a)) := by
  obtain ⟨hcount₀, hactive₀⟩ := Meter.empty_of_new hm
  refine ⟨fun i a h => ?_, fun a h => ?_⟩
  · rw [Meter.count?_foldl, hcount₀] at h
    simpa using h
  · rw [Meter.active_foldl, hactive₀] at h
    simpa using h

/-- On a run of the middleware's shapes, the histogram series of a measuring call counts the
measuring calls that share it, and its data point counts the same calls. -/
theorem histogram_counts_agree (hr : Registry.new c = .ok r₀) (hm : Meter.new c = .ok m₀)
    (hos : ∀ o ∈ os, o.shaped) {o : Observation} (ho : o ∈ os) (hmeas : o.measures)
    {i : Measure} (hi : o.instrument = .histogram i) :
    (os.foldl Registry.record r₀).count? i (requestKey o.labels) =
      some (os.countP fun o' => o'.measures && decide (o'.seriesKey = o.seriesKey)) ∧
    (os.foldl Meter.record m₀).count? i (attributesOf o.labels) =
      (os.foldl Registry.record r₀).count? i (requestKey o.labels) := by
  have hkey := Observation.seriesKey_of_histogram hi
  have hpoint : o.pointKey = (.histogram i, attributesOf o.labels) := by
    rw [Observation.pointKey, hi]
  have hprom : (os.foldl Registry.record r₀).count? i (requestKey o.labels) =
      some (os.countP fun o' => o'.measures && decide (o'.seriesKey = o.seriesKey)) := by
    rw [Registry.count?_foldl, (Registry.empty_of_new hr).1, if_pos ⟨o, ho, hkey⟩, ← hkey]
    simp
  refine ⟨hprom, ?_⟩
  rw [hprom, Meter.count?_foldl, (Meter.empty_of_new hm).1, if_pos ⟨o, ho, hmeas, hpoint⟩,
    ← hpoint]
  simp only [Option.getD_none, Nat.zero_add, Option.some.injEq]
  -- the calls that share the point are those that share the series
  exact List.countP_congr fun o' ho' => by
    rw [decide_eq_decide.mpr (Observation.seriesKey_eq_iff_pointKey_eq (hos o' ho') (hos o ho))]

/-- On a run of the middleware's shapes, a histogram series that no measuring call shares counts
nothing, and there is no data point for it. -/
theorem touched_series_empty (hr : Registry.new c = .ok r₀) (hm : Meter.new c = .ok m₀)
    (hos : ∀ o ∈ os, o.shaped) {o : Observation} (ho : o ∈ os) {i : Measure}
    (hi : o.instrument = .histogram i) (hnone : ∀ o' ∈ os, o'.measures → o'.seriesKey ≠ o.seriesKey) :
    (os.foldl Registry.record r₀).count? i (requestKey o.labels) = some 0 ∧
    (os.foldl Meter.record m₀).count? i (attributesOf o.labels) = none := by
  have hkey := Observation.seriesKey_of_histogram hi
  -- a data point for the series would come from a measuring call that shares it
  have hmiss : ¬∃ o' ∈ os, o'.measures ∧ o'.pointKey = (.histogram i, attributesOf o.labels) := by
    rintro ⟨o', ho', hmeas, hpoint⟩
    refine hnone o' ho' hmeas
      ((Observation.seriesKey_eq_iff_pointKey_eq (hos o' ho') (hos o ho)).mpr ?_)
    rw [hpoint, Observation.pointKey, hi]
  refine ⟨?_, by rw [Meter.count?_foldl, (Meter.empty_of_new hm).1, if_neg hmiss]⟩
  rw [Registry.count?_foldl, (Registry.empty_of_new hr).1, if_pos ⟨o, ho, hkey⟩, ← hkey]
  simp only [Option.getD_none, Nat.zero_add, Option.some.injEq, List.countP_eq_zero]
  intro o' ho'
  cases hmeas : o'.measures
  · simp
  · simpa using hnone o' ho' hmeas

/-- On a run of the middleware's shapes, the gauge series of a call holds the wrapped sum of the
deltas of the calls that share it, and its data point holds the same. -/
theorem gauges_agree (hr : Registry.new c = .ok r₀) (hm : Meter.new c = .ok m₀)
    (hos : ∀ o ∈ os, o.shaped) {o : Observation} (ho : o ∈ os) (hi : o.instrument = .gauge) :
    (os.foldl Registry.record r₀).active.lookup (activeKey o.labels) =
      some (wrapI64 (((os.filter (·.seriesKey = o.seriesKey)).map (·.delta)).foldl (· + ·) 0)) ∧
    (os.foldl Meter.record m₀).active.lookup (attributesOf o.labels) =
      (os.foldl Registry.record r₀).active.lookup (activeKey o.labels) := by
  have hkey := Observation.seriesKey_of_gauge hi
  have hpoint : o.pointKey = (.gauge, attributesOf o.labels) := by
    rw [Observation.pointKey, hi]
  have hprom : (os.foldl Registry.record r₀).active.lookup (activeKey o.labels) =
      some (wrapI64 (((os.filter (·.seriesKey = o.seriesKey)).map (·.delta)).foldl (· + ·) 0)) := by
    rw [Registry.active_foldl, (Registry.empty_of_new hr).2, if_pos ⟨o, ho, hkey⟩, ← hkey,
      Option.getD_none, foldl_wrap_delta]
  refine ⟨hprom, ?_⟩
  rw [hprom, Meter.active_foldl, (Meter.empty_of_new hm).2, if_pos ⟨o, ho, hpoint⟩, ← hpoint,
    Option.getD_none, foldl_wrap_delta]
  -- the calls that share the point are those that share the series
  congr 4
  exact List.filter_congr fun o' ho' =>
    decide_eq_decide.mpr (Observation.seriesKey_eq_iff_pointKey_eq (hos o' ho') (hos o ho)).symm

end Runs

/-- A Prometheus registry and the OpenTelemetry instruments built from one configuration keep
the same series after any calls of the middleware's shapes: they group the measuring calls
alike, count the same observations in each histogram series but for the series only touches
created, which have no data point, and hold the same value in each gauge series. -/
theorem backends_keep_same_series {c : Config} {r₀ : Registry} {m₀ : Meter}
    (hr : Registry.new c = .ok r₀) (hm : Meter.new c = .ok m₀) (os : List Observation)
    (hos : ∀ o ∈ os, o.shaped) :
    SameSeries os (os.foldl Registry.record r₀) (os.foldl Meter.record m₀) where
  grouping o₁ h₁ o₂ h₂ _ _ := Observation.seriesKey_eq_iff_pointKey_eq (hos o₁ h₁) (hos o₂ h₂)
  series_of_calls := Registry.series_of_run hr
  points_of_calls := Meter.points_of_run hm
  count_eq _ ho hmeas _ hi := histogram_counts_agree hr hm hos ho hmeas hi
  touched_only _ ho _ hi hnone := touched_series_empty hr hm hos ho hi hnone
  gauge_eq _ ho hi := gauges_agree hr hm hos ho hi

theorem backends_keep_same_series_of_requests :
    let r₀ : Registry :=
      ⟨"svc", defaultDurationBuckets, defaultSizeBuckets, defaultSizeBuckets, [], [], [], []⟩
    let m₀ : Meter := ⟨defaultDurationBuckets, defaultSizeBuckets, defaultSizeBuckets, [], [], [], []⟩
    let ok : Labels := ⟨"GET", "example.com", "/users/[a-zA-Z0-9-_]+", some "200"⟩
    let missing : Labels := ⟨"GET", "example.com", "/users/[a-zA-Z0-9-_]+", some "404"⟩
    let live : Labels := ⟨"GET", "example.com", "/users/7", none⟩
    let os : List Observation := [.touch ok, .touch missing, .active live 1, .duration ok 7.5,
      .requestSize ok 300, .responseSize ok 12, .active live (-1)]
    Registry.new (Config.new "svc") = .ok r₀ ∧ Meter.new (Config.new "svc") = .ok m₀ ∧
      (∀ o ∈ os, o.shaped) ∧
      SameSeries os (os.foldl Registry.record r₀) (os.foldl Meter.record m₀) := by
  intro r₀ m₀ ok missing live os
  have hr : Registry.new (Config.new "svc") = .ok r₀ := rfl
  have hm : Meter.new (Config.new "svc") = .ok m₀ := rfl
  have hos : ∀ o ∈ os, o.shaped := by
    intro o ho
    simp only [os, List.mem_cons, List.not_mem_nil, or_false] at ho
    rcases ho with rfl | rfl | rfl | rfl | rfl | rfl | rfl <;> rfl
  exact ⟨hr, hm, hos, backends_keep_same_series hr hm os hos⟩

end HttpTelemetry
