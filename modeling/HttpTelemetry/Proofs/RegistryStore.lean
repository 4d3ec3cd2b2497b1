import HttpTelemetry.Proofs.BucketValidation
import HttpTelemetry.Prometheus.Text
/-!
# What the Prometheus registry holds

After any calls on a registry built from a valid configuration, each histogram family holds one
series for each key among the calls that reach it, and each series is what the values of its
key make of an empty histogram: the configured bounds (then `+Inf`), a count of the values,
and for each configured bound an exported bucket that counts the values at most that bound.
Touching reaches the duration family only; it creates a series and observes nothing. The
gauge family holds one series for each key without the status code, whose value is the wrapped
sum of its deltas.

The proof has two halves. A family is a store that `Family.update` keeps as a map from keys to
what was seen under them (`Family.Holds`): a series exists, once, for exactly the keys seen,
and it is the fold of its values. A histogram counts in its exported bucket `i` the values
whose first bound at least them is bound `i` or an earlier one; with strictly increasing
bounds these are the values at most bound `i` (`landsBy_iff`).
-/

namespace HttpTelemetry.Prometheus

/-! ## Running totals of bucket counts -/

theorem cumulative_bumpAt (cs : List Nat) (j i : Nat) :
    (cumulative (bumpAt cs j))[i]? = (cumulative cs)[i]?.map (· + if j ≤ i then 1 else 0) := by
  induction cs generalizing j i with
  | nil => rfl
  | cons c cs ih =>
    cases j with
    | zero =>
      cases i with
      | zero => simp [bumpAt, cumulative]
      | succ i =>
        simp only [bumpAt, cumulative, List.getElem?_cons_succ, List.getElem?_map,
          Option.map_map]
        congr 1
        funext x
        simp
        omega
    | succ j =>
      cases i with
      | zero => simp [bumpAt, cumulative]
      | succ i =>
        simp only [bumpAt, cumulative, List.getElem?_cons_succ, List.getElem?_map, ih,
          Option.map_map]
        congr 1
        funext x
        simp
        omega

theorem cumulative_zeros (l : List Float) : cumulative (l.map fun _ => 0) = l.map fun _ => 0 := by
  induction l with
  | nil => rfl
  | cons b l ih =>
    rw [List.map_cons, cumulative, ih, List.map_map]
    rfl

/-! ## Histograms -/

/-- Whether a value goes to bucket `i` or an earlier one: the first bound at least the value is
bound `i` or an earlier one. -/
def landsBy (bounds : List Float) (v : Float) (i : Nat) : Bool :=
  match bounds.findIdx? (fun b => decide (v ≤ b)) with
  | some j => decide (j ≤ i)
  | none => false

theorem Histogram.cumulative_observe (h : Histogram) (v : Float) (i : Nat) :
    (cumulative (h.observe v).counts)[i]? =
      (cumulative h.counts)[i]?.map (· + if landsBy h.bounds v i then 1 else 0) := by
  unfold Histogram.observe landsBy
  cases h.bounds.findIdx? (fun b => decide (v ≤ b)) with
  | none => simp
  | some j => simp [cumulative_bumpAt]

/-- Observing values one by one keeps the bounds, counts them, and adds to each running total
the values that land at or below it. -/
theorem Histogram.foldl_observe (vs : List Float) (h : Histogram) :
    (vs.foldl Histogram.observe h).bounds = h.bounds ∧
    (vs.foldl Histogram.observe h).count = h.count + vs.length ∧
    ∀ i, (cumulative (vs.foldl Histogram.observe h).counts)[i]? =
      (cumulative h.counts)[i]?.map (· + vs.countP (landsBy h.bounds · i)) := by
  induction vs generalizing h with
  | nil => simp
  | cons v vs ih =>
    obtain ⟨hbounds, hcount, hcum⟩ := ih (h.observe v)
    have hb : (h.observe v).bounds = h.bounds := rfl
    refine ⟨hbounds, ?_, fun i => ?_⟩
    · rw [List.foldl_cons, hcount]
      simp [Histogram.observe]
      omega
    · rw [List.foldl_cons, hcum i, Histogram.cumulative_observe, hb, Option.map_map,
        List.countP_cons]
      congr 1
      funext x
      simp
      omega

/-- With strictly increasing bounds, a value lands at or below bound `i` exactly when it is at
most that bound: the first bound at least it comes no later than any other. -/
theorem landsBy_iff {bs : List Float} (hsorted : bs.Pairwise (· < ·)) (v : Float) {i : Nat}
    (hi : i < bs.length) : landsBy (bs ++ [maxFinite]) v i = decide (v ≤ bs[i]) := by
  unfold landsBy
  split
  · rename_i j hj
    obtain ⟨hlen, hle, hbefore⟩ := List.findIdx?_eq_some_iff_getElem.mp hj
    by_cases hji : j ≤ i
    · have hj' : j < bs.length := by omega
      rw [List.getElem_append_left hj', decide_eq_true_eq] at hle
      rw [decide_eq_true hji, eq_comm, decide_eq_true_eq]
      rcases Nat.lt_or_eq_of_le hji with hlt | rfl
      · exact FloatOrder.le_of_le_of_lt hle (List.pairwise_iff_getElem.mp hsorted j i hj' hi hlt)
      · exact hle
    · -- the first bound at least `v` is after `i`, so bound `i` is below `v`
      have hfirst := hbefore i (by omega)
      rw [List.getElem_append_left hi, decide_eq_true_eq] at hfirst
      rw [decide_eq_false hji, eq_comm, decide_eq_false_iff_not]
      exact hfirst
  · rename_i hnone
    have hall := List.findIdx?_eq_none_iff.mp hnone bs[i] (by simp)
    rw [eq_comm, decide_eq_false_iff_not]
    simpa using hall

/-- A histogram that the values `vs` made from an empty one with bounds `bs`: it has those
bounds then `+Inf`, counts the values, and its running total at each configured bound counts
the values at most that bound. -/
structure Histogram.Of (h : Histogram) (bs : List Float) (vs : List Float) : Prop where
  bounds_eq : h.bounds = bs ++ [maxFinite]
  count_eq : h.count = vs.length
  bucket_eq : ∀ i (hi : i < bs.length),
    (cumulative h.counts)[i]? = some (vs.countP fun v => decide (v ≤ bs[i]))

/-- With strictly increasing bounds, the values make from an empty histogram one that is what
they made. -/
theorem Histogram.of_foldl_empty {bs : List Float} (hsorted : bs.Pairwise (· < ·)) (vs : List Float) :
    Histogram.Of (vs.foldl Histogram.observe (Histogram.empty bs)) bs vs := by
  obtain ⟨hbounds, hcount, hcum⟩ := Histogram.foldl_observe vs (Histogram.empty bs)
  refine ⟨hbounds, by simpa [Histogram.empty] using hcount, fun i hi => ?_⟩
  have hzero : (cumulative (Histogram.empty bs).counts)[i]? = some 0 := by
    show (cumulative ((bs ++ [maxFinite]).map fun _ => 0))[i]? = some 0
    rw [cumulative_zeros, List.getElem?_map, List.getElem?_append_left hi,
      List.getElem?_eq_getElem hi]
    rfl
  rw [hcum i, hzero, Option.map_some, Nat.zero_add]
  congr 1
  exact List.countP_congr fun v _ => by rw [Histogram.empty, landsBy_iff hsorted v hi]

/-- Bucket `i` holds the values whose first bound at least them is bound `i`; the running totals
count the values at most each bound, and the value above every bound only in `+Inf`. -/
example :
    cumulative ([1.0, 5.0, 5.0, 9.0].foldl Histogram.observe (Histogram.empty [2.0, 5.0])).counts =
      [1, 3, 4] := by
  decide

/-! ## Families as stores -/

section Store

variable {α β : Type} {fresh : α} {step : α → β → α}

/-- The values seen under a key, in order; an entry without a value only names its key. -/
def valuesOf (k : List String) (es : List (List String × Option β)) : List β :=
  es.filterMap fun e => if e.1 = k then e.2 else none

/-- One entry applied to a family: the series of its key is created if missing, then steps by
the value, if the entry has one. -/
def Family.apply (fresh : α) (step : α → β → α) (fam : Family α)
    (e : List String × Option β) : Family α :=
  fam.update e.1 fresh fun x => e.2.elim x (step x)

/-- A family as entries leave it: one series for each key among them, once, and each the fold of
the values under its key. -/
structure Family.Holds (fam : Family α) (fresh : α) (step : α → β → α)
    (es : List (List String × Option β)) : Prop where
  nodup : (fam.map Prod.fst).Nodup
  mem_keys : ∀ k, k ∈ fam.map Prod.fst ↔ ∃ v, (k, v) ∈ es
  series : ∀ k x, (k, x) ∈ fam → x = (valuesOf k es).foldl step fresh

theorem valuesOf_append_single (k key : List String) (es : List (List String × Option β))
    (v : Option β) :
    valuesOf k (es ++ [(key, v)]) = valuesOf k es ++ if key = k then v.toList else [] := by
  by_cases h : key = k <;> cases v <;> simp [valuesOf, h]

theorem valuesOf_eq_nil {k : List String} {es : List (List String × Option β)}
    (h : ∀ v, (k, v) ∉ es) : valuesOf k es = [] := by
  rw [valuesOf, List.filterMap_eq_nil_iff]
  intro e he
  by_cases hk : e.1 = k
  · exact absurd (show (k, e.2) ∈ es from hk ▸ he) (h e.2)
  · simp [hk]

theorem foldl_toList (x : α) (v : Option β) : v.toList.foldl step x = v.elim x (step x) := by
  cases v <;> rfl

theorem Family.find?_isSome_iff (fam : Family α) (key : List String) :
    (fam.find? (·.1 == key)).isSome ↔ key ∈ fam.map Prod.fst := by
  simp [List.find?_isSome]

section Update

/-! An update steps the series of its key, which it first creates if the key has none, and keeps
every other series. -/

variable {fam : Family α} {key : List String} {f : α → α}

theorem Family.update_of_mem (hkey : key ∈ fam.map Prod.fst) :
    fam.update key fresh f = fam.map fun (k, x) => if k == key then (k, f x) else (k, x) := by
  unfold Family.update
  split
  · rfl
  · rename_i hnone
    exact absurd ((Family.find?_isSome_iff fam key).mpr hkey) (by simp [hnone])

theorem Family.update_of_not_mem (hkey : key ∉ fam.map Prod.fst) :
    fam.update key fresh f = fam ++ [(key, f fresh)] := by
  unfold Family.update
  split
  · rename_i found hfound
    exact absurd ((Family.find?_isSome_iff fam key).mp (by simp [hfound])) hkey
  · rfl

theorem Family.keys_update_of_mem (hkey : key ∈ fam.map Prod.fst) :
    (fam.update key fresh f).map Prod.fst = fam.map Prod.fst := by
  rw [Family.update_of_mem hkey, List.map_map]
  congr 1
  funext p
  obtain ⟨k, x⟩ := p
  by_cases hk : k = key <;> simp [hk]

theorem Family.mem_keys_update {k : List String} :
    k ∈ (fam.update key fresh f).map Prod.fst ↔ k ∈ fam.map Prod.fst ∨ k = key := by
  by_cases hkey : key ∈ fam.map Prod.fst
  · rw [Family.keys_update_of_mem hkey]
    exact ⟨.inl, fun h => h.elim id (· ▸ hkey)⟩
  · rw [Family.update_of_not_mem hkey]
    simp

theorem Family.nodup_update (h : (fam.map Prod.fst).Nodup) :
    ((fam.update key fresh f).map Prod.fst).Nodup := by
  by_cases hkey : key ∈ fam.map Prod.fst
  · rwa [Family.keys_update_of_mem hkey]
  · rw [Family.update_of_not_mem hkey, List.map_append, List.nodup_append]
    refine ⟨h, by simp, ?_⟩
    simp only [List.map_cons, List.map_nil, List.mem_singleton]
    rintro a ha b rfl rfl
    exact hkey ha

/-- Read as a map from keys to `g`, an update steps the series of its key and keeps the others;
a key without a series reads as the fresh one. -/
theorem Family.series_update {g : List String → α} (hfam : ∀ k x, (k, x) ∈ fam → x = g k)
    (hfresh : key ∉ fam.map Prod.fst → fresh = g key) :
    ∀ k x, (k, x) ∈ fam.update key fresh f → x = if k = key then f (g k) else g k := by
  intro k x hx
  by_cases hkey : key ∈ fam.map Prod.fst
  · rw [Family.update_of_mem hkey] at hx
    obtain ⟨⟨k', y⟩, hy, heq⟩ := List.mem_map.mp hx
    by_cases hk : k' = key
    · subst hk
      simp only [beq_self_eq_true, if_true, Prod.mk.injEq] at heq
      obtain ⟨rfl, rfl⟩ := heq
      rw [if_pos rfl, hfam k' y hy]
    · simp only [beq_iff_eq, hk, if_false, Prod.mk.injEq] at heq
      obtain ⟨rfl, rfl⟩ := heq
      rw [if_neg hk, hfam _ _ hy]
  · rw [Family.update_of_not_mem hkey] at hx
    rcases List.mem_append.mp hx with hx | hx
    · have hk : k ≠ key := fun h => hkey (h ▸ List.mem_map_of_mem hx)
      rw [if_neg hk, hfam k x hx]
    · simp only [List.mem_singleton, Prod.mk.injEq] at hx
      obtain ⟨rfl, rfl⟩ := hx
      rw [if_pos rfl, hfresh hkey]

/-- Updating an existing series by the identity changes nothing. -/
theorem Family.update_id (hkey : key ∈ fam.map Prod.fst) : fam.update key fresh id = fam := by
  rw [Family.update_of_mem hkey]
  conv => rhs; rw [← List.map_id fam]
  congr 1
  funext p
  obtain ⟨k, x⟩ := p
  by_cases hk : k = key <;> simp [hk]

end Update

/-- A family where nothing was seen holds nothing. -/
theorem Family.holds_nil : Family.Holds ([] : Family α) fresh step [] :=
  ⟨List.nodup_nil, by simp, by simp⟩

/-- One entry keeps the invariant: its key gains a series if it had none, and that series steps
by the entry's value, which is the last value under the key. -/
theorem Family.Holds.apply {fam : Family α} {es : List (List String × Option β)}
    (hold : Family.Holds fam fresh step es) (e : List String × Option β) :
    Family.Holds (Family.apply fresh step fam e) fresh step (es ++ [e]) := by
  obtain ⟨key, v⟩ := e
  have hseen : ∀ k, (∃ w, (k, w) ∈ es ++ [(key, v)]) ↔ (∃ w, (k, w) ∈ es) ∨ k = key := by
    intro k
    simp only [List.mem_append, List.mem_singleton, Prod.mk.injEq]
    exact ⟨fun ⟨w, hw⟩ => hw.imp (⟨w, ·⟩) (·.1), fun h => h.elim
      (fun ⟨w, hw⟩ => ⟨w, .inl hw⟩) (fun hk => ⟨v, .inr ⟨hk, rfl⟩⟩)⟩
  -- a key without a series has no values yet, so it reads as the fresh series
  have hfresh : key ∉ fam.map Prod.fst → fresh = (valuesOf key es).foldl step fresh := fun h => by
    rw [valuesOf_eq_nil fun w hw => h ((hold.mem_keys key).mpr ⟨w, hw⟩)]
    rfl
  dsimp only [Family.apply]
  refine ⟨Family.nodup_update hold.nodup, fun k => ?_, fun k x hx => ?_⟩
  · rw [Family.mem_keys_update, hold.mem_keys, hseen]
  · rw [Family.series_update hold.series hfresh k x hx, valuesOf_append_single, List.foldl_append]
    by_cases hk : k = key
    · subst hk
      rw [if_pos rfl, if_pos rfl, foldl_toList]
    · rw [if_neg hk, if_neg (Ne.symm hk), List.foldl_nil]

/-- Entries applied one by one to a family extend what it holds. -/
theorem Family.Holds.foldl {fam : Family α} {seen : List (List String × Option β)}
    (hold : Family.Holds fam fresh step seen) (es : List (List String × Option β)) :
    Family.Holds (es.foldl (Family.apply fresh step) fam) fresh step (seen ++ es) := by
  induction es generalizing fam seen with
  | nil => simpa using hold
  | cons e es ih =>
    rw [List.foldl_cons, ← List.singleton_append, ← List.append_assoc]
    exact ih (hold.apply e)

/-- A family that entries leave with one series for each key among them, once, each with what
`P` says of the values under its key. -/
structure Family.Of (fam : Family α) (es : List (List String × Option β)) (P : α → List β → Prop) :
    Prop where
  nodup : (fam.map Prod.fst).Nodup
  mem_keys : ∀ k, k ∈ fam.map Prod.fst ↔ ∃ v, (k, v) ∈ es
  series : ∀ k x, (k, x) ∈ fam → P x (valuesOf k es)

theorem Family.Holds.of {fam : Family α} {es : List (List String × Option β)} {P : α → List β → Prop}
    (hold : Family.Holds fam fresh step es) (hP : ∀ vs, P (vs.foldl step fresh) vs) :
    Family.Of fam es P :=
  ⟨hold.nodup, hold.mem_keys, fun k x hx => hold.series k x hx ▸ hP _⟩

end Store

/-! ## The four families of the registry -/

/-- What a call brings to the duration family: a touch names its key, a duration observes. -/
def durationEntry : Observation → Option (List String × Option Float)
  | .touch l => some (requestKey l, none)
  | .duration l millis => some (requestKey l, some millis)
  | _ => none

/-- What a call brings to a size family: the size, as a float. -/
def requestSizeEntry : Observation → Option (List String × Option Float)
  | .requestSize l bytes => some (requestKey l, some (u64ToFloat bytes))
  | _ => none

def responseSizeEntry : Observation → Option (List String × Option Float)
  | .responseSize l bytes => some (requestKey l, some (u64ToFloat bytes))
  | _ => none

/-- What a call brings to the gauge family, keyed without the status code. -/
def activeEntry : Observation → Option (List String × Option Int)
  | .active l delta => some (activeKey l, some delta)
  | _ => none

/-- Wrapping after each addition is wrapping the sum. -/
theorem wrapI64_add_wrapI64 (x d : Int) : wrapI64 (wrapI64 x + d) = wrapI64 (x + d) := by
  have h64 : Int.pow 2 64 = 18446744073709551616 := rfl
  have h63 : Int.pow 2 63 = 9223372036854775808 := rfl
  unfold wrapI64
  simp only [h64, h63]
  split <;> split <;> split <;> omega

theorem foldl_wrapI64 (ds : List Int) (x : Int) :
    ds.foldl (fun v d => wrapI64 (v + d)) (wrapI64 x) = wrapI64 (ds.foldl (· + ·) x) := by
  induction ds generalizing x with
  | nil => rfl
  | cons d ds ih => rw [List.foldl_cons, wrapI64_add_wrapI64, ih, List.foldl_cons]

section Run

variable {α β : Type}

/-- A run of calls on a family the calls reach one entry at a time, with a fresh series that no
call changes. -/
theorem Registry.foldl_family (proj : Registry → Family α)
    (entry : Observation → Option (List String × Option β)) (fresh : Registry → α)
    (step : α → β → α) (hfresh : ∀ r o, fresh (r.record o) = fresh r)
    (hrecord : ∀ r o, proj (r.record o) = (entry o).toList.foldl (Family.apply (fresh r) step) (proj r))
    (os : List Observation) (r : Registry) :
    proj (os.foldl Registry.record r) =
      (os.filterMap entry).foldl (Family.apply (fresh r) step) (proj r) := by
  induction os generalizing r with
  | nil => rfl
  | cons o os ih =>
    rw [List.foldl_cons, ih, hfresh, hrecord, List.filterMap_cons]
    cases entry o <;> rfl

end Run

theorem Registry.record_durations (r : Registry) (o : Observation) :
    (r.record o).durations = (durationEntry o).toList.foldl
      (Family.apply (Histogram.empty r.durationBounds) Histogram.observe) r.durations := by
  cases o <;> rfl

theorem Registry.record_requestSizes (r : Registry) (o : Observation) :
    (r.record o).requestSizes = (requestSizeEntry o).toList.foldl
      (Family.apply (Histogram.empty r.requestSizeBounds) Histogram.observe) r.requestSizes := by
  cases o <;> rfl

theorem Registry.record_responseSizes (r : Registry) (o : Observation) :
    (r.record o).responseSizes = (responseSizeEntry o).toList.foldl
      (Family.apply (Histogram.empty r.responseSizeBounds) Histogram.observe) r.responseSizes := by
  cases o <;> rfl

theorem Registry.record_active (r : Registry) (o : Observation) :
    (r.record o).active = (activeEntry o).toList.foldl
      (Family.apply 0 fun v d => wrapI64 (v + d)) r.active := by
  cases o <;> rfl

/-- Touching a series that exists changes nothing. -/
theorem Registry.record_touch_of_mem {r : Registry} {l : Labels}
    (h : requestKey l ∈ r.durations.map Prod.fst) : r.record (.touch l) = r := by
  simp only [Registry.record, Family.update_id h]

/-- Recording keeps the configured bounds. -/
theorem Registry.record_bounds (r : Registry) (o : Observation) :
    (r.record o).durationBounds = r.durationBounds ∧
    (r.record o).requestSizeBounds = r.requestSizeBounds ∧
    (r.record o).responseSizeBounds = r.responseSizeBounds := by
  cases o <;> exact ⟨rfl, rfl, rfl⟩

theorem Registry.eq_of_new {c : Config} {r : Registry} (hnew : Registry.new c = .ok r) :
    c.validate = .ok () ∧
    r = ⟨c.service, c.durationBuckets, c.requestSizeBuckets, c.responseSizeBuckets, [], [], [], []⟩ := by
  cases hv : c.validate with
  | error e =>
    rw [Registry.new_of_validate hv] at hnew
    cases hnew
  | ok u =>
    rw [Registry.new_of_valid hv] at hnew
    cases hnew
    exact ⟨rfl, rfl⟩

/-- Histograms from empty ones with strictly increasing bounds, by the values under their keys. -/
theorem Family.Holds.histograms {fam : Family Histogram} {bs : List Float}
    {es : List (List String × Option Float)} (hsorted : bs.Pairwise (· < ·))
    (hold : Family.Holds fam (Histogram.empty bs) Histogram.observe es) :
    Family.Of fam es (Histogram.Of · bs) :=
  hold.of (Histogram.of_foldl_empty hsorted)

/-- What any calls leave in a registry built from a configuration. Each histogram family holds
one series for each key among the calls that reach it (a touch or a duration for the durations,
a size for its family), once; a series has the configured bounds then `+Inf`, counts its values
(a touch brings none) and its running total at each configured bound counts its values at most
that bound. The gauge family holds one series for each key without the status code, the wrapped
sum of its deltas. A touch of an existing series changes nothing. -/
theorem Registry.store_of_calls {c : Config} {r₀ : Registry} (hnew : Registry.new c = .ok r₀)
    (os : List Observation) :
    Family.Of (os.foldl Registry.record r₀).durations (os.filterMap durationEntry)
      (Histogram.Of · c.durationBuckets) ∧
    Family.Of (os.foldl Registry.record r₀).requestSizes (os.filterMap requestSizeEntry)
      (Histogram.Of · c.requestSizeBuckets) ∧
    Family.Of (os.foldl Registry.record r₀).responseSizes (os.filterMap responseSizeEntry)
      (Histogram.Of · c.responseSizeBuckets) ∧
    Family.Of (os.foldl Registry.record r₀).active (os.filterMap activeEntry)
      (fun x ds => x = wrapI64 (ds.foldl (· + ·) 0)) ∧
    ∀ l, requestKey l ∈ (os.foldl Registry.record r₀).durations.map Prod.fst →
      (os.foldl Registry.record r₀).record (.touch l) = os.foldl Registry.record r₀ := by
  obtain ⟨hvalid, rfl⟩ := Registry.eq_of_new hnew
  -- the configuration is valid, so each list of bounds is strictly increasing
  have hsorted : ∀ m, (c.buckets m).Pairwise (· < ·) := fun m =>
    ((Config.validate_eq_ok_iff c).mp hvalid m).2.2
  refine ⟨?_, ?_, ?_, ?_, fun l hl => Registry.record_touch_of_mem hl⟩
  · rw [Registry.foldl_family (·.durations) durationEntry (Histogram.empty ·.durationBounds)
      Histogram.observe (fun r o => by rw [(Registry.record_bounds r o).1]) Registry.record_durations]
    exact (Family.holds_nil.foldl _).histograms (hsorted .duration)
  · rw [Registry.foldl_family (·.requestSizes) requestSizeEntry
      (Histogram.empty ·.requestSizeBounds) Histogram.observe
      (fun r o => by rw [(Registry.record_bounds r o).2.1]) Registry.record_requestSizes]
    exact (Family.holds_nil.foldl _).histograms (hsorted .requestSize)
  · rw [Registry.foldl_family (·.responseSizes) responseSizeEntry
      (Histogram.empty ·.responseSizeBounds) Histogram.observe
      (fun r o => by rw [(Registry.record_bounds r o).2.2]) Registry.record_responseSizes]
    exact (Family.holds_nil.foldl _).histograms (hsorted .responseSize)
  · rw [Registry.foldl_family (·.active) activeEntry (fun _ => 0) _ (fun _ _ => rfl)
      Registry.record_active]
    exact (Family.holds_nil.foldl _).of fun ds => foldl_wrapI64 ds 0

theorem Registry.store_of_calls_after_touch :
    let r₀ : Registry :=
      ⟨"svc", defaultDurationBuckets, defaultSizeBuckets, defaultSizeBuckets, [], [], [], []⟩
    let l : Labels := ⟨"GET", "example.com", "/users", none⟩
    let os := [.touch l, .active l 1, .duration l 7.5, .requestSize l 300, .active l (-1)]
    Registry.new (Config.new "svc") = .ok r₀ ∧
    Family.Of (os.foldl Registry.record r₀).durations (os.filterMap durationEntry)
      (Histogram.Of · defaultDurationBuckets) ∧
    Family.Of (os.foldl Registry.record r₀).requestSizes (os.filterMap requestSizeEntry)
      (Histogram.Of · defaultSizeBuckets) ∧
    Family.Of (os.foldl Registry.record r₀).responseSizes (os.filterMap responseSizeEntry)
      (Histogram.Of · defaultSizeBuckets) ∧
    Family.Of (os.foldl Registry.record r₀).active (os.filterMap activeEntry)
      (fun x ds => x = wrapI64 (ds.foldl (· + ·) 0)) ∧
    ∀ l, requestKey l ∈ (os.foldl Registry.record r₀).durations.map Prod.fst →
      (os.foldl Registry.record r₀).record (.touch l) = os.foldl Registry.record r₀ := by
  intro r₀ l os
  have hnew : Registry.new (Config.new "svc") = .ok r₀ := rfl
  exact ⟨hnew, Registry.store_of_calls hnew os⟩

end HttpTelemetry.Prometheus
