import HttpTelemetry.Route.Table
import Mathlib.Data.List.Find
/-!
# Route tables and the one-shot lookup

A route table compiles the normalized pattern of every endpoint up front; `firstMatch` compiles
the entries it is given one at a time and stops at the first that matches. Over the normalized
endpoints the two agree:

* building the table fails exactly when some normalized pattern does not compile, on the first
  such endpoint, and then the lookup fails with the same error unless an earlier entry matches;
* a table that is built answers with the pattern of the first endpoint whose template is the
  path or whose pattern matches it, and the lookup gives the same answer on every path except a
  template that its own pattern does not match.
-/

namespace HttpTelemetry.Route

open HttpTelemetry.Pattern

/-- Whether a pattern, anchored at both ends, compiles and matches the path. -/
def patternMatches (pattern path : String) : Bool :=
  match compileAnchored pattern with
  | .ok r => r.isMatch path
  | .error _ => false

/-- Whether the route of an endpoint takes a path: the path is its template, or its normalized
pattern matches it. -/
def Endpoint.takes (path : String) (e : Endpoint) : Bool :=
  e.path == path || patternMatches (normalize e.path) path

/-- An endpoint with its path normalized, as `Catalog.normalize` leaves it. -/
def Endpoint.normalized (e : Endpoint) : Endpoint := { e with path := normalize e.path }

theorem Catalog.normalize_endpoints (c : Catalog) :
    c.normalize.endpoints = c.endpoints.map Endpoint.normalized := rfl

theorem compileAnchored_error_pattern {pattern : String} {err : PatternError}
    (h : compileAnchored pattern = .error err) : err.pattern = pattern := by
  unfold compileAnchored at h
  split at h
  · cases h
  · cases h
    rfl

theorem patternMatches_of_ok {pattern path : String} {r : Regex}
    (h : compileAnchored pattern = .ok r) : patternMatches pattern path = r.isMatch path := by
  simp only [patternMatches, h]

/-! ## Building the table -/

theorem ofEndpoint_eq (e : Endpoint) :
    Route.ofEndpoint e = (compileAnchored (normalize e.path)).map (⟨e.path, normalize e.path, ·⟩) := by
  simp only [Route.ofEndpoint]
  cases compileAnchored (normalize e.path) <;> rfl

theorem RouteTable.ofEndpoints_nil : RouteTable.ofEndpoints [] = .ok ⟨[]⟩ := rfl

theorem RouteTable.ofEndpoints_cons (e : Endpoint) (es : List Endpoint) :
    RouteTable.ofEndpoints (e :: es) =
      match compileAnchored (normalize e.path) with
      | .error err => .error err
      | .ok regex => (RouteTable.ofEndpoints es).map fun t => ⟨⟨e.path, normalize e.path, regex⟩ :: t.routes⟩ := by
  simp only [RouteTable.ofEndpoints, List.mapM_cons, ofEndpoint_eq]
  cases compileAnchored (normalize e.path) <;> cases List.mapM Route.ofEndpoint es <;> rfl

/-- The table fails on the first endpoint whose normalized pattern does not compile. -/
theorem RouteTable.ofEndpoints_error_iff {es : List Endpoint} {err : PatternError} :
    RouteTable.ofEndpoints es = .error err ↔
      ∃ pre e post, es = pre ++ e :: post ∧
        (∀ d ∈ pre, (compileAnchored (normalize d.path)).isOk) ∧
        compileAnchored (normalize e.path) = .error err := by
  induction es with
  | nil =>
    simp only [RouteTable.ofEndpoints_nil, reduceCtorEq, false_iff, not_exists, not_and]
    intro pre e post h
    simp at h
  | cons e es ih =>
    rw [RouteTable.ofEndpoints_cons]
    cases hcompile : compileAnchored (normalize e.path) with
    | error err' =>
      dsimp only
      constructor
      · intro h
        cases h
        exact ⟨[], e, es, rfl, by simp, hcompile⟩
      · rintro ⟨pre, d, post, hsplit, hpre, hd⟩
        cases pre with
        | nil =>
          obtain ⟨rfl, rfl⟩ := List.cons_eq_cons.mp hsplit
          rw [hcompile] at hd
          cases hd
          rfl
        | cons d' pre =>
          obtain ⟨rfl, -⟩ := List.cons_eq_cons.mp hsplit
          have hok := hpre e (List.mem_cons_self ..)
          rw [hcompile] at hok
          cases hok
    | ok regex =>
      dsimp only
      have hmap : ((RouteTable.ofEndpoints es).map fun t =>
          (⟨⟨e.path, normalize e.path, regex⟩ :: t.routes⟩ : RouteTable)) = .error err ↔
          RouteTable.ofEndpoints es = .error err := by
        cases RouteTable.ofEndpoints es <;> simp [Except.map]
      rw [hmap, ih]
      constructor
      · rintro ⟨pre, d, post, rfl, hpre, hd⟩
        refine ⟨e :: pre, d, post, rfl, ?_, hd⟩
        intro d' hd'
        rcases List.mem_cons.mp hd' with rfl | hd'
        · rw [hcompile]
          rfl
        · exact hpre d' hd'
      · rintro ⟨pre, d, post, hsplit, hpre, hd⟩
        cases pre with
        | nil =>
          obtain ⟨rfl, -⟩ := List.cons_eq_cons.mp hsplit
          rw [hcompile] at hd
          cases hd
        | cons d' pre =>
          obtain ⟨-, rfl⟩ := List.cons_eq_cons.mp hsplit
          exact ⟨pre, d, post, rfl, fun x hx => hpre x (List.mem_cons_of_mem _ hx), hd⟩

/-- A table that is built has one route per endpoint, and answers with the pattern of the first
endpoint that takes the path. -/
theorem RouteTable.ofEndpoints_ok {es : List Endpoint} {rt : RouteTable}
    (h : RouteTable.ofEndpoints es = .ok rt) :
    (∀ e ∈ es, (compileAnchored (normalize e.path)).isOk) ∧ rt.size = es.length ∧
      ∀ path, rt.find path = (es.find? (·.takes path)).map (normalize ·.path) := by
  induction es generalizing rt with
  | nil =>
    cases h
    exact ⟨by simp, rfl, fun _ => rfl⟩
  | cons e es ih =>
    rw [RouteTable.ofEndpoints_cons] at h
    cases hcompile : compileAnchored (normalize e.path) with
    | error err => simp [hcompile] at h
    | ok regex =>
      rw [hcompile] at h
      cases htail : RouteTable.ofEndpoints es with
      | error err => simp [htail, Except.map] at h
      | ok t =>
        simp only [htail, Except.map, Except.ok.injEq] at h
        subst h
        obtain ⟨hcompiles, hsize, hfind⟩ := ih htail
        refine ⟨?_, by simp [RouteTable.size, ← hsize], ?_⟩
        · intro d hd
          rcases List.mem_cons.mp hd with rfl | hd
          · rw [hcompile]
            rfl
          · exact hcompiles d hd
        · intro path
          have htakes : e.takes path = (e.path == path || regex.isMatch path) := by
            rw [Endpoint.takes, patternMatches_of_ok hcompile]
          have hrest := hfind path
          simp only [RouteTable.find] at hrest ⊢
          rw [List.find?_cons, List.find?_cons, htakes]
          simp only [Route.accepts]
          cases (e.path == path || regex.isMatch path)
          · exact hrest
          · rfl

/-! ## The one-shot lookup -/

theorem firstMatch_cons (path : String) (e : Endpoint) (rest : List Endpoint) :
    firstMatch path (e :: rest) =
      match compileAnchored e.path with
      | .error err => .error err
      | .ok r => if r.isMatch path then .ok (some e.path) else firstMatch path rest := by
  simp only [firstMatch]
  cases compileAnchored e.path with
  | error err => rfl
  | ok r => cases r.isMatch path <;> rfl

/-- Over entries that all compile, the lookup answers with the first that matches, and otherwise
goes on to what follows them. -/
theorem firstMatch_append {pre : List Endpoint} (hpre : ∀ d ∈ pre, (compileAnchored d.path).isOk)
    (rest : List Endpoint) (path : String) :
    firstMatch path (pre ++ rest) =
      match pre.find? (patternMatches ·.path path) with
      | some d => .ok (some d.path)
      | none => firstMatch path rest := by
  induction pre with
  | nil => rfl
  | cons d pre ih =>
    have hd := hpre d (List.mem_cons_self ..)
    rw [List.cons_append, firstMatch_cons, List.find?_cons,
      ih fun x hx => hpre x (List.mem_cons_of_mem _ hx)]
    cases hcompile : compileAnchored d.path with
    | error err => rw [hcompile] at hd; cases hd
    | ok r =>
      simp only [patternMatches_of_ok hcompile]
      cases r.isMatch path <;> rfl

/-- The same over normalized entries, read off the endpoints they come from. -/
theorem firstMatch_normalized_append {pre : List Endpoint}
    (hpre : ∀ d ∈ pre, (compileAnchored (normalize d.path)).isOk) (rest : List Endpoint)
    (path : String) :
    firstMatch path (pre.map Endpoint.normalized ++ rest) =
      match pre.find? (fun d => patternMatches (normalize d.path) path) with
      | some d => .ok (some (normalize d.path))
      | none => firstMatch path rest := by
  have hnorm : ∀ d ∈ pre.map Endpoint.normalized, (compileAnchored d.path).isOk := by
    simp only [List.mem_map]
    rintro _ ⟨d, hd, rfl⟩
    exact hpre d hd
  have hpred : ((patternMatches ·.path path) ∘ Endpoint.normalized) =
      fun d => patternMatches (normalize d.path) path := rfl
  rw [firstMatch_append hnorm, List.find?_map, hpred]
  cases pre.find? (fun d => patternMatches (normalize d.path) path) <;> rfl

/-! ## The table against the lookup -/

/-- Route tables agree with the one-shot lookup over the normalized endpoints. Building the table
fails exactly when some normalized pattern does not compile, with the error of the first; the
lookup then answers with the first earlier entry that matches, or fails the same way. A table
that is built has one route per endpoint and answers with the pattern of the first endpoint that
takes the path; the lookup gives the same answer unless the path is a template that its own
pattern does not match. -/
theorem RouteTable.ofEndpoints_agrees_firstMatch (es : List Endpoint) (host : String)
    (codes : List String) (path : String) :
    match RouteTable.ofEndpoints es with
    | .ok rt =>
      (∀ e ∈ es, (compileAnchored (normalize e.path)).isOk) ∧ rt.size = es.length ∧
      rt.find path = (es.find? (·.takes path)).map (normalize ·.path) ∧
      ((∀ e ∈ es, e.path = path → patternMatches (normalize e.path) path) →
        firstMatch path (Catalog.normalize ⟨es, host, codes⟩).endpoints = .ok (rt.find path))
    | .error err =>
      ∃ pre e post, es = pre ++ e :: post ∧
        (∀ d ∈ pre, (compileAnchored (normalize d.path)).isOk) ∧
        compileAnchored (normalize e.path) = .error err ∧ err.pattern = normalize e.path ∧
        firstMatch path (Catalog.normalize ⟨es, host, codes⟩).endpoints =
          match pre.find? (fun d => patternMatches (normalize d.path) path) with
          | some d => .ok (some (normalize d.path))
          | none => .error err := by
  rw [Catalog.normalize_endpoints]
  cases h : RouteTable.ofEndpoints es with
  | ok rt =>
    obtain ⟨hcompiles, hsize, hfind⟩ := RouteTable.ofEndpoints_ok h
    refine ⟨hcompiles, hsize, hfind path, fun hstray => ?_⟩
    -- with no stray template, an endpoint takes the path exactly when its pattern matches it
    have htakes : es.find? (·.takes path) =
        es.find? (fun e => patternMatches (normalize e.path) path) := by
      apply List.find?_congr
      intro e he
      by_cases hpath : e.path = path
      · rw [Endpoint.takes, hstray e he hpath, Bool.or_true]
      · simp [Endpoint.takes, hpath]
    have hlookup := firstMatch_normalized_append hcompiles [] path
    rw [List.append_nil] at hlookup
    rw [hlookup, hfind path, htakes]
    cases es.find? (fun e => patternMatches (normalize e.path) path) <;> rfl
  | error err =>
    obtain ⟨pre, e, post, rfl, hpre, he⟩ := RouteTable.ofEndpoints_error_iff.mp h
    refine ⟨pre, e, post, rfl, hpre, he, compileAnchored_error_pattern he, ?_⟩
    rw [List.map_append, List.map_cons, firstMatch_normalized_append hpre, firstMatch_cons]
    cases pre.find? (fun d => patternMatches (normalize d.path) path) with
    | some d => rfl
    | none => simp only [Endpoint.normalized, he]

end HttpTelemetry.Route
