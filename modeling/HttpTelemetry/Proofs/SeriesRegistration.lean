import HttpTelemetry.Middleware.Layer
import HttpTelemetry.Proofs.RouteLookup
/-!
# The series a layer registers

Building the layer compiles the normalized pattern of every known endpoint. When one does not
compile, the first such endpoint is the error and nothing is recorded. Otherwise the layer
touches the duration series of every endpoint with every status code, endpoints outside and
status codes inside, keeping duplicates. Every pattern the layer's route table can answer with is
then a touched path, so a finished request whose route collapses onto a known endpoint, with that
endpoint's verb, the catalog's host and a known status code, lands on a series that exists before
the first request.
-/

namespace HttpTelemetry.Middleware

open HttpTelemetry.Route

/-- In a list made of blocks of `n` entries, entry `j` of block `i` is at `i * n + j`. -/
theorem getElem?_flatMap_of_length {α β : Type} (f : α → List β) {n : Nat}
    (hlen : ∀ a, (f a).length = n) (l : List α) (i : Nat) {j : Nat} (hj : j < n) :
    (l.flatMap f)[i * n + j]? = l[i]?.bind fun a => (f a)[j]? := by
  induction l generalizing i with
  | nil => simp
  | cons a l ih =>
    rw [List.flatMap_cons]
    cases i with
    | zero =>
      rw [Nat.zero_mul, Nat.zero_add, List.getElem?_append_left (by rw [hlen]; exact hj)]
      rfl
    | succ i =>
      have hskip : (f a).length ≤ (i + 1) * n + j := by
        rw [hlen, Nat.succ_mul]
        omega
      have hindex : (i + 1) * n + j - (f a).length = i * n + j := by
        rw [hlen, Nat.succ_mul]
        omega
      rw [List.getElem?_append_right hskip, hindex, ih]
      rfl

/-- The touch of one endpoint with one status code. -/
def touchOf (c : Catalog) (e : Endpoint) (code : String) : Observation :=
  .touch ⟨e.verb, c.host, normalize e.path, some code⟩

theorem initialTouches_normalize (c : Catalog) :
    initialTouches c.normalize = c.endpoints.flatMap fun e => c.statusCodes.map (touchOf c e) := by
  simp only [initialTouches, Catalog.normalize_endpoints, List.flatMap_map]
  rfl

theorem initialTouches_length (c : Catalog) :
    (initialTouches c.normalize).length = c.endpoints.length * c.statusCodes.length := by
  rw [initialTouches_normalize]
  induction c.endpoints with
  | nil => simp
  | cons e es ih => simp [ih, Nat.succ_mul, Nat.add_comm]

theorem initialTouches_getElem? (c : Catalog) {i j : Nat} (hi : i < c.endpoints.length)
    (hj : j < c.statusCodes.length) :
    (initialTouches c.normalize)[i * c.statusCodes.length + j]? =
      some (touchOf c c.endpoints[i] c.statusCodes[j]) := by
  rw [initialTouches_normalize,
    getElem?_flatMap_of_length _ (fun _ => List.length_map ..) _ _ hj,
    List.getElem?_eq_getElem hi]
  simp [List.getElem?_eq_getElem hj]

theorem touch_mem_initialTouches {c : Catalog} {e : Endpoint} {code : String}
    (he : e ∈ c.endpoints) (hcode : code ∈ c.statusCodes) :
    touchOf c e code ∈ initialTouches c.normalize := by
  rw [initialTouches_normalize]
  exact List.mem_flatMap.mpr ⟨e, he, List.mem_map_of_mem hcode⟩

/-- A finished request whose route collapses onto a known endpoint, with the endpoint's verb and
the catalog's host, gets the labels of that endpoint's touch. -/
theorem Layer.finishLabels_eq_touch {l : Layer} {c : Catalog} {e : Endpoint} {start : Labels}
    {status : Nat} (hfind : l.routes.find start.path = some (normalize e.path))
    (hverb : start.verb = e.verb) (hhost : start.host = c.host) :
    Observation.touch (l.finishLabels start status) = touchOf c e (toString status) := by
  simp only [Layer.finishLabels, hfind, Option.getD_some, touchOf, ← hverb, ← hhost]

/-- Layers register the series of their known endpoints. Building fails exactly when some
normalized endpoint pattern does not compile, with the error of the first, and records nothing.
Otherwise it touches the duration series of every endpoint with every status code, endpoint by
endpoint, and nothing else; with some status code known, every pattern the route table answers
with is a touched path, and a finished request whose route collapses onto a known endpoint, with
its verb, the catalog's host and a known status code, has the labels of a touched series. -/
theorem Layer.new_preregisters (config : Config) (catalog : Option Catalog) :
    let c := catalog.getD ⟨[], "", []⟩
    match Layer.new config catalog with
    | .error err =>
      ∃ pre e post cause, c.endpoints = pre ++ e :: post ∧
        (∀ d ∈ pre, (compileAnchored (normalize d.path)).isOk) ∧
        compileAnchored (normalize e.path) = .error ⟨normalize e.path, cause⟩ ∧
        err = .invalidPattern (normalize e.path) cause
    | .ok (layer, calls) =>
      (∀ e ∈ c.endpoints, (compileAnchored (normalize e.path)).isOk) ∧
      calls.length = c.endpoints.length * c.statusCodes.length ∧
      (∀ i j (hi : i < c.endpoints.length) (hj : j < c.statusCodes.length),
        calls[i * c.statusCodes.length + j]? =
          some (.touch ⟨c.endpoints[i].verb, c.host, normalize c.endpoints[i].path,
            some c.statusCodes[j]⟩)) ∧
      (c.statusCodes ≠ [] → ∀ path pattern, layer.routes.find path = some pattern →
        ∃ labels, .touch labels ∈ calls ∧ labels.path = pattern) ∧
      (∀ e ∈ c.endpoints, ∀ (start : Labels) (status : Nat),
        layer.routes.find start.path = some (normalize e.path) → start.verb = e.verb →
        start.host = c.host → toString status ∈ c.statusCodes →
        .touch (layer.finishLabels start status) ∈ calls) := by
  intro c
  simp only [Layer.new]
  cases h : RouteTable.ofEndpoints c.endpoints with
  | error err =>
    obtain ⟨pre, e, post, hsplit, hpre, he⟩ := RouteTable.ofEndpoints_error_iff.mp h
    have hpattern := compileAnchored_error_pattern he
    refine ⟨pre, e, post, err.cause, hsplit, hpre, ?_, ?_⟩
    · rw [he, ← hpattern]
    · rw [Error.ofPattern, hpattern]
  | ok rt =>
    obtain ⟨hcompiles, -, hfind⟩ := RouteTable.ofEndpoints_ok h
    refine ⟨hcompiles, initialTouches_length c, fun i j hi hj => initialTouches_getElem? c hi hj,
      ?_, ?_⟩
    · intro hcodes path pattern hpattern
      obtain ⟨code, hcode⟩ := List.exists_mem_of_ne_nil _ hcodes
      rw [hfind path] at hpattern
      obtain ⟨e, he, rfl⟩ := Option.map_eq_some_iff.mp hpattern
      exact ⟨_, touch_mem_initialTouches (List.mem_of_find?_eq_some he) hcode, rfl⟩
    · intro e he start status hroute hverb hhost hstatus
      rw [Layer.finishLabels_eq_touch (c := c) hroute hverb hhost]
      exact touch_mem_initialTouches he hstatus

end HttpTelemetry.Middleware
