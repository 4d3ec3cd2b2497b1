import HttpTelemetry.Proofs.ActiveGauge
import HttpTelemetry.Proofs.BackendAgreement
import HttpTelemetry.Proofs.SeriesRegistration
/-!
# The calls of a session have the middleware's shapes

The two backends keep the same series on calls of the middleware's shapes
(`Observation.shaped`): the active-requests gauge moves while the status code is unknown, and
every other call comes once it is known. This module shows that a session makes no other call,
from the touches of its layer through any run of steps to teardown, so that what its backend
holds is a fold of such calls over the backend the configuration builds.

A gauge call carries the start labels of a request (`Observation.GaugeStep`, kept by the gauge's
invariant), and start labels have no status code. Every other call is settled
(`Observation.Settled`): a touch names a status code, and a call made once a response is known
carries the finish labels of its request, or the labels a kept response body owes its size with.
Those labels are finish labels too, which is the invariant `Session.Settled`. `SettledKept op`
says that an operation keeps it and makes settled calls only; it is proved for each operation and
carried through request steps, runs and teardown as the gauge is.
-/

namespace HttpTelemetry

/-- A call that carries the status code of a response, as every call but a gauge call must. -/
def Observation.Settled : Observation → Prop
  | .active _ _ => True
  | o => o.labels.statusCode.isSome

/-- A gauge call with start labels, and any other call that is settled, has the middleware's
shape. -/
theorem Observation.shaped_of_settled {layer : Middleware.Layer} {o : Observation}
    (hstep : o.GaugeStep layer) (hsettled : o.Settled) : o.shaped = true := by
  cases o with
  | active l d =>
    obtain ⟨-, head, rfl⟩ := hstep
    rfl
  | touch l => exact hsettled
  | duration l ms => exact hsettled
  | requestSize l n => exact hsettled
  | responseSize l n => exact hsettled

@[simp] theorem Backend.recordAll_prometheus (r : Prometheus.Registry) (os : List Observation) :
    (Backend.prometheus r).recordAll os = .prometheus (os.foldl Prometheus.Registry.record r) := by
  induction os generalizing r with
  | nil => rfl
  | cons o os ih => exact ih (r.record o)

@[simp] theorem Backend.recordAll_otel (m : Otel.Meter) (os : List Observation) :
    (Backend.otel m).recordAll os = .otel (os.foldl Otel.Meter.record m) := by
  induction os generalizing m with
  | nil => rfl
  | cons o os ih => exact ih (m.record o)

end HttpTelemetry

namespace HttpTelemetry.Middleware

open HttpTelemetry.Route

/-- The touches of a new layer have the middleware's shape: each names a status code. -/
theorem Layer.new_touches_shaped {config : Config} {catalog : Option Catalog} {layer : Layer}
    {touches : List Observation} (h : Layer.new config catalog = .ok (layer, touches)) :
    ∀ o ∈ touches, o.shaped := by
  unfold Layer.new at h
  cases hroutes : RouteTable.ofEndpoints (catalog.getD ⟨[], "", []⟩).endpoints with
  | error e => simp [hroutes] at h
  | ok routes =>
    simp only [hroutes, Except.ok.injEq, Prod.mk.injEq] at h
    obtain ⟨-, rfl⟩ := h
    intro o ho
    rw [initialTouches_normalize] at ho
    obtain ⟨e, -, ho⟩ := List.mem_flatMap.mp ho
    obtain ⟨code, -, rfl⟩ := List.mem_map.mp ho
    rfl

/-! ## Response bodies owe their sizes with finish labels -/

/-- A response body owes its size, if it still does, with labels that carry a status code. -/
def Reply.Settled (r : Reply) : Prop := ∀ l ∈ r.pending, l.statusCode.isSome

theorem Reply.Settled.owed {r : Reply} (hr : r.Settled) : ∀ o ∈ r.owed, o.Settled := by
  intro o ho
  rcases r with ⟨body, _ | labels⟩
  · simp [Reply.owed] at ho
  · simp only [Reply.owed, Option.toList_some, List.map_cons, List.map_nil,
      List.mem_singleton] at ho
    subst ho
    exact hr labels rfl

theorem Reply.Settled.pollFrame {r : Reply} (hr : r.Settled) :
    r.pollFrame.2.1.Settled ∧ ∀ o ∈ r.pollFrame.2.2, o.Settled := by
  unfold Reply.pollFrame
  split
  · exact ⟨(fun l hl => by cases hl), Reply.Settled.owed (r := { r with body := r.body.poll.2 }) hr⟩
  · exact ⟨hr, by simp⟩

theorem Reply.Settled.read {r : Reply} (hr : r.Settled) (fuel : Nat) :
    (r.read fuel).2.1.Settled ∧ ∀ o ∈ (r.read fuel).2.2, o.Settled :=
  Reply.read_keeps Reply.Settled Observation.Settled (fun _ h => h.pollFrame) hr fuel

theorem Reply.start_settled {labels : Labels} (hlabels : labels.statusCode.isSome)
    (head : Http.ResponseHead) (body : Body.Source) : (Reply.start labels head body).Settled := by
  intro l hl
  simp only [Reply.start] at hl
  split at hl
  · cases hl
  · cases hl
    exact hlabels

/-- The response bodies a session keeps owe their sizes with labels that carry a status code. -/
def Session.Settled (s : Session) : Prop := ∀ e ∈ s.replies, e.2.Settled

section Invariant

variable {s t : Session} {id : String} {r : Reply}

theorem Session.Settled.of_replies (hs : s.Settled) (h : t.replies = s.replies) : t.Settled := by
  intro e he
  rw [h] at he
  exact hs e he

theorem Session.Settled.of_put (hs : s.Settled) (hr : r.Settled) (h : t.replies = put s.replies id r) :
    t.Settled := by
  intro e he
  rw [h] at he
  rcases mem_put he with he | rfl
  · exact hs e he
  · exact hr

theorem Session.Settled.of_erase (hs : s.Settled) (h : t.replies = erase s.replies id) : t.Settled := by
  intro e he
  rw [h] at he
  exact hs e (mem_of_mem_erase he)

theorem Session.Settled.reply (hs : s.Settled) (h : lookup s.replies id = some r) : r.Settled :=
  hs (id, r) (mem_of_lookup h)

theorem Session.Settled.owedAt_settled (hs : s.Settled) (id : String) :
    ∀ o ∈ owedAt s.replies id, o.Settled := by
  unfold owedAt
  cases h : lookup s.replies id with
  | none => simp
  | some r => exact (hs.reply h).owed

end Invariant

/-! ## Operations keep their calls settled -/

/-- At `s`, an operation keeps the response bodies settled and makes settled calls only. -/
def SettledKeptAt {α : Type} (op : Session → α × Session) (s : Session) : Prop :=
  (op s).2.Settled ∧ ∀ o ∈ callsOf op s, o.Settled

/-- An operation that keeps its calls settled from every session with the invariant. -/
def SettledKept {α : Type} (op : Session → α × Session) : Prop := ∀ s, s.Settled → SettledKeptAt op s

section Operations

variable {α : Type} {op : Session → α × Session} {s t : Session} {a : α} {os : List Observation}

theorem settledKeptAt_of_eq (hs : op s = (a, t)) (hcalls : callsOf op s = os) (ht : t.Settled)
    (hos : ∀ o ∈ os, o.Settled) : SettledKeptAt op s := by
  rw [SettledKeptAt, hs, hcalls]
  exact ⟨ht, hos⟩

theorem settledKeptAt_of_idle (hs : op s = (a, s)) (hcalls : callsOf op s = []) (hset : s.Settled) :
    SettledKeptAt op s :=
  settledKeptAt_of_eq hs hcalls hset (by simp)

/-- A case whose one call moves the gauge, and that leaves the response bodies alone. -/
theorem settledKeptAt_of_gauge {l : Labels} {d : Int} (hs : op s = (a, t))
    (hcalls : callsOf op s = [.active l d]) (hset : s.Settled) (hreplies : t.replies = s.replies) :
    SettledKeptAt op s := by
  refine settledKeptAt_of_eq hs hcalls (hset.of_replies hreplies) ?_
  intro o ho
  rw [List.mem_singleton] at ho
  subst ho
  trivial

theorem Session.begin_settledKept (id : String) (x : Exchange) : SettledKept (·.begin id x) := by
  intro s hs
  cases hlive : s.isLive id
  · rcases hb : x.build with r | ⟨head, script⟩
    · exact settledKeptAt_of_idle (Session.begin_of_refused hlive hb)
        (callsOf_of_eq (Session.begin_of_refused (s := s.core) hlive hb) (.refl _)) hs
    · exact settledKeptAt_of_gauge (Session.begin_of_build hlive hb)
        (Session.begin_calls_of_build hlive hb) hs rfl
  · exact settledKeptAt_of_idle (Session.begin_of_live hlive)
      (callsOf_of_eq (Session.begin_of_live (s := s.core) hlive) (.refl _)) hs

theorem Session.poll_settledKept (id : String) (elapsed : Float) :
    SettledKept (·.poll id elapsed) := by
  intro s hs
  rcases hf : lookup s.flights id with _ | f
  · exact settledKeptAt_of_idle (Session.poll_of_unknown hf)
      (callsOf_of_eq (Session.poll_of_unknown (s := s.core) hf) (.refl _)) hs
  by_cases hwait : 0 < f.pendingLeft
  · exact settledKeptAt_of_eq (Session.poll_of_waiting hf hwait)
      (Session.poll_calls_of_waiting hf hwait) (hs.of_replies rfl) (by simp)
  have hdue : f.pendingLeft = 0 := by omega
  rcases hout : f.script.outcome with message | ⟨head, body⟩
  · exact settledKeptAt_of_gauge (Session.poll_of_failed hf hdue hout)
      (Session.poll_calls_of_failed hf hdue hout) hs rfl
  · -- the answer's calls carry the finish labels, and the body is kept owing its size with them
    have hready : s.poll id elapsed = _ := Session.poll_of_ready hf hdue hout
    rw [Session.respond_eq] at hready
    refine settledKeptAt_of_eq hready (Session.poll_calls_of_ready hf hdue hout)
      (hs.of_put (Reply.start_settled rfl _ _) rfl) ?_
    intro o ho
    simp only [List.mem_append, List.mem_cons, List.not_mem_nil, or_false] at ho
    rcases ho with ((rfl | rfl | rfl) | ho) | ho
    · exact rfl
    · exact rfl
    · trivial
    · obtain ⟨n, -, rfl⟩ := List.mem_map.mp ho
      exact rfl
    · exact hs.owedAt_settled id o ho

theorem Session.cancel_settledKept (id : String) : SettledKept (·.cancel id) := by
  intro s hs
  rcases hf : lookup s.flights id with _ | f
  · exact settledKeptAt_of_idle (Session.cancel_of_unknown hf)
      (callsOf_of_eq (Session.cancel_of_unknown (s := s.core) hf) (.refl _)) hs
  · exact settledKeptAt_of_gauge (Session.cancel_of_live hf) (Session.cancel_calls_of_live hf) hs rfl

theorem Session.readResponse_settledKept (id : String) (limit : Option Nat) :
    SettledKept (·.readResponse id limit) := by
  intro s hs
  rcases hr : lookup s.replies id with _ | r
  · exact settledKeptAt_of_idle (Session.readResponse_of_unknown hr)
      (callsOf_of_eq (Session.readResponse_of_unknown (s := s.core) hr) (.refl _)) hs
  · obtain ⟨hrest, hcalls⟩ := (hs.reply hr).read (limit.getD (r.body.inner.framesLeft + 1))
    exact settledKeptAt_of_eq (Session.readResponse_of_kept hr)
      (Session.readResponse_calls_of_kept hr) (hs.of_put hrest rfl) hcalls

theorem Session.dropResponse_settledKept (id : String) : SettledKept (·.dropResponse id) := by
  intro s hs
  rcases hr : lookup s.replies id with _ | r
  · exact settledKeptAt_of_idle (Session.dropResponse_of_unknown hr)
      (callsOf_of_eq (Session.dropResponse_of_unknown (s := s.core) hr) (.refl _)) hs
  · exact settledKeptAt_of_eq (Session.dropResponse_of_kept hr)
      (Session.dropResponse_calls_of_kept hr) (hs.of_erase rfl) (hs.reply hr).owed

end Operations

/-! ## Request steps, runs and teardown -/

section Composition

variable {α β : Type} {op : Session → α × Session}

theorem SettledKept.pure (a : α) : SettledKept (fun s => (a, s)) :=
  fun _ hs => settledKeptAt_of_idle rfl rfl hs

theorem SettledKept.peek (g : Session → α) : SettledKept (fun s => (g s, s)) :=
  fun _ hs => settledKeptAt_of_idle rfl rfl hs

theorem SettledKept.answer (hop : SettledKept op) (b : β) : SettledKept (fun s => (b, (op s).2)) :=
  hop

theorem SettledKept.congr_fun {op' : Session → α × Session} (hop : SettledKept op)
    (heq : ∀ s, op' s = op s) : SettledKept op' := by
  have hfun : op' = op := funext heq
  rw [hfun]
  exact hop

/-- An operation followed by one its answer chooses keeps its calls settled when both do: its
calls are those of the first, then those of the second from where the first ends. -/
theorem SettledKept.bind {k : α → Session → β × Session} (htop : Tracked op)
    (htk : ∀ a, Tracked (k a)) (hop : SettledKept op) (hk : ∀ a, SettledKept (k a)) :
    SettledKept (fun s => k (op s).1 (op s).2) := by
  intro s hs
  obtain ⟨hset₁, hcalls₁⟩ := hop s hs
  obtain ⟨hset₂, hcalls₂⟩ := hk (op s).1 (op s).2 hset₁
  refine ⟨hset₂, fun o ho => ?_⟩
  rw [callsOf_bind htop htk] at ho
  rcases List.mem_append.mp ho with ho | ho
  · exact hcalls₁ o ho
  · exact hcalls₂ o ho

theorem SettledKept.each {op : String → Session → α × Session} (htrack : ∀ id, Tracked (op id))
    (h : ∀ id, SettledKept (op id)) (ids : List String) : SettledKept (Session.each op ids) := by
  induction ids with
  | nil => exact SettledKept.pure ()
  | cons id ids ih =>
    exact (SettledKept.bind (htrack id) (fun _ => Tracked.each htrack ids) (h id)
      fun _ => ih).congr_fun fun _ => rfl

end Composition

theorem Session.consumeReply_settledKept (id : String) (o : Outcome) (consume : Consume) :
    SettledKept (Session.consumeReply id o consume) := by
  cases consume with
  | readAndDrop limit =>
    exact SettledKept.bind (Session.readResponse_tracked id limit) (Session.afterRead_tracked id o)
      (Session.readResponse_settledKept id limit)
      fun a => (Session.dropResponse_settledKept id).answer _
  | drop => exact (Session.dropResponse_settledKept id).answer _
  | keep => exact SettledKept.pure _

theorem Session.afterPoll_settledKept (id : String) (consume : Consume) (a : Answer) :
    SettledKept (Session.afterPoll id consume a) := by
  rcases a with _ | _ | _ | _ | (_ | _ | ⟨status, endStream, hint⟩) | _ | _ | _ | _ | _
  case polled.ready => exact Session.consumeReply_settledKept id _ consume
  all_goals exact SettledKept.pure _

theorem Session.afterBegin_settledKept (id : String) (elapsed : Float) (consume : Consume)
    (a : Answer) : SettledKept (Session.afterBegin id elapsed consume a) := by
  cases a
  case began =>
    exact SettledKept.bind (Session.poll_tracked id elapsed) (Session.afterPoll_tracked id consume)
      (Session.poll_settledKept id elapsed) (Session.afterPoll_settledKept id consume)
  all_goals exact SettledKept.pure _

theorem Session.run_settledKept (st : Step) : SettledKept (·.run st) := by
  cases st with
  | begin id x => exact Session.begin_settledKept id x
  | poll id elapsed => exact Session.poll_settledKept id elapsed
  | cancel id => exact Session.cancel_settledKept id
  | readResponse id limit => exact Session.readResponse_settledKept id limit
  | dropResponse id => exact Session.dropResponse_settledKept id
  | request id x elapsed consume =>
    exact (SettledKept.bind (Session.begin_tracked id x)
      (Session.afterBegin_tracked id elapsed consume) (Session.begin_settledKept id x)
      (Session.afterBegin_settledKept id elapsed consume)).congr_fun
      fun s => Session.request_eq s id x elapsed consume
  | snapshot => exact SettledKept.peek _

/-- Over a run from a session with the invariant, the invariant holds at the end and every call
is settled. -/
theorem Session.runAll_settled (s : Session) (hs : s.Settled) (steps : List Step) :
    (s.runAll steps).Settled ∧ ∀ o ∈ s.runCalls steps, o.Settled := by
  induction steps generalizing s with
  | nil => exact ⟨hs, by simp⟩
  | cons st steps ih =>
    -- a step is its operation with the log emptied around it, which keeps the response bodies
    obtain ⟨hset₁, hcalls₁⟩ := Session.run_settledKept st s hs
    obtain ⟨hset₂, hcalls₂⟩ := ih (s.step st).2 (hset₁.of_replies (Session.step_replies s st))
    refine ⟨hset₂, fun o ho => ?_⟩
    rw [Session.runCalls_cons] at ho
    rcases List.mem_append.mp ho with ho | ho
    · exact hcalls₁ o ho
    · exact hcalls₂ o ho

theorem Session.closeAll_settledKept : SettledKept Session.closeAll := by
  have hcancel : SettledKept Session.cancelAll :=
    (SettledKept.bind (Tracked.peek _ fun _ => rfl)
      (fun ids => Tracked.each (fun id => Session.cancel_tracked id) ids) (SettledKept.peek _)
      (SettledKept.each (fun id => Session.cancel_tracked id) Session.cancel_settledKept)).congr_fun
      fun _ => rfl
  have hdrop : SettledKept Session.dropAll :=
    (SettledKept.bind (Tracked.peek _ fun _ => rfl)
      (fun ids => Tracked.each (fun id => Session.dropResponse_tracked id) ids) (SettledKept.peek _)
      (SettledKept.each (fun id => Session.dropResponse_tracked id)
        Session.dropResponse_settledKept)).congr_fun fun _ => rfl
  exact (SettledKept.bind Session.cancelAll_tracked (fun _ => Session.dropAll_tracked) hcancel
    fun _ => hdrop).congr_fun fun _ => rfl

/-! ## The life of a session -/

/-- **Every call of a session has the middleware's shape.** The backend a session ends with,
after any run of steps and teardown, is the backend its setup builds from the configuration,
after the touches of its layer, the calls of the run and those of teardown; and every one of
these calls moves the gauge with start labels or carries a status code. -/
theorem Session.calls_shaped {k : Setup} {config : Config} {catalog : Option Catalog}
    {s₀ : Session} (hnew : Session.new k config catalog = .ok s₀) (steps : List Step) :
    ∃ backend touches, k.backend config = .ok backend ∧
      Layer.new config catalog = .ok (s₀.layer, touches) ∧
      (s₀.runAll steps).teardown.2.backend =
        backend.recordAll (touches ++ s₀.runCalls steps ++ (s₀.runAll steps).teardownCalls) ∧
      ∀ o ∈ touches ++ s₀.runCalls steps ++ (s₀.runAll steps).teardownCalls, o.shaped := by
  obtain ⟨layer, backend, touches, hb, hl, hs₀⟩ := Session.new_inv hnew
  have hlayer : s₀.layer = layer := by rw [hs₀, Session.observeAll_layer]
  have hset₀ : s₀.Settled := by
    intro e he
    rw [hs₀, Session.observeAll_replies] at he
    cases he
  -- the run keeps both invariants, and teardown starts from where the run ends
  have hwf₀ : s₀.Wf := .of_flights_nil (Session.new_flights hnew)
  obtain ⟨hwf, -, hstep⟩ := s₀.runAll_gauge hwf₀ steps
  obtain ⟨hset, hsettled⟩ := s₀.runAll_settled hset₀ steps
  obtain ⟨-, -, hstepClose⟩ := Session.closeAll_gaugeKept _ hwf
  obtain ⟨-, hsettledClose⟩ := Session.closeAll_settledKept _ hset
  refine ⟨backend, touches, hb, by rw [hlayer]; exact hl, ?_, ?_⟩
  · rw [Session.teardown_backend, Session.runAll_backend, hs₀, Session.observeAll_backend,
      Backend.recordAll_append, Backend.recordAll_append]
  · intro o ho
    rcases List.mem_append.mp ho with ho | ho
    · rcases List.mem_append.mp ho with ho | ho
      · exact Layer.new_touches_shaped hl o ho
      · exact Observation.shaped_of_settled (hstep o ho) (hsettled o ho)
    · exact Observation.shaped_of_settled (hstepClose o ho) (hsettledClose o ho)

/-- A Prometheus session ends with the registry its configuration builds after a fold of calls
of the middleware's shapes, and an OpenTelemetry session with the instruments its configuration
builds after such a fold: the runs on which the two backends keep the same series. -/
theorem Session.backend_folds_shaped_calls {config : Config} {catalog : Option Catalog}
    (steps : List Step) :
    (∀ s₀, Session.new .prometheus config catalog = .ok s₀ →
      ∃ (r₀ : Prometheus.Registry) (os : List Observation),
        Prometheus.Registry.new config = .ok r₀ ∧ (∀ o ∈ os, o.shaped) ∧
        (s₀.runAll steps).teardown.2.backend = .prometheus (os.foldl Prometheus.Registry.record r₀)) ∧
    (∀ s₀, Session.new .otel config catalog = .ok s₀ →
      ∃ (m₀ : Otel.Meter) (os : List Observation),
        Otel.Meter.new config = .ok m₀ ∧ (∀ o ∈ os, o.shaped) ∧
        (s₀.runAll steps).teardown.2.backend = .otel (os.foldl Otel.Meter.record m₀)) := by
  constructor
  · intro s₀ hnew
    obtain ⟨backend, touches, hb, -, hend, hshaped⟩ := Session.calls_shaped hnew steps
    -- the setup's backend is the registry the configuration builds
    cases hr : Prometheus.Registry.new config with
    | error e => simp [Setup.backend, hr] at hb
    | ok r₀ =>
      have hbackend : backend = .prometheus r₀ := by
        simp only [Setup.backend, hr] at hb
        exact (Except.ok.inj hb).symm
      refine ⟨r₀, _, rfl, hshaped, ?_⟩
      rw [hend, hbackend, Backend.recordAll_prometheus]
  · intro s₀ hnew
    obtain ⟨backend, touches, hb, -, hend, hshaped⟩ := Session.calls_shaped hnew steps
    cases hm : Otel.Meter.new config with
    | error e => simp [Setup.backend, hm] at hb
    | ok m₀ =>
      have hbackend : backend = .otel m₀ := by
        simp only [Setup.backend, hm] at hb
        exact (Except.ok.inj hb).symm
      refine ⟨m₀, _, rfl, hshaped, ?_⟩
      rw [hend, hbackend, Backend.recordAll_otel]

end HttpTelemetry.Middleware
