import HttpTelemetry.Proofs.SessionEffects
/-!
# The recorder calls of steps and runs

`Session.core` forgets how a session logs: it logs every call and has logged nothing yet. No
operation looks at the log, so an operation run from `s` and from `s.core` answers the same and
ends in sessions with the same core (`Oblivious`). `callsOf op s` is what the operation logs from
`s.core`, and `Follows s s' os` says that the backend of `s'` received exactly `os` in order, and
that a session that logs shows them: every operation makes exactly the calls `callsOf` reads
(`Faithful`).

Both facts are proved once for each operation of the middleware and carried to a step and to
a run of steps, whose calls are `Session.runCalls`.
-/

namespace HttpTelemetry.Middleware

open HttpTelemetry.Body

/-- The session with every recorder call logged and nothing logged yet. -/
def Session.core (s : Session) : Session := { s with logged := true, events := [] }

section Core

variable (s : Session)

@[simp] theorem Session.core_layer : s.core.layer = s.layer := rfl
@[simp] theorem Session.core_backend : s.core.backend = s.backend := rfl
@[simp] theorem Session.core_clock : s.core.clock = s.clock := rfl
@[simp] theorem Session.core_flights : s.core.flights = s.flights := rfl
@[simp] theorem Session.core_replies : s.core.replies = s.replies := rfl
@[simp] theorem Session.core_logged : s.core.logged = true := rfl
@[simp] theorem Session.core_events : s.core.events = [] := rfl
@[simp] theorem Session.core_core : s.core.core = s.core := rfl

@[simp] theorem Session.core_observeAll (os : List Observation) :
    (s.observeAll os).core = { s.core with backend := s.backend.recordAll os } := by
  simp [Session.core, Session.observeAll_eq]

@[simp] theorem Session.core_logServed (x : Served) : (s.logServed x).core = s.core := rfl

end Core

/-- The recorder calls an operation makes from a session: what it logs from the session's core. -/
def callsOf {α : Type} (op : Session → α × Session) (s : Session) : List Observation :=
  observations (op s.core).2.events

@[simp] theorem callsOf_core {α : Type} (op : Session → α × Session) (s : Session) :
    callsOf op s.core = callsOf op s := rfl

/-! ## Following calls -/

/-- `s'` is `s` after the recorder calls `os`: the backend received them in order, a session that
logs shows them in order, and the layer, the clock and the logging are kept. -/
structure Session.Follows (s s' : Session) (os : List Observation) : Prop where
  layer : s'.layer = s.layer
  clock : s'.clock = s.clock
  logged : s'.logged = s.logged
  backend : s'.backend = s.backend.recordAll os
  log : observations s'.events = observations s.events ++ if s.logged then os else []

namespace Session.Follows

theorem refl (s : Session) : Session.Follows s s [] :=
  ⟨rfl, rfl, rfl, rfl, by simp⟩

theorem observeAll (s : Session) (os : List Observation) : Session.Follows s (s.observeAll os) os := by
  constructor <;> by_cases h : s.logged <;> simp [h]

theorem observe (s : Session) (o : Observation) : Session.Follows s (s.observe o) [o] := by
  simpa using observeAll s [o]

theorem logServed (s : Session) (x : Served) : Session.Follows s (s.logServed x) [] :=
  ⟨rfl, rfl, rfl, rfl, by simp⟩

theorem trans {s s' s'' : Session} {os os' : List Observation} (h₁ : Session.Follows s s' os)
    (h₂ : Session.Follows s' s'' os') : Session.Follows s s'' (os ++ os') := by
  refine ⟨h₂.layer.trans h₁.layer, h₂.clock.trans h₁.clock, h₂.logged.trans h₁.logged, ?_, ?_⟩
  · rw [h₂.backend, h₁.backend, Backend.recordAll_append]
  · rw [h₂.log, h₁.log, h₁.logged]
    by_cases h : s.logged <;> simp [h]

theorem withFlights {s s' : Session} {os : List Observation} (h : Session.Follows s s' os)
    (flights : List (String × Flight)) : Session.Follows s { s' with flights } os :=
  ⟨h.layer, h.clock, h.logged, h.backend, h.log⟩

theorem withReplies {s s' : Session} {os : List Observation} (h : Session.Follows s s' os)
    (replies : List (String × Reply)) : Session.Follows s { s' with replies } os :=
  ⟨h.layer, h.clock, h.logged, h.backend, h.log⟩

/-- From a session that logs every call and has logged nothing, the log is the calls. -/
theorem calls_eq {s s' : Session} {os : List Observation} (h : Session.Follows s.core s' os) :
    observations s'.events = os := by
  simpa using h.log

theorem callsOf_eq {α : Type} {op : Session → α × Session} {s : Session} {os : List Observation}
    (h : Session.Follows s.core (op s.core).2 os) : callsOf op s = os :=
  calls_eq h

end Session.Follows

/-! ## Operations that ignore the log -/

/-- An operation ignores the log at `s` and makes the calls `callsOf` reads: from `s` and from
`s.core` it answers the same and ends in the same core, and from `s` it makes exactly the calls
it logs from `s.core`. -/
def TrackedAt {α : Type} (op : Session → α × Session) (s : Session) : Prop :=
  ((op s).1 = (op s.core).1 ∧ (op s).2.core = (op s.core).2.core) ∧
    Session.Follows s (op s).2 (callsOf op s)

/-- An operation that ignores the log and makes exactly the calls `callsOf` reads, from every
session. -/
def Tracked {α : Type} (op : Session → α × Session) : Prop := ∀ s, TrackedAt op s

theorem callsOf_of_eq {α : Type} {op : Session → α × Session} {s t : Session} {a : α}
    {os : List Observation} (hcore : op s.core = (a, t)) (hfollow : Session.Follows s.core t os) :
    callsOf op s = os := by
  apply Session.Follows.callsOf_eq
  rw [hcore]
  exact hfollow

/-- The shape every case of an operation has: from `s` and from `s.core` it answers `a` and ends in
`g s` and `g s.core`, where `g` keeps cores apart from the calls `os` it makes. -/
theorem trackedAt_of_eq {α : Type} {op : Session → α × Session} {s : Session} {a : α}
    {os : List Observation} (g : Session → Session) (hs : op s = (a, g s))
    (hcore : op s.core = (a, g s.core)) (hg : (g s).core = (g s.core).core)
    (hfollow : ∀ t, Session.Follows t (g t) os) : TrackedAt op s := by
  have hcalls : callsOf op s = os := callsOf_of_eq hcore (hfollow s.core)
  refine ⟨⟨?_, ?_⟩, ?_⟩
  · rw [hs, hcore]
  · rw [hs, hcore]
    exact hg
  · rw [hcalls, hs]
    exact hfollow s

theorem Tracked.congr {α : Type} {op : Session → α × Session} (h : Tracked op) {s t : Session}
    (hcore : s.core = t.core) : (op s).1 = (op t).1 ∧ (op s).2.core = (op t).2.core := by
  obtain ⟨⟨hs₁, hs₂⟩, -⟩ := h s
  obtain ⟨⟨ht₁, ht₂⟩, -⟩ := h t
  rw [hcore] at hs₁ hs₂
  exact ⟨hs₁.trans ht₁.symm, hs₂.trans ht₂.symm⟩

theorem Tracked.follows {α : Type} {op : Session → α × Session} (h : Tracked op) (s : Session) :
    Session.Follows s (op s).2 (callsOf op s) :=
  (h s).2

theorem callsOf_congr {α : Type} (op : Session → α × Session) {s t : Session}
    (hcore : s.core = t.core) : callsOf op s = callsOf op t := by
  rw [← callsOf_core op s, hcore, callsOf_core]

theorem Tracked.pure {α : Type} (a : α) : Tracked (fun s => (a, s)) :=
  fun s => ⟨⟨rfl, rfl⟩, by simpa [callsOf] using Session.Follows.refl s⟩

/-- An operation followed by one that the first answer chooses: its calls are those of the
first, then those of the second. -/
theorem callsOf_bind {α β : Type} {op : Session → α × Session} {k : α → Session → β × Session}
    (hop : Tracked op) (hk : ∀ a, Tracked (k a)) (s : Session) :
    callsOf (fun s => k (op s).1 (op s).2) s = callsOf op s ++ callsOf (k (op s).1) (op s).2 := by
  obtain ⟨⟨hans, hcore⟩, -⟩ := hop s
  have hfirst := hop.follows s.core
  have hsecond := (hk (op s).1).follows (op s.core).2
  have hlog : (op s.core).2.logged = true := by rw [hfirst.logged, Session.core_logged]
  have hcalls₁ : observations (op s.core).2.events = callsOf op s := by
    simpa using hfirst.log
  have hcalls₂ : callsOf (k (op s).1) (op s.core).2 = callsOf (k (op s).1) (op s).2 :=
    callsOf_congr _ hcore.symm
  show observations (k (op s.core).1 (op s.core).2).2.events = _
  rw [← hans, hsecond.log, hlog, hcalls₁, hcalls₂]
  simp

theorem Tracked.bind {α β : Type} {op : Session → α × Session} {k : α → Session → β × Session}
    (hop : Tracked op) (hk : ∀ a, Tracked (k a)) : Tracked (fun s => k (op s).1 (op s).2) := by
  intro s
  obtain ⟨⟨hans, hcore⟩, hfollow⟩ := hop s
  have hsame := (hk (op s).1).congr hcore
  refine ⟨⟨?_, ?_⟩, ?_⟩
  · show (k (op s).1 (op s).2).1 = (k (op s.core).1 (op s.core).2).1
    rw [← hans]
    exact hsame.1
  · show (k (op s).1 (op s).2).2.core = (k (op s.core).1 (op s.core).2).2.core
    rw [← hans]
    exact hsame.2
  · rw [callsOf_bind hop hk s]
    exact hfollow.trans ((hk (op s).1).follows (op s).2)

theorem Tracked.congr_fun {α : Type} {op op' : Session → α × Session} (hop : Tracked op)
    (heq : ∀ s, op' s = op s) : Tracked op' := by
  have hfun : op' = op := funext heq
  rw [hfun]
  exact hop

theorem Tracked.answer {α β : Type} {op : Session → α × Session} (hop : Tracked op) (b : β) :
    Tracked (fun s => (b, (op s).2)) := by
  intro s
  obtain ⟨⟨-, hcore⟩, hfollow⟩ := hop s
  exact ⟨⟨rfl, hcore⟩, hfollow⟩

/-! ## The operations of the middleware -/

section Operations

variable {s : Session} {id : String}

theorem Session.begin_tracked (id : String) (x : Exchange) : Tracked (·.begin id x) := by
  intro s
  cases hlive : s.isLive id
  · rcases hb : x.build with r | ⟨head, script⟩
    · exact trackedAt_of_eq (fun t => t) (Session.begin_of_refused hlive hb)
        (Session.begin_of_refused (s := s.core) hlive hb) rfl (fun t => .refl t)
    · exact trackedAt_of_eq
        (fun t => { t.observe (.active (s.layer.startLabels head) 1) with
          flights := put s.flights id (.start head (s.layer.startLabels head) x.body script) })
        (Session.begin_of_build hlive hb) (Session.begin_of_build (s := s.core) hlive hb)
        (by simp [Session.core, Session.observe])
        (fun t => (Session.Follows.observe t _).withFlights _)
  · exact trackedAt_of_eq (fun t => t) (Session.begin_of_live hlive)
      (Session.begin_of_live (s := s.core) hlive) rfl (fun t => .refl t)

theorem Session.poll_tracked (id : String) (elapsed : Float) : Tracked (·.poll id elapsed) := by
  intro s
  rcases hf : lookup s.flights id with _ | f
  · exact trackedAt_of_eq (fun t => t) (Session.poll_of_unknown hf)
      (Session.poll_of_unknown (s := s.core) hf) rfl (fun t => .refl t)
  by_cases hwait : 0 < f.pendingLeft
  · exact trackedAt_of_eq (fun t => { t with flights := put s.flights id f.waited })
      (Session.poll_of_waiting hf hwait) (Session.poll_of_waiting (s := s.core) hf hwait) rfl
      (fun t => (Session.Follows.refl t).withFlights _)
  have hdue : f.pendingLeft = 0 := by omega
  rcases hout : f.script.outcome with message | ⟨head, body⟩
  · exact trackedAt_of_eq
      (fun t => { t.logServed f.served with flights := erase s.flights id }.observe
        (.active f.labels (-1)))
      (Session.poll_of_failed hf hdue hout) (Session.poll_of_failed (s := s.core) hf hdue hout)
      (by simp [Session.core, Session.observe])
      (fun t => ((Session.Follows.logServed t _).withFlights _).trans (.observe _ _))
  · have hready : s.poll id elapsed = _ := Session.poll_of_ready hf hdue hout
    have hready' : s.core.poll id elapsed = _ := Session.poll_of_ready hf hdue hout
    rw [Session.respond_eq] at hready hready'
    exact trackedAt_of_eq _ hready hready' (by simp [Session.core])
      (fun t => (((Session.Follows.logServed t _).withFlights _).trans
        (.observeAll _ _)).withReplies _)

theorem Session.cancel_tracked (id : String) : Tracked (·.cancel id) := by
  intro s
  rcases hf : lookup s.flights id with _ | f
  · exact trackedAt_of_eq (fun t => t) (Session.cancel_of_unknown hf)
      (Session.cancel_of_unknown (s := s.core) hf) rfl (fun t => .refl t)
  · exact trackedAt_of_eq
      (fun t => { t with flights := erase s.flights id }.observe (.active f.labels (-1)))
      (Session.cancel_of_live hf) (Session.cancel_of_live (s := s.core) hf)
      (by simp [Session.core, Session.observe])
      (fun t => ((Session.Follows.refl t).withFlights _).trans (.observe _ _))

theorem Session.readResponse_tracked (id : String) (limit : Option Nat) :
    Tracked (·.readResponse id limit) := by
  intro s
  rcases hr : lookup s.replies id with _ | r
  · exact trackedAt_of_eq (fun t => t) (Session.readResponse_of_unknown hr)
      (Session.readResponse_of_unknown (s := s.core) hr) rfl (fun t => .refl t)
  · exact trackedAt_of_eq _ (Session.readResponse_of_kept hr)
      (Session.readResponse_of_kept (s := s.core) hr) (by simp [Session.core])
      (fun t => (Session.Follows.observeAll t _).withReplies _)

theorem Session.dropResponse_tracked (id : String) : Tracked (·.dropResponse id) := by
  intro s
  rcases hr : lookup s.replies id with _ | r
  · exact trackedAt_of_eq (fun t => t) (Session.dropResponse_of_unknown hr)
      (Session.dropResponse_of_unknown (s := s.core) hr) rfl (fun t => .refl t)
  · exact trackedAt_of_eq _ (Session.dropResponse_of_kept hr)
      (Session.dropResponse_of_kept (s := s.core) hr) (by simp [Session.core])
      (fun t => (Session.Follows.observeAll t _).withReplies _)

/-! What each case records, read off the core. -/

theorem Session.begin_calls_of_build {x : Exchange} {head : Http.RequestHead} {script : Script}
    (hlive : s.isLive id = false) (hb : x.build = .ok (head, script)) :
    callsOf (·.begin id x) s = [.active (s.layer.startLabels head) 1] :=
  callsOf_of_eq (Session.begin_of_build (s := s.core) hlive hb)
    ((Session.Follows.observe _ _).withFlights _)

theorem Session.poll_calls_of_waiting {elapsed : Float} {f : Flight}
    (h : lookup s.flights id = some f) (hwait : 0 < f.pendingLeft) :
    callsOf (·.poll id elapsed) s = [] :=
  callsOf_of_eq (Session.poll_of_waiting (s := s.core) h hwait)
    ((Session.Follows.refl _).withFlights _)

theorem Session.poll_calls_of_failed {elapsed : Float} {f : Flight} {message : String}
    (h : lookup s.flights id = some f) (hdue : f.pendingLeft = 0)
    (hfail : f.script.outcome = .error message) :
    callsOf (·.poll id elapsed) s = [.active f.labels (-1)] :=
  callsOf_of_eq (Session.poll_of_failed (s := s.core) h hdue hfail)
    (((Session.Follows.logServed _ _).withFlights _).trans (.observe _ _))

theorem Session.poll_calls_of_ready {elapsed : Float} {f : Flight} {head : Http.ResponseHead}
    {body : Source} (h : lookup s.flights id = some f) (hdue : f.pendingLeft = 0)
    (hok : f.script.outcome = .ok (head, body)) :
    callsOf (·.poll id elapsed) s =
      [.duration (s.layer.finishLabels f.labels head.status) (s.clock.millis elapsed),
        .requestSize (s.layer.finishLabels f.labels head.status) f.read.2.length,
        .active f.labels (-1)] ++
        (knownSize head body).toList.map (.responseSize (s.layer.finishLabels f.labels head.status)) ++
        owedAt s.replies id := by
  have hready : s.core.poll id elapsed = _ := Session.poll_of_ready h hdue hok
  rw [Session.respond_eq] at hready
  exact callsOf_of_eq hready
    ((((Session.Follows.logServed _ _).withFlights _).trans (.observeAll _ _)).withReplies _)

theorem Session.cancel_calls_of_live {f : Flight} (h : lookup s.flights id = some f) :
    callsOf (·.cancel id) s = [.active f.labels (-1)] :=
  callsOf_of_eq (Session.cancel_of_live (s := s.core) h)
    (((Session.Follows.refl _).withFlights _).trans (.observe _ _))

theorem Session.readResponse_calls_of_kept {limit : Option Nat} {r : Reply}
    (h : lookup s.replies id = some r) :
    callsOf (·.readResponse id limit) s =
      (r.read (limit.getD (r.body.inner.framesLeft + 1))).2.2 :=
  callsOf_of_eq (Session.readResponse_of_kept (s := s.core) h)
    ((Session.Follows.observeAll _ _).withReplies _)

theorem Session.dropResponse_calls_of_kept {r : Reply} (h : lookup s.replies id = some r) :
    callsOf (·.dropResponse id) s = r.owed :=
  callsOf_of_eq (Session.dropResponse_of_kept (s := s.core) h)
    ((Session.Follows.observeAll _ _).withReplies _)

/-! A request step is a start, then a poll when the request began, then, when the poll is ready,
reading or dropping the response body. The three continuations are named here so that a property
of each operation carries to the whole step through `Tracked.bind` and its kin. -/

/-- What a request does after reading its response body: it answers the poll and the frames read,
and drops the body. -/
def Session.afterRead (id : String) (o : Outcome) (a : Answer) (s : Session) : Answer × Session :=
  ((match a with
    | .read ps endStream => Answer.requested o (some (ps, endStream))
    | _ => .requested o none), (s.dropResponse id).2)

/-- What a request does with its response body once its poll is ready. -/
def Session.consumeReply (id : String) (o : Outcome) (consume : Consume) (s : Session) :
    Answer × Session :=
  match consume with
  | .readAndDrop limit =>
    Session.afterRead id o (s.readResponse id limit).1 (s.readResponse id limit).2
  | .drop => (.requested o none, (s.dropResponse id).2)
  | .keep => (.requested o none, s)

/-- What a request does after its poll. -/
def Session.afterPoll (id : String) (consume : Consume) (a : Answer) (s : Session) :
    Answer × Session :=
  match a with
  | .polled (.ready status endStream hint) =>
    Session.consumeReply id (.ready status endStream hint) consume s
  | .polled o => (.requested o none, s)
  | a => (a, s)

/-- What a request does after its start. -/
def Session.afterBegin (id : String) (elapsed : Float) (consume : Consume) (a : Answer)
    (s : Session) : Answer × Session :=
  match a with
  | .began => Session.afterPoll id consume (s.poll id elapsed).1 (s.poll id elapsed).2
  | a => (a, s)

theorem Session.request_eq (s : Session) (id : String) (x : Exchange) (elapsed : Float)
    (consume : Consume) :
    s.request id x elapsed consume =
      Session.afterBegin id elapsed consume (s.begin id x).1 (s.begin id x).2 := by
  unfold Session.request
  rcases s.begin id x with ⟨a, s₁⟩
  cases a
  case began =>
    simp only [Session.afterBegin]
    rcases s₁.poll id elapsed with ⟨a₂, s₂⟩
    cases a₂
    case polled o =>
      cases o
      case ready status endStream hint =>
        cases consume
        case readAndDrop limit =>
          simp only [Session.afterPoll, Session.consumeReply]
          rcases s₂.readResponse id limit with ⟨a₃, s₃⟩
          cases a₃ <;> rfl
        all_goals rfl
      all_goals rfl
    all_goals rfl
  all_goals rfl

theorem Session.afterRead_tracked (id : String) (o : Outcome) (a : Answer) :
    Tracked (Session.afterRead id o a) :=
  (Session.dropResponse_tracked id).answer _

theorem Session.consumeReply_tracked (id : String) (o : Outcome) (consume : Consume) :
    Tracked (Session.consumeReply id o consume) := by
  cases consume with
  | readAndDrop limit =>
    exact Tracked.bind (Session.readResponse_tracked id limit) (Session.afterRead_tracked id o)
  | drop => exact (Session.dropResponse_tracked id).answer _
  | keep => exact Tracked.pure _

theorem Session.afterPoll_tracked (id : String) (consume : Consume) (a : Answer) :
    Tracked (Session.afterPoll id consume a) := by
  rcases a with _ | _ | _ | _ | (_ | _ | ⟨status, endStream, hint⟩) | _ | _ | _ | _ | _
  case polled.ready => exact Session.consumeReply_tracked id _ consume
  all_goals exact Tracked.pure _

theorem Session.afterBegin_tracked (id : String) (elapsed : Float) (consume : Consume)
    (a : Answer) : Tracked (Session.afterBegin id elapsed consume a) := by
  cases a
  case began =>
    exact Tracked.bind (Session.poll_tracked id elapsed) (Session.afterPoll_tracked id consume)
  all_goals exact Tracked.pure _

theorem Session.request_tracked (id : String) (x : Exchange) (elapsed : Float)
    (consume : Consume) : Tracked (·.request id x elapsed consume) :=
  (Tracked.bind (Session.begin_tracked id x) (Session.afterBegin_tracked id elapsed consume)).congr_fun
    fun s => Session.request_eq s id x elapsed consume

theorem Session.run_tracked (st : Step) : Tracked (·.run st) := by
  cases st with
  | begin id x => exact Session.begin_tracked id x
  | poll id elapsed => exact Session.poll_tracked id elapsed
  | cancel id => exact Session.cancel_tracked id
  | readResponse id limit => exact Session.readResponse_tracked id limit
  | dropResponse id => exact Session.dropResponse_tracked id
  | request id x elapsed consume => exact Session.request_tracked id x elapsed consume
  | snapshot => exact fun s => ⟨⟨rfl, rfl⟩, by simpa [callsOf, Session.run] using .refl s⟩

end Operations

/-! ## Steps and runs -/

/-- The session a run of steps ends in. -/
def Session.runAll (s : Session) (steps : List Step) : Session :=
  steps.foldl (fun s st => (s.step st).2) s

/-- The recorder calls of a run of steps, in order. -/
def Session.runCalls : Session → List Step → List Observation
  | _, [] => []
  | s, st :: steps => callsOf (·.run st) s ++ (s.step st).2.runCalls steps

@[simp] theorem Session.runAll_nil (s : Session) : s.runAll [] = s := rfl

theorem Session.runAll_cons (s : Session) (st : Step) (steps : List Step) :
    s.runAll (st :: steps) = (s.step st).2.runAll steps := rfl

theorem Session.runAll_append (s : Session) (steps steps' : List Step) :
    s.runAll (steps ++ steps') = (s.runAll steps).runAll steps' := List.foldl_append

@[simp] theorem Session.runCalls_nil (s : Session) : s.runCalls [] = [] := rfl

theorem Session.runCalls_cons (s : Session) (st : Step) (steps : List Step) :
    s.runCalls (st :: steps) = callsOf (·.run st) s ++ (s.step st).2.runCalls steps := rfl

/-- A step runs from the session with its log emptied, and empties the log after. -/
theorem Session.step_eq (s : Session) (st : Step) :
    s.step st = ((({ s with events := [] }.run st).1, ({ s with events := [] }.run st).2.events),
      { ({ s with events := [] }.run st).2 with events := [] }) := rfl

/-- A step answers as its operation does and ends in the same core. -/
theorem Session.step_core (s : Session) (st : Step) :
    (s.step st).1.1 = (s.run st).1 ∧ (s.step st).2.core = (s.run st).2.core := by
  have hcore : ({ s with events := [] } : Session).core = s.core := rfl
  obtain ⟨hans, hsame⟩ := (Session.run_tracked st).congr hcore
  exact ⟨hans, hsame⟩

@[simp] theorem Session.step_flights (s : Session) (st : Step) :
    (s.step st).2.flights = (s.run st).2.flights := by
  simpa using congrArg Session.flights (Session.step_core s st).2

@[simp] theorem Session.step_replies (s : Session) (st : Step) :
    (s.step st).2.replies = (s.run st).2.replies := by
  simpa using congrArg Session.replies (Session.step_core s st).2

@[simp] theorem Session.step_layer (s : Session) (st : Step) : (s.step st).2.layer = s.layer := by
  have hsame : (s.step st).2.layer = (s.run st).2.layer := by
    simpa using congrArg Session.layer (Session.step_core s st).2
  rw [hsame]
  exact ((Session.run_tracked st).follows s).layer

@[simp] theorem Session.step_clock (s : Session) (st : Step) : (s.step st).2.clock = s.clock := by
  have hsame : (s.step st).2.clock = (s.run st).2.clock := by
    simpa using congrArg Session.clock (Session.step_core s st).2
  rw [hsame]
  exact ((Session.run_tracked st).follows s).clock

@[simp] theorem Session.step_logged (s : Session) (st : Step) :
    (s.step st).2.logged = s.logged := by
  have hfollow := (Session.run_tracked st).follows { s with events := [] }
  exact hfollow.logged

theorem Session.step_backend (s : Session) (st : Step) :
    (s.step st).2.backend = s.backend.recordAll (callsOf (·.run st) s) := by
  have hfollow := (Session.run_tracked st).follows { s with events := [] }
  exact hfollow.backend

theorem Session.step_log (s : Session) (st : Step) (hlogged : s.logged = true) :
    observations (s.step st).1.2 = callsOf (·.run st) s := by
  have hfollow := (Session.run_tracked st).follows { s with events := [] }
  have hcalls : callsOf (·.run st) { s with events := [] } = callsOf (·.run st) s := rfl
  show observations ({ s with events := [] }.run st).2.events = _
  rw [hfollow.log, hcalls]
  simp [hlogged]

/-- **The calls of a run reach the backend.** Whatever the session logs, its backend after a run
is its backend before, with the calls of the run recorded in order. -/
theorem Session.runAll_backend (s : Session) (steps : List Step) :
    (s.runAll steps).backend = s.backend.recordAll (s.runCalls steps) := by
  induction steps generalizing s with
  | nil => rfl
  | cons st steps ih =>
    rw [Session.runAll_cons, Session.runCalls_cons, ih, Session.step_backend,
      Backend.recordAll_append]

@[simp] theorem Session.runAll_layer (s : Session) (steps : List Step) :
    (s.runAll steps).layer = s.layer := by
  induction steps generalizing s with
  | nil => rfl
  | cons st steps ih => rw [Session.runAll_cons, ih, Session.step_layer]

@[simp] theorem Session.runAll_clock (s : Session) (steps : List Step) :
    (s.runAll steps).clock = s.clock := by
  induction steps generalizing s with
  | nil => rfl
  | cons st steps ih => rw [Session.runAll_cons, ih, Session.step_clock]

/-! ## Teardown -/

theorem Tracked.peek {α : Type} (g : Session → α) (hg : ∀ s, g s.core = g s) :
    Tracked (fun s => (g s, s)) :=
  fun s => ⟨⟨(hg s).symm, rfl⟩, by simpa [callsOf] using Session.Follows.refl s⟩

/-- An operation run for each id in turn. -/
def Session.each {α : Type} (op : String → Session → α × Session) :
    List String → Session → Unit × Session
  | [], s => ((), s)
  | id :: ids, s => Session.each op ids (op id s).2

theorem Session.each_eq_foldl {α : Type} (op : String → Session → α × Session) (ids : List String)
    (s : Session) : (Session.each op ids s).2 = ids.foldl (fun s id => (op id s).2) s := by
  induction ids generalizing s with
  | nil => rfl
  | cons id ids ih => exact ih (op id s).2

theorem Tracked.each {α : Type} {op : String → Session → α × Session} (h : ∀ id, Tracked (op id))
    (ids : List String) : Tracked (Session.each op ids) := by
  induction ids with
  | nil => exact Tracked.pure ()
  | cons id ids ih => exact (Tracked.bind (h id) fun _ => ih).congr_fun fun _ => rfl

/-- Cancels every request on its way, in the order of their ids. -/
def Session.cancelAll (s : Session) : Unit × Session :=
  Session.each (fun id s => s.cancel id) (sortedIds s.flights) s

/-- Drops every response body, in the order of their ids. -/
def Session.dropAll (s : Session) : Unit × Session :=
  Session.each (fun id s => s.dropResponse id) (sortedIds s.replies) s

/-- What teardown does before it reads its log. -/
def Session.closeAll (s : Session) : Unit × Session := (Session.cancelAll s).2.dropAll

theorem Session.teardown_eq (s : Session) :
    s.teardown = ((Session.closeAll { s with events := [] }).2.events,
      { (Session.closeAll { s with events := [] }).2 with events := [] }) := by
  simp only [Session.teardown, Session.closeAll, Session.cancelAll, Session.dropAll,
    Session.each_eq_foldl]

theorem Session.cancelAll_tracked : Tracked Session.cancelAll :=
  (Tracked.bind (Tracked.peek (fun s => sortedIds s.flights) fun _ => rfl)
    fun ids => Tracked.each (fun id => Session.cancel_tracked id) ids).congr_fun fun _ => rfl

theorem Session.dropAll_tracked : Tracked Session.dropAll :=
  (Tracked.bind (Tracked.peek (fun s => sortedIds s.replies) fun _ => rfl)
    fun ids => Tracked.each (fun id => Session.dropResponse_tracked id) ids).congr_fun fun _ => rfl

theorem Session.closeAll_tracked : Tracked Session.closeAll :=
  (Tracked.bind Session.cancelAll_tracked fun _ => Session.dropAll_tracked).congr_fun fun _ => rfl

/-- The recorder calls of teardown. -/
def Session.teardownCalls (s : Session) : List Observation := callsOf Session.closeAll s

/-- **Teardown's calls reach the backend**, and a session that logs shows them. -/
theorem Session.teardown_backend (s : Session) :
    s.teardown.2.backend = s.backend.recordAll s.teardownCalls := by
  rw [Session.teardown_eq]
  exact (Session.closeAll_tracked.follows { s with events := [] }).backend

theorem Session.teardown_log (s : Session) (hlogged : s.logged = true) :
    observations s.teardown.1 = s.teardownCalls := by
  have hfollow := Session.closeAll_tracked.follows { s with events := [] }
  have hcalls : callsOf Session.closeAll { s with events := [] } = s.teardownCalls := rfl
  rw [Session.teardown_eq]
  show observations (Session.closeAll { s with events := [] }).2.events = _
  rw [hfollow.log, hcalls]
  simp [hlogged]

end HttpTelemetry.Middleware
