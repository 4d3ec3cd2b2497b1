import HttpTelemetry.Proofs.ActiveGauge
/-!
# What one request records

A request starts when `begin` takes its exchange: the head and the script are built, the labels
are the start labels of the head, and the request body is wrapped in a fresh counter. Until a
poll finishes it, the request under its id only answers "not yet" (`Flight.Waits`): every other
step leaves it alone, whichever request it is about. The service reads the request body at the
first poll and keeps what it read, so the counter a finishing poll sees is the counter after the
service's read plan, whatever polls came before.

The main theorem, `Session.requestRecording`, follows a request over any run of a new session.
A poll that answers "not yet" records nothing; a poll that finishes with a response records one
duration and one request size with the finished labels, then takes the request off the gauge of
its start labels, then records response sizes only; a poll that fails, and a drop of the request
on its way, only take it off the gauge.
-/

namespace HttpTelemetry.Middleware

open HttpTelemetry.Body HttpTelemetry.Route

/-! ## Waiting -/

@[simp] theorem Flight.waited_head (f : Flight) : f.waited.head = f.head := rfl

@[simp] theorem Flight.waited_labels (f : Flight) : f.waited.labels = f.labels := rfl

@[simp] theorem Flight.waited_script (f : Flight) : f.waited.script = f.script := rfl

/-- The service reads the request body once: what a flight that waited reads is what it read. -/
@[simp] theorem Flight.read_waited (f : Flight) : f.waited.read = f.read := rfl

/-- `g` is the flight `f` after some "not yet" answers. -/
inductive Flight.Waits (f : Flight) : Flight → Prop
  | refl : Flight.Waits f f
  | wait {g : Flight} : Flight.Waits f g → Flight.Waits f g.waited

namespace Flight.Waits

variable {f g h : Flight}

theorem trans (h₁ : f.Waits g) (h₂ : g.Waits h) : f.Waits h := by
  induction h₂ with
  | refl => exact h₁
  | wait _ ih => exact ih.wait

theorem labels_eq (hw : f.Waits g) : g.labels = f.labels := by
  induction hw with
  | refl => rfl
  | wait _ ih => rw [Flight.waited_labels, ih]

theorem read_eq (hw : f.Waits g) : g.read = f.read := by
  induction hw with
  | refl => rfl
  | wait _ ih => rw [Flight.read_waited, ih]

end Flight.Waits

/-! ## Steps about other requests -/

/-- An operation that leaves the request under `id` alone. -/
def KeepsAt {α : Type} (id : String) (op : Session → α × Session) : Prop :=
  ∀ s, lookup (op s).2.flights id = lookup s.flights id

section Keeps

variable {α β : Type} {id : String} {op : Session → α × Session}

theorem KeepsAt.pure (a : α) : KeepsAt id (fun s => (a, s)) := fun _ => rfl

theorem KeepsAt.answer (hop : KeepsAt id op) (b : β) : KeepsAt id (fun s => (b, (op s).2)) :=
  hop

theorem KeepsAt.bind {k : α → Session → β × Session} (hop : KeepsAt id op)
    (hk : ∀ a, KeepsAt id (k a)) : KeepsAt id (fun s => k (op s).1 (op s).2) := by
  intro s
  rw [hk (op s).1 (op s).2, hop s]

theorem KeepsAt.congr_fun {op' : Session → α × Session} (hop : KeepsAt id op)
    (heq : ∀ s, op' s = op s) : KeepsAt id op' := by
  intro s
  rw [heq s]
  exact hop s

/-- Operations that change no request on its way. -/
theorem KeepsAt.of_flights (hop : ∀ s, (op s).2.flights = s.flights) : KeepsAt id op := by
  intro s
  rw [hop s]

end Keeps

section Others

variable {s : Session} {id id' : String}

theorem Session.begin_keepsAt (x : Exchange) (hne : id' ≠ id) : KeepsAt id (·.begin id' x) := by
  intro s
  dsimp only
  cases hlive : s.isLive id'
  · rcases hb : x.build with r | ⟨head, script⟩
    · rw [Session.begin_of_refused hlive hb]
    · rw [Session.begin_of_build hlive hb]
      exact lookup_put_of_ne _ _ hne
  · rw [Session.begin_of_live hlive]

theorem Session.poll_keepsAt (elapsed : Float) (hne : id' ≠ id) :
    KeepsAt id (·.poll id' elapsed) := by
  intro s
  dsimp only
  rcases hf : lookup s.flights id' with _ | f
  · rw [Session.poll_of_unknown hf]
  by_cases hwait : 0 < f.pendingLeft
  · rw [Session.poll_of_waiting hf hwait]
    exact lookup_put_of_ne _ _ hne
  have hdue : f.pendingLeft = 0 := by omega
  rcases hout : f.script.outcome with message | ⟨head, body⟩
  · rw [Session.poll_of_failed hf hdue hout]
    exact lookup_erase_of_ne _ hne
  · rw [Session.poll_of_ready hf hdue hout, Session.respond_eq]
    simp only [Session.observeAll_flights]
    exact lookup_erase_of_ne _ hne

theorem Session.cancel_keepsAt (hne : id' ≠ id) : KeepsAt id (·.cancel id') := by
  intro s
  dsimp only
  rw [Session.cancel_flights]
  exact lookup_erase_of_ne _ hne

theorem Session.readResponse_keepsAt (limit : Option Nat) :
    KeepsAt id (·.readResponse id' limit) := by
  apply KeepsAt.of_flights
  intro s
  rcases hr : lookup s.replies id' with _ | r
  · rw [Session.readResponse_of_unknown hr]
  · rw [Session.readResponse_of_kept hr]
    simp

theorem Session.dropResponse_keepsAt : KeepsAt id (·.dropResponse id') :=
  KeepsAt.of_flights fun s => Session.dropResponse_flights s id'

/-- A request step under another id leaves the request under `id` alone. -/
theorem Session.request_keepsAt (x : Exchange) (elapsed : Float) (consume : Consume)
    (hne : id' ≠ id) : KeepsAt id (·.request id' x elapsed consume) := by
  have hconsume : ∀ o, KeepsAt id (Session.consumeReply id' o consume) := by
    intro o
    cases consume with
    | readAndDrop limit =>
      exact KeepsAt.bind (Session.readResponse_keepsAt limit)
        fun a => Session.dropResponse_keepsAt.answer _
    | drop => exact Session.dropResponse_keepsAt.answer _
    | keep => exact KeepsAt.pure _
  have hpoll : ∀ a, KeepsAt id (Session.afterPoll id' consume a) := by
    intro a
    rcases a with _ | _ | _ | _ | (_ | _ | ⟨status, endStream, hint⟩) | _ | _ | _ | _ | _
    case polled.ready => exact hconsume _
    all_goals exact KeepsAt.pure _
  have hbegin : ∀ a, KeepsAt id (Session.afterBegin id' elapsed consume a) := by
    intro a
    cases a
    case began => exact KeepsAt.bind (Session.poll_keepsAt elapsed hne) hpoll
    all_goals exact KeepsAt.pure _
  exact (KeepsAt.bind (Session.begin_keepsAt x hne) hbegin).congr_fun
    fun s => Session.request_eq s id' x elapsed consume

end Others

/-! ## The request under an id, step by step -/

section Persist

variable {s : Session} {id : String} {f : Flight}

/-- A step keeps the request under `id`, answers "not yet" for it, or finishes it. -/
theorem Session.run_lookup (st : Step) (hf : lookup s.flights id = some f) :
    lookup (s.run st).2.flights id = some f ∨ lookup (s.run st).2.flights id = some f.waited ∨
      lookup (s.run st).2.flights id = none := by
  have hlive : s.isLive id = true := by simp [Session.isLive, hf]
  cases st with
  | begin id' x =>
    by_cases hid : id' = id
    · subst hid
      left
      simp only [Session.run, Session.begin_of_live hlive, hf]
    · left
      exact (Session.begin_keepsAt x hid s).trans hf
  | poll id' elapsed =>
    by_cases hid : id' = id
    · subst hid
      by_cases hwait : 0 < f.pendingLeft
      · right; left
        simp only [Session.run, Session.poll_of_waiting hf hwait, lookup_put_self]
      have hdue : f.pendingLeft = 0 := by omega
      right; right
      rcases hout : f.script.outcome with message | ⟨head, body⟩
      · simp only [Session.run, Session.poll_of_failed hf hdue hout, Session.observe_flights,
          lookup_erase_self]
      · simp only [Session.run, Session.poll_of_ready hf hdue hout, Session.respond_eq,
          Session.observeAll_flights, lookup_erase_self]
    · left
      exact (Session.poll_keepsAt elapsed hid s).trans hf
  | cancel id' =>
    by_cases hid : id' = id
    · subst hid
      right; right
      simp only [Session.run, Session.cancel_flights, lookup_erase_self]
    · left
      exact (Session.cancel_keepsAt hid s).trans hf
  | readResponse id' limit =>
    left
    exact (Session.readResponse_keepsAt limit s).trans hf
  | dropResponse id' =>
    left
    exact (Session.dropResponse_keepsAt s).trans hf
  | request id' x elapsed consume =>
    left
    by_cases hid : id' = id
    · subst hid
      -- the id is in use: the start is refused and nothing follows
      simp only [Session.run, Session.request_eq, Session.begin_of_live hlive,
        Session.afterBegin, hf]
    · exact (Session.request_keepsAt x elapsed consume hid s).trans hf
  | snapshot =>
    left
    exact hf

/-- While a request stays on its way, each step leaves it waiting. -/
theorem Session.step_waits (st : Step) (hf : lookup s.flights id = some f)
    (hlive : (s.step st).2.isLive id = true) :
    ∃ g, lookup (s.step st).2.flights id = some g ∧ f.Waits g := by
  have hlive' : (lookup (s.run st).2.flights id).isSome = true := by
    simpa [Session.isLive] using hlive
  rw [Session.step_flights]
  rcases Session.run_lookup st hf with h | h | h
  · exact ⟨f, h, .refl⟩
  · exact ⟨f.waited, h, Flight.Waits.refl.wait⟩
  · rw [h] at hlive'
    cases hlive'

/-- **A request on its way only waits.** Over a run during which the request under `id` stays on
its way, it only answers "not yet". -/
theorem Session.runAll_waits (hf : lookup s.flights id = some f) (steps : List Step)
    (hlive : ∀ mid, mid <+: steps → (s.runAll mid).isLive id = true) :
    ∃ g, lookup (s.runAll steps).flights id = some g ∧ f.Waits g := by
  induction steps generalizing s f with
  | nil => exact ⟨f, hf, .refl⟩
  | cons st steps ih =>
    have hfirst : (s.step st).2.isLive id = true := hlive [st] (List.prefix_cons_inj _ |>.mpr
      (List.nil_prefix))
    obtain ⟨g₁, hg₁, hw₁⟩ := Session.step_waits st hf hfirst
    have hrest : ∀ mid, mid <+: steps → ((s.step st).2.runAll mid).isLive id = true := by
      intro mid hmid
      exact hlive (st :: mid) ((List.prefix_cons_inj st).mpr hmid)
    obtain ⟨g, hg, hw⟩ := ih hg₁ hrest
    exact ⟨g, hg, hw₁.trans hw⟩

end Persist

/-! ## The poll of a request on its way -/

section Poll

variable {s : Session} {id : String} {f : Flight}

/-- How a poll of a request on its way goes: "not yet" while such answers are left, recording
nothing; then the outcome of its script, recorded by `poll_calls_of_failed` or
`poll_calls_of_ready`. -/
theorem Session.poll_cases (elapsed : Float) (hf : lookup s.flights id = some f) :
    ((s.poll id elapsed).1 = .polled .pending ∧ callsOf (·.poll id elapsed) s = []) ∨
    (∃ message, (s.poll id elapsed).1 = .polled (.failed message) ∧
      callsOf (·.poll id elapsed) s = [.active f.labels (-1)]) ∨
    (∃ head body, f.pendingLeft = 0 ∧ f.script.outcome = .ok (head, body) ∧
      (s.poll id elapsed).1 = .polled (.ready head.status (LengthBody.new body).isEndStream
        (LengthBody.new body).sizeHint)) := by
  by_cases hwait : 0 < f.pendingLeft
  · left
    exact ⟨by rw [Session.poll_of_waiting hf hwait], Session.poll_calls_of_waiting hf hwait⟩
  have hdue : f.pendingLeft = 0 := by omega
  rcases hout : f.script.outcome with message | ⟨head, body⟩
  · right; left
    exact ⟨message, by rw [Session.poll_of_failed hf hdue hout],
      Session.poll_calls_of_failed hf hdue hout⟩
  · right; right
    refine ⟨head, body, hdue, rfl, ?_⟩
    rw [Session.poll_of_ready hf hdue hout, Session.respond_eq]

end Poll

/-! ## A request from its start -/

/-- Nothing is read before the first poll: a new request reads its body under its plan. -/
theorem Flight.start_read (head : Http.RequestHead) (labels : Labels) (body : Source)
    (script : Script) :
    (Flight.start head labels body script).read = script.read.run (LengthBody.new body) := rfl

/-- A start that is taken puts the request under its id. -/
theorem Session.step_begin_lookup {s : Session} {id : String} {x : Exchange}
    {head : Http.RequestHead} {script : Script} (hlive : s.isLive id = false)
    (hb : x.build = .ok (head, script)) :
    lookup (s.step (.begin id x)).2.flights id =
      some (.start head (s.layer.startLabels head) x.body script) := by
  rw [Session.step_flights]
  show lookup (s.begin id x).2.flights id = _
  rw [Session.begin_of_build hlive hb]
  exact lookup_put_self _ _ _

/-- The layer of a new session holds the route table of the known endpoints and the resolver of
the configuration. -/
theorem Session.new_layer {k : Setup} {config : Config} {catalog : Option Route.Catalog}
    {s : Session} {rt : RouteTable} (hnew : Session.new k config catalog = .ok s)
    (hrt : RouteTable.ofEndpoints (catalog.getD ⟨[], "", []⟩).endpoints = .ok rt) :
    s.layer = ⟨rt, config.resolver⟩ := by
  obtain ⟨layer, backend, touches, -, hl, hs⟩ := Session.new_inv hnew
  have hlayer : layer = ⟨rt, config.resolver⟩ := by
    simp only [Layer.new, hrt, Except.ok.injEq, Prod.mk.injEq] at hl
    exact hl.1.symm
  rw [hs, Session.observeAll_layer]
  exact hlayer

/-- **What one request records.** Take a new session whose layer holds the route table `rt` of
the known endpoints, any run, then a start of the exchange `x` under a free id, then any run
during which the request stays on its way. Its start added one to the gauge of its start labels
`L₀` (its method, its host, and the resolver's answer or its path). A poll of it then answers:
"not yet", recording nothing; or with the response, recording one duration and one request size
with the finished labels (the response status, and the pattern of the first route that accepts
the path label, if any), the request size being the data bytes the service read from the body
modulo `2^64`, then taking one off the gauge of `L₀`, then recording response sizes only; or
with the service's failure, only taking one off the gauge of `L₀`. Dropping the request instead
only takes one off the gauge of `L₀`. -/
theorem Session.requestRecording {k : Setup} {config : Config} {catalog : Option Route.Catalog}
    {s₀ : Session} {rt : RouteTable} (hnew : Session.new k config catalog = .ok s₀)
    (hrt : RouteTable.ofEndpoints (catalog.getD ⟨[], "", []⟩).endpoints = .ok rt)
    {pre during : List Step} {id : String} {x : Exchange} {head : Http.RequestHead}
    {script : Script} (hbuild : x.build = .ok (head, script))
    (hfree : (s₀.runAll pre).isLive id = false)
    (hlive : ∀ mid, mid <+: during → (s₀.runAll (pre ++ .begin id x :: mid)).isLive id = true)
    (elapsed : Float) :
    let route := match config.resolver with
      | some resolve => resolve head
      | none => head.uri.path
    let L₀ : Labels := ⟨head.method.name, head.host, route, none⟩
    let L₁ := fun status : Nat =>
      (⟨head.method.name, head.host, (rt.find route).getD route, some (toString status)⟩ : Labels)
    let n := wrapU64 (x.body.dataLeft - (script.read.run (LengthBody.new x.body)).2.inner.dataLeft)
    let s := s₀.runAll (pre ++ .begin id x :: during)
    callsOf (·.begin id x) (s₀.runAll pre) = [.active L₀ 1] ∧
      (∃ o, (s.poll id elapsed).1 = .polled o) ∧
      ((s.poll id elapsed).1 = .polled .pending → callsOf (·.poll id elapsed) s = []) ∧
      (∀ status endStream hint,
        (s.poll id elapsed).1 = .polled (.ready status endStream hint) →
          ∃ sizes, callsOf (·.poll id elapsed) s =
            [.duration (L₁ status) (s₀.clock.millis elapsed), .requestSize (L₁ status) n,
              .active L₀ (-1)] ++ sizes ∧
            ∀ o ∈ sizes, ∃ l m, o = .responseSize l m) ∧
      (∀ message, (s.poll id elapsed).1 = .polled (.failed message) →
        callsOf (·.poll id elapsed) s = [.active L₀ (-1)]) ∧
      callsOf (·.cancel id) s = [.active L₀ (-1)] := by
  intro route L₀ L₁ n s
  -- every session of the run has the layer and the clock of the new one
  have hlayer₀ : s₀.layer = ⟨rt, config.resolver⟩ := Session.new_layer hnew hrt
  have hstartLabels : (s₀.runAll pre).layer.startLabels head = L₀ := by
    rw [Session.runAll_layer, hlayer₀]
    rfl
  -- the start puts the request under its id, and it only waits during the run after it
  have hsplit : ∀ mid, s₀.runAll (pre ++ .begin id x :: mid) =
      ((s₀.runAll pre).step (.begin id x)).2.runAll mid := by
    intro mid
    rw [Session.runAll_append, Session.runAll_cons]
  have hstart := Session.step_begin_lookup hfree hbuild
  rw [hstartLabels] at hstart
  have hlive' : ∀ mid, mid <+: during →
      (((s₀.runAll pre).step (.begin id x)).2.runAll mid).isLive id = true := by
    intro mid hmid
    rw [← hsplit mid]
    exact hlive mid hmid
  obtain ⟨g, hg, hw⟩ := Session.runAll_waits hstart during hlive'
  rw [← hsplit during] at hg
  have hlabels : g.labels = L₀ := hw.labels_eq
  have hsize : g.read.2.length = n := by
    rw [hw.read_eq, Flight.start_read]
    exact ReadPlan.run_new_length _ _
  have hlayer : s.layer = ⟨rt, config.resolver⟩ := by
    show (s₀.runAll _).layer = _
    rw [Session.runAll_layer, hlayer₀]
  have hclock : s.clock = s₀.clock := Session.runAll_clock _ _
  have hfinish : ∀ status, s.layer.finishLabels g.labels status = L₁ status := by
    intro status
    rw [hlayer, hlabels]
    rfl
  have hbegin : callsOf (·.begin id x) (s₀.runAll pre) = [.active L₀ 1] := by
    rw [Session.begin_calls_of_build hfree hbuild, hstartLabels]
  have hcancel : callsOf (·.cancel id) s = [.active L₀ (-1)] := by
    rw [Session.cancel_calls_of_live hg, hlabels]
  -- the poll goes one of three ways, and its answer tells which
  rcases Session.poll_cases elapsed hg with ⟨hans, hcalls⟩ | ⟨message, hans, hcalls⟩ |
      ⟨rhead, rbody, hdue, hout, hans⟩
  · refine ⟨hbegin, ⟨_, hans⟩, fun _ => hcalls, ?_, ?_, hcancel⟩
    · intro status endStream hint hready
      rw [hans] at hready
      cases hready
    · intro message hfailed
      rw [hans] at hfailed
      cases hfailed
  · refine ⟨hbegin, ⟨_, hans⟩, ?_, ?_, ?_, hcancel⟩
    · intro hpending
      rw [hans] at hpending
      cases hpending
    · intro status endStream hint hready
      rw [hans] at hready
      cases hready
    · intro message' _
      rw [hcalls, hlabels]
  · refine ⟨hbegin, ⟨_, hans⟩, ?_, ?_, ?_, hcancel⟩
    · intro hpending
      rw [hans] at hpending
      cases hpending
    · intro status endStream hint hready
      -- the answer names the status of the response the script gives
      rw [hans] at hready
      have hstatus : rhead.status = status := by
        injection hready with hready
        injection hready
      refine ⟨(knownSize rhead rbody).toList.map
          (.responseSize (s.layer.finishLabels g.labels rhead.status)) ++ owedAt s.replies id,
        ?_, ?_⟩
      · rw [Session.poll_calls_of_ready hg hdue hout, hfinish, hsize, hclock, hlabels, hstatus,
          List.append_assoc]
      · intro o ho
        rcases List.mem_append.mp ho with ho | ho
        · obtain ⟨m, -, rfl⟩ := List.mem_map.mp ho
          exact ⟨_, m, rfl⟩
        · exact owedAt_responseSizes _ _ o ho
    · intro message hfailed
      rw [hans] at hfailed
      cases hfailed

theorem Session.requestRecording_of_get :
    let s₀ : Session := ⟨⟨⟨[]⟩, none⟩, .discard, true, .given, [], [], []⟩
    let x : Exchange := ⟨"GET", "/", [], .full (some 5), .all, 0, 200, [], .full (some 3), none⟩
    let head : Http.RequestHead := ⟨⟨"GET"⟩, ⟨none, "", "/", none⟩, []⟩
    let script : Script := ⟨.all, 0, .ok (⟨200, []⟩, .full (some 3))⟩
    Session.new .discard (Config.new "svc") none = .ok s₀ ∧
      RouteTable.ofEndpoints [] = .ok ⟨[]⟩ ∧
      x.build = .ok (head, script) ∧
      (s₀.runAll []).isLive "a" = false ∧
      (∀ mid, mid <+: [] → (s₀.runAll ([] ++ .begin "a" x :: mid)).isLive "a" = true) ∧
      let L₀ : Labels := ⟨"GET", head.host, "/", none⟩
      let L₁ := fun status : Nat => (⟨"GET", head.host, "/", some (toString status)⟩ : Labels)
      let n := wrapU64 (x.body.dataLeft - (script.read.run (LengthBody.new x.body)).2.inner.dataLeft)
      let s := s₀.runAll ([] ++ .begin "a" x :: [])
      callsOf (·.begin "a" x) (s₀.runAll []) = [.active L₀ 1] ∧
        (∃ o, (s.poll "a" 1.0).1 = .polled o) ∧
        ((s.poll "a" 1.0).1 = .polled .pending → callsOf (·.poll "a" 1.0) s = []) ∧
        (∀ status endStream hint,
          (s.poll "a" 1.0).1 = .polled (.ready status endStream hint) →
            ∃ sizes, callsOf (·.poll "a" 1.0) s =
              [.duration (L₁ status) (s₀.clock.millis 1.0), .requestSize (L₁ status) n,
                .active L₀ (-1)] ++ sizes ∧
              ∀ o ∈ sizes, ∃ l m, o = .responseSize l m) ∧
        (∀ message, (s.poll "a" 1.0).1 = .polled (.failed message) →
          callsOf (·.poll "a" 1.0) s = [.active L₀ (-1)]) ∧
        callsOf (·.cancel "a") s = [.active L₀ (-1)] := by
  intro s₀ x head script
  have hnew : Session.new .discard (Config.new "svc") none = .ok s₀ := rfl
  have hrt : RouteTable.ofEndpoints [] = .ok ⟨[]⟩ := rfl
  have hslash : "/".utf8ByteSize = 1 := rfl
  have hbuild : x.build = .ok (head, script) := by
    simp [x, head, script, Exchange.build, Http.requestLine, Http.Method.parse, Http.isTokenChar,
      Http.Uri.parse, Http.maxUriLength, hslash, Http.buildHeaders, Http.ResponseHead.build,
      Http.isStatus]
    rfl
  have hfree : (s₀.runAll []).isLive "a" = false := rfl
  have hlive : ∀ mid, mid <+: [] → (s₀.runAll ([] ++ .begin "a" x :: mid)).isLive "a" = true := by
    intro mid hmid
    rw [List.prefix_nil.mp hmid]
    show (lookup (s₀.step (.begin "a" x)).2.flights "a").isSome = true
    rw [Session.step_begin_lookup (s := s₀) rfl hbuild]
    rfl
  exact ⟨hnew, hrt, hbuild, hfree, hlive,
    Session.requestRecording hnew hrt hbuild hfree hlive 1.0⟩

end HttpTelemetry.Middleware
