import HttpTelemetry.Proofs.SessionCalls
/-!
# The active-requests gauge balances

A request adds one to the active-requests gauge when it starts, and takes one away when a poll
finishes it, with a response or with a failure, or when it is dropped on its way. Both calls carry
the labels the request started with, so the gauge of a label set counts the requests with those
labels that are on their way.

What makes the count exact is the invariant `Session.Wf`: the ids of requests on their way are
distinct, since a start refuses an id in use, and each such request carries the start labels of
its head. `GaugeKept op` says that an operation keeps the invariant, moves the gauge of every
label set by the change in requests on their way with those labels, and makes its
active-requests calls as steps of one with start labels. It is proved for each operation of the middleware,
carried through a request step by `GaugeKept.bind`, then through runs; teardown drops every
request still on its way, which brings every gauge back to zero.
-/

namespace HttpTelemetry

/-- What a call adds to the active-requests gauge of a label set. -/
def Observation.activeDelta (L : Labels) : Observation → Int
  | .active l d => if l = L then d else 0
  | _ => 0

@[simp] theorem Observation.activeDelta_touch (L l : Labels) : (touch l).activeDelta L = 0 := rfl

@[simp] theorem Observation.activeDelta_duration (L l : Labels) (ms : Float) :
    (duration l ms).activeDelta L = 0 := rfl

@[simp] theorem Observation.activeDelta_requestSize (L l : Labels) (n : Nat) :
    (requestSize l n).activeDelta L = 0 := rfl

@[simp] theorem Observation.activeDelta_responseSize (L l : Labels) (n : Nat) :
    (responseSize l n).activeDelta L = 0 := rfl

/-- What calls add to the active-requests gauge of a label set. -/
def activeTotal (L : Labels) : List Observation → Int
  | [] => 0
  | o :: os => o.activeDelta L + activeTotal L os

@[simp] theorem activeTotal_nil (L : Labels) : activeTotal L [] = 0 := rfl

@[simp] theorem activeTotal_cons (L : Labels) (o : Observation) (os : List Observation) :
    activeTotal L (o :: os) = o.activeDelta L + activeTotal L os := rfl

@[simp] theorem activeTotal_append (L : Labels) (os os' : List Observation) :
    activeTotal L (os ++ os') = activeTotal L os + activeTotal L os' := by
  induction os with
  | nil => simp
  | cons o os ih =>
    rw [List.cons_append, activeTotal_cons, activeTotal_cons, ih, Int.add_assoc]

theorem activeTotal_of_responseSizes (L : Labels) {os : List Observation}
    (h : ∀ o ∈ os, ∃ l n, o = .responseSize l n) : activeTotal L os = 0 := by
  induction os with
  | nil => rfl
  | cons o os ih =>
    obtain ⟨l, n, rfl⟩ := h o (List.mem_cons_self ..)
    rw [activeTotal_cons, ih (fun o' ho' => h o' (List.mem_cons_of_mem _ ho'))]
    rfl

/-- An active-requests call is a step of one, up or down, made with the start labels of some
request. -/
def Observation.GaugeStep (layer : Middleware.Layer) : Observation → Prop
  | .active l d => (d = 1 ∨ d = -1) ∧ ∃ head, l = layer.startLabels head
  | _ => True

end HttpTelemetry

namespace HttpTelemetry.Middleware

open HttpTelemetry.Body

theorem Reply.owed_responseSizes (r : Reply) : ∀ o ∈ r.owed, ∃ l n, o = .responseSize l n := by
  intro o ho
  rcases r with ⟨body, _ | labels⟩
  · simp [Reply.owed] at ho
  · simp only [Reply.owed, Option.toList_some, List.map_cons, List.map_nil,
      List.mem_singleton] at ho
    exact ⟨labels, body.length, ho⟩

theorem owedAt_responseSizes (replies : List (String × Reply)) (id : String) :
    ∀ o ∈ owedAt replies id, ∃ l n, o = .responseSize l n := by
  unfold owedAt
  cases lookup replies id with
  | none => simp
  | some r => exact r.owed_responseSizes

theorem Reply.pollFrame_responseSizes (r : Reply) :
    ∀ o ∈ r.pollFrame.2.2, ∃ l n, o = .responseSize l n := by
  unfold Reply.pollFrame
  split
  · exact Reply.owed_responseSizes _
  · simp

theorem Reply.read_responseSizes (r : Reply) (fuel : Nat) :
    ∀ o ∈ (r.read fuel).2.2, ∃ l n, o = .responseSize l n :=
  (Reply.read_keeps (fun _ => True) _ (fun r _ => ⟨trivial, r.pollFrame_responseSizes⟩) trivial
    fuel).2

/-- The requests on their way with a label set. -/
def Session.liveCount (s : Session) (L : Labels) : Nat :=
  s.flights.countP fun e => e.2.labels = L

/-- The invariant of a session: the ids of requests on their way are distinct, and each such
request carries the start labels of its head. -/
structure Session.Wf (s : Session) : Prop where
  distinct : (s.flights.map Prod.fst).Nodup
  labels : ∀ e ∈ s.flights, e.2.labels = s.layer.startLabels e.2.head

/-- At `s`, an operation keeps the invariant, moves the gauge of every label set by the change in
requests on their way with those labels, and makes its active-requests calls with start
labels as steps of one. -/
def GaugeKeptAt {α : Type} (op : Session → α × Session) (s : Session) : Prop :=
  (op s).2.Wf ∧
    (∀ L, ((op s).2.liveCount L : Int) = s.liveCount L + activeTotal L (callsOf op s)) ∧
    ∀ o ∈ callsOf op s, o.GaugeStep s.layer

/-- An operation that keeps the gauge from every session with the invariant. -/
def GaugeKept {α : Type} (op : Session → α × Session) : Prop := ∀ s, s.Wf → GaugeKeptAt op s

theorem Session.Wf.of_flights_nil {s : Session} (h : s.flights = []) : s.Wf :=
  ⟨by simp [h], by simp [h]⟩

theorem Session.new_flights {k : Setup} {config : Config} {catalog : Option Route.Catalog}
    {s : Session} (h : Session.new k config catalog = .ok s) : s.flights = [] := by
  obtain ⟨layer, backend, touches, -, -, hs⟩ := Session.new_inv h
  rw [hs]
  exact Session.observeAll_flights _ _

/-! ## How the requests on their way change -/

section Shapes

variable {s t : Session} {id : String} {f g : Flight}

theorem Session.Wf.gaugeStep_finish (hs : s.Wf) (hf : lookup s.flights id = some f) :
    (Observation.active f.labels (-1)).GaugeStep s.layer :=
  ⟨.inr rfl, f.head, hs.labels (id, f) (mem_of_lookup hf)⟩

theorem Session.Wf.of_same (hs : s.Wf) (hflights : t.flights = s.flights)
    (hlayer : t.layer = s.layer) : t.Wf ∧ ∀ L, t.liveCount L = s.liveCount L := by
  refine ⟨⟨?_, ?_⟩, ?_⟩
  · rw [hflights]
    exact hs.distinct
  · rw [hflights, hlayer]
    exact hs.labels
  · intro L
    simp only [Session.liveCount, hflights]

/-- A request starts under an id not in use, moving the gauge of its labels by one. -/
theorem Session.Wf.of_start (hs : s.Wf) (hnone : lookup s.flights id = none)
    (hlabels : f.labels = s.layer.startLabels f.head) (hflights : t.flights = put s.flights id f)
    (hlayer : t.layer = s.layer) :
    t.Wf ∧ ∀ L, (t.liveCount L : Int) = s.liveCount L + (Observation.active f.labels 1).activeDelta L := by
  refine ⟨⟨?_, ?_⟩, ?_⟩
  · rw [hflights]
    exact nodup_keys_put hs.distinct id f
  · intro e he
    rw [hflights] at he
    rw [hlayer]
    rcases mem_put he with he | rfl
    · exact hs.labels e he
    · exact hlabels
  · intro L
    simp only [Session.liveCount, hflights, countP_put_of_lookup_none _ hnone,
      Observation.activeDelta]
    split <;> simp_all

/-- The request under an id finishes, moving the gauge of its labels back by one. -/
theorem Session.Wf.of_finish (hs : s.Wf) (hsome : lookup s.flights id = some f)
    (hflights : t.flights = erase s.flights id) (hlayer : t.layer = s.layer) :
    t.Wf ∧
      ∀ L, (t.liveCount L : Int) = s.liveCount L + (Observation.active f.labels (-1)).activeDelta L := by
  refine ⟨⟨?_, ?_⟩, ?_⟩
  · rw [hflights]
    exact nodup_keys_erase hs.distinct id
  · intro e he
    rw [hflights] at he
    rw [hlayer]
    exact hs.labels e (mem_of_mem_erase he)
  · intro L
    have hsplit := countP_eq_erase_add (fun e : String × Flight => decide (e.2.labels = L))
      hs.distinct hsome
    rw [Session.liveCount, Session.liveCount, hflights, hsplit, Observation.activeDelta]
    -- only the gauge of the finished request's labels moves
    by_cases hL : f.labels = L
    · rw [if_pos hL, if_pos (decide_eq_true hL)]
      omega
    · rw [if_neg hL, if_neg (by simpa using hL)]
      omega

/-- The request under an id is replaced by one with the same head and labels. -/
theorem Session.Wf.of_replace (hs : s.Wf) (hsome : lookup s.flights id = some f)
    (hhead : g.head = f.head) (hlabels : g.labels = f.labels)
    (hflights : t.flights = put s.flights id g) (hlayer : t.layer = s.layer) :
    t.Wf ∧ ∀ L, t.liveCount L = s.liveCount L := by
  refine ⟨⟨?_, ?_⟩, ?_⟩
  · rw [hflights]
    exact nodup_keys_put hs.distinct id g
  · intro e he
    rw [hflights] at he
    rw [hlayer]
    rcases mem_put he with he | rfl
    · exact hs.labels e he
    · rw [hlabels, hhead]
      exact hs.labels (id, f) (mem_of_lookup hsome)
  · intro L
    have hsplit := countP_eq_erase_add (fun e : String × Flight => decide (e.2.labels = L))
      hs.distinct hsome
    simp only [Session.liveCount, hflights, hsplit, put, List.countP_append]
    simp [hlabels]

end Shapes

/-! ## Operations keep the gauge -/

section Operations

variable {α : Type} {op : Session → α × Session} {s t : Session} {a : α} {os : List Observation}

theorem gaugeKeptAt_of_eq (hs : op s = (a, t)) (hcalls : callsOf op s = os) (hwf : t.Wf)
    (hcount : ∀ L, (t.liveCount L : Int) = s.liveCount L + activeTotal L os)
    (hlab : ∀ o ∈ os, o.GaugeStep s.layer) : GaugeKeptAt op s := by
  rw [GaugeKeptAt, hs, hcalls]
  exact ⟨hwf, hcount, hlab⟩

/-- A case that only records response sizes, and leaves the requests on their way alone. -/
theorem gaugeKeptAt_of_quiet (hs : op s = (a, t)) (hcalls : callsOf op s = os)
    (hwf : s.Wf) (hflights : t.flights = s.flights) (hlayer : t.layer = s.layer)
    (hsizes : ∀ o ∈ os, ∃ l n, o = .responseSize l n) : GaugeKeptAt op s := by
  obtain ⟨hwf', hcount⟩ := hwf.of_same hflights hlayer
  refine gaugeKeptAt_of_eq hs hcalls hwf' ?_ ?_
  · intro L
    rw [hcount L, activeTotal_of_responseSizes L hsizes, Int.add_zero]
  · intro o ho
    obtain ⟨l, n, rfl⟩ := hsizes o ho
    trivial

theorem gaugeKeptAt_of_idle (hs : op s = (a, s)) (hcalls : callsOf op s = []) (hwf : s.Wf) :
    GaugeKeptAt op s :=
  gaugeKeptAt_of_quiet hs hcalls hwf rfl rfl (by simp)

@[simp] theorem activeTotal_owedAt (L : Labels) (replies : List (String × Reply)) (id : String) :
    activeTotal L (owedAt replies id) = 0 :=
  activeTotal_of_responseSizes L (owedAt_responseSizes replies id)

@[simp] theorem activeTotal_map_responseSize (L l : Labels) (ns : List Nat) :
    activeTotal L (ns.map (.responseSize l)) = 0 :=
  activeTotal_of_responseSizes L (by simp)

theorem Session.begin_gaugeKept (id : String) (x : Exchange) : GaugeKept (·.begin id x) := by
  intro s hs
  cases hlive : s.isLive id
  · rcases hb : x.build with r | ⟨head, script⟩
    · exact gaugeKeptAt_of_idle (Session.begin_of_refused hlive hb)
        (callsOf_of_eq (Session.begin_of_refused (s := s.core) hlive hb) (.refl _)) hs
    · -- the request starts with the start labels of its head, one more on their gauge
      have hnone : lookup s.flights id = none := by simpa [Session.isLive] using hlive
      obtain ⟨hwf, hcount⟩ := hs.of_start hnone
        (f := .start head (s.layer.startLabels head) x.body script)
        (t := { s.observe (.active (s.layer.startLabels head) 1) with
          flights := put s.flights id (.start head (s.layer.startLabels head) x.body script) })
        rfl rfl rfl
      refine gaugeKeptAt_of_eq (Session.begin_of_build hlive hb)
        (Session.begin_calls_of_build hlive hb) hwf ?_ ?_
      · intro L
        rw [hcount L]
        simp [Flight.start]
      · intro o ho
        rw [List.mem_singleton] at ho
        subst ho
        exact ⟨.inl rfl, head, rfl⟩
  · exact gaugeKeptAt_of_idle (Session.begin_of_live hlive)
      (callsOf_of_eq (Session.begin_of_live (s := s.core) hlive) (.refl _)) hs

theorem Session.poll_gaugeKept (id : String) (elapsed : Float) : GaugeKept (·.poll id elapsed) := by
  intro s hs
  rcases hf : lookup s.flights id with _ | f
  · exact gaugeKeptAt_of_idle (Session.poll_of_unknown hf)
      (callsOf_of_eq (Session.poll_of_unknown (s := s.core) hf) (.refl _)) hs
  by_cases hwait : 0 < f.pendingLeft
  · -- the request stays on its way, with the same head and labels
    obtain ⟨hwf, hcount⟩ := hs.of_replace hf (g := f.waited) (t := { s with flights := put s.flights id f.waited })
      rfl rfl rfl rfl
    refine gaugeKeptAt_of_eq (Session.poll_of_waiting hf hwait)
      (Session.poll_calls_of_waiting hf hwait) hwf ?_ (by simp)
    intro L
    rw [hcount L]
    simp
  have hdue : f.pendingLeft = 0 := by omega
  rcases hout : f.script.outcome with message | ⟨head, body⟩
  · -- the request fails: one less on the gauge of its labels
    obtain ⟨hwf, hcount⟩ := hs.of_finish hf
      (t := { s.logServed f.served with flights := erase s.flights id }.observe
        (.active f.labels (-1))) rfl rfl
    refine gaugeKeptAt_of_eq (Session.poll_of_failed hf hdue hout)
      (Session.poll_calls_of_failed hf hdue hout) hwf ?_ ?_
    · intro L
      rw [hcount L]
      simp
    · intro o ho
      rw [List.mem_singleton] at ho
      subst ho
      exact hs.gaugeStep_finish hf
  · -- the request is answered: one less on the gauge of its labels, among calls of other kinds
    have hready : s.poll id elapsed = _ := Session.poll_of_ready hf hdue hout
    rw [Session.respond_eq] at hready
    obtain ⟨hwf, hcount⟩ := hs.of_finish hf (t := (s.poll id elapsed).2)
      (by rw [hready]; simp) (by rw [hready]; simp)
    rw [hready] at hwf hcount
    refine gaugeKeptAt_of_eq hready (Session.poll_calls_of_ready hf hdue hout) hwf ?_ ?_
    · intro L
      rw [hcount L]
      simp
    · intro o ho
      simp only [List.mem_append, List.mem_cons, List.not_mem_nil, or_false] at ho
      rcases ho with ((rfl | rfl | rfl) | ho) | ho
      · trivial
      · trivial
      · exact hs.gaugeStep_finish hf
      · obtain ⟨n, -, rfl⟩ := List.mem_map.mp ho
        trivial
      · obtain ⟨l, n, rfl⟩ := owedAt_responseSizes _ _ o ho
        trivial

theorem Session.cancel_gaugeKept (id : String) : GaugeKept (·.cancel id) := by
  intro s hs
  rcases hf : lookup s.flights id with _ | f
  · exact gaugeKeptAt_of_idle (Session.cancel_of_unknown hf)
      (callsOf_of_eq (Session.cancel_of_unknown (s := s.core) hf) (.refl _)) hs
  · obtain ⟨hwf, hcount⟩ := hs.of_finish hf
      (t := { s with flights := erase s.flights id }.observe (.active f.labels (-1))) rfl rfl
    refine gaugeKeptAt_of_eq (Session.cancel_of_live hf) (Session.cancel_calls_of_live hf) hwf ?_ ?_
    · intro L
      rw [hcount L]
      simp
    · intro o ho
      rw [List.mem_singleton] at ho
      subst ho
      exact hs.gaugeStep_finish hf

theorem Session.readResponse_gaugeKept (id : String) (limit : Option Nat) :
    GaugeKept (·.readResponse id limit) := by
  intro s hs
  rcases hr : lookup s.replies id with _ | r
  · exact gaugeKeptAt_of_idle (Session.readResponse_of_unknown hr)
      (callsOf_of_eq (Session.readResponse_of_unknown (s := s.core) hr) (.refl _)) hs
  · exact gaugeKeptAt_of_quiet (Session.readResponse_of_kept hr)
      (Session.readResponse_calls_of_kept hr) hs (by simp) (by simp) (Reply.read_responseSizes _ _)

theorem Session.dropResponse_gaugeKept (id : String) : GaugeKept (·.dropResponse id) := by
  intro s hs
  rcases hr : lookup s.replies id with _ | r
  · exact gaugeKeptAt_of_idle (Session.dropResponse_of_unknown hr)
      (callsOf_of_eq (Session.dropResponse_of_unknown (s := s.core) hr) (.refl _)) hs
  · exact gaugeKeptAt_of_quiet (Session.dropResponse_of_kept hr)
      (Session.dropResponse_calls_of_kept hr) hs (by simp) (by simp) r.owed_responseSizes

end Operations

/-! ## Request steps -/

section Composition

variable {α β : Type} {op : Session → α × Session}

theorem GaugeKept.pure (a : α) : GaugeKept (fun s => (a, s)) :=
  fun _ hs => gaugeKeptAt_of_idle rfl rfl hs

theorem GaugeKept.peek (g : Session → α) : GaugeKept (fun s => (g s, s)) :=
  fun _ hs => gaugeKeptAt_of_idle rfl rfl hs

theorem GaugeKept.answer (hop : GaugeKept op) (b : β) : GaugeKept (fun s => (b, (op s).2)) :=
  hop

theorem GaugeKept.congr_fun {op' : Session → α × Session} (hop : GaugeKept op)
    (heq : ∀ s, op' s = op s) : GaugeKept op' := by
  have hfun : op' = op := funext heq
  rw [hfun]
  exact hop

/-- An operation followed by one its answer chooses keeps the gauge when both do: the gauge moves
by the calls of the first, then by those of the second, and the layer the second sees is the
first's. -/
theorem GaugeKept.bind {k : α → Session → β × Session} (htop : Tracked op)
    (htk : ∀ a, Tracked (k a)) (hop : GaugeKept op) (hk : ∀ a, GaugeKept (k a)) :
    GaugeKept (fun s => k (op s).1 (op s).2) := by
  intro s hs
  obtain ⟨hwf₁, hcount₁, hlab₁⟩ := hop s hs
  obtain ⟨hwf₂, hcount₂, hlab₂⟩ := hk (op s).1 (op s).2 hwf₁
  have hlayer : (op s).2.layer = s.layer := (htop.follows s).layer
  refine ⟨hwf₂, ?_, ?_⟩
  · intro L
    rw [callsOf_bind htop htk, activeTotal_append, hcount₂ L, hcount₁ L, Int.add_assoc]
  · intro o ho
    rw [callsOf_bind htop htk] at ho
    rcases List.mem_append.mp ho with ho | ho
    · exact hlab₁ o ho
    · rw [← hlayer]
      exact hlab₂ o ho

end Composition

theorem Session.afterRead_gaugeKept (id : String) (o : Outcome) (a : Answer) :
    GaugeKept (Session.afterRead id o a) :=
  (Session.dropResponse_gaugeKept id).answer _

theorem Session.consumeReply_gaugeKept (id : String) (o : Outcome) (consume : Consume) :
    GaugeKept (Session.consumeReply id o consume) := by
  cases consume with
  | readAndDrop limit =>
    exact GaugeKept.bind (Session.readResponse_tracked id limit) (Session.afterRead_tracked id o)
      (Session.readResponse_gaugeKept id limit) (Session.afterRead_gaugeKept id o)
  | drop => exact (Session.dropResponse_gaugeKept id).answer _
  | keep => exact GaugeKept.pure _

theorem Session.afterPoll_gaugeKept (id : String) (consume : Consume) (a : Answer) :
    GaugeKept (Session.afterPoll id consume a) := by
  rcases a with _ | _ | _ | _ | (_ | _ | ⟨status, endStream, hint⟩) | _ | _ | _ | _ | _
  case polled.ready => exact Session.consumeReply_gaugeKept id _ consume
  all_goals exact GaugeKept.pure _

theorem Session.afterBegin_gaugeKept (id : String) (elapsed : Float) (consume : Consume)
    (a : Answer) : GaugeKept (Session.afterBegin id elapsed consume a) := by
  cases a
  case began =>
    exact GaugeKept.bind (Session.poll_tracked id elapsed) (Session.afterPoll_tracked id consume)
      (Session.poll_gaugeKept id elapsed) (Session.afterPoll_gaugeKept id consume)
  all_goals exact GaugeKept.pure _

theorem Session.request_gaugeKept (id : String) (x : Exchange) (elapsed : Float)
    (consume : Consume) : GaugeKept (·.request id x elapsed consume) :=
  (GaugeKept.bind (Session.begin_tracked id x) (Session.afterBegin_tracked id elapsed consume)
    (Session.begin_gaugeKept id x) (Session.afterBegin_gaugeKept id elapsed consume)).congr_fun
    fun s => Session.request_eq s id x elapsed consume

theorem Session.run_gaugeKept (st : Step) : GaugeKept (·.run st) := by
  cases st with
  | begin id x => exact Session.begin_gaugeKept id x
  | poll id elapsed => exact Session.poll_gaugeKept id elapsed
  | cancel id => exact Session.cancel_gaugeKept id
  | readResponse id limit => exact Session.readResponse_gaugeKept id limit
  | dropResponse id => exact Session.dropResponse_gaugeKept id
  | request id x elapsed consume => exact Session.request_gaugeKept id x elapsed consume
  | snapshot => exact fun _ hs => gaugeKeptAt_of_idle rfl rfl hs

theorem GaugeKept.each {op : String → Session → α × Session} (htrack : ∀ id, Tracked (op id))
    (h : ∀ id, GaugeKept (op id)) (ids : List String) : GaugeKept (Session.each op ids) := by
  induction ids with
  | nil => exact GaugeKept.pure ()
  | cons id ids ih =>
    exact (GaugeKept.bind (htrack id) (fun _ => Tracked.each htrack ids) (h id) fun _ => ih).congr_fun
      fun _ => rfl

/-! ## Runs -/

/-- A step keeps the gauge: it is its operation, with the log emptied around it. -/
theorem Session.step_gauge (s : Session) (st : Step) (hs : s.Wf) :
    (s.step st).2.Wf ∧
      (∀ L, ((s.step st).2.liveCount L : Int) =
        s.liveCount L + activeTotal L (callsOf (·.run st) s)) ∧
      ∀ o ∈ callsOf (·.run st) s, o.GaugeStep s.layer := by
  obtain ⟨hwf, hcount, hstep⟩ := Session.run_gaugeKept st s hs
  have hlayer : (s.step st).2.layer = (s.run st).2.layer := by
    rw [Session.step_layer, ((Session.run_tracked st).follows s).layer]
  obtain ⟨hwf', hsame⟩ := hwf.of_same (Session.step_flights s st) hlayer
  refine ⟨hwf', fun L => ?_, hstep⟩
  rw [hsame L]
  exact hcount L

/-- **The gauge over a run.** From a session with the invariant, a run keeps the invariant, moves
the gauge of every label set by exactly the change in requests on their way with those labels,
and makes its active-requests calls as steps of one with start labels. -/
theorem Session.runAll_gauge (s : Session) (hs : s.Wf) (steps : List Step) :
    (s.runAll steps).Wf ∧
      (∀ L, ((s.runAll steps).liveCount L : Int) = s.liveCount L + activeTotal L (s.runCalls steps)) ∧
      ∀ o ∈ s.runCalls steps, o.GaugeStep s.layer := by
  induction steps generalizing s with
  | nil => exact ⟨hs, fun L => by simp, by simp⟩
  | cons st steps ih =>
    obtain ⟨hwf₁, hcount₁, hstep₁⟩ := s.step_gauge st hs
    obtain ⟨hwf₂, hcount₂, hstep₂⟩ := ih (s.step st).2 hwf₁
    refine ⟨hwf₂, fun L => ?_, ?_⟩
    · rw [Session.runAll_cons, Session.runCalls_cons, hcount₂ L, hcount₁ L, activeTotal_append,
        Int.add_assoc]
    · intro o ho
      rw [Session.runCalls_cons] at ho
      rcases List.mem_append.mp ho with ho | ho
      · exact hstep₁ o ho
      · rw [← Session.step_layer s st]
        exact hstep₂ o ho

/-! ## Teardown -/

theorem Session.cancel_flights (s : Session) (id : String) :
    (s.cancel id).2.flights = erase s.flights id := by
  rcases hf : lookup s.flights id with _ | f
  · rw [Session.cancel_of_unknown hf, erase_of_lookup_none hf]
  · rw [Session.cancel_of_live hf]
    rfl

theorem Session.dropResponse_flights (s : Session) (id : String) :
    (s.dropResponse id).2.flights = s.flights := by
  rcases hr : lookup s.replies id with _ | r
  · rw [Session.dropResponse_of_unknown hr]
  · rw [Session.dropResponse_of_kept hr]
    simp

theorem mem_foldl_erase {α : Type} {xs : List (String × α)} {ids : List String} {e : String × α}
    (h : e ∈ ids.foldl erase xs) : e ∈ xs ∧ e.1 ∉ ids := by
  induction ids generalizing xs with
  | nil => exact ⟨h, List.not_mem_nil⟩
  | cons id ids ih =>
    obtain ⟨herase, hrest⟩ := ih h
    simp only [erase, List.mem_filter, bne_iff_ne, ne_eq] at herase
    exact ⟨herase.1, by simp [herase.2, hrest]⟩

theorem Session.cancelAll_flights (s : Session) : s.cancelAll.2.flights = [] := by
  have hfold : ∀ (ids : List String) (t : Session),
      (Session.each (fun id s => s.cancel id) ids t).2.flights = ids.foldl erase t.flights := by
    intro ids
    induction ids with
    | nil => exact fun _ => rfl
    | cons id ids ih =>
      intro t
      rw [Session.each, ih, Session.cancel_flights]
      rfl
  -- an entry left would hold an id that was not cancelled, and every id on its way is
  rw [List.eq_nil_iff_forall_not_mem]
  intro e he
  rw [Session.cancelAll, hfold] at he
  obtain ⟨hmem, hid⟩ := mem_foldl_erase he
  exact hid (List.mem_mergeSort.mpr (List.mem_map_of_mem hmem))

theorem Session.dropAll_flights (s : Session) : s.dropAll.2.flights = s.flights := by
  have hfold : ∀ (ids : List String) (t : Session),
      (Session.each (fun id s => s.dropResponse id) ids t).2.flights = t.flights := by
    intro ids
    induction ids with
    | nil => exact fun _ => rfl
    | cons id ids ih =>
      intro t
      rw [Session.each, ih, Session.dropResponse_flights]
  exact hfold _ s

theorem Session.closeAll_flights (s : Session) : s.closeAll.2.flights = [] := by
  rw [Session.closeAll, Session.dropAll_flights, Session.cancelAll_flights]

theorem Session.closeAll_gaugeKept : GaugeKept Session.closeAll := by
  have hcancel : GaugeKept Session.cancelAll :=
    (GaugeKept.bind (Tracked.peek _ fun _ => rfl)
      (fun ids => Tracked.each (fun id => Session.cancel_tracked id) ids) (GaugeKept.peek _)
      (GaugeKept.each (fun id => Session.cancel_tracked id) Session.cancel_gaugeKept)).congr_fun
      fun _ => rfl
  have hdrop : GaugeKept Session.dropAll :=
    (GaugeKept.bind (Tracked.peek _ fun _ => rfl)
      (fun ids => Tracked.each (fun id => Session.dropResponse_tracked id) ids) (GaugeKept.peek _)
      (GaugeKept.each (fun id => Session.dropResponse_tracked id)
        Session.dropResponse_gaugeKept)).congr_fun fun _ => rfl
  exact (GaugeKept.bind Session.cancelAll_tracked (fun _ => Session.dropAll_tracked) hcancel
    fun _ => hdrop).congr_fun fun _ => rfl

/-- Teardown leaves no request on its way. -/
theorem Session.teardown_flights (s : Session) : s.teardown.2.flights = [] := by
  rw [Session.teardown_eq]
  exact Session.closeAll_flights _

/-- **The active-requests gauge balances.** Over any run of a new session, each active-requests
call is a step of one with the start labels of a request; the calls on the gauge of every label
set add up to the requests with those labels still on their way; and teardown, which drops every
request still on its way, leaves none and brings the gauge of every label set back to zero. -/
theorem Session.activeGauge_balance {k : Setup} {config : Config}
    {catalog : Option Route.Catalog} {s₀ : Session} (hnew : Session.new k config catalog = .ok s₀)
    (steps : List Step) :
    (∀ L, activeTotal L (s₀.runCalls steps) = (s₀.runAll steps).liveCount L) ∧
      (∀ o ∈ s₀.runCalls steps ++ (s₀.runAll steps).teardownCalls, o.GaugeStep s₀.layer) ∧
      (s₀.runAll steps).teardown.2.flights = [] ∧
      ∀ L, activeTotal L (s₀.runCalls steps ++ (s₀.runAll steps).teardownCalls) = 0 := by
  have hfresh := Session.new_flights hnew
  have hlive₀ : ∀ L, s₀.liveCount L = 0 := by simp [Session.liveCount, hfresh]
  obtain ⟨hwf, hcount, hstep⟩ := s₀.runAll_gauge (.of_flights_nil hfresh) steps
  obtain ⟨-, hclose, hstepClose⟩ := Session.closeAll_gaugeKept _ hwf
  have hclosed : ∀ L, (s₀.runAll steps).closeAll.2.liveCount L = 0 := by
    simp [Session.liveCount, Session.closeAll_flights]
  refine ⟨fun L => ?_, ?_, Session.teardown_flights _, fun L => ?_⟩
  · rw [hcount L, hlive₀ L]
    simp
  · intro o ho
    rcases List.mem_append.mp ho with ho | ho
    · exact hstep o ho
    · rw [← Session.runAll_layer s₀ steps]
      exact hstepClose o ho
  · -- the run leaves its requests on their way, and teardown takes every one of them off
    have hafter := hclose L
    rw [hclosed L, hcount L, hlive₀ L] at hafter
    rw [activeTotal_append, Session.teardownCalls]
    omega

theorem Session.activeGauge_balance_of_discard :
    let s₀ : Session := ⟨⟨⟨[]⟩, none⟩, .discard, true, .given, [], [], []⟩
    let get : Exchange := ⟨"GET", "/", [], .full (some 5), .all, 1, 200, [], .full (some 3), none⟩
    -- `a` is answered after one "not yet", `b` is cancelled, `c` is left to teardown and `d`
    -- is answered at once
    let steps : List Step := [.begin "a" get, .begin "b" get, .poll "a" 1.0, .poll "a" 2.0,
      .begin "c" get, .cancel "b", .poll "c" 1.0,
      .request "d" { get with pendingPolls := 0 } 1.0 .drop]
    Session.new .discard (Config.new "svc") none = .ok s₀ ∧
      (∀ L, activeTotal L (s₀.runCalls steps) = (s₀.runAll steps).liveCount L) ∧
        (∀ o ∈ s₀.runCalls steps ++ (s₀.runAll steps).teardownCalls, o.GaugeStep s₀.layer) ∧
        (s₀.runAll steps).teardown.2.flights = [] ∧
        ∀ L, activeTotal L (s₀.runCalls steps ++ (s₀.runAll steps).teardownCalls) = 0 := by
  intro s₀ get steps
  have hnew : Session.new .discard (Config.new "svc") none = .ok s₀ := rfl
  exact ⟨hnew, Session.activeGauge_balance hnew steps⟩

end HttpTelemetry.Middleware
