import HttpTelemetry.Middleware.Session
import HttpTelemetry.Proofs.BodyCounting
/-!
# What each operation of a session does

Each operation of a session is told here by equations, one for each way it can go: the answer,
the recorder calls it makes, and what becomes of the requests on their way and of the response
bodies kept. The recorder calls are the observations sent with `Session.observe`; a session that
logs shows them, in order, among its events.

The equations hold of every session, whether it logs or not: no operation looks at the log.

A response body only owes a call: `Reply.owed` is the response-size call it makes when it is
settled, and settling, whether at the end of the body, at its drop or when another body takes
its place, makes exactly that call and owes nothing after. The frames of a response body are read
by `Reply.pollFrame`, which does not need the session at all.
-/

namespace HttpTelemetry.Middleware

open HttpTelemetry.Body

/-- The observation an event reports, if it is one. -/
def Event.observation? : Event → Option Observation
  | .observed o => some o
  | .served _ => none

/-- The recorder calls a log shows, in order. -/
def observations (es : List Event) : List Observation := es.filterMap Event.observation?

@[simp] theorem observations_nil : observations [] = [] := rfl

@[simp] theorem observations_append (es es' : List Event) :
    observations (es ++ es') = observations es ++ observations es' := List.filterMap_append

@[simp] theorem observations_cons_observed (o : Observation) (es : List Event) :
    observations (.observed o :: es) = o :: observations es := rfl

@[simp] theorem observations_cons_served (x : Served) (es : List Event) :
    observations (.served x :: es) = observations es := rfl

@[simp] theorem observations_map_observed (os : List Observation) :
    observations (os.map Event.observed) = os := by
  induction os with
  | nil => rfl
  | cons o os ih =>
    rw [List.map_cons, observations_cons_observed, ih]


theorem Backend.recordAll_append (b : Backend) (os os' : List Observation) :
    b.recordAll (os ++ os') = (b.recordAll os).recordAll os' := List.foldl_append

/-! ## Entries by id -/

section Entries

variable {α : Type} {xs : List (String × α)} {k k' : String} {v : α}

@[simp] theorem lookup_nil : lookup ([] : List (String × α)) k = none := rfl

theorem lookup_cons (xs : List (String × α)) (k k' : String) (v : α) :
    lookup ((k', v) :: xs) k = if k' = k then some v else lookup xs k := by
  by_cases h : k' = k <;> simp [lookup, h]

theorem erase_cons (xs : List (String × α)) (k k' : String) (v : α) :
    erase ((k', v) :: xs) k = if k' = k then erase xs k else (k', v) :: erase xs k := by
  by_cases h : k' = k <;> simp [erase, h]

theorem lookup_eq_none_iff : lookup xs k = none ↔ ∀ e ∈ xs, e.1 ≠ k := by
  simp [lookup]

theorem lookup_append (xs ys : List (String × α)) (k : String) :
    lookup (xs ++ ys) k = (lookup xs k).or (lookup ys k) := by
  induction xs with
  | nil => rfl
  | cons e rest ih =>
    rcases e with ⟨k', v⟩
    rw [List.cons_append, lookup_cons, lookup_cons, ih]
    by_cases h : k' = k <;> simp [h]

@[simp] theorem lookup_erase_self (xs : List (String × α)) (k : String) :
    lookup (erase xs k) k = none := by
  rw [lookup_eq_none_iff]
  intro e he
  simp only [erase, List.mem_filter, bne_iff_ne, ne_eq] at he
  exact he.2

theorem lookup_erase_of_ne (xs : List (String × α)) (h : k' ≠ k) :
    lookup (erase xs k') k = lookup xs k := by
  induction xs with
  | nil => rfl
  | cons e rest ih =>
    rcases e with ⟨k'', v⟩
    rw [erase_cons, lookup_cons]
    by_cases he : k'' = k'
    · subst he
      simp [ih, h]
    · simp only [he, if_false]
      rw [lookup_cons, ih]

@[simp] theorem lookup_put_self (xs : List (String × α)) (k : String) (v : α) :
    lookup (put xs k v) k = some v := by
  simp [put, lookup_append, lookup_cons]

theorem lookup_put_of_ne (xs : List (String × α)) (v : α) (h : k' ≠ k) :
    lookup (put xs k' v) k = lookup xs k := by
  rw [put, lookup_append, lookup_erase_of_ne xs h, lookup_cons]
  cases lookup xs k <;> simp [h]

theorem erase_of_lookup_none (h : lookup xs k = none) : erase xs k = xs := by
  rw [lookup_eq_none_iff] at h
  apply List.filter_eq_self.mpr
  intro e he
  simpa using h e he

theorem mem_of_mem_erase {e : String × α} (h : e ∈ erase xs k) : e ∈ xs :=
  (List.mem_filter.mp h).1

theorem mem_of_lookup (h : lookup xs k = some v) : (k, v) ∈ xs := by
  induction xs with
  | nil => simp at h
  | cons e rest ih =>
    rcases e with ⟨k', v'⟩
    rw [lookup_cons] at h
    by_cases hk : k' = k
    · simp only [hk, if_true, Option.some.injEq] at h
      rw [hk, h]
      exact List.mem_cons_self ..
    · simp only [hk, if_false] at h
      exact List.mem_cons_of_mem _ (ih h)

theorem mem_put {e : String × α} (h : e ∈ put xs k v) : e ∈ xs ∨ e = (k, v) := by
  rcases List.mem_append.mp h with h | h
  · exact .inl (mem_of_mem_erase h)
  · exact .inr (List.mem_singleton.mp h)

theorem nodup_keys_erase (hnd : (xs.map Prod.fst).Nodup) (k : String) :
    ((erase xs k).map Prod.fst).Nodup :=
  hnd.sublist ((List.filter_sublist).map Prod.fst)

theorem not_mem_keys_erase (xs : List (String × α)) (k : String) : k ∉ (erase xs k).map Prod.fst := by
  intro hk
  obtain ⟨e, he, hek⟩ := List.mem_map.mp hk
  simp only [erase, List.mem_filter, bne_iff_ne, ne_eq] at he
  exact he.2 hek

theorem nodup_keys_put (hnd : (xs.map Prod.fst).Nodup) (k : String) (v : α) :
    ((put xs k v).map Prod.fst).Nodup := by
  rw [put, List.map_append, List.nodup_append]
  refine ⟨nodup_keys_erase hnd k, by simp, ?_⟩
  intro a ha b hb
  simp only [List.map_cons, List.map_nil, List.mem_singleton] at hb
  rintro rfl
  exact not_mem_keys_erase xs k (hb ▸ ha)

/-- Entries are counted apart from the one of an id, which a lookup finds when ids are
distinct. -/
theorem countP_eq_erase_add (p : String × α → Bool) (hnd : (xs.map Prod.fst).Nodup)
    (h : lookup xs k = some v) :
    xs.countP p = (erase xs k).countP p + if p (k, v) then 1 else 0 := by
  induction xs with
  | nil => simp at h
  | cons e rest ih =>
    rcases e with ⟨k', v'⟩
    simp only [List.map_cons, List.nodup_cons] at hnd
    obtain ⟨hfresh, hrest⟩ := hnd
    rw [lookup_cons] at h
    rw [erase_cons, List.countP_cons]
    by_cases hk : k' = k
    · subst hk
      simp only [if_true, Option.some.injEq] at h
      subst h
      have hnone : lookup rest k' = none := by
        rw [lookup_eq_none_iff]
        intro e he hek
        exact hfresh (hek ▸ List.mem_map_of_mem he)
      rw [if_pos rfl, erase_of_lookup_none hnone]
    · simp only [hk, if_false] at h ⊢
      rw [List.countP_cons, ih hrest h]
      omega

theorem countP_put_of_lookup_none (p : String × α → Bool) (h : lookup xs k = none) :
    (put xs k v).countP p = xs.countP p + if p (k, v) then 1 else 0 := by
  rw [put, erase_of_lookup_none h, List.countP_append]
  simp [List.countP_cons]

end Entries

/-! ## Recorder calls and reports -/

section Sink

variable (s : Session)

/-- Sends observations to the recorder in order. -/
def Session.observeAll (os : List Observation) : Session := os.foldl Session.observe s

@[simp] theorem Session.observe_layer (o : Observation) : (s.observe o).layer = s.layer := rfl
@[simp] theorem Session.observe_clock (o : Observation) : (s.observe o).clock = s.clock := rfl
@[simp] theorem Session.observe_logged (o : Observation) : (s.observe o).logged = s.logged := rfl
@[simp] theorem Session.observe_flights (o : Observation) : (s.observe o).flights = s.flights := rfl
@[simp] theorem Session.observe_replies (o : Observation) : (s.observe o).replies = s.replies := rfl

@[simp] theorem Session.observe_backend (o : Observation) :
    (s.observe o).backend = s.backend.record o := rfl

@[simp] theorem Session.observe_events (o : Observation) :
    (s.observe o).events = s.events ++ if s.logged then [.observed o] else [] := by
  by_cases h : s.logged <;> simp [Session.observe, h]

@[simp] theorem Session.logServed_layer (x : Served) : (s.logServed x).layer = s.layer := rfl
@[simp] theorem Session.logServed_clock (x : Served) : (s.logServed x).clock = s.clock := rfl
@[simp] theorem Session.logServed_logged (x : Served) : (s.logServed x).logged = s.logged := rfl
@[simp] theorem Session.logServed_backend (x : Served) : (s.logServed x).backend = s.backend := rfl
@[simp] theorem Session.logServed_flights (x : Served) : (s.logServed x).flights = s.flights := rfl
@[simp] theorem Session.logServed_replies (x : Served) : (s.logServed x).replies = s.replies := rfl

@[simp] theorem Session.logServed_events (x : Served) :
    (s.logServed x).events = s.events ++ [.served x] := rfl

@[simp] theorem Session.observeAll_nil : s.observeAll [] = s := rfl

theorem Session.observeAll_cons (o : Observation) (os : List Observation) :
    s.observeAll (o :: os) = (s.observe o).observeAll os := rfl

theorem Session.observeAll_append (os os' : List Observation) :
    s.observeAll (os ++ os') = (s.observeAll os).observeAll os' := List.foldl_append

@[simp] theorem Session.observeAll_singleton (o : Observation) : s.observeAll [o] = s.observe o := rfl

/-- Everything but the backend and the log is kept by recorder calls. -/
theorem Session.observeAll_eq (os : List Observation) :
    s.observeAll os =
      { s with
        backend := s.backend.recordAll os
        events := s.events ++ if s.logged then os.map Event.observed else [] } := by
  induction os generalizing s with
  | nil => simp [Backend.recordAll]
  | cons o os ih =>
    rw [Session.observeAll_cons, ih]
    by_cases h : s.logged <;> simp [Session.observe, h, Backend.recordAll]

@[simp] theorem Session.observeAll_layer (os : List Observation) :
    (s.observeAll os).layer = s.layer := by rw [Session.observeAll_eq]
@[simp] theorem Session.observeAll_clock (os : List Observation) :
    (s.observeAll os).clock = s.clock := by rw [Session.observeAll_eq]
@[simp] theorem Session.observeAll_logged (os : List Observation) :
    (s.observeAll os).logged = s.logged := by rw [Session.observeAll_eq]
@[simp] theorem Session.observeAll_flights (os : List Observation) :
    (s.observeAll os).flights = s.flights := by rw [Session.observeAll_eq]
@[simp] theorem Session.observeAll_replies (os : List Observation) :
    (s.observeAll os).replies = s.replies := by rw [Session.observeAll_eq]
@[simp] theorem Session.observeAll_backend (os : List Observation) :
    (s.observeAll os).backend = s.backend.recordAll os := by rw [Session.observeAll_eq]

@[simp] theorem Session.observeAll_events (os : List Observation) :
    (s.observeAll os).events = s.events ++ if s.logged then os.map Event.observed else [] := by
  rw [Session.observeAll_eq]

end Sink

/-! ## Response bodies -/

/-- The response-size call a response body still owes: its labels, with the bytes counted so
far. -/
def Reply.owed (r : Reply) : List Observation :=
  r.pending.toList.map fun labels => .responseSize labels r.body.length

@[simp] theorem Reply.owed_settled {r : Reply} (h : r.pending = none) : r.owed = [] := by
  simp [Reply.owed, h]

/-- Settling a response body makes the call it owes, and it owes nothing after. -/
theorem Session.settle_eq (s : Session) (r : Reply) :
    s.settle r = ({ r with pending := none }, s.observeAll r.owed) := by
  rcases r with ⟨body, _ | labels⟩ <;> rfl

/-- The call owed by the response body kept under an id, if any. -/
def owedAt (replies : List (String × Reply)) (id : String) : List Observation :=
  ((lookup replies id).map Reply.owed).getD []

theorem Session.keep_eq (s : Session) (id : String) (r : Reply) :
    s.keep id r = { s.observeAll (owedAt s.replies id) with replies := put s.replies id r } := by
  unfold Session.keep owedAt
  cases lookup s.replies id <;> simp [Session.settle_eq]

/-- One frame of a response body: the poll, the body after it, and the call it settles when the
frame is the end or leaves the body at its end. -/
def Reply.pollFrame (r : Reply) : Poll × Reply × List Observation :=
  let r' : Reply := { r with body := r.body.poll.2 }
  if r.body.poll.1 == .done || r.body.poll.2.isEndStream then
    (r.body.poll.1, { r' with pending := none }, r'.owed)
  else (r.body.poll.1, r', [])

/-- Up to `fuel` frames of a response body, stopping after the end or an error. -/
def Reply.read (r : Reply) : Nat → List Poll × Reply × List Observation
  | 0 => ([], r, [])
  | fuel + 1 =>
    if r.pollFrame.1.stops then ([r.pollFrame.1], r.pollFrame.2.1, r.pollFrame.2.2)
    else
      let rest := r.pollFrame.2.1.read fuel
      (r.pollFrame.1 :: rest.1, rest.2.1, r.pollFrame.2.2 ++ rest.2.2)

theorem Session.readReply_eq (s : Session) (r : Reply) (fuel : Nat) :
    s.readReply r fuel = ((r.read fuel).1, (r.read fuel).2.1, s.observeAll (r.read fuel).2.2) := by
  induction fuel generalizing s r with
  | zero => rfl
  | succ fuel ih =>
    simp only [Session.readReply, Reply.read, Reply.pollFrame]
    -- the frame settles the body or not; then reading stops or goes on
    by_cases hend : (r.body.poll.1 == .done || r.body.poll.2.isEndStream) = true
    · by_cases hstop : r.body.poll.1.stops = true
      · simp only [hend, hstop, if_true, Session.settle_eq]
      · simp only [hend, hstop, if_true, Bool.false_eq_true, if_false, Session.settle_eq, ih,
          Session.observeAll_append]
    · by_cases hstop : r.body.poll.1.stops = true
      · simp only [hend, hstop, if_true, Bool.false_eq_true, if_false, Session.observeAll_nil]
      · simp only [hend, hstop, Bool.false_eq_true, if_false, ih, List.nil_append]

/-- What every frame keeps, reading keeps: an invariant of the body carried from frame to frame,
and a property of every call a frame makes. -/
theorem Reply.read_keeps (inv : Reply → Prop) (P : Observation → Prop)
    (hframe : ∀ r, inv r → inv r.pollFrame.2.1 ∧ ∀ o ∈ r.pollFrame.2.2, P o) {r : Reply}
    (hr : inv r) (fuel : Nat) : inv (r.read fuel).2.1 ∧ ∀ o ∈ (r.read fuel).2.2, P o := by
  induction fuel generalizing r with
  | zero => exact ⟨hr, by simp [Reply.read]⟩
  | succ fuel ih =>
    obtain ⟨hinv, hcalls⟩ := hframe r hr
    unfold Reply.read
    split
    · exact ⟨hinv, hcalls⟩
    · -- the frames after the first are read from the body the first frame leaves
      obtain ⟨hrest, hcalls'⟩ := ih hinv
      refine ⟨hrest, fun o ho => ?_⟩
      rcases List.mem_append.mp ho with ho | ho
      · exact hcalls o ho
      · exact hcalls' o ho

/-! ## A new session -/

/-- A new session is the session of the layer, with the backend of the setup, that has observed
the layer's touches. -/
theorem Session.new_inv {k : Setup} {config : Config} {catalog : Option Route.Catalog}
    {s : Session} (h : Session.new k config catalog = .ok s) :
    ∃ layer backend touches, k.backend config = .ok backend ∧
      Layer.new config catalog = .ok (layer, touches) ∧
      s = Session.observeAll
        ⟨layer, backend, k.logged, if k.logged then .given else .wall, [], [], []⟩ touches := by
  unfold Session.new at h
  cases hb : k.backend config with
  | error e => simp [hb, bind, Except.bind] at h
  | ok backend =>
    cases hl : Layer.new config catalog with
    | error e => simp [hb, hl, bind, Except.bind] at h
    | ok p =>
      simp only [hb, hl, bind, Except.bind, pure, Except.pure, Except.ok.injEq] at h
      exact ⟨p.1, backend, p.2, rfl, rfl, h.symm⟩

/-! ## Requests -/

section Requests

variable {s : Session} {id : String}

theorem Session.begin_of_live {x : Exchange} (h : s.isLive id = true) :
    s.begin id x = (.idInUse, s) := by
  simp [Session.begin, h]

theorem Session.begin_of_refused {x : Exchange} {r : Http.Refusal} (hlive : s.isLive id = false)
    (hb : x.build = .error r) : s.begin id x = (.refused r, s) := by
  simp [Session.begin, hlive, hb]

/-- A request the service is handed: its head, its start labels, its body with a fresh counter,
and its script, nothing read yet. -/
def Flight.start (head : Http.RequestHead) (labels : Labels) (body : Source) (script : Script) :
    Flight :=
  ⟨head, labels, LengthBody.new body, script, none, script.pendingPolls⟩

theorem Session.begin_of_build {x : Exchange} {head : Http.RequestHead} {script : Script}
    (hlive : s.isLive id = false) (hb : x.build = .ok (head, script)) :
    s.begin id x =
      (.began,
        { s.observe (.active (s.layer.startLabels head) 1) with
          flights := put s.flights id (.start head (s.layer.startLabels head) x.body script) }) := by
  simp [Session.begin, hlive, hb, Flight.start]

/-- The milliseconds a clock gives for a poll that says `elapsed`. -/
def Clock.millis : Clock → Float → Float
  | .given, elapsed => elapsed
  | .wall, _ => 0.0

/-- The size of a response known when it comes: the `content-length` field, else an exact size
hint. -/
def knownSize (head : Http.ResponseHead) (body : Source) : Option Nat :=
  head.contentLength <|> body.sizeHint.exact

/-- The response body handed to the client, owing its size unless it was known. -/
def Reply.start (labels : Labels) (head : Http.ResponseHead) (body : Source) : Reply :=
  ⟨LengthBody.new body, if (knownSize head body).isSome then none else some labels⟩

theorem Session.respond_eq (f : Flight) (request : LengthBody) (elapsed : Float)
    (head : Http.ResponseHead) (body : Source) :
    s.respond id f request elapsed head body =
      (.polled (.ready head.status (LengthBody.new body).isEndStream (LengthBody.new body).sizeHint),
        { s.observeAll
            ([.duration (s.layer.finishLabels f.labels head.status) (s.clock.millis elapsed),
              .requestSize (s.layer.finishLabels f.labels head.status) request.length,
              .active f.labels (-1)] ++
              (knownSize head body).toList.map
                (.responseSize (s.layer.finishLabels f.labels head.status)) ++
              owedAt s.replies id) with
          replies := put s.replies id
            (.start (s.layer.finishLabels f.labels head.status) head body) }) := by
  unfold Session.respond knownSize Reply.start
  -- the clock decides the milliseconds, the known size whether the size is recorded now
  cases s.clock <;> cases hsize : (head.contentLength <|> body.sizeHint.exact) <;>
    simp only [knownSize, hsize, Clock.millis, Session.keep_eq, Option.toList, List.map_nil,
      List.map_cons, List.append_nil, List.cons_append, List.nil_append, Session.observeAll_cons,
      Option.isSome_none, Option.isSome_some, Session.observe_replies, Bool.false_eq_true, if_true,
      if_false]

/-- What the service's reading of the request body gives at a poll: it reads at its first poll,
and keeps what it read. -/
def Flight.read (f : Flight) : Reading × LengthBody :=
  match f.reading with
  | some r => (r, f.request)
  | none => f.script.read.run f.request

/-- What the service reports once it is done with a request. -/
def Flight.served (f : Flight) : Served :=
  ⟨f.head.uri.path, f.read.1.readBytes, f.read.1.readError, f.read.1.close, f.read.2.length⟩

/-- A flight after a poll that answers "not yet": the body is read, one "not yet" fewer is
left. -/
def Flight.waited (f : Flight) : Flight :=
  { f with reading := some f.read.1, request := f.read.2, pendingLeft := f.pendingLeft - 1 }

theorem Session.poll_of_unknown {elapsed : Float} (h : lookup s.flights id = none) :
    s.poll id elapsed = (.unknownId, s) := by
  simp [Session.poll, h]

theorem Session.poll_of_waiting {elapsed : Float} {f : Flight} (h : lookup s.flights id = some f)
    (hwait : 0 < f.pendingLeft) :
    s.poll id elapsed = (.polled .pending, { s with flights := put s.flights id f.waited }) := by
  unfold Session.poll Flight.waited Flight.read
  cases hread : f.reading <;> simp [h, hwait, hread]

theorem Session.poll_of_failed {elapsed : Float} {f : Flight} {message : String}
    (h : lookup s.flights id = some f) (hdue : f.pendingLeft = 0)
    (hfail : f.script.outcome = .error message) :
    s.poll id elapsed =
      (.polled (.failed message),
        { s.logServed f.served with flights := erase s.flights id }.observe (.active f.labels (-1))) := by
  unfold Session.poll Flight.served Flight.read
  cases hread : f.reading <;> simp [h, hdue, hfail, hread]

theorem Session.poll_of_ready {elapsed : Float} {f : Flight} {head : Http.ResponseHead}
    {body : Source} (h : lookup s.flights id = some f) (hdue : f.pendingLeft = 0)
    (hok : f.script.outcome = .ok (head, body)) :
    s.poll id elapsed =
      { s.logServed f.served with flights := erase s.flights id }.respond id f f.read.2 elapsed
        head body := by
  unfold Session.poll Flight.served Flight.read
  cases hread : f.reading <;> simp [h, hdue, hok, hread]

theorem Session.cancel_of_unknown (h : lookup s.flights id = none) :
    s.cancel id = (.unknownId, s) := by
  simp [Session.cancel, h]

theorem Session.cancel_of_live {f : Flight} (h : lookup s.flights id = some f) :
    s.cancel id =
      (.cancelled, { s with flights := erase s.flights id }.observe (.active f.labels (-1))) := by
  simp [Session.cancel, h]

theorem Session.readResponse_of_unknown {limit : Option Nat} (h : lookup s.replies id = none) :
    s.readResponse id limit = (.unknownId, s) := by
  simp [Session.readResponse, h]

theorem Session.readResponse_of_kept {limit : Option Nat} {r : Reply}
    (h : lookup s.replies id = some r) :
    s.readResponse id limit =
      (.read (r.read (limit.getD (r.body.inner.framesLeft + 1))).1
          (r.read (limit.getD (r.body.inner.framesLeft + 1))).2.1.body.isEndStream,
        { s.observeAll (r.read (limit.getD (r.body.inner.framesLeft + 1))).2.2 with
          replies := put s.replies id (r.read (limit.getD (r.body.inner.framesLeft + 1))).2.1 }) := by
  simp [Session.readResponse, h, Session.readReply_eq]

theorem Session.dropResponse_of_unknown (h : lookup s.replies id = none) :
    s.dropResponse id = (.unknownId, s) := by
  simp [Session.dropResponse, h]

theorem Session.dropResponse_of_kept {r : Reply} (h : lookup s.replies id = some r) :
    s.dropResponse id = (.dropped, { s.observeAll r.owed with replies := erase s.replies id }) := by
  simp [Session.dropResponse, h, Session.settle_eq]

end Requests

end HttpTelemetry.Middleware
