import PlayitAgent.Runtime.Subscription

/-!
# What a subscriber ends up with

A client of the event stream overwrites the snapshot it got by the events it receives. Once nobody
is publishing and all events are delivered, it has what is in the cache, as long as no task sends an
event when the value in the cache has already been sent by the task that wrote it.
-/

namespace PlayitAgent

/-- An update without the uptime and the endpoint of the daemon. -/
def ServiceUpdate.core : ServiceUpdate → ServiceUpdate
  | .status shown => .status { shown with uptime_secs := 0, socket_path := "" }
  | u => u

/-- The server leaves the core of an event. -/
theorem core_transportEvent (server : IpcServer) (u : ServiceUpdate) :
    (server.transportEvent u).core = u.core := by
  cases u <;> rfl

/-- The server leaves the kind of an event. -/
theorem kind_transportEvent (server : IpcServer) (u : ServiceUpdate) :
    (server.transportEvent u).kind = u.kind := by
  cases u <;> rfl

/-! ## The last event of a kind -/

/-- What is left of `r` after it is overwritten by the events of its kind. -/
def latest (queue : List ServiceUpdate) (kind : Kind) (r : ServiceUpdate) : ServiceUpdate :=
  queue.foldl (fun r u => if u.kind = kind then u else r) r

/-- No event overwrites anything. -/
@[simp]
theorem latest_nil (kind : Kind) (r : ServiceUpdate) : latest [] kind r = r := rfl

/-- The first event overwrites what is of its kind. -/
theorem latest_cons (u : ServiceUpdate) (queue : List ServiceUpdate) (kind : Kind)
    (r : ServiceUpdate) :
    latest (u :: queue) kind r = latest queue kind (if u.kind = kind then u else r) := rfl

/-- The last event of the kind stays. -/
theorem latest_concat (queue : List ServiceUpdate) (u : ServiceUpdate) (kind : Kind)
    (r : ServiceUpdate) :
    latest (queue ++ [u]) kind r = if u.kind = kind then u else latest queue kind r := by
  simp [latest]

/-- Overwriting two things makes them the same, or leaves both. -/
theorem latest_eq_or (queue : List ServiceUpdate) (kind : Kind) (r r' : ServiceUpdate) :
    latest queue kind r = latest queue kind r' ∨
      (latest queue kind r = r ∧ latest queue kind r' = r') := by
  induction queue generalizing r r' with
  | nil => exact .inr ⟨rfl, rfl⟩
  | cons u queue ih =>
    rw [latest_cons, latest_cons]
    split
    · exact .inl rfl
    · exact ih r r'

/-- Only the core of what is overwritten matters. -/
theorem core_latest {queue : List ServiceUpdate} {kind : Kind} {r r' : ServiceUpdate}
    (h : r.core = r'.core) : (latest queue kind r).core = (latest queue kind r').core := by
  rcases latest_eq_or queue kind r r' with heq | ⟨hr, hr'⟩
  · rw [heq]
  · rw [hr, hr', h]

/-! ## What a connection holds -/

/-- What of a kind is read and will be in the answer. -/
def Answering.held : Answering → Kind → List ServiceUpdate
  | .readStats _ shown, .lifecycle => [.lifecycle shown]
  | .readStatusAgain snapshot, .lifecycle => [snapshot.get .lifecycle]
  | .readStatusAgain snapshot, .stats => [snapshot.get .stats]
  | .respond snapshot, kind => [snapshot.get kind]
  | _, _ => []

/-- What of a kind the client has, or is going to be answered. -/
def Connection.held (c : Connection) (kind : Kind) : List ServiceUpdate :=
  (c.view.map fun view => view.get kind).toList ++ c.answering.held kind

/-- With the events in the queue, all that the client has, or can still read, is what is in the
cache. -/
def Connection.Follows (c : Connection) (cache : StateCache) (kind : Kind) : Prop :=
  ∀ r ∈ cache.get kind :: c.held kind, (latest c.queue kind r).core = (cache.get kind).core

section
variable {server : IpcServer} {cache : StateCache} {c c' : Connection} {kind : Kind}

/-- An event of another kind changes nothing. -/
theorem Connection.Follows.receive_of_ne {step : PublishStep} (h : c.Follows cache kind)
    (hne : step.update.kind ≠ kind) : (c.receive step).Follows cache kind := by
  cases step with
  | write u => exact h
  | send u =>
    intro r hr
    have hne : u.kind ≠ kind := hne
    have hlatest : latest (c.queue ++ [u]) kind r = latest c.queue kind r := by
      rw [latest_concat, if_neg hne]
    exact hlatest ▸ h r hr

/-- The event that tells what is in the cache. -/
theorem follows_receive_send (cache : StateCache) (c : Connection) (kind : Kind) :
    (c.receive (.send (cache.get kind))).Follows cache kind := by
  intro r _
  have hlatest : latest (c.queue ++ [cache.get kind]) kind r = cache.get kind := by
    rw [latest_concat, if_pos (cache.kind_get kind)]
  exact congrArg ServiceUpdate.core hlatest

/-- A read adds what is in the cache to the answer. -/
theorem held_read {now : UInt64} {answering answering' : Answering}
    (h : Feed.read server cache now answering = some answering') (kind : Kind) :
    ∀ r ∈ answering'.held kind, r ∈ answering.held kind ∨ r.core = (cache.get kind).core := by
  cases answering with
  | idle => cases h
  | readStatus =>
    cases h
    cases kind <;> simp [Answering.held]
  | readLifecycle shown =>
    cases h
    cases kind <;> simp [Answering.held, StateCache.get]
  | readStats shown agent =>
    cases h
    cases kind <;> simp [Answering.held, StateCache.get]
  | readStatusAgain snapshot =>
    cases h
    cases kind <;>
      simp [Answering.held, StateCache.get, ServiceUpdate.core, IpcServer.handleStatus]
  | respond snapshot => cases h

/-- What matters of what is held is its core. -/
theorem Connection.Follows.of_held (h : c.Follows cache kind) (hqueue : c'.queue = c.queue)
    (hheld : ∀ r ∈ c'.held kind, ∃ r' ∈ cache.get kind :: c.held kind, r.core = r'.core) :
    c'.Follows cache kind := by
  intro r hr
  rw [hqueue]
  rcases List.mem_cons.1 hr with rfl | hr
  · exact h _ (List.mem_cons_self ..)
  · obtain ⟨r', hr', hcore⟩ := hheld r hr
    rw [core_latest hcore]
    exact h r' hr'

/-- An event is taken from the queue and overwrites what the client has. -/
theorem Connection.Follows.deliver {view : SubscriptionSnapshot} {u : ServiceUpdate}
    {queue : List ServiceUpdate} (h : c.Follows cache kind) (hidle : c.answering = .idle)
    (hview : c.view = some view) (hqueue : c.queue = u :: queue) :
    Connection.Follows
      { c with queue := queue, view := some (view.set (server.transportEvent u)) } cache kind := by
  have hheld : view.get kind ∈ cache.get kind :: c.held kind := by
    simp [Connection.held, hview]
  intro r hr
  have hr : r = cache.get kind ∨ r = (view.set (server.transportEvent u)).get kind := by
    simpa [Connection.held, hidle, Answering.held] using hr
  show (latest queue kind r).core = (cache.get kind).core
  rcases hr with rfl | rfl
  · -- What is read later is in the cache, or it is overwritten by the same event.
    rcases latest_eq_or queue kind (cache.get kind) (if u.kind = kind then u else view.get kind)
      with heq | ⟨hr, -⟩
    · have h' := h _ hheld
      rw [hqueue, latest_cons, ← heq] at h'
      exact h'
    · rw [hr]
  · -- What the client has now is what it had, overwritten by the first event of the queue.
    have h' := h _ hheld
    rw [hqueue, latest_cons] at h'
    rw [← h']
    apply core_latest
    by_cases hkind : u.kind = kind
    · rw [if_pos hkind, ← hkind, ← kind_transportEvent server u, StateCache.get_set,
        core_transportEvent]
    · rw [if_neg hkind, StateCache.get_set_of_ne _ (by rwa [kind_transportEvent])]

/-- What a step of the connection does. -/
inductive Connection.Step (server : IpcServer) (cache : StateCache) (c : Connection) :
    Feed.Action → Connection → Prop
  | subscribe : c.answering = .idle →
    Step server cache c .subscribe { c with answering := .readStatus }
  | read {now : UInt64} {answering : Answering} :
    Feed.read server cache now c.answering = some answering →
    Step server cache c (.read now) { c with answering }
  | respond {snapshot : SubscriptionSnapshot} : c.answering = .respond snapshot →
    Step server cache c .respond
      { c with
        answering := .idle
        view := some
          { snapshot with status := { snapshot.status with socket_path := server.socket_path } } }
  | deliver {view : SubscriptionSnapshot} {event : ServiceUpdate} {queue : List ServiceUpdate} :
    c.answering = .idle → c.view = some view → c.queue = event :: queue →
    Step server cache c .deliver
      { c with queue, view := some (view.set (server.transportEvent event)) }
  | lag (dropped : ℕ) :
    Step server cache c (.lag dropped) { c with queue := c.queue.drop dropped, lagged := true }

/-- A step of the connection is one of those. -/
theorem stepConnection_cases {a : Feed.Action}
    (h : Feed.stepConnection server cache c a = some c') : c.Step server cache a c' := by
  cases a with
  | begin _ | publish _ | connect => cases h
  | subscribe =>
    simp only [Feed.stepConnection] at h
    split at h
    · next hidle =>
      cases h
      exact .subscribe hidle
    · cases h
  | read now =>
    obtain ⟨answering, hread, rfl⟩ := Option.map_eq_some_iff.1 h
    exact .read hread
  | respond =>
    simp only [Feed.stepConnection] at h
    split at h
    · next snapshot hrespond =>
      cases h
      exact .respond hrespond
    · cases h
  | deliver =>
    simp only [Feed.stepConnection] at h
    split at h
    · next hidle hview hqueue =>
      split at h
      · cases h
        exact .deliver hidle hview hqueue
      · cases h
    · cases h
  | lag dropped =>
    simp only [Feed.stepConnection] at h
    split at h
    · obtain rfl := Option.some.inj h
      exact .lag dropped
    · cases h

/-- A step of the connection keeps up with the cache. -/
theorem follows_stepConnection {a : Feed.Action}
    (h : Feed.stepConnection server cache c a = some c') (hlagged : c'.lagged = false) :
    c.lagged = false ∧ ∀ kind, c.Follows cache kind → c'.Follows cache kind := by
  cases stepConnection_cases h with
  | subscribe hidle =>
    refine ⟨hlagged, fun kind hf => hf.of_held rfl fun r hr => ⟨r, ?_, rfl⟩⟩
    apply List.mem_cons_of_mem
    simpa [Connection.held, Answering.held, hidle] using hr
  | read hread =>
    refine ⟨hlagged, fun kind hf => hf.of_held rfl fun r hr => ?_⟩
    -- What is read now is in the cache; the rest was held before.
    rcases List.mem_append.1 hr with hr | hr
    · exact ⟨r, List.mem_cons_of_mem _ (List.mem_append_left _ hr), rfl⟩
    · rcases held_read hread kind r hr with hr | hcore
      · exact ⟨r, List.mem_cons_of_mem _ (List.mem_append_right _ hr), rfl⟩
      · exact ⟨_, List.mem_cons_self .., hcore⟩
  | @respond snapshot hrespond =>
    refine ⟨hlagged, fun kind hf => hf.of_held rfl fun r hr => ⟨snapshot.get kind, ?_, ?_⟩⟩
    · simp [Connection.held, Answering.held, hrespond]
    · cases kind <;>
        · simp only [Connection.held, Answering.held, Option.map_some, Option.toList_some,
            List.append_nil, List.mem_singleton] at hr
          subst hr
          rfl
  | deliver hidle hview hqueue =>
    exact ⟨hlagged, fun kind hf => hf.deliver hidle hview hqueue⟩
  | lag _ =>
    -- Events were dropped, which is excluded.
    cases hlagged

end

/-! ## What is still to be sent -/

/-- A value that is written is sent later. -/
def Paired : List PublishStep → Prop
  | [] => True
  | .write u :: rest => .send u ∈ rest ∧ Paired rest
  | .send _ :: rest => Paired rest

/-- What is paired stays so behind its first step. -/
theorem Paired.tail {step : PublishStep} {rest : List PublishStep} (h : Paired (step :: rest)) :
    Paired rest := by
  cases step with
  | write u => exact h.2
  | send u => exact h

/-- Every publication sends what it writes. -/
theorem paired_steps (publication : Publication) : Paired publication.steps := by
  cases publication <;>
    simp [Publication.steps, publishState, publishStatus, publishLifecycle, publishStats, Paired]

namespace Feed

variable {server : IpcServer} {s s' : Feed}

/-- The tasks that publish. -/
def publishers : List Publisher := [.supervisor, .watcher, .poller, .stats]

/-- Some task has still to send what is in the cache. -/
def toSend (s : Feed) (kind : Kind) : Bool :=
  publishers.any fun p => .send (s.hub.cache.get kind) ∈ s.pending p

/-- An event of a kind is sent only while some task has still to send what is in the cache. -/
def inOrder (s : Feed) : Action → Bool
  | .publish p => match s.pending p with
    | .send u :: _ => s.toSend u.kind
    | _ => true
  | _ => true

/-- There are no other publishers. -/
theorem mem_publishers (p : Publisher) : p ∈ publishers := by
  cases p <;> decide

/-- What is in the cache is still to be sent exactly when a publisher has it to send. -/
theorem toSend_iff {kind : Kind} :
    s.toSend kind = true ↔ ∃ p, .send (s.hub.cache.get kind) ∈ s.pending p := by
  simp only [toSend, List.any_eq_true, decide_eq_true_eq]
  constructor
  · rintro ⟨p, -, hp⟩
    exact ⟨p, hp⟩
  · rintro ⟨p, hp⟩
    exact ⟨p, mem_publishers p, hp⟩

/-- Every task sends what it writes. -/
def Writes (s : Feed) : Prop := ∀ p, Paired (s.pending p)

/-- Unless events were dropped, the client follows the cache in what no task has still to send. -/
def Tracks (s : Feed) : Prop :=
  ∀ c, s.connection = some c → c.lagged = false → ∀ kind,
    s.toSend kind = true ∨ c.Follows s.hub.cache kind

/-! ## One step -/

/-- What one step does. -/
inductive Step (server : IpcServer) (s : Feed) : Action → Feed → Prop
  | begin {publication : Publication} : s.pending publication.publisher = [] →
    Step server s (.begin publication)
      { s with
        pending := Function.update s.pending publication.publisher publication.steps }
  | publish {p : Publisher} {step : PublishStep} {rest : List PublishStep} :
    s.pending p = step :: rest →
    Step server s (.publish p) (s.took p step rest)
  | connect : s.connection = none →
    Step server s .connect { s with connection := some ⟨[], false, .idle, none⟩ }
  | serve {a : Action} {c c' : Connection} : s.connection = some c →
    stepConnection server s.hub.cache c a = some c' →
    Step server s a { s with connection := some c' }

/-- A step is one of those. -/
theorem next_cases {a : Action} (h : s.next server a = some s') : Step server s a s' := by
  unfold next at h
  split at h
  · split at h
    · next hp => cases h; exact .begin hp
    · cases h
  · split at h
    · cases h
    · next hp => cases h; exact .publish hp
  · split at h
    · next hc => cases h; exact .connect hc
    · cases h
  · split at h
    · cases h
    · next c hc =>
      obtain ⟨c', hstep, rfl⟩ := Option.map_eq_some_iff.1 h
      exact .serve hc hstep

/-- Every step keeps the writes. -/
theorem writes_next {a : Action} (h : Step server s a s') (hs : Writes s) : Writes s' := by
  cases h with
  | @begin publication hp =>
    intro p
    by_cases heq : p = publication.publisher
    · subst heq
      simpa using paired_steps publication
    · simpa [heq] using hs p
  | @publish p₀ step rest hp =>
    intro p
    by_cases heq : p = p₀
    · subst heq
      have hpaired := hs p
      rw [hp] at hpaired
      simpa [took] using hpaired.tail
    · simpa [took, heq] using hs p
  | connect hc => exact hs
  | serve hc hstep => exact hs

section
variable {p : Publisher} {step : PublishStep} {rest : List PublishStep}

/-- What some task has still to send it has so after a step, unless it is sent or overwritten. -/
theorem toSend_took {kind : Kind} (hp : s.pending p = step :: rest) (h : s.toSend kind = true)
    (hcache : (step.run s.hub).cache.get kind = s.hub.cache.get kind)
    (hne : .send (s.hub.cache.get kind) ≠ step) : (s.took p step rest).toSend kind = true := by
  obtain ⟨q, hq⟩ := toSend_iff.1 h
  refine toSend_iff.2 ⟨q, ?_⟩
  show .send ((step.run s.hub).cache.get kind) ∈ Function.update s.pending p rest q
  rw [hcache]
  by_cases heq : q = p
  · subst heq
    rw [hp] at hq
    rw [Function.update_self]
    exact (List.mem_cons.1 hq).resolve_left hne
  · rwa [Function.update_of_ne heq]

/-- The task that writes a value is going to send it. -/
theorem toSend_took_write {u : ServiceUpdate} (hp : s.pending p = .write u :: rest)
    (hs : Writes s) : (s.took p (.write u) rest).toSend u.kind = true := by
  have hpaired := hs p
  rw [hp] at hpaired
  refine toSend_iff.2 ⟨p, ?_⟩
  show .send ((s.hub.cache.set u).get u.kind) ∈ Function.update s.pending p rest p
  rw [StateCache.get_set, Function.update_self]
  exact hpaired.1

/-- An event that is sent in order tells what is in the cache, or another one is going to. -/
theorem follows_or_toSend_took_send {u : ServiceUpdate} (hp : s.pending p = .send u :: rest)
    (ho : s.inOrder (.publish p) = true) (c : Connection) :
    (s.took p (.send u) rest).toSend u.kind = true ∨
      (c.receive (.send u)).Follows s.hub.cache u.kind := by
  have hsend : s.toSend u.kind = true := by
    simpa [inOrder, hp] using ho
  by_cases heq : u = s.hub.cache.get u.kind
  · right
    have hf := follows_receive_send s.hub.cache c u.kind
    rw [← heq] at hf
    exact hf
  · -- The value in the cache is another one, so somebody else is going to send it.
    left
    refine toSend_took hp hsend rfl fun h => heq ?_
    exact (PublishStep.send.inj h).symm

/-- A step of a publication: what is in the cache is still to be sent, or the client follows it. -/
theorem tracks_took (hp : s.pending p = step :: rest) (hs : Writes s) (ht : Tracks s)
    (ho : s.inOrder (.publish p) = true) : Tracks (s.took p step rest) := by
  intro c' hc' hlagged kind
  obtain ⟨c, hc, rfl⟩ := Option.map_eq_some_iff.1 hc'
  have hlagged : c.lagged = false := by
    cases step <;> exact hlagged
  by_cases hkind : step.update.kind = kind
  · -- The kind of the step.
    subst hkind
    cases step with
    | write u => exact .inl (toSend_took_write hp hs)
    | send u => exact follows_or_toSend_took_send hp ho c
  · -- Another kind, of which neither the cache nor the queue changes.
    have hcache : (step.run s.hub).cache.get kind = s.hub.cache.get kind := by
      cases step with
      | write u => exact StateCache.get_set_of_ne _ hkind
      | send u => rfl
    rcases ht c hc hlagged kind with hsend | hf
    · left
      refine toSend_took hp hsend hcache fun h => hkind ?_
      rw [← h]
      exact StateCache.kind_get _ _
    · right
      have hf' := hf.receive_of_ne hkind
      unfold Connection.Follows at hf' ⊢
      show ∀ r ∈ (step.run s.hub).cache.get kind :: _, _ = ((step.run s.hub).cache.get kind).core
      rw [hcache]
      exact hf'

end

/-- Every step that is in order keeps the client on track. -/
theorem tracks_next {a : Action} (h : Step server s a s') (hs : Writes s) (ht : Tracks s)
    (ho : s.inOrder a = true) : Tracks s' := by
  cases h with
  | @begin publication hp =>
    intro c hc hlagged kind
    rcases ht c hc hlagged kind with hsend | hf
    · obtain ⟨q, hq⟩ := toSend_iff.1 hsend
      refine .inl (toSend_iff.2 ⟨q, ?_⟩)
      -- The task that begins had nothing to send.
      have hne : q ≠ publication.publisher := by
        rintro rfl
        rw [hp] at hq
        cases hq
      show _ ∈ Function.update s.pending publication.publisher publication.steps q
      rwa [Function.update_of_ne hne]
    · exact .inr hf
  | publish hp => exact tracks_took hp hs ht ho
  | connect hc =>
    -- The queue of a new connection is empty, and all it can read is in the cache.
    rintro c ⟨⟩ - kind
    refine .inr fun r hr => ?_
    have hr : r = s.hub.cache.get kind := by
      simpa [Connection.held, Answering.held] using hr
    rw [hr]
    rfl
  | serve hc hstep =>
    rintro c' ⟨⟩ hlagged kind
    obtain ⟨hbefore, hf⟩ := follows_stepConnection hstep hlagged
    exact (ht _ hc hbefore kind).imp id (hf kind)

/-! ## Every interleaving -/

/-- The client has what is in the cache, up to the uptime and the endpoint in the status. -/
def Converged (view : SubscriptionSnapshot) (cache : StateCache) : Prop :=
  { view.status with uptime_secs := 0, socket_path := "" } =
    { cache.status with uptime_secs := 0, socket_path := "" } ∧
  view.lifecycle = cache.lifecycle ∧ view.stats = cache.stats

/-- In every interleaving of the publishers and of a client that connects and subscribes at any
moment, if every event of a kind is sent while some task has still to send what is in the cache,
then once nobody has anything to publish and all events were delivered, the client has what is in
the cache. -/
theorem subscriber_converges (server : IpcServer) (hub : Hub) {trace : List (Action × Unit)}
    {c : Connection} {view : SubscriptionSnapshot} (hrun : Run (step server) (start hub) trace s)
    (horder : Along (step server) (fun s a => s.inOrder a = true) (start hub) trace)
    (hpending : ∀ p, s.pending p = []) (hc : s.connection = some c) (hview : c.view = some view)
    (hqueue : c.queue = []) (hlagged : c.lagged = false) : Converged view s.hub.cache := by
  have hinv : Writes s ∧ Tracks s := by
    refine hrun.invariant_along (I := fun s => Writes s ∧ Tracks s) horder ⟨?_, ?_⟩ ?_
    · intro p
      trivial
    · rintro c ⟨⟩
    · rintro s s' a o ⟨hs, ht⟩ ho hstep
      have hcases := next_cases (ofOption_eq_ok.1 hstep)
      exact ⟨writes_next hcases hs, tracks_next hcases hs ht ho⟩
  -- Nothing is still to be sent, so the client follows the cache, with an empty queue.
  have hcore : ∀ kind, (view.get kind).core = (s.hub.cache.get kind).core := by
    intro kind
    rcases hinv.2 c hc hlagged kind with hsend | hf
    · obtain ⟨p, hp⟩ := toSend_iff.1 hsend
      rw [hpending p] at hp
      cases hp
    · have hheld : view.get kind ∈ s.hub.cache.get kind :: c.held kind := by
        simp [Connection.held, hview]
      have h := hf _ hheld
      rwa [hqueue, latest_nil] at h
  exact ⟨ServiceUpdate.status.inj (hcore .status), ServiceUpdate.lifecycle.inj (hcore .lifecycle),
    ServiceUpdate.stats.inj (hcore .stats)⟩

end Feed

namespace Sample

/-- A daemon for the examples. -/
def server : IpcServer := ⟨"/run/playitd.sock", 0⟩

/-- The state of an agent without tunnels. -/
def agentState : AgentState := ⟨"1.0.0", [], [], [], .verified, "agent", none, 0⟩

/-- A status for the examples. -/
def status (phase : ServicePhase) : ServiceStatus :=
  ⟨phase, 1, 0, "1.0.0", "", none, true, protocolInfo, none⟩

/-- A client connects and subscribes. -/
def subscribes : List Feed.Action :=
  [.connect, .subscribe, .read 0, .read 0, .read 0, .read 0, .respond]

/-- The poller writes that the agent is running; before it sends this, the supervisor publishes that
the runtime is stopping. -/
def overtaken : List Feed.Action :=
  subscribes ++ [.begin (.lifecycle agentState), .publish .poller,
    .begin (.state (status .stopping) .stopping), .publish .supervisor, .publish .supervisor,
    .publish .supervisor, .publish .supervisor, .publish .poller, .deliver, .deliver, .deliver]

/-- The poller and then the supervisor publish, and the client subscribes in between. -/
def oneByOne : List Feed.Action :=
  [.begin (.lifecycle agentState), .publish .poller, .publish .poller] ++ subscribes ++
  [.begin (.state (status .stopping) .stopping), .publish .supervisor, .publish .supervisor,
    .publish .supervisor, .publish .supervisor, .deliver, .deliver]

end Sample

namespace Feed

/-- A publication that is overtaken by another one is the last thing that the client hears. -/
theorem not_converged_overtaken :
    ¬ ∀ trace s c view, Run (step Sample.server) (start ⟨.default, []⟩) trace s →
      (∀ p, s.pending p = []) → s.connection = some c → c.view = some view → c.queue = [] →
      c.lagged = false → Converged view s.hub.cache := by
  intro hall
  obtain ⟨s, c, view, hs, hpending, hc, hview, hqueue, hlagged, hhas, hcache⟩ :
      ∃ s c view, takes (next Sample.server) (start ⟨.default, []⟩) Sample.overtaken = some s ∧
      (publishers.all fun p => s.pending p = []) = true ∧ s.connection = some c ∧
      c.view = some view ∧ c.queue = [] ∧ c.lagged = false ∧
      view.lifecycle = .running Sample.agentState ∧ s.hub.cache.lifecycle = .stopping :=
    ⟨_, _, _, rfl, rfl, rfl, rfl, rfl, rfl, rfl, rfl⟩
  have hnone : ∀ p, s.pending p = [] := by
    intro p
    have hp := List.all_eq_true.1 hpending p (mem_publishers p)
    simpa using hp
  have hlifecycle := (hall _ s c view (Run.nil.takes hs) hnone hc hview hqueue hlagged).2.1
  rw [hhas, hcache] at hlifecycle
  cases hlifecycle

/-- Publications one after the other, with a client that subscribes in between. -/
theorem subscriber_converges_sample : ∃ s c view,
    takes (next Sample.server) (start ⟨.default, []⟩) Sample.oneByOne = some s ∧
    s.connection = some c ∧ c.view = some view ∧ view.lifecycle = .stopping ∧
    Converged view s.hub.cache := by
  obtain ⟨s, c, view, hs, hpending, hc, hview, hqueue, hlagged, hhas⟩ :
      ∃ s c view, takes (next Sample.server) (start ⟨.default, []⟩) Sample.oneByOne = some s ∧
      (publishers.all fun p => s.pending p = []) = true ∧ s.connection = some c ∧
      c.view = some view ∧ c.queue = [] ∧ c.lagged = false ∧ view.lifecycle = .stopping :=
    ⟨_, _, _, rfl, rfl, rfl, rfl, rfl, rfl, rfl⟩
  have hnone : ∀ p, s.pending p = [] := by
    intro p
    have hp := List.all_eq_true.1 hpending p (mem_publishers p)
    simpa using hp
  have horder := Along.takes Run.nil along_nil hs
    (show meets (next Sample.server) inOrder (start ⟨.default, []⟩) Sample.oneByOne = true by
      decide +kernel)
  exact ⟨s, c, view, hs, hc, hview, hhas,
    subscriber_converges Sample.server _ (Run.nil.takes hs) horder hnone hc hview hqueue hlagged⟩

end Feed

end PlayitAgent
