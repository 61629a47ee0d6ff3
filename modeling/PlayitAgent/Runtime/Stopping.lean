import PlayitAgent.Runtime.Handles

/-!
# Stopping is the last thing that is told

When a stop is requested, `run_agent` publishes that it is stopping while the poller and the watcher
are still running. What each of them tells takes a place: a part of the cache, or the last event of
a kind. `run_agent` takes each of its four places once, so what it says stands as long as nobody
else takes the place afterwards.
-/

namespace PlayitAgent

/-! ## Places -/

/-- Where something is told: in the cache, or as the last event. -/
structure Place where
  event : Bool
  kind : Kind
  deriving DecidableEq

/-- The place that a step takes. -/
def PublishStep.place : PublishStep → Place
  | .write u => ⟨false, u.kind⟩
  | .send u => ⟨true, u.kind⟩

/-- What a place says. -/
def Hub.shows (hub : Hub) (place : Place) : Option ServiceUpdate :=
  if place.event then hub.lastSent place.kind else some (hub.cache.get place.kind)

/-- A step says what it tells in its place. -/
theorem shows_run (hub : Hub) (step : PublishStep) :
    (step.run hub).shows step.place = some step.update := by
  cases step with
  | write u => simp [Hub.shows, PublishStep.place, PublishStep.run, PublishStep.update]
  | send u => simp [Hub.shows, PublishStep.place, PublishStep.run, PublishStep.update, Hub.lastSent]

/-- A step leaves the other places. -/
theorem shows_run_of_ne (hub : Hub) {step : PublishStep} {place : Place} (h : place ≠ step.place) :
    (step.run hub).shows place = hub.shows place := by
  obtain ⟨event, kind⟩ := place
  cases step with
  | write u =>
    cases event with
    | true => rfl
    | false =>
      have hkind : u.kind ≠ kind := fun heq => h (by rw [← heq]; rfl)
      simp [Hub.shows, PublishStep.run, StateCache.get_set_of_ne _ hkind]
  | send u =>
    cases event with
    | true =>
      have hkind : u.kind ≠ kind := fun heq => h (by rw [← heq]; rfl)
      simp [Hub.shows, PublishStep.run, Hub.lastSent, hkind]
    | false => rfl

/-- The update tells that the runtime is stopping. -/
def ServiceUpdate.isStopping : ServiceUpdate → Bool
  | .status shown => shown.phase = .stopping
  | .lifecycle shown => shown = .stopping
  | .stats _ => false

/-- The places of `publish_stopping`. -/
def stoppingPlaces : List Place :=
  [⟨false, .status⟩, ⟨false, .lifecycle⟩, ⟨true, .status⟩, ⟨true, .lifecycle⟩]

/-- The places that `run_agent` has still to take, if it is going to. -/
def MainAt.toTell : MainAt → List Place
  | .publishing steps => steps.map PublishStep.place
  | .cleanup .requested _ => []
  | .aborting .requested _ => []
  | .joining .requested _ => []
  | .finishing .requested => []
  | .returned (.ok _) => []
  | _ => stoppingPlaces

namespace RunAgent

variable {ctx : StatusContext} {s s' : RunAgent}

/-- The cache and the last events tell that the runtime is stopping. -/
def Settled (s : RunAgent) : Prop :=
  s.hub.cache.lifecycle = .stopping ∧ s.hub.cache.status.phase = .stopping ∧
  s.hub.lastSent .lifecycle = some (.lifecycle .stopping) ∧
  ∃ status, s.hub.lastSent .status = some (.status status) ∧ status.phase = .stopping

/-- A task takes a place of `publish_stopping` only while `run_agent` has still to take it. -/
def Timely (s : RunAgent) (a : Action) : Prop :=
  ∀ step ∈ s.publishes a, step.place ∈ stoppingPlaces → step.place ∈ s.main.toTell

/-- What `run_agent` has told stands. -/
def Stands (s : RunAgent) : Prop :=
  ∀ place ∈ stoppingPlaces, place ∉ s.main.toTell →
    ∃ u, s.hub.shows place = some u ∧ u.isStopping = true

/-! ## What the tasks tell -/

/-- The steps tell other things than that the runtime is stopping. -/
def TellOther (steps : List PublishStep) : Prop :=
  ∀ step ∈ steps, step.update.isStopping = false

/-- Nothing is told. -/
theorem tellOther_nil : TellOther [] := by
  intro step hstep
  cases hstep

/-- What is left to tell is something else, too. -/
theorem TellOther.tail {step : PublishStep} {rest : List PublishStep}
    (h : TellOther (step :: rest)) : TellOther rest :=
  fun step' hstep' => h step' (List.mem_cons_of_mem _ hstep')

/-- Statistics tell nothing about stopping. -/
theorem tellOther_publishStats (stats : ConnectionStats) : TellOther (publishStats stats) := by
  simp [TellOther, publishStats, PublishStep.update, ServiceUpdate.isStopping]

/-- An answer of the API tells nothing about stopping. -/
theorem tellOther_publishLifecycle (state : AgentState) :
    TellOther (publishLifecycle (.running state)) := by
  simp [TellOther, publishLifecycle, PublishStep.update, ServiceUpdate.isStopping]

/-- The watcher tells that the connection is up or that it is down. -/
theorem tellOther_publishStatus (now : UInt64) (state : ControlConnectionState)
    (has_secret : Bool) :
    TellOther (publishStatus (ctx.status now (servicePhase state) has_secret none)) := by
  cases state <;> simp [TellOther, publishStatus, PublishStep.update, ServiceUpdate.isStopping,
    StatusContext.status, servicePhase]

/-- The tasks have other things to tell than that the runtime is stopping, and `run_agent` tells
this, in one place after the other. -/
structure Honest (s : RunAgent) : Prop where
  stats : TellOther s.stats
  poller : TellOther s.poller.pending
  watcher : TellOther s.watcher.place.pending
  main : ∀ steps, s.main = .publishing steps →
    (∀ step ∈ steps, step.update.isStopping = true) ∧ (steps.map PublishStep.place).Nodup

/-- `broadcast_stats` stays honest. -/
theorem honest_stepStats {a : StatsAction} (h : s.stepStats a = some s') (hs : Honest s) :
    Honest s' := by
  have hs' := hs.stats
  unfold stepStats at h
  split at h <;> (repeat' split at h) <;> cases h
  · exact ⟨tellOther_publishStats _, hs.poller, hs.watcher, hs.main⟩
  · next heq =>
    rw [heq] at hs'
    exact ⟨hs'.tail, hs.poller, hs.watcher, hs.main⟩
  · exact ⟨hs.stats, hs.poller, hs.watcher, hs.main⟩

/-- `broadcast_agent_state` stays honest. -/
theorem honest_stepPoller {a : PollerAction} (h : s.stepPoller ctx a = some s') (hs : Honest s) :
    Honest s' := by
  have hs' := hs.poller
  unfold stepPoller at h
  split at h <;> (repeat' split at h) <;> cases h
  · exact ⟨hs.stats, tellOther_nil, hs.watcher, hs.main⟩
  · exact ⟨hs.stats, tellOther_nil, hs.watcher, hs.main⟩
  · exact ⟨hs.stats, tellOther_nil, hs.watcher, hs.main⟩
  · exact ⟨hs.stats, tellOther_publishLifecycle _, hs.watcher, hs.main⟩
  · exact ⟨hs.stats, tellOther_publishLifecycle _, hs.watcher, hs.main⟩
  · exact ⟨hs.stats, tellOther_nil, hs.watcher, hs.main⟩
  · next heq =>
    rw [heq] at hs'
    exact ⟨hs.stats, hs'.tail, hs.watcher, hs.main⟩
  · exact ⟨hs.stats, hs.poller, hs.watcher, hs.main⟩

/-- `broadcast_control_state` stays honest. -/
theorem honest_stepWatcher {a : WatcherAction} (h : s.stepWatcher ctx a = some s')
    (hs : Honest s) : Honest s' := by
  have hs' := hs.watcher
  unfold stepWatcher at h
  split at h <;> (repeat' split at h) <;> cases h
  · exact ⟨hs.stats, hs.poller, tellOther_nil, hs.main⟩
  · exact ⟨hs.stats, hs.poller, tellOther_nil, hs.main⟩
  · exact ⟨hs.stats, hs.poller, tellOther_publishStatus _ _ _, hs.main⟩
  · exact ⟨hs.stats, hs.poller, tellOther_nil, hs.main⟩
  · next heq =>
    rw [heq] at hs'
    exact ⟨hs.stats, hs.poller, hs'.tail, hs.main⟩
  · exact ⟨hs.stats, hs.poller, hs.watcher, hs.main⟩
  · exact ⟨hs.stats, hs.poller, tellOther_nil, hs.main⟩
  · exact ⟨hs.stats, hs.poller, hs.watcher, hs.main⟩

/-- `run_agent` stays honest. -/
theorem honest_stepMain {a : MainAction} (h : MainStep ctx s a s') (hs : Honest s) : Honest s' := by
  cases h with
  | @stop now hm =>
    refine ⟨hs.stats, hs.poller, hs.watcher, ?_⟩
    rintro _ ⟨⟩
    constructor
    · simp [publishStopping, publishState, PublishStep.update, ServiceUpdate.isStopping,
        StatusContext.status]
    · simp [publishStopping, publishState, PublishStep.place, ServiceUpdate.kind]
  | publish hm =>
    refine ⟨hs.stats, hs.poller, hs.watcher, ?_⟩
    rintro _ ⟨⟩
    obtain ⟨hstopping, hnodup⟩ := hs.main _ hm
    exact ⟨(List.forall_mem_cons.1 hstopping).2, (List.nodup_cons.1 hnodup).2⟩
  | _ => exact ⟨hs.stats, hs.poller, hs.watcher, fun steps hsteps => by cases hsteps⟩

/-- Every step is honest. -/
theorem honest_next {a : Action} (h : s.next ctx a = some s') (hs : Honest s) : Honest s' := by
  unfold next at h
  split at h
  · unfold stepOutside at h
    split at h <;> (try split at h) <;> cases h <;>
      exact ⟨hs.stats, hs.poller, hs.watcher, hs.main⟩
  · split at h
    · exact honest_stepStats h hs
    · cases h
  · split at h
    · exact honest_stepPoller h hs
    · cases h
  · split at h
    · exact honest_stepWatcher h hs
    · cases h
  · exact honest_stepMain (stepMain_cases h) hs

/-- What a task publishes tells something else than that the runtime is stopping. -/
theorem Honest.publishes {a : Action} {step : PublishStep} (hs : Honest s)
    (h : s.publishes a = some step) : step.update.isStopping = false := by
  unfold RunAgent.publishes at h
  split at h
  · exact hs.stats step (List.mem_of_mem_head? h)
  · exact hs.poller step (List.mem_of_mem_head? h)
  · exact hs.watcher step (List.mem_of_mem_head? h)
  · cases h

/-! ## What stands -/

/-- A step of `run_agent` between two statements. -/
theorem stands_moved (hhub : s'.hub = s.hub) (htell : s'.main.toTell = s.main.toTell) :
    Stands s' ↔ Stands s := by
  unfold Stands
  rw [hhub, htell]

/-- A step of `publish_stopping`: its place now says that the runtime is stopping. -/
theorem stands_publish {step : PublishStep} {rest : List PublishStep} (hs : Honest s)
    (hm : s.main = .publishing (step :: rest)) :
    Stands { s with hub := step.run s.hub, main := .publishing rest } ↔ Stands s := by
  have hstopping := (hs.main _ hm).1 step (List.mem_cons_self ..)
  have hbefore : s.main.toTell = step.place :: rest.map PublishStep.place := by rw [hm]; rfl
  constructor
  · intro h place hplace htold
    rw [hbefore, List.mem_cons, not_or] at htold
    obtain ⟨u, hu, hstop⟩ := h place hplace htold.2
    exact ⟨u, by rwa [shows_run_of_ne _ htold.1] at hu, hstop⟩
  · intro h place hplace htold
    -- The place of the step is taken now; every other one says what it said before.
    by_cases heq : place = step.place
    · exact ⟨step.update, by rw [heq]; exact shows_run _ _, hstopping⟩
    · obtain ⟨u, hu, hstop⟩ := h place hplace (by
        rw [hbefore, List.mem_cons, not_or]
        exact ⟨heq, htold⟩)
      exact ⟨u, by rwa [shows_run_of_ne _ heq], hstop⟩

/-- A step of a task leaves what `run_agent` has told exactly when it is in time. -/
theorem stands_aside {a : Action} (hs : Honest s) (h : Aside s a s') :
    Stands s' ↔ Stands s ∧ Timely s a := by
  have hhub := h.hub_eq
  cases hstep : s.publishes a with
  | none =>
    rw [hstep] at hhub
    rw [stands_moved hhub (by rw [h.main_eq])]
    simp [Timely, hstep]
  | some step =>
    rw [hstep] at hhub
    have hother := hs.publishes hstep
    have hhub : s'.hub = step.run s.hub := hhub
    have htimely : Timely s a ↔ (step.place ∈ stoppingPlaces → step.place ∈ s.main.toTell) := by
      simp [Timely, hstep]
    rw [htimely]
    unfold Stands
    rw [hhub, h.main_eq]
    constructor
    · intro h'
      -- A place that was told, and is taken by the task, does not say so any more.
      have hin : step.place ∈ stoppingPlaces → step.place ∈ s.main.toTell := by
        intro hplace
        by_contra htold
        obtain ⟨u, hu, hstop⟩ := h' _ hplace htold
        rw [shows_run] at hu
        cases hu
        rw [hother] at hstop
        cases hstop
      refine ⟨fun place hplace htold => ?_, hin⟩
      have hne : place ≠ step.place := fun heq => htold (heq ▸ hin (heq ▸ hplace))
      obtain ⟨u, hu, hstop⟩ := h' place hplace htold
      exact ⟨u, by rwa [shows_run_of_ne _ hne] at hu, hstop⟩
    · rintro ⟨h', hin⟩ place hplace htold
      have hne : place ≠ step.place := fun heq => htold (heq ▸ hin (heq ▸ hplace))
      obtain ⟨u, hu, hstop⟩ := h' place hplace htold
      exact ⟨u, by rwa [shows_run_of_ne _ hne], hstop⟩

/-- `run_agent` does not go on after a panic. -/
theorem polledOnce_of_next {a : Action} (h : s.next ctx a = some s') (hp : s'.PolledOnce) :
    s.PolledOnce := by
  obtain ⟨m, rfl, hstep⟩ | ⟨-, haside⟩ := next_cases h
  · intro hm
    have hnext : s.stepMain ctx m = some s' := h
    cases m <;> simp [stepMain, hm] at hnext
  · unfold PolledOnce at hp ⊢
    rwa [haside.main_eq] at hp

/-- What `run_agent` has told stands after a step exactly when it stood before, and a task takes the
step in time. -/
theorem stands_next_iff {a : Action} (h : s.next ctx a = some s') (hs : Honest s)
    (hp : s'.PolledOnce) : Stands s' ↔ Stands s ∧ Timely s a := by
  obtain ⟨m, rfl, hstep⟩ | ⟨-, haside⟩ := next_cases h
  · have htimely : Timely s (.main m) := by simp [Timely, publishes]
    rw [and_iff_left htimely]
    -- Of the steps of `run_agent`, only those of `publish_stopping` change the hub.
    cases hstep with
    | repolled _ _ => exact absurd rfl hp
    | publish hm => exact stands_publish hs hm
    | cancelled hm | joined hm | stop hm | unexpected hm | published hm =>
      refine stands_moved rfl ?_
      rw [hm]
      rfl
    | @cleaned stop _ _ hm | @timeout stop _ _ hm | @abort _ stop _ _ hm | @aborted _ stop hm
    | @rejoined stop _ _ hm =>
      refine stands_moved rfl ?_
      rw [hm]
      cases stop <;> rfl
    | @finish _ stop hm =>
      refine stands_moved rfl ?_
      rcases hm with hm | hm
      · rw [hm]
        cases stop <;> rfl
      · rw [hm]
        cases stop <;> rfl
    | @returns _ stop hm =>
      refine stands_moved rfl ?_
      rw [hm]
      rcases stop with _ | (_ | _) <;> rfl
  · exact stands_aside hs haside

/-- Once `run_agent` has returned from a stop that was requested, what stands is all it told. -/
theorem settled_iff (hm : s.main = .returned (.ok ())) : Settled s ↔ Stands s := by
  have htell : s.main.toTell = [] := by rw [hm]; rfl
  unfold Settled Stands
  rw [htell]
  constructor
  · rintro ⟨hlifecycle, hstatus, hlast, status, hsent, hphase⟩
    simp [stoppingPlaces, Hub.shows, StateCache.get, ServiceUpdate.isStopping, hlifecycle, hstatus,
      hlast, hsent, hphase]
  · intro h
    have hplace : ∀ place ∈ stoppingPlaces, ∃ u, s.hub.shows place = some u ∧ u.isStopping = true :=
      fun place hmem => h place hmem (List.not_mem_nil)
    obtain ⟨u₁, hstatus, hs₁⟩ := hplace ⟨false, .status⟩ (by decide)
    obtain ⟨u₂, hlifecycle, hs₂⟩ := hplace ⟨false, .lifecycle⟩ (by decide)
    obtain ⟨u₃, hsent, hs₃⟩ := hplace ⟨true, .status⟩ (by decide)
    obtain ⟨u₄, hlast, hs₄⟩ := hplace ⟨true, .lifecycle⟩ (by decide)
    cases hstatus
    cases hlifecycle
    -- The last events are of the kinds that are asked for.
    have hk₃ : u₃.kind = .status := by simpa using List.find?_some hsent
    have hk₄ : u₄.kind = .lifecycle := by simpa using List.find?_some hlast
    refine ⟨of_decide_eq_true hs₂, of_decide_eq_true hs₁, ?_, ?_⟩
    · cases u₄ with
      | lifecycle shown =>
        obtain rfl : shown = .stopping := by simpa [ServiceUpdate.isStopping] using hs₄
        exact hlast
      | status shown => cases hk₄
      | stats shown => cases hk₄
    · cases u₃ with
      | status shown => exact ⟨shown, hsent, by simpa [ServiceUpdate.isStopping] using hs₃⟩
      | lifecycle shown => cases hk₃
      | stats shown => cases hk₃

/-- At first nothing is to be told. -/
theorem honest_spawned {hub : Hub} {control : ControlWatch} {cancelled : Bool} :
    Honest (spawned hub control cancelled) :=
  ⟨tellOther_nil, tellOther_nil, tellOther_nil, fun steps hsteps => by cases hsteps⟩

/-- As long as `run_agent` has not panicked, what it told stands exactly when every step of a task
was in time. -/
theorem stands_iff_along {hub : Hub} {control : ControlWatch} {cancelled : Bool}
    {trace : List (Action × Unit)} (hrun : Run (step ctx) (spawned hub control cancelled) trace s)
    (hp : s.PolledOnce) :
    Stands s ↔ Along (step ctx) Timely (spawned hub control cancelled) trace := by
  refine hrun.iff_along_of (I := Honest) (G := PolledOnce) ?_ honest_spawned ?_ ?_ ?_ hp
  · -- At the start everything is still to be told.
    intro place hplace htold
    exact absurd hplace htold
  · intro s s' a o hs hstep
    exact honest_next (ofOption_eq_ok.1 hstep) hs
  · intro s s' a o hstep hp
    exact polledOnce_of_next (ofOption_eq_ok.1 hstep) hp
  · intro s s' a o hs hp hstep
    exact stands_next_iff (ofOption_eq_ok.1 hstep) hs hp

/-- In every interleaving of `run_agent` with its tasks and with cancellation: when `run_agent`
returns `Ok` because a stop was requested, the cache and the last events tell that the runtime is
stopping exactly when no task has written a part of the cache, or sent an event of a kind, after
`run_agent` had done so in `publish_stopping`. -/
theorem stopping_is_final_iff (ctx : StatusContext) (hub : Hub) (control : ControlWatch)
    (cancelled : Bool) {trace : List (Action × Unit)}
    (hrun : Run (step ctx) (spawned hub control cancelled) trace s)
    (hm : s.main = .returned (.ok ())) :
    Settled s ↔ Along (step ctx) Timely (spawned hub control cancelled) trace := by
  have hp : s.PolledOnce := by simp [PolledOnce, hm]
  rw [settled_iff hm]
  exact stands_iff_along hrun hp

end RunAgent

namespace Sample

/-- An answer of the API, for an account without tunnels. -/
def runData : RunData := ⟨[], [], [], .verified, "agent"⟩

/-- A stop is requested during a request of the poller. The API answers after `run_agent` has told
that it is stopping, and the poller tells that the agent is running. -/
def lateAnswer : List RunAgent.Action :=
  [.watcher .borrow, .watcher (.readSecret 0), .watcher .publish, .watcher .publish,
    .watcher .publish, .poller .tick, .outside .requestShutdown, .main .cancelled,
    .main (.proceed 0), .main (.proceed 0), .main (.proceed 0), .main (.proceed 0),
    .main (.proceed 0), .main (.proceed 0), .stats .cancelled, .watcher .cancelled,
    .outside .agentReturns, .poller (.answered (some runData)), .poller .publish, .poller .publish,
    .poller .publish, .poller .cancelled, .main .await, .main .await, .main .await, .main .await,
    .main (.proceed 0), .main (.proceed 0)]

end Sample

namespace RunAgent

/-- An answer of the API that comes late is the last thing that is told. -/
theorem not_settled_lateAnswer :
    ¬ ∀ trace s, Run (step Sample.ctx) Sample.start trace s → s.main = .returned (.ok ()) →
      Settled s := by
  intro hall
  obtain ⟨s, hs, hm, hlifecycle⟩ : ∃ s,
      takes (next Sample.ctx) Sample.start Sample.lateAnswer = some s ∧
      s.main = .returned (.ok ()) ∧
      s.hub.cache.lifecycle = .running (Sample.runData.agentState Sample.ctx none) :=
    ⟨_, rfl, rfl, rfl⟩
  have hsettled := hall _ s (Run.nil.takes hs) hm
  have hstopping := hsettled.1
  rw [hlifecycle] at hstopping
  cases hstopping

/-- A stop that is requested while the tasks are at their `select!`. -/
theorem stopping_is_final_sample : ∃ s,
    takes (next Sample.ctx) Sample.start Sample.cleanStop = some s ∧ Settled s ∧
    Along (step Sample.ctx) Timely Sample.start (Sample.cleanStop.map fun a => (a, ())) := by
  obtain ⟨s, hs, hm, hlifecycle, hphase, hlast, hsent⟩ : ∃ s,
      takes (next Sample.ctx) Sample.start Sample.cleanStop = some s ∧
      s.main = .returned (.ok ()) ∧ s.hub.cache.lifecycle = .stopping ∧
      s.hub.cache.status.phase = .stopping ∧
      s.hub.lastSent .lifecycle = some (.lifecycle .stopping) ∧
      s.hub.lastSent .status = some (.status (Sample.ctx.status 0 .stopping true none)) :=
    ⟨_, rfl, rfl, rfl, rfl, by decide +kernel, by decide +kernel⟩
  have hsettled : Settled s := ⟨hlifecycle, hphase, hlast, _, hsent, rfl⟩
  have hiff := stopping_is_final_iff Sample.ctx Sample.hub ⟨.connected, 0, false⟩ false
    (Run.nil.takes hs) hm
  exact ⟨s, hs, hsettled, hiff.1 hsettled⟩

end RunAgent

end PlayitAgent
