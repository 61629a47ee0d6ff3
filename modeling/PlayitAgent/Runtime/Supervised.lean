import PlayitAgent.Runtime.Backoff
import PlayitAgent.Runtime.Stopping

/-!
# What a supervised runtime shows, and how it ends

The cache is written by the supervisor and, while an agent runs, by the tasks of `run_agent`. These
have ended when `run_agent` returns, so whenever the supervisor waits, the cache shows what it waits
for, with the error of what went wrong last. It ends without an error only when it is told to, and
with one only for a failure that no retry and no other secret can mend.
-/

namespace PlayitAgent

/-! ## While an agent runs -/

namespace RunAgent

variable {ctx : StatusContext} {s s' : RunAgent}

/-- What is told while an agent runs: that it connects, runs or stops, with a secret. -/
def OfAgent : ServiceUpdate → Prop
  | .status status => status.has_secret = true ∧
    (status.phase = .running ∨ status.phase = .reconnecting ∨ status.phase = .stopping)
  | .lifecycle lifecycle =>
    lifecycle = .starting ∨ (∃ state, lifecycle = .running state) ∨ lifecycle = .stopping
  | .stats _ => True

/-- The cache shows such things. -/
def ShowsAgent (cache : StateCache) : Prop :=
  OfAgent (.status cache.status) ∧ OfAgent (.lifecycle cache.lifecycle)

/-- The cache shows such things, and all that is still to be told is such a thing. -/
structure Telling (s : RunAgent) : Prop where
  cache : ShowsAgent s.hub.cache
  stats : ∀ step ∈ s.stats, OfAgent step.update
  poller : ∀ step ∈ s.poller.pending, OfAgent step.update
  watcher : ∀ step ∈ s.watcher.place.pending, OfAgent step.update
  main : ∀ steps, s.main = .publishing steps → ∀ step ∈ steps, OfAgent step.update

/-- A step that tells such a thing keeps it. -/
theorem ShowsAgent.run {hub : Hub} {step : PublishStep} (h : ShowsAgent hub.cache)
    (hstep : OfAgent step.update) : ShowsAgent (step.run hub).cache := by
  cases step with
  | send u => exact h
  | write u =>
    cases u with
    | status status => exact ⟨hstep, h.2⟩
    | lifecycle lifecycle => exact ⟨h.1, hstep⟩
    | stats stats => exact h

/-- `broadcast_stats` tells only numbers. -/
theorem telling_stepStats {a : StatsAction} (h : s.stepStats a = some s') (hs : Telling s) :
    Telling s' := by
  have hstats := hs.stats
  unfold stepStats at h
  split at h <;> (repeat' split at h) <;> cases h
  · refine ⟨hs.cache, ?_, hs.poller, hs.watcher, hs.main⟩
    simp [publishStats, PublishStep.update, OfAgent]
  · next heq =>
    rw [heq] at hstats
    exact ⟨hs.cache.run (hstats _ (List.mem_cons_self)),
      fun step hstep => hstats step (List.mem_cons_of_mem _ hstep), hs.poller, hs.watcher, hs.main⟩
  · exact ⟨hs.cache, hs.stats, hs.poller, hs.watcher, hs.main⟩

/-- What the poller publishes. -/
theorem ofAgent_running (state : AgentState) :
    ∀ step ∈ publishLifecycle (.running state), OfAgent step.update := by
  simp [publishLifecycle, PublishStep.update, OfAgent]

/-- The poller tells that the agent runs. -/
theorem telling_stepPoller {a : PollerAction} (h : s.stepPoller ctx a = some s') (hs : Telling s) :
    Telling s' := by
  have hpoller := hs.poller
  have hnil : ∀ step ∈ ([] : List PublishStep), OfAgent step.update := by simp
  unfold stepPoller at h
  split at h <;> (repeat' split at h) <;> cases h
  · exact ⟨hs.cache, hs.stats, hnil, hs.watcher, hs.main⟩
  · exact ⟨hs.cache, hs.stats, hnil, hs.watcher, hs.main⟩
  · exact ⟨hs.cache, hs.stats, hnil, hs.watcher, hs.main⟩
  · exact ⟨hs.cache, hs.stats, ofAgent_running _, hs.watcher, hs.main⟩
  · exact ⟨hs.cache, hs.stats, ofAgent_running _, hs.watcher, hs.main⟩
  · exact ⟨hs.cache, hs.stats, hnil, hs.watcher, hs.main⟩
  · next heq =>
    rw [heq] at hpoller
    exact ⟨hs.cache.run (hpoller _ (List.mem_cons_self)), hs.stats,
      fun step hstep => hpoller step (List.mem_cons_of_mem _ hstep), hs.watcher, hs.main⟩
  · exact ⟨hs.cache, hs.stats, hs.poller, hs.watcher, hs.main⟩

/-- What the watcher publishes. -/
theorem ofAgent_servicePhase (now : UInt64) (state : ControlConnectionState) :
    ∀ step ∈ publishStatus (ctx.status now (servicePhase state) true none),
      OfAgent step.update := by
  cases state <;> simp [publishStatus, PublishStep.update, OfAgent, StatusContext.status,
    servicePhase]

/-- The watcher tells that the agent runs or connects again. -/
theorem telling_stepWatcher {a : WatcherAction} (h : s.stepWatcher ctx a = some s')
    (hs : Telling s) : Telling s' := by
  have hwatcher := hs.watcher
  have hnil : ∀ step ∈ ([] : List PublishStep), OfAgent step.update := by simp
  unfold stepWatcher at h
  split at h <;> (repeat' split at h) <;> cases h
  · exact ⟨hs.cache, hs.stats, hs.poller, hnil, hs.main⟩
  · exact ⟨hs.cache, hs.stats, hs.poller, hnil, hs.main⟩
  · -- `has_secret` is taken over from the cache.
    refine ⟨hs.cache, hs.stats, hs.poller, ?_, hs.main⟩
    rw [hs.cache.1.1]
    exact ofAgent_servicePhase _ _
  · exact ⟨hs.cache, hs.stats, hs.poller, hnil, hs.main⟩
  · next heq =>
    rw [heq] at hwatcher
    exact ⟨hs.cache.run (hwatcher _ (List.mem_cons_self)), hs.stats, hs.poller,
      fun step hstep => hwatcher step (List.mem_cons_of_mem _ hstep), hs.main⟩
  · exact ⟨hs.cache, hs.stats, hs.poller, hs.watcher, hs.main⟩
  · exact ⟨hs.cache, hs.stats, hs.poller, hnil, hs.main⟩
  · exact ⟨hs.cache, hs.stats, hs.poller, hs.watcher, hs.main⟩

/-- What `publish_stopping` publishes. -/
theorem ofAgent_publishStopping (now : UInt64) :
    ∀ step ∈ publishStopping ctx now, OfAgent step.update := by
  simp [publishStopping, publishState, PublishStep.update, OfAgent, StatusContext.status]

/-- `run_agent` tells that it stops. -/
theorem telling_stepMain {a : MainAction} (h : MainStep ctx s a s') (hs : Telling s) :
    Telling s' := by
  cases h with
  | stop _ =>
    refine ⟨hs.cache, hs.stats, hs.poller, hs.watcher, ?_⟩
    intro steps hsteps
    obtain rfl := MainAt.publishing.inj hsteps
    exact ofAgent_publishStopping _
  | publish hmain =>
    have hall := hs.main _ hmain
    refine ⟨hs.cache.run (hall _ (List.mem_cons_self)), hs.stats, hs.poller, hs.watcher, ?_⟩
    intro steps hsteps step hstep
    obtain rfl := MainAt.publishing.inj hsteps
    exact hall step (List.mem_cons_of_mem _ hstep)
  | _ =>
    refine ⟨hs.cache, hs.stats, hs.poller, hs.watcher, ?_⟩
    intro steps hsteps
    cases hsteps

/-- Every step keeps it. -/
theorem telling_next {a : Action} (h : s.next ctx a = some s') (hs : Telling s) : Telling s' := by
  unfold next at h
  split at h
  · unfold stepOutside at h
    split at h <;> (try split at h) <;> cases h
    all_goals exact ⟨hs.cache, hs.stats, hs.poller, hs.watcher, hs.main⟩
  · split at h
    · exact telling_stepStats h hs
    · cases h
  · split at h
    · exact telling_stepPoller h hs
    · cases h
  · split at h
    · exact telling_stepWatcher h hs
    · cases h
  · exact telling_stepMain (stepMain_cases h) hs

/-- An agent that was just spawned has nothing to tell yet. -/
theorem telling_spawned {hub : Hub} {control : ControlWatch} {cancelled : Bool}
    (h : ShowsAgent hub.cache) : Telling (spawned hub control cancelled) := by
  refine ⟨h, by simp [spawned], by simp [spawned, PollerAt.pending],
    by simp [spawned, WatcherAt.pending], ?_⟩
  intro steps hsteps
  cases hsteps

/-! ## Stops -/

/-- `run_agent` has found that a stop was requested. -/
def requested : MainAt → Bool
  | .stopping stop | .cleanup stop _ | .aborting stop _ | .joining stop _ | .finishing stop =>
    stop = .requested
  | .publishing _ | .returned (.ok ()) => true
  | _ => false

/-- A cancellation is not taken back. -/
theorem cancelled_next {a : Action} (h : s.next ctx a = some s') (hs : s.cancelled = true) :
    s'.cancelled = true := by
  unfold next at h
  split at h
  · unfold stepOutside at h
    split at h <;> (try split at h) <;> cases h
    all_goals first | rfl | exact hs
  · split at h
    · unfold stepStats at h
      split at h <;> (repeat' split at h) <;> cases h
      all_goals exact hs
    · cases h
  · split at h
    · unfold stepPoller at h
      split at h <;> (repeat' split at h) <;> cases h
      all_goals exact hs
    · cases h
  · split at h
    · unfold stepWatcher at h
      split at h <;> (repeat' split at h) <;> cases h
      all_goals exact hs
    · cases h
  · cases stepMain_cases h <;> exact hs

/-- What `run_agent` finds about a stop, it finds once. -/
theorem requested_stepMain {a : MainAction} (h : MainStep ctx s a s')
    (hs : requested s.main = true → s.cancelled = true) (hs' : requested s'.main = true) :
    s.cancelled = true := by
  cases h with
  | cancelled _ hcancelled => exact hcancelled
  | joined _ _ _ =>
    by_contra hnot
    rw [Bool.not_eq_true] at hnot
    rw [took, hnot] at hs'
    cases hs'
  | repolled _ _ => cases hs'
  | unexpected _ => cases hs'
  | stop hmain | publish hmain | published hmain => exact hs (by rw [hmain]; rfl)
  | cleaned hmain _ _ | timeout hmain _ | abort hmain | aborted hmain | rejoined hmain _ _ =>
    exact hs (by rw [hmain]; exact hs')
  | finish hmain =>
    rcases hmain with hmain | hmain
    · exact hs (by rw [hmain]; exact hs')
    · exact hs (by rw [hmain]; exact hs')
  | @returns _ stop hmain =>
    have hrequested : stop = .requested := by
      cases stop with
      | requested => rfl
      | unexpected result => cases result <;> cases hs'
    exact hs (by rw [hmain, hrequested]; rfl)

/-- `run_agent` takes a stop for requested only when there was a cancellation. -/
theorem requested_next {a : Action} (h : s.next ctx a = some s')
    (hs : requested s.main = true → s.cancelled = true) (hs' : requested s'.main = true) :
    s'.cancelled = true := by
  rcases next_cases h with ⟨m, -, hmain⟩ | ⟨-, haside⟩
  · exact cancelled_next h (requested_stepMain hmain hs hs')
  · rw [haside.main_eq] at hs'
    exact cancelled_next h (hs hs')

/-- The cache tells that the runtime is stopping. -/
def ShowsStopping (cache : StateCache) : Prop :=
  cache.status.phase = .stopping ∨ cache.lifecycle = .stopping

/-- A step that tells something else does not bring this about. -/
theorem ShowsStopping.of_run {hub : Hub} {step : PublishStep}
    (hstep : step.update.isStopping = false) (h : ShowsStopping (step.run hub).cache) :
    ShowsStopping hub.cache := by
  cases step with
  | send u => exact h
  | write u =>
    cases u with
    | status status =>
      have hphase : status.phase ≠ .stopping := of_decide_eq_false hstep
      exact .inr (h.resolve_left hphase)
    | lifecycle lifecycle =>
      have hlifecycle : lifecycle ≠ .stopping := of_decide_eq_false hstep
      exact .inl (h.resolve_right hlifecycle)
    | stats stats => exact h

/-- The cache tells that the runtime is stopping only when there was a cancellation. -/
theorem showsStopping_next {a : Action} (h : s.next ctx a = some s') (hhonest : Honest s)
    (hrequested : requested s.main = true → s.cancelled = true)
    (hs : ShowsStopping s.hub.cache → s.cancelled = true) (hs' : ShowsStopping s'.hub.cache) :
    s'.cancelled = true := by
  rcases next_cases h with ⟨m, -, hmain⟩ | ⟨-, haside⟩
  · -- Of the steps of `run_agent`, only those of `publish_stopping` change the hub.
    cases hmain with
    | publish hplace => exact hrequested (by rw [hplace]; rfl)
    | _ => exact hs hs'
  · refine cancelled_next h (hs ?_)
    have hhub := haside.hub_eq
    cases hpublishes : s.publishes a with
    | none =>
      have hsame : s'.hub = s.hub := by rw [hhub, hpublishes]; rfl
      rwa [hsame] at hs'
    | some step =>
      have hrun : s'.hub = step.run s.hub := by rw [hhub, hpublishes]; rfl
      rw [hrun] at hs'
      exact hs'.of_run (hhonest.publishes hpublishes)

/-- The events of `publish_stopping` were sent. -/
def StoppingSent (ctx : StatusContext) (hub : Hub) : Prop :=
  (∃ now, .status (ctx.status now .stopping true none) ∈ hub.sent) ∧
    .lifecycle .stopping ∈ hub.sent

/-- `run_agent` has sent them, or is about to, unless it has found no request to stop. -/
def Told (ctx : StatusContext) (s : RunAgent) : MainAt → Prop
  | .publishing steps => StoppingSent ctx (steps.foldl PublishStep.run s.hub)
  | .cleanup .requested _ | .aborting .requested _ | .joining .requested _
  | .finishing .requested | .returned (.ok _) => StoppingSent ctx s.hub
  | _ => True

/-- Events are not taken back. -/
theorem subset_sent_run (hub : Hub) (step : PublishStep) : hub.sent ⊆ (step.run hub).sent := by
  cases step with
  | write u => exact fun _ h => h
  | send u => exact List.subset_append_left _ _

/-- Nor are those of a publication lost. -/
theorem sent_foldl_subset {steps : List PublishStep} {hub hub' : Hub} (h : hub.sent ⊆ hub'.sent) :
    (steps.foldl PublishStep.run hub).sent ⊆ (steps.foldl PublishStep.run hub').sent := by
  induction steps generalizing hub hub' with
  | nil => exact h
  | cons step rest ih =>
    refine ih ?_
    cases step with
    | write u => exact h
    | send u =>
      refine List.append_subset.2 ⟨?_, List.subset_append_right _ _⟩
      exact fun x hx => List.mem_append_left _ (h hx)

/-- More events do no harm. -/
theorem StoppingSent.of_subset {hub hub' : Hub} (h : StoppingSent ctx hub)
    (hsub : hub.sent ⊆ hub'.sent) : StoppingSent ctx hub' := by
  obtain ⟨⟨now, hstatus⟩, hlifecycle⟩ := h
  exact ⟨⟨now, hsub hstatus⟩, hsub hlifecycle⟩

/-- What was told stays told. -/
theorem Told.of_subset {main : MainAt} (h : Told ctx s main) (hsub : s.hub.sent ⊆ s'.hub.sent) :
    Told ctx s' main := by
  unfold Told at h ⊢
  split
  · exact StoppingSent.of_subset h (sent_foldl_subset hsub)
  · exact StoppingSent.of_subset h hsub
  · exact StoppingSent.of_subset h hsub
  · exact StoppingSent.of_subset h hsub
  · exact StoppingSent.of_subset h hsub
  · exact StoppingSent.of_subset h hsub
  · trivial

/-- A step of `run_agent` keeps it. -/
theorem told_stepMain {a : MainAction} (h : MainStep ctx s a s') (hs : Told ctx s s.main) :
    Told ctx s' s'.main := by
  cases h with
  | @stop now _ =>
    refine ⟨⟨now, ?_⟩, ?_⟩
    · simp [publishStopping, publishState, PublishStep.run]
    · simp [publishStopping, publishState, PublishStep.run]
  | cancelled _ _ | joined _ _ _ | repolled _ _ | unexpected _ => trivial
  | publish hmain | published hmain =>
    rw [hmain] at hs
    exact hs
  | @cleaned stop _ _ hmain _ _ | @timeout stop _ _ hmain _ | @abort _ stop _ _ hmain
  | @aborted _ stop hmain | @rejoined stop _ _ hmain _ _ =>
    rw [hmain] at hs
    cases stop with
    | requested => exact hs
    | unexpected result => trivial
  | @finish _ stop hmain =>
    cases stop with
    | requested =>
      rcases hmain with hmain | hmain
      · rw [hmain] at hs
        exact hs
      · rw [hmain] at hs
        exact hs
    | unexpected result => trivial
  | @returns _ stop hmain =>
    rw [hmain] at hs
    rcases stop with _ | (_ | _)
    · exact hs
    · trivial
    · trivial

/-- In every run, `run_agent` tells that it stops before it returns from a stop that was
requested. -/
theorem told_of_reachable {hub : Hub} {control : ControlWatch} {cancelled : Bool}
    (h : Reachable (step ctx) (spawned hub control cancelled) s) : Told ctx s s.main := by
  obtain ⟨trace, hrun⟩ := h
  refine hrun.invariant (I := fun _ s => Told ctx s s.main) trivial ?_
  intro trace s s' a o hs hstep
  rcases next_cases (ofOption_eq_ok.1 hstep) with ⟨m, -, hmain⟩ | ⟨-, haside⟩
  · exact told_stepMain hmain hs
  · rw [haside.main_eq]
    refine hs.of_subset ?_
    rw [haside.hub_eq]
    cases s.publishes a with
    | none => exact fun _ hx => hx
    | some step => exact subset_sent_run s.hub step

/-- Only `run_agent` tells that the runtime stops. -/
theorem honest_of_reachable {hub : Hub} {control : ControlWatch} {cancelled : Bool}
    (h : Reachable (step ctx) (spawned hub control cancelled) s) : Honest s := by
  obtain ⟨trace, hrun⟩ := h
  refine hrun.invariant (I := fun _ s => Honest s) honest_spawned ?_
  intro trace s s' a o hs hstep
  exact honest_next (ofOption_eq_ok.1 hstep) hs

/-- The steps of a task need the task. -/
theorem next_eq_none {a : Action} (h : ∀ task, s.running task = false)
    (ha : Supervisor.ofTask a = true) : s.next ctx a = none := by
  cases a with
  | stats a | poller a | watcher a => simp [next, h]
  | outside a | main a => cases ha

end RunAgent

/-! ## What the supervisor announces -/

/-- Why a secret is asked for, by what went wrong last, and the error that is shown then. -/
inductive Asked (source : SecretSource) : Option Setback → Option ServiceError → Prop
  | missing : Asked source none none
  | invalid (message : String) : Asked source (some (.load message))
    (some (Supervisor.invalidSecret source message).asServiceError)
  | noLongerValid {error : AgentSetupError} : isInvalidAgentSecretError error = true →
    Asked source (some (.setup error)) (some Supervisor.noLongerValid)

/-- Why there is a retry, by what went wrong last, and the error that is shown until then. -/
inductive Retried (parse : String → Option ProtoRegisterError) :
    Option Setback → ServiceError → Prop
  | setup {error : AgentSetupError} : isTransientSetupError error = true →
    Retried parse (some (.setup error))
      (RuntimeError.ofSetup (setupErrorUserMessage parse error) true).asServiceError
  | agent (error : RuntimeError) :
    Retried parse (some (.agent error)) (RuntimeError.ofSetup error.text true).asServiceError

/-- What is published in front of a place, by what went wrong last. -/
def AfterPublish.Announces (ctx : StatusContext) (parse : String → Option ProtoRegisterError)
    (source : SecretSource) (last : Option Setback) (status : ServiceStatus)
    (lifecycle : AgentLifecycle) : AfterPublish → Prop
  | .wait => lifecycle = .waitingForSecret ∧ ∃ now e, Asked source last e ∧
    status = ctx.status now .waitingForSecret false e
  | .loop => lifecycle = .starting ∧ (∃ e, Asked source last e) ∧
    ∃ now, status = ctx.status now .starting true none
  | .create => lifecycle = .starting ∧ ∃ now, status = ctx.status now .starting true none
  | .run _ => lifecycle = .starting ∧ ∃ now, status = ctx.status now .running true none
  | .sleep .retry => lifecycle = .starting ∧ ∃ now e, Retried parse last e ∧
    status = ctx.status now .reconnecting true (some e)
  | .sleep .limit => lifecycle = .disabledOverLimit Supervisor.disabledOverLimit ∧
    (∃ error, last = some (.setup error) ∧ isAgentDisabledOverLimitError parse error = true) ∧
    ∃ now, status = ctx.status now .disabledOverLimit true (some Supervisor.disabledOverLimit)
  | .finish (.ok ()) => lifecycle = .stopping ∧
    ∃ now has_secret, status = ctx.status now .stopping has_secret none
  | .finish (.error e) => lifecycle = .error e.asServiceError ∧
    (∃ error, last = some (.setup error) ∧
      e = RuntimeError.ofSetup (setupErrorUserMessage parse error) true) ∧
    ∃ now, status = ctx.status now .error true (some e.asServiceError)
  | .reprovision e => lifecycle = .hasInvalidSecret e ∧
    (∃ message, last = some (.load message) ∧
      e = (Supervisor.invalidSecret source message).asServiceError) ∧
    ∃ now, status = ctx.status now .hasInvalidSecret false (some e)

namespace Supervisor

section
variable {ctx : StatusContext} {parse : String → Option ProtoRegisterError} {s s' : Supervisor}

variable (ctx parse) in
/-- The cache shows what is published in front of a place. -/
def Announced (s : Supervisor) (hub : Hub) (after : AfterPublish) : Prop :=
  after.Announces ctx parse s.source s.setbacks.getLast? hub.cache.status hub.cache.lifecycle

variable (ctx) in
/-- The last agent was told to stop, and `run_agent` has returned. It has told that it is stopping,
and the cache and the last events still say so exactly when no task told something else later. -/
structure Stopped (s : Supervisor) (agent : RunAgent) : Prop where
  last : s.past.getLast? = some agent
  main : agent.main = .returned (.ok ())
  hub : agent.hub = s.hub
  cache : RunAgent.ShowsAgent s.hub.cache
  sent : RunAgent.StoppingSent ctx s.hub
  settled : ∃ hub control cancelled trace,
    Run (RunAgent.step ctx) (.spawned hub control cancelled) trace agent ∧
    (agent.Settled ↔
      Along (RunAgent.step ctx) RunAgent.Timely (.spawned hub control cancelled) trace)

variable (ctx parse) in
/-- What the cache shows, by the place. -/
def Shows (s : Supervisor) : SupervisorPlace → Prop
  | .loading => s.setbacks = [] ∧ s.hub.cache.lifecycle = .starting ∧
    ∃ now, s.hub.cache.status = ctx.status now .starting false none
  | .publishing steps after => Announced ctx parse s (steps.foldl PublishStep.run s.hub) after
  | .waiting => Announced ctx parse s s.hub .wait
  | .looping | .requesting =>
    Announced ctx parse s s.hub .loop ∨ Announced ctx parse s s.hub (.sleep .retry) ∨
      Announced ctx parse s s.hub (.sleep .limit)
  | .creating => Announced ctx parse s s.hub .create
  | .running _ => RunAgent.ShowsAgent s.hub.cache ∧
    (RunAgent.ShowsStopping s.hub.cache → s.cancelled = true)
  | .sleeping _ why => Announced ctx parse s s.hub (.sleep why)
  | .returned result => Announced ctx parse s s.hub (.finish result) ∨
    result = .ok () ∧ ∃ agent, Stopped ctx s agent

/-- The secret is the last one. -/
def HasSecret (s : Supervisor) : Prop := s.secrets.getLast? = some s.secret_code

/-- The API is called with the last secret. -/
def HasApi (s : Supervisor) : Prop := s.api = some s.secret_code ∧ s.HasSecret

/-- The secret and the API, by the place. -/
def Keys (s : Supervisor) : SupervisorPlace → Prop
  | .loading | .waiting | .publishing _ .wait => s.api = none
  | .publishing _ (.reprovision _) => s.api = none ∧ s.source.allowsProvisioning = true
  | .looping | .publishing _ .loop => s.HasSecret
  | .requesting | .creating | .running _ | .sleeping _ _ | .publishing _ .create
  | .publishing _ (.run _) | .publishing _ (.sleep _) => s.HasApi
  | .publishing _ (.finish _) | .returned _ => True

/-- No other secret and no retry can mend the failure. -/
def permanent (parse : String → Option ProtoRegisterError) (source : SecretSource)
    (error : AgentSetupError) : Bool :=
  !(source.allowsProvisioning && isInvalidAgentSecretError error) &&
    !isAgentDisabledOverLimitError parse error && !isTransientSetupError error

variable (parse) in
/-- How it ends. -/
def EndsWith (s : Supervisor) : Except RuntimeError Unit → Prop
  | .ok () => s.cancelled = true ∧ ∀ error ∈ s.failures, permanent parse s.source error = false
  | .error e => ∃ before error, s.failures = before ++ [error] ∧
    (∀ error ∈ before, permanent parse s.source error = false) ∧
    permanent parse s.source error = true ∧
    e = RuntimeError.ofSetup (setupErrorUserMessage parse error) true

variable (parse) in
/-- Whether it ends, by the place. -/
def Ends (s : Supervisor) : SupervisorPlace → Prop
  | .publishing _ (.finish result) | .returned result => s.EndsWith parse result
  | _ => ∀ error ∈ s.failures, permanent parse s.source error = false

variable (ctx) in
/-- The agent that runs. -/
structure Agent (s : Supervisor) (agent : RunAgent) : Prop where
  hub : agent.hub = s.hub
  cancelled : agent.cancelled = s.cancelled
  telling : agent.Telling
  requested : RunAgent.requested agent.main = true → agent.cancelled = true
  stopping : RunAgent.ShowsStopping agent.hub.cache → agent.cancelled = true
  reachable : ∃ hub control cancelled,
    Reachable (RunAgent.step ctx) (.spawned hub control cancelled) agent

variable (ctx parse) in
/-- The invariant. -/
structure Kept (s : Supervisor) : Prop where
  /-- A secret that was given inline is valid. -/
  valid : ∀ secret, s.source = .inline secret → ∃ v, validateSecret (trim secret) = .ok v
  agent : ∀ agent, s.place = .running agent → Agent ctx s agent
  past : ∀ agent ∈ s.past, ∀ task, agent.running task = false
  shows : Shows ctx parse s s.place
  keys : Keys s s.place
  ends : Ends parse s s.place

/-! ## Steps that keep it -/

/-- What the cache shows does not depend on the schedule and the clock. -/
theorem Shows.congr {place : SupervisorPlace} (h : Shows ctx parse s place)
    (hsource : s'.source = s.source) (hsetbacks : s'.setbacks = s.setbacks)
    (hhub : s'.hub = s.hub) (hpast : s'.past = s.past)
    (hcancelled : s.cancelled = true → s'.cancelled = true) : Shows ctx parse s' place := by
  have hannounced (hub : Hub) (after : AfterPublish) :
      Announced ctx parse s' hub after = Announced ctx parse s hub after := by
    rw [Announced, Announced, hsource, hsetbacks]
  cases place with
  | running agent =>
    rw [Shows, hhub]
    exact ⟨h.1, fun hshown => hcancelled (h.2 hshown)⟩
  | returned result =>
    rw [Shows, hannounced, hhub]
    refine h.imp_right ?_
    rintro ⟨hok, agent, hstopped⟩
    refine ⟨hok, agent, hpast ▸ hstopped.last, hstopped.main, hhub ▸ hstopped.hub,
      hhub ▸ hstopped.cache, hhub ▸ hstopped.sent, hstopped.settled⟩
  | _ =>
    simp only [Shows, hannounced, hhub, hsetbacks] at h ⊢
    exact h

/-- Nor do the secret and the API depend on more than these. -/
theorem Keys.congr {place : SupervisorPlace} (h : Keys s place) (hsource : s'.source = s.source)
    (hapi : s'.api = s.api) (hcode : s'.secret_code = s.secret_code)
    (hsecrets : s'.secrets = s.secrets) : Keys s' place := by
  have hsecret : s'.HasSecret = s.HasSecret := by rw [HasSecret, HasSecret, hcode, hsecrets]
  have hhas : s'.HasApi = s.HasApi := by rw [HasApi, HasApi, hapi, hcode, hsecret]
  cases place with
  | publishing steps after =>
    cases after <;> simp only [Keys, hsource, hapi, hsecret, hhas] at * <;> exact h
  | _ => simp only [Keys, hapi, hsecret, hhas] at * <;> exact h

/-- How it ends depends on the failures, and a cancellation is not taken back. -/
theorem EndsWith.congr {result : Except RuntimeError Unit} (h : s.EndsWith parse result)
    (hsource : s'.source = s.source) (hfailures : s'.failures = s.failures)
    (hcancelled : s.cancelled = true → s'.cancelled = true) : s'.EndsWith parse result := by
  cases result with
  | ok u => exact ⟨hcancelled h.1, by rw [hsource, hfailures]; exact h.2⟩
  | error e =>
    obtain ⟨before, error, heq, hbefore, hlast, he⟩ := h
    exact ⟨before, error, hfailures.trans heq, by rwa [hsource], by rwa [hsource], he⟩

/-- So does whether it ends. -/
theorem Ends.congr {place : SupervisorPlace} (h : Ends parse s place)
    (hsource : s'.source = s.source) (hfailures : s'.failures = s.failures)
    (hcancelled : s.cancelled = true → s'.cancelled = true) : Ends parse s' place := by
  have hall : (∀ error ∈ s.failures, permanent parse s.source error = false) →
      ∀ error ∈ s'.failures, permanent parse s'.source error = false := by
    rw [hsource, hfailures]
    exact id
  cases place with
  | publishing steps after =>
    cases after with
    | finish result => exact EndsWith.congr h hsource hfailures hcancelled
    | _ => exact hall h
  | returned result => exact EndsWith.congr h hsource hfailures hcancelled
  | _ => exact hall h

/-- The rest of a publication. -/
theorem Keys.rest {steps steps' : List PublishStep} {after : AfterPublish}
    (h : Keys s (.publishing steps after)) : Keys s (.publishing steps' after) := by
  cases after <;> exact h

/-- It ends whatever is left of the publication. -/
theorem Ends.rest {steps steps' : List PublishStep} {after : AfterPublish}
    (h : Ends parse s (.publishing steps after)) : Ends parse s (.publishing steps' after) := by
  cases after <;> exact h

/-- It is in `run_agent`. -/
def isRunning : SupervisorPlace → Bool
  | .running _ => true
  | _ => false

/-- Elsewhere there is nothing to say about an agent. -/
theorem no_agent (h : isRunning s.place = false) (agent : RunAgent)
    (hrunning : s.place = .running agent) : Agent ctx s agent := by
  rw [hrunning] at h
  cases h

/-- A publication begins. -/
theorem Kept.publish {s : Supervisor} {status : ServiceStatus} {lifecycle : AgentLifecycle}
    {after : AfterPublish}
    (hvalid : ∀ secret, s.source = .inline secret → ∃ v, validateSecret (trim secret) = .ok v)
    (hpast : ∀ agent ∈ s.past, ∀ task, agent.running task = false)
    (hannounces : after.Announces ctx parse s.source s.setbacks.getLast? status lifecycle)
    (hkeys : Keys s (.publishing (publishState status lifecycle) after))
    (hends : Ends parse s (.publishing (publishState status lifecycle) after)) :
    Kept ctx parse (s.publish status lifecycle after) := by
  exact ⟨hvalid, no_agent rfl, hpast, hannounces, hkeys.congr rfl rfl rfl rfl,
    hends.congr rfl rfl id⟩

/-- While it goes on, nothing has failed for good. -/
theorem Ends.goesOn {place : SupervisorPlace} (h : Ends parse s place)
    (hplace : goesOn place = true) :
    ∀ error ∈ s.failures, permanent parse s.source error = false := by
  cases place with
  | publishing steps after =>
    cases after with
    | finish result => cases hplace
    | _ => exact h
  | returned result => cases hplace
  | _ => exact h

/-- There is a secret. -/
theorem Kept.gotSecret {now : UInt64} {secret : String} (h : Kept ctx parse s)
    (hplace : goesOn s.place = true) (hasked : ∃ e, Asked s.source s.setbacks.getLast? e) :
    Kept ctx parse (s.gotSecret ctx now secret) := by
  refine Kept.publish h.valid h.past ⟨rfl, hasked, now, rfl⟩ ?_ (h.ends.goesOn hplace)
  exact List.getLast?_concat

/-- A secret is waited for. -/
theorem Kept.waitForSecret {now : UInt64} {last_error : Option ServiceError}
    (hvalid : ∀ secret, s.source = .inline secret → ∃ v, validateSecret (trim secret) = .ok v)
    (hpast : ∀ agent ∈ s.past, ∀ task, agent.running task = false)
    (hsource : s.source.allowsProvisioning = true) (hapi : s.api = none)
    (hasked : Asked s.source s.setbacks.getLast? last_error)
    (hall : ∀ error ∈ s.failures, permanent parse s.source error = false) :
    Kept ctx parse (s.waitForSecret ctx now last_error) := by
  unfold Supervisor.waitForSecret
  split
  · next heq =>
    rw [heq] at hsource
    cases hsource
  · exact Kept.publish hvalid hpast ⟨rfl, now, last_error, hasked, rfl⟩ hapi hall

/-- `load` has returned. -/
theorem Kept.loaded {now : UInt64} {file : SecretFile.LoadedSecret} (h : Kept ctx parse s)
    (hplace : s.place = .loading) : Kept ctx parse (s.loaded ctx now (load s.source file)) := by
  have hgoes : goesOn s.place = true := by rw [hplace]; rfl
  have hapi : s.api = none := by
    have hkeys := h.keys
    rw [hplace] at hkeys
    exact hkeys
  have hasked : Asked s.source s.setbacks.getLast? none := by
    have hshows := h.shows
    rw [hplace] at hshows
    rw [hshows.1]
    exact .missing
  cases hsource : s.source with
  | inline secret =>
    obtain ⟨v, hv⟩ := h.valid secret hsource
    rw [load, hv]
    exact h.gotSecret hgoes ⟨_, hasked⟩
  | file path =>
    have hallows : s.source.allowsProvisioning = true := by rw [hsource]; rfl
    rw [load]
    cases file with
    | ready secret => exact h.gotSecret hgoes ⟨_, hasked⟩
    | missing => exact Kept.waitForSecret h.valid h.past hallows hapi hasked (h.ends.goesOn hgoes)
    | invalid message =>
      rw [Supervisor.loaded, if_pos hallows]
      refine Kept.publish h.valid h.past ⟨rfl, ⟨message, ?_, rfl⟩, now, rfl⟩ ⟨hapi, hallows⟩
        (h.ends.goesOn hgoes)
      exact List.getLast?_concat

/-- The agent that is run. -/
theorem agent_spawned {control : ControlWatch} (h : Announced ctx parse s s.hub (.run control)) :
    Agent ctx s (.spawned s.hub control s.cancelled) := by
  obtain ⟨hlifecycle, now, hstatus⟩ := h
  refine ⟨rfl, rfl, RunAgent.telling_spawned ⟨?_, .inl hlifecycle⟩, ?_, ?_, _, _, _, [], .nil⟩
  · rw [hstatus]
    exact ⟨rfl, .inl rfl⟩
  · intro hrequested
    cases hrequested
  · intro hstopping
    change RunAgent.ShowsStopping s.hub.cache at hstopping
    rw [RunAgent.ShowsStopping, hstatus, hlifecycle] at hstopping
    rcases hstopping with hstopping | hstopping
    · cases hstopping
    · cases hstopping

/-- A publication has ended. -/
theorem Kept.published {now : UInt64} {after : AfterPublish} (h : Kept ctx parse s)
    (hplace : s.place = .publishing [] after) : Kept ctx parse (s.published ctx now after) := by
  obtain ⟨hvalid, -, hpast, hshows, hkeys, hends⟩ := h
  rw [hplace] at hshows hkeys hends
  cases after with
  | wait | create => exact ⟨hvalid, no_agent rfl, hpast, hshows, hkeys, hends⟩
  | loop => exact ⟨hvalid, no_agent rfl, hpast, .inl hshows, hkeys, hends⟩
  | run control =>
    have hagent := agent_spawned hshows
    refine ⟨hvalid, ?_, hpast, ⟨hagent.telling.cache, hagent.stopping⟩, hkeys, hends⟩
    intro agent hrunning
    obtain rfl := SupervisorPlace.running.inj hrunning
    exact ⟨rfl, rfl, hagent.telling, hagent.requested, hagent.stopping, hagent.reachable⟩
  | sleep why =>
    cases why with
    | retry | limit => exact ⟨hvalid, no_agent rfl, hpast, hshows, hkeys, hends⟩
  | finish result => exact ⟨hvalid, no_agent rfl, hpast, .inl hshows, trivial, hends⟩
  | reprovision error =>
    obtain ⟨-, ⟨message, hlast, rfl⟩, -⟩ := hshows
    refine Kept.waitForSecret hvalid hpast hkeys.2 hkeys.1 ?_ hends
    rw [hlast]
    exact .invalid message

/-- The failures of a state with one more. -/
theorem forall_failures_concat {source : SecretSource} {failures : List AgentSetupError}
    {error : AgentSetupError} (h : ∀ error ∈ failures, permanent parse source error = false)
    (herror : permanent parse source error = false) :
    ∀ x ∈ failures ++ [error], permanent parse source x = false := by
  intro x hx
  rcases List.mem_append.1 hx with hx | hx
  · exact h x hx
  · obtain rfl := List.mem_singleton.1 hx
    exact herror

/-- A setup has failed. -/
theorem Kept.setupFailed {now : UInt64} {error : AgentSetupError} (h : Kept ctx parse s)
    (hplace : s.place = .creating) : Kept ctx parse (s.setupFailed ctx parse now error) := by
  have hall : ∀ error ∈ s.failures, permanent parse s.source error = false :=
    h.ends.goesOn (by rw [hplace]; rfl)
  have hapi : s.HasApi := by
    have hkeys := h.keys
    rw [hplace] at hkeys
    exact hkeys
  have hlast : (s.setbacks ++ [Setback.setup error]).getLast? = some (.setup error) :=
    List.getLast?_concat
  simp only [Supervisor.setupFailed]
  split
  · next hinvalid =>
    have hallows : s.source.allowsProvisioning = true := hinvalid.1
    have hmends : permanent parse s.source error = false := by
      simp [permanent, hallows, hinvalid.2]
    refine Kept.waitForSecret h.valid h.past hallows rfl ?_ (forall_failures_concat hall hmends)
    exact hlast ▸ .noLongerValid hinvalid.2
  · next hinvalid =>
    split
    · next hlimit =>
      refine Kept.publish h.valid h.past ⟨rfl, ⟨error, hlast, hlimit⟩, now, rfl⟩ hapi
        (forall_failures_concat hall ?_)
      simp [permanent, hlimit]
    · next hlimit =>
      split
      · next htransient =>
        have hretried : Retried parse (s.setbacks ++ [Setback.setup error]).getLast?
            (RuntimeError.ofSetup (setupErrorUserMessage parse error) true).asServiceError :=
          hlast ▸ .setup htransient
        refine Kept.publish h.valid h.past ⟨rfl, now, _, hretried, rfl⟩ hapi
          (forall_failures_concat hall ?_)
        simp [permanent, htransient]
      · next htransient =>
        have hpermanent : permanent parse s.source error = true := by
          have hmends :
              ¬(s.source.allowsProvisioning && isInvalidAgentSecretError error) = true := by
            rw [Bool.and_eq_true]
            exact hinvalid
          simp [permanent, Bool.eq_false_iff.2 hmends, Bool.eq_false_iff.2 hlimit,
            Bool.eq_false_iff.2 htransient]
        exact Kept.publish h.valid h.past ⟨rfl, ⟨error, hlast, rfl⟩, now, rfl⟩ trivial
          ⟨s.failures, error, rfl, hall, hpermanent, rfl⟩

/-- `run_agent` returns because a stop was requested. -/
theorem stopped_of_returned {agent : RunAgent} (hagent : Agent ctx s agent)
    (hmain : agent.main = .returned (.ok ())) :
    Stopped ctx { s with past := s.past ++ [agent], place := .returned (.ok ()) } agent := by
  obtain ⟨hub, control, cancelled, hreachable⟩ := hagent.reachable
  have htold := RunAgent.told_of_reachable hreachable
  rw [hmain] at htold
  obtain ⟨trace, hrun⟩ := hreachable
  have hpolled : agent.PolledOnce := by simp [RunAgent.PolledOnce, hmain]
  exact ⟨List.getLast?_concat, hmain, hagent.hub, hagent.hub ▸ hagent.telling.cache,
    hagent.hub ▸ htold, hub, control, cancelled, trace, hrun,
    (RunAgent.settled_iff hmain).trans (RunAgent.stands_iff_along hrun hpolled)⟩

/-- `run_agent` returns, and its tasks have ended. -/
theorem Kept.agentReturned {now : UInt64} {agent : RunAgent} {outcome : Except RuntimeError Unit}
    (h : Kept ctx parse s) (hplace : s.place = .running agent)
    (hmain : agent.main = .returned outcome) :
    Kept ctx parse ({ s with past := s.past ++ [agent] }.agentReturned ctx now outcome) := by
  have hagent := h.agent agent hplace
  obtain ⟨hub, control, cancelled, hreachable⟩ := hagent.reachable
  have hended := RunAgent.ended_of_returned hreachable hmain
  have hpast : ∀ x ∈ s.past ++ [agent], ∀ task, x.running task = false := by
    intro x hx
    rcases List.mem_append.1 hx with hx | hx
    · exact h.past x hx
    · obtain rfl := List.mem_singleton.1 hx
      exact hended
  have hall : ∀ error ∈ s.failures, permanent parse s.source error = false :=
    h.ends.goesOn (by rw [hplace]; rfl)
  have hkeys := h.keys
  rw [hplace] at hkeys
  cases outcome with
  | ok u =>
    have hcancelled : s.cancelled = true := by
      rw [← hagent.cancelled]
      exact hagent.requested (by rw [hmain]; rfl)
    have hstopped : Stopped ctx { s with past := s.past ++ [agent], place := .returned (.ok ()) }
        agent := stopped_of_returned hagent hmain
    exact ⟨h.valid, no_agent rfl, hpast, .inr ⟨rfl, agent, hstopped⟩, trivial, hcancelled, hall⟩
  | error error =>
    simp only [Supervisor.agentReturned]
    split
    · next hcancelled =>
      exact Kept.publish h.valid hpast ⟨rfl, now, true, rfl⟩ trivial ⟨hcancelled, hall⟩
    · have hretried : Retried parse (s.setbacks ++ [Setback.agent error]).getLast?
          (RuntimeError.ofSetup error.text true).asServiceError := by
        rw [List.getLast?_concat]
        exact .agent error
      exact Kept.publish h.valid hpast ⟨rfl, now, _, hretried, rfl⟩ hkeys hall

/-- A step of the agent that runs. -/
theorem Kept.agentStep {agent agent' : RunAgent} {a : RunAgent.Action} (h : Kept ctx parse s)
    (hplace : s.place = .running agent)
    (hnext : RunAgent.next ctx { agent with hub := s.hub, cancelled := s.cancelled } a =
      some agent') :
    Kept ctx parse { s with
      hub := agent'.hub, cancelled := agent'.cancelled, place := .running agent' } := by
  have hagent := h.agent agent hplace
  have hsame : { agent with hub := s.hub, cancelled := s.cancelled } = agent := by
    rw [← hagent.hub, ← hagent.cancelled]
  rw [hsame] at hnext
  have htelling := RunAgent.telling_next hnext hagent.telling
  have hall : ∀ error ∈ s.failures, permanent parse s.source error = false :=
    h.ends.goesOn (by rw [hplace]; rfl)
  have hkeys := h.keys
  rw [hplace] at hkeys
  obtain ⟨hub, control, cancelled, hreachable⟩ := hagent.reachable
  have hstopping : RunAgent.ShowsStopping agent'.hub.cache → agent'.cancelled = true :=
    RunAgent.showsStopping_next hnext (RunAgent.honest_of_reachable hreachable) hagent.requested
      hagent.stopping
  refine ⟨h.valid, ?_, h.past, ⟨htelling.cache, hstopping⟩, hkeys, hall⟩
  intro x hx
  obtain rfl := SupervisorPlace.running.inj hx
  refine ⟨rfl, rfl, htelling, RunAgent.requested_next hnext hagent.requested, hstopping, hub,
    control, cancelled, ?_⟩
  exact hreachable.snoc (ofOption_eq_ok.2 hnext) (o := ())

/-- Every step keeps it. -/
theorem Kept.step (h : Kept ctx parse s) (hstep : Step ctx parse s s') : Kept ctx parse s' := by
  have hkeys := h.keys
  have hshows := h.shows
  cases hstep with
  | cancels hplace =>
    exact ⟨h.valid, fun agent hrunning => absurd hrunning (hplace agent), h.past,
      h.shows.congr rfl rfl rfl rfl fun _ => rfl, h.keys.congr rfl rfl rfl rfl,
      h.ends.congr rfl rfl fun _ => rfl⟩
  | passes elapsed =>
    refine ⟨h.valid, ?_, h.past, h.shows.congr rfl rfl rfl rfl id, h.keys.congr rfl rfl rfl rfl,
      h.ends.congr rfl rfl id⟩
    intro agent hrunning
    have hagent := h.agent agent hrunning
    exact ⟨hagent.hub, hagent.cancelled, hagent.telling, hagent.requested, hagent.stopping,
      hagent.reachable⟩
  | rejects => exact h
  | loads now file hplace => exact h.loaded hplace
  | writes hplace =>
    have hends := h.ends
    rw [hplace] at hshows hkeys hends
    exact ⟨h.valid, no_agent rfl, h.past, hshows, hkeys.rest.congr rfl rfl rfl rfl,
      hends.rest.congr rfl rfl id⟩
  | published now hplace => exact h.published hplace
  | provisioned now secret hplace =>
    rw [hplace] at hshows
    obtain ⟨-, -, e, hasked, -⟩ := hshows
    exact h.gotSecret (by rw [hplace]; rfl) ⟨e, hasked⟩
  | stops now has_secret hcancelled hplace =>
    exact Kept.publish h.valid h.past ⟨rfl, now, has_secret, rfl⟩ trivial
      ⟨hcancelled, h.ends.goesOn hplace⟩
  | turns hplace _ =>
    have hends := h.ends
    rw [hplace] at hshows hkeys hends
    exact ⟨h.valid, no_agent rfl, h.past, hshows, ⟨rfl, hkeys⟩, hends⟩
  | requests now hplace =>
    rw [hplace] at hkeys
    exact Kept.publish h.valid h.past ⟨rfl, now, rfl⟩ hkeys (h.ends.goesOn (by rw [hplace]; rfl))
  | creates now control hplace =>
    rw [hplace] at hkeys
    exact Kept.publish h.valid h.past ⟨rfl, now, rfl⟩ hkeys (h.ends.goesOn (by rw [hplace]; rfl))
  | fails now error hplace => exact h.setupFailed hplace
  | agent hplace hnext => exact h.agentStep hplace hnext
  | returns now hplace hmain => exact h.agentReturned hplace hmain
  | @straggles i agent agent' a hpast htask hnext =>
    -- The tasks of an earlier agent have ended.
    have hnone : RunAgent.next ctx { agent with hub := s.hub, cancelled := s.cancelled } a = none :=
      RunAgent.next_eq_none (h.past agent (List.mem_of_getElem? hpast)) htask
    rw [hnone] at hnext
    cases hnext
  | retries hplace _ =>
    have hends := h.ends
    rw [hplace] at hshows hkeys hends
    exact ⟨h.valid, no_agent rfl, h.past, .inr (.inl hshows), hkeys.2, hends⟩
  | limits hplace _ =>
    have hends := h.ends
    rw [hplace] at hshows hkeys hends
    exact ⟨h.valid, no_agent rfl, h.past, .inr (.inr hshows), hkeys.2, hends⟩

end

end Supervisor

namespace SampleSupervisor

/-- An agent runs, and its task ends by itself while the other tasks publish. -/
def crashed : List Supervisor.Action :=
  [.load 0 (.ready "00")] ++ publishing ++ turning ++
    [.created 0 ⟨.connected, 0, false⟩] ++ publishing ++
    [.agent (.watcher .borrow), .agent (.watcher (.readSecret 0)), .agent (.watcher .publish),
      .agent (.watcher .publish), .agent (.watcher .publish), .agent (.outside .agentReturns),
      .agent (.main .joined), .agent (.main (.proceed 0)), .agent (.stats .cancelled),
      .agent (.poller .cancelled), .agent (.watcher .cancelled), .agent (.main .await),
      .agent (.main .await), .agent (.main .await), .agent (.main (.proceed 0)),
      .agent (.main (.proceed 0)), .returns 0] ++ publishing

/-- What `run_agent` returns then. -/
def ended : RuntimeError := .ofSetup "playit agent task stopped unexpectedly" true

/-- The second setup fails for good. -/
def refused : List Supervisor.Action := [.createFails 0 .registerInvalidSignature] ++ publishing

end SampleSupervisor

namespace Supervisor

section
variable {ctx : StatusContext} {parse : String → Option ProtoRegisterError} {s s' : Supervisor}

/-! ## The results -/

/-- It holds at the start. -/
theorem kept_spawned {source : SecretSource} {now : UInt64} {clock : ℕ}
    (hvalid : ∀ secret, source = .inline secret → ∃ v, validateSecret (trim secret) = .ok v) :
    Kept ctx parse (spawned ctx source now clock) := by
  refine ⟨hvalid, no_agent rfl, ?_, ⟨rfl, rfl, now, rfl⟩, rfl, ?_⟩
  · intro agent hagent
    cases hagent
  · intro error herror
    cases herror

/-- A start with an inline secret checks it. -/
theorem valid_of_start {s₀ : Supervisor} {source : SecretSource} {now : UInt64} {clock : ℕ}
    (h : start ctx source now clock = .ok s₀) :
    ∀ secret, source = .inline secret → ∃ v, validateSecret (trim secret) = .ok v := by
  rintro secret rfl
  unfold start at h
  simp only at h
  split at h
  · next v hv => exact ⟨v, hv⟩
  · cases h

/-- It holds over every run. -/
theorem kept_of_run {s₀ : Supervisor} {source : SecretSource} {now : UInt64} {clock : ℕ}
    {trace : List (Action × Unit)} (hstart : start ctx source now clock = .ok s₀)
    (hrun : Run (Supervisor.step ctx parse) s₀ trace s) : Kept ctx parse s := by
  refine hrun.invariant (I := fun _ s => Kept ctx parse s) ?_ ?_
  · rw [spawned_of_start hstart]
    exact kept_spawned (valid_of_start hstart)
  · intro trace s s' a o hs hstep
    exact hs.step (step_of_next (ofOption_eq_ok.1 hstep))

/-- Over every run of the supervisor with the tasks of all its agents: whenever it waits, sets up or
runs an agent, or has returned, the cache shows that, with the error of what went wrong last where
there is one; the API is called with the last secret, and there is none while a secret is waited
for; and no task of an earlier agent runs any more. When `run_agent` has returned from a stop, it
has told so, and what it told may be overwritten only by one of its tasks. -/
theorem supervisor_shows_its_place {s₀ : Supervisor} {source : SecretSource} {now : UInt64}
    {clock : ℕ} {trace : List (Action × Unit)} (hstart : start ctx source now clock = .ok s₀)
    (hrun : Run (Supervisor.step ctx parse) s₀ trace s) :
    Shows ctx parse s s.place ∧ Keys s s.place ∧
      ∀ agent ∈ s.past, ∀ task, agent.running task = false := by
  have h := kept_of_run hstart hrun
  exact ⟨h.shows, h.keys, h.past⟩

open SampleSupervisor in
/-- The supervisor shows why the agent has ended. -/
theorem supervisor_shows_its_place_sample :
    ∃ s₀ trace s deadline now, start SampleSupervisor.ctx SampleSupervisor.source 0 0 = .ok s₀ ∧
      Run (Supervisor.step SampleSupervisor.ctx SampleSupervisor.parse) s₀ trace s ∧
      s.past.length = 1 ∧ s.place = .sleeping deadline .retry ∧
      s.setbacks.getLast? = some (.agent ended) ∧
      s.hub.cache.status = SampleSupervisor.ctx.status now .reconnecting true
        (some (RuntimeError.ofSetup ended.text true).asServiceError) ∧
      s.api = some s.secret_code ∧ ∀ agent ∈ s.past, ∀ task, agent.running task = false := by
  obtain ⟨s, hs, hpast, hlast, hplace⟩ : ∃ s,
      takes (next SampleSupervisor.ctx SampleSupervisor.parse)
        (spawned SampleSupervisor.ctx SampleSupervisor.source 0 0) crashed = some s ∧
      s.past.length = 1 ∧ s.setbacks.getLast? = some (.agent ended) ∧
      s.place = .sleeping 1000 .retry :=
    ⟨_, rfl, rfl, rfl, rfl⟩
  have hstart : start SampleSupervisor.ctx SampleSupervisor.source 0 0 =
      .ok (spawned SampleSupervisor.ctx SampleSupervisor.source 0 0) := rfl
  have hrun := Run.takes .nil hs
  obtain ⟨hshows, hkeys, hended⟩ := supervisor_shows_its_place hstart hrun
  rw [hplace] at hshows hkeys
  obtain ⟨-, now, e, hretried, hstatus⟩ := hshows
  rw [hlast] at hretried
  cases hretried with
  | agent error =>
    exact ⟨_, _, s, _, now, hstart, hrun, hpast, hplace, hlast, hstatus, hkeys.1, hended⟩

/-- Over every run, the supervisor returns without an error only when it was told to stop, and with
one only for a failure of its last setup that no retry and no other secret can mend; and the first
such failure ends it. -/
theorem supervisor_ends_only_when_it_must {s₀ : Supervisor} {source : SecretSource} {now : UInt64}
    {clock : ℕ} {trace : List (Action × Unit)} (hstart : start ctx source now clock = .ok s₀)
    (hrun : Run (Supervisor.step ctx parse) s₀ trace s) :
    (∀ result, s.place = .returned result → s.EndsWith parse result) ∧
    ∀ error ∈ s.failures, permanent parse s.source error = true →
      ∃ e, (∃ steps, s.place = .publishing steps (.finish (.error e))) ∨
        s.place = .returned (.error e) := by
  have hends := (kept_of_run hstart hrun).ends
  refine ⟨fun result hplace => by rw [hplace] at hends; exact hends, ?_⟩
  intro error herror hpermanent
  have hnone : ¬∀ error ∈ s.failures, permanent parse s.source error = false := by
    intro hall
    rw [hall error herror] at hpermanent
    cases hpermanent
  cases hplace : s.place with
  | publishing steps after =>
    rw [hplace] at hends
    cases after with
    | finish result =>
      cases result with
      | ok u => exact absurd hends.2 hnone
      | error e => exact ⟨e, .inl ⟨steps, rfl⟩⟩
    | _ => exact absurd hends hnone
  | returned result =>
    rw [hplace] at hends
    cases result with
    | ok u => exact absurd hends.2 hnone
    | error e => exact ⟨e, .inr rfl⟩
  | _ =>
    rw [hplace] at hends
    exact absurd hends hnone

open SampleSupervisor in
/-- The supervisor returns the failure of its last setup. -/
theorem supervisor_ends_only_when_it_must_sample :
    ∃ s₀ trace s result, start SampleSupervisor.ctx SampleSupervisor.source 0 0 = .ok s₀ ∧
      Run (Supervisor.step SampleSupervisor.ctx SampleSupervisor.parse) s₀ trace s ∧
      s.failures = [.failedToConnect, .registerInvalidSignature] ∧ s.place = .returned result ∧
      s.EndsWith SampleSupervisor.parse result := by
  obtain ⟨s, hs, hfailures, hplace⟩ : ∃ s,
      takes (next SampleSupervisor.ctx SampleSupervisor.parse)
        (spawned SampleSupervisor.ctx SampleSupervisor.source 0 0) (retried ++ refused) = some s ∧
      s.failures = [.failedToConnect, .registerInvalidSignature] ∧
      s.place = .returned (.error (.ofSetup
        "Failed to start the playit agent: RegisterInvalidSignature" true)) :=
    ⟨_, rfl, rfl, rfl⟩
  have hstart : start SampleSupervisor.ctx SampleSupervisor.source 0 0 =
      .ok (spawned SampleSupervisor.ctx SampleSupervisor.source 0 0) := rfl
  have hrun := Run.takes .nil hs
  exact ⟨_, _, s, _, hstart, hrun, hfailures, hplace,
    (supervisor_ends_only_when_it_must hstart hrun).1 _ hplace⟩

end

end Supervisor

end PlayitAgent
