import PlayitAgent.Runtime.RunAgent

/-!
# What one step of `run_agent` and its tasks does

A step is taken by `run_agent` or by something else. `MainStep` lists what `run_agent` itself can
do. Everything else leaves `run_agent` where it is and gives no result away: it is `Aside`, and it
takes at most one step of a publication.
-/

namespace PlayitAgent

/-- The steps that the poller has still to take. -/
def PollerAt.pending : PollerAt → List PublishStep
  | .publishing steps => steps
  | _ => []

/-- The steps that the watcher has still to take. -/
def WatcherAt.pending : WatcherAt → List PublishStep
  | .publishing _ steps => steps
  | _ => []

namespace RunAgent

variable {ctx : StatusContext} {s s' : RunAgent}

/-! ## Steps of the tasks -/

/-- The step of a publication that a task takes by an action, if it takes one. -/
def publishes (s : RunAgent) : Action → Option PublishStep
  | .stats .publish => s.stats.head?
  | .poller .publish => s.poller.pending.head?
  | .watcher .publish => s.watcher.place.pending.head?
  | _ => none

/-- A step that `run_agent` does not take. -/
structure Aside (s : RunAgent) (a : Action) (s' : RunAgent) : Prop where
  main_eq : s'.main = s.main
  /-- No handle gives its result. -/
  taken_eq : ∀ task, (s'.handles task).taken = (s.handles task).taken
  /-- A task that has ended does not start again. -/
  ended : ∀ task, (s.handles task).result.isSome → (s'.handles task).result.isSome
  /-- At most one step of a publication is taken. -/
  hub_eq : s'.hub = ((s.publishes a).map fun step => step.run s.hub).getD s.hub

/-- A task that ends leaves what was given away. -/
@[simp]
theorem taken_finish (task task' : Task) (result : Except JoinError Unit) :
    ((s.finish task result).handles task').taken = (s.handles task').taken := by
  unfold finish
  by_cases h : task' = task
  · subst h
    simp [JoinHandle.finish]
  · simp [h]

/-- A task that ends has ended, and so have those that had before. -/
theorem ended_finish {task task' : Task} {result : Except JoinError Unit}
    (h : (s.handles task').result.isSome) :
    ((s.finish task result).handles task').result.isSome := by
  unfold finish
  by_cases heq : task' = task
  · subst heq
    simp [JoinHandle.finish]
  · simpa [heq] using h

/-- The end of a task is a step aside. -/
theorem aside_finish {a : Action} (task : Task) (result : Except JoinError Unit)
    (h : s.publishes a = none) : Aside s a (s.finish task result) where
  main_eq := rfl
  taken_eq := fun task' => taken_finish task task' result
  ended := fun _ h => ended_finish h
  hub_eq := by rw [h]; rfl

/-- What happens outside is no step of `run_agent`. -/
theorem stepOutside_aside {a : OutsideAction} (h : s.stepOutside a = some s') :
    Aside s (.outside a) s' := by
  unfold stepOutside at h
  split at h <;> (try split at h) <;> cases h
  all_goals first
    | exact aside_finish _ _ rfl
    | exact ⟨rfl, fun _ => rfl, fun _ => id, rfl⟩

/-- What `broadcast_stats` does is no step of `run_agent`. -/
theorem stepStats_aside {a : StatsAction} (h : s.stepStats a = some s') :
    Aside s (.stats a) s' := by
  unfold stepStats at h
  split at h <;> (repeat' split at h) <;> cases h
  all_goals first
    | exact aside_finish _ _ rfl
    | exact ⟨rfl, fun _ => rfl, fun _ => id, by simp [publishes, *]⟩

/-- What `broadcast_agent_state` does is no step of `run_agent`. -/
theorem stepPoller_aside {a : PollerAction} (h : s.stepPoller ctx a = some s') :
    Aside s (.poller a) s' := by
  unfold stepPoller at h
  split at h <;> (repeat' split at h) <;> cases h
  all_goals first
    | exact aside_finish _ _ rfl
    | exact ⟨rfl, fun _ => rfl, fun _ => id, by simp [publishes, PollerAt.pending, *]⟩

/-- What `broadcast_control_state` does is no step of `run_agent`. -/
theorem stepWatcher_aside {a : WatcherAction} (h : s.stepWatcher ctx a = some s') :
    Aside s (.watcher a) s' := by
  unfold stepWatcher at h
  split at h <;> (repeat' split at h) <;> cases h
  all_goals first
    | exact aside_finish _ _ rfl
    | exact ⟨rfl, fun _ => rfl, fun _ => id, by simp [publishes, WatcherAt.pending, *]⟩

/-! ## Steps of `run_agent` -/

/-- What `run_agent` can do. -/
inductive MainStep (ctx : StatusContext) (s : RunAgent) : MainAction → RunAgent → Prop
  /-- The `select!` takes the cancellation. -/
  | cancelled : s.main = .selecting → s.cancelled = true →
    MainStep ctx s .cancelled { s with main := .stopping .requested }
  /-- The `select!` takes the end of the agent. -/
  | joined {result : Except JoinError Unit} : s.main = .selecting →
    (s.handles .agent).taken = false → (s.handles .agent).result = some result →
    MainStep ctx s .joined
      (s.took .agent (.stopping (classifyAgentCompletion s.cancelled result)))
  /-- A handle is polled that has given its result. -/
  | repolled {a : MainAction} {task : Task} : (s.handles task).taken = true →
    (a = .joined ∧ s.main = .selecting ∧ task = .agent ∨
      a = .await ∧ ∃ stop rest, s.main = .cleanup stop (task :: rest) ∨
        s.main = .joining stop (task :: rest)) →
    MainStep ctx s a { s with main := .panicked }
  /-- `publish_stopping` begins. -/
  | stop {now : UInt64} : s.main = .stopping .requested →
    MainStep ctx s (.proceed now)
      { s with agent_cancelled := true, main := .publishing (publishStopping ctx now) }
  /-- The agent ended by itself, and the other tasks are to end. -/
  | unexpected {now : UInt64} {result : Except JoinError Unit} :
    s.main = .stopping (.unexpected result) →
    MainStep ctx s (.proceed now)
      { s with
        agent_cancelled := true
        main := .cleanup (.unexpected result) (AgentStop.unexpected result).cleanup }
  /-- One step of `publish_stopping`. -/
  | publish {now : UInt64} {step : PublishStep} {rest : List PublishStep} :
    s.main = .publishing (step :: rest) →
    MainStep ctx s (.proceed now) { s with hub := step.run s.hub, main := .publishing rest }
  /-- `publish_stopping` is done. -/
  | published {now : UInt64} : s.main = .publishing [] →
    MainStep ctx s (.proceed now)
      { s with main := .cleanup .requested AgentStop.requested.cleanup }
  /-- The cleanup gets the result of a task. -/
  | cleaned {stop : AgentStop} {task : Task} {rest : List Task} :
    s.main = .cleanup stop (task :: rest) → (s.handles task).taken = false →
    (s.handles task).result.isSome → MainStep ctx s .await (s.took task (.cleanup stop rest))
  /-- The five seconds are over. -/
  | timeout {stop : AgentStop} {task : Task} {rest : List Task} :
    s.main = .cleanup stop (task :: rest) → (s.handles task).taken = false →
    MainStep ctx s .timeout { s with main := .aborting stop allTasks }
  | abort {now : UInt64} {stop : AgentStop} {task : Task} {rest : List Task} :
    s.main = .aborting stop (task :: rest) →
    MainStep ctx s (.proceed now)
      { s with
        handles := Function.update s.handles task (s.handles task).abort
        main := .aborting stop rest }
  | aborted {now : UInt64} {stop : AgentStop} : s.main = .aborting stop [] →
    MainStep ctx s (.proceed now) { s with main := .joining stop allTasks }
  /-- The result of a task that was aborted. -/
  | rejoined {stop : AgentStop} {task : Task} {rest : List Task} :
    s.main = .joining stop (task :: rest) → (s.handles task).taken = false →
    (s.handles task).result.isSome → MainStep ctx s .await (s.took task (.joining stop rest))
  /-- All tasks have ended. -/
  | finish {now : UInt64} {stop : AgentStop} :
    (s.main = .cleanup stop [] ∨ s.main = .joining stop []) →
    MainStep ctx s (.proceed now) { s with main := .finishing stop }
  | returns {now : UInt64} {stop : AgentStop} : s.main = .finishing stop →
    MainStep ctx s (.proceed now) { s with registered := false, main := .returned stop.outcome }

/-- A handle that is awaited gives its result, or it has given it before. -/
theorem await_eq_some {task : Task} {next : Except JoinError Unit → MainAt}
    (h : s.await task next = some s') :
    (∃ result, (s.handles task).taken = false ∧ (s.handles task).result = some result ∧
      s' = s.took task (next result)) ∨
    ((s.handles task).taken = true ∧ s' = { s with main := .panicked }) := by
  unfold await at h
  split at h
  · cases h
  · next result hpoll =>
    obtain ⟨htaken, hresult⟩ := JoinHandle.poll_eq_ready.1 hpoll
    exact .inl ⟨result, htaken, hresult, (Option.some.inj h).symm⟩
  · next hpoll => exact .inr ⟨JoinHandle.poll_eq_panics.1 hpoll, (Option.some.inj h).symm⟩

/-- `MainStep` lists every step of `run_agent`. -/
theorem stepMain_cases {a : MainAction} (h : s.stepMain ctx a = some s') : MainStep ctx s a s' := by
  unfold stepMain at h
  split at h <;> (try split at h)
  · next hm =>
    split at h
    · next hc => cases h; exact .cancelled hm hc
    · cases h
  · cases h
  · next hm =>
    obtain ⟨result, htaken, hresult, rfl⟩ | ⟨htaken, rfl⟩ := await_eq_some h
    · exact .joined hm htaken hresult
    · exact .repolled htaken (.inl ⟨rfl, hm, rfl⟩)
  · cases h
  · next hm => cases h; exact .stop hm
  · next hm => cases h; exact .unexpected hm
  · next hm => cases h; exact .publish hm
  · next hm => cases h; exact .published hm
  · next hm => cases h; exact .finish (.inl hm)
  · next hm => cases h; exact .abort hm
  · next hm => cases h; exact .aborted hm
  · next hm => cases h; exact .finish (.inr hm)
  · next hm => cases h; exact .returns hm
  · cases h
  · next hm =>
    obtain ⟨result, htaken, hresult, rfl⟩ | ⟨htaken, rfl⟩ := await_eq_some h
    · exact .cleaned hm htaken (by rw [hresult]; rfl)
    · exact .repolled htaken (.inr ⟨rfl, _, _, .inl hm⟩)
  · next hm =>
    obtain ⟨result, htaken, hresult, rfl⟩ | ⟨htaken, rfl⟩ := await_eq_some h
    · exact .rejoined hm htaken (by rw [hresult]; rfl)
    · exact .repolled htaken (.inr ⟨rfl, _, _, .inr hm⟩)
  · cases h
  · next hm =>
    split at h
    · cases h
    · next htaken => cases h; exact .timeout hm (by simpa using htaken)
  · cases h

/-- A step of the system is one of `run_agent`, or it is aside. -/
theorem next_cases {a : Action} (h : s.next ctx a = some s') :
    (∃ m, a = .main m ∧ MainStep ctx s m s') ∨ ((∀ m, a ≠ .main m) ∧ Aside s a s') := by
  unfold next at h
  split at h
  · exact .inr ⟨by simp, stepOutside_aside h⟩
  · split at h
    · exact .inr ⟨by simp, stepStats_aside h⟩
    · cases h
  · split at h
    · exact .inr ⟨by simp, stepPoller_aside h⟩
    · cases h
  · split at h
    · exact .inr ⟨by simp, stepWatcher_aside h⟩
    · cases h
  · exact .inl ⟨_, rfl, stepMain_cases h⟩

end RunAgent

end PlayitAgent
