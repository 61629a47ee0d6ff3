import PlayitAgent.Runtime.Daemon
import PlayitAgent.Runtime.Steps

/-!
# Handles are polled until they give their result

`run_agent` polls the handle of the agent in its `select!`, again in the cleanup, and again after
the timeout of the cleanup; `run_daemon` polls the handle of the IPC task in its `select!` and again
in a timeout. Polling a handle that has given its result panics. Here is when this does not happen.
-/

namespace PlayitAgent

open JoinHandle

/-- The handles that `run_agent` is still going to await, in their order. -/
def MainAt.awaited : MainAt → List Task
  | .selecting => allTasks
  | .stopping stop => stop.cleanup
  | .publishing _ => AgentStop.requested.cleanup
  | .cleanup _ rest => rest
  | .aborting _ _ => allTasks
  | .joining _ rest => rest
  | .finishing _ => []
  | .returned _ => []
  | .panicked => []

/-- The cleanup is waiting for the agent. -/
def MainAt.waitsForAgent : MainAt → Bool
  | .cleanup _ (.agent :: _) => true
  | _ => false

/-- `run_agent` has returned, or it has panicked. -/
def MainAt.ended : MainAt → Bool
  | .returned _ => true
  | .panicked => true
  | _ => false

namespace RunAgent

variable {ctx : StatusContext} {s s' : RunAgent}

/-- No handle was polled that had given its result. -/
def PolledOnce (s : RunAgent) : Prop := s.main ≠ .panicked

/-- The `select!` takes the end of the agent only while no stop is requested, and the timeout of the
cleanup is over, if at all, while it is waiting for the agent. -/
def Orderly (s : RunAgent) : Action → Prop
  | .main .joined => s.cancelled = false
  | .main .timeout => s.main.waitsForAgent = true
  | _ => True

/-! ## Where `run_agent` can be -/

/-- The results that were given away, from where `run_agent` is. -/
def Placed (s : RunAgent) : Prop :=
  match s.main with
  | .stopping (.unexpected _) => (s.handles .agent).taken = true
  | .cleanup _ rest => rest <:+ allTasks ∧ ∀ task ∉ rest, (s.handles task).taken = true
  | .joining _ rest => rest <:+ allTasks ∧ ∀ task ∉ rest, (s.handles task).taken = true
  | .finishing _ => ∀ task, (s.handles task).taken = true
  | .returned _ => ∀ task, (s.handles task).taken = true
  | _ => True

/-- Only a task that has ended has given its result away. -/
def Given (s : RunAgent) : Prop :=
  ∀ task, (s.handles task).taken = true → (s.handles task).result.isSome

/-- There are no other tasks. -/
theorem mem_allTasks (task : Task) : task ∈ allTasks := by
  cases task <;> decide

/-- The handles that are left after the first one. -/
theorem given_of_suffix {task : Task} {rest : List Task} (h : task :: rest <:+ allTasks)
    (htaken : ∀ t ∉ task :: rest, (s.handles t).taken = true) (main : MainAt) :
    rest <:+ allTasks ∧ ∀ t ∉ rest, ((s.took task main).handles t).taken = true := by
  refine ⟨(List.suffix_cons task rest).trans h, fun t ht => ?_⟩
  unfold took
  by_cases heq : t = task
  · subst heq
    simp [JoinHandle.take]
  · simpa [heq] using htaken t (by simp [heq, ht])

/-- Every step keeps the results where `run_agent` has put them. -/
theorem placed_next {a : Action} (h : s.next ctx a = some s') (hs : Placed s) : Placed s' := by
  obtain ⟨m, rfl, hstep⟩ | ⟨-, haside⟩ := next_cases h
  · cases hstep with
    | cancelled hm hc => trivial
    | joined hm ht hr =>
      -- The agent has given its result; a stop that counts as requested forgets that.
      unfold classifyAgentCompletion
      split
      · trivial
      · simp [Placed, took, JoinHandle.take]
    | repolled ht hm => trivial
    | stop hm => trivial
    | unexpected hm =>
      -- The list of the cleanup begins after the agent.
      rw [Placed, hm] at hs
      refine ⟨List.suffix_cons _ _, fun task htask => ?_⟩
      cases task with
      | agent => exact hs
      | stats | state | controlState => simp [AgentStop.cleanup] at htask
    | publish hm => trivial
    | published hm => exact ⟨List.suffix_refl _, fun task htask => absurd (mem_allTasks task) htask⟩
    | cleaned hm ht hr =>
      rw [Placed, hm] at hs
      exact given_of_suffix hs.1 hs.2 _
    | timeout hm ht => trivial
    | abort hm => trivial
    | aborted hm => exact ⟨List.suffix_refl _, fun task htask => absurd (mem_allTasks task) htask⟩
    | rejoined hm ht hr =>
      rw [Placed, hm] at hs
      exact given_of_suffix hs.1 hs.2 _
    | finish hm =>
      rcases hm with hm | hm
      · rw [Placed, hm] at hs
        exact fun task => hs.2 task (by simp)
      · rw [Placed, hm] at hs
        exact fun task => hs.2 task (by simp)
    | returns hm =>
      rw [Placed, hm] at hs
      exact hs
  · unfold Placed at hs ⊢
    rw [haside.main_eq]
    simp only [haside.taken_eq]
    exact hs

/-- The tasks have ended whose results were given away. -/
theorem given_next {a : Action} (h : s.next ctx a = some s') (hs : Given s) : Given s' := by
  -- A result is given away only when it is there.
  have htook : ∀ (task : Task) (main : MainAt), (s.handles task).result.isSome →
      Given (s.took task main) := by
    intro task main hr t ht
    unfold took at ht ⊢
    by_cases heq : t = task
    · subst heq
      simpa [JoinHandle.take] using hr
    · simp only [Function.update_of_ne heq] at ht ⊢
      exact hs t ht
  obtain ⟨m, rfl, hstep⟩ | ⟨-, haside⟩ := next_cases h
  · cases hstep with
    | joined hm ht hr => exact htook _ _ (by rw [hr]; rfl)
    | cleaned hm ht hr => exact htook _ _ hr
    | rejoined hm ht hr => exact htook _ _ hr
    | @abort _ _ task _ hm =>
      intro t ht
      by_cases heq : t = task
      · subst heq
        simp only [Function.update_self, JoinHandle.abort] at ht ⊢
        exact hs t ht
      · simp only [Function.update_of_ne heq] at ht ⊢
        exact hs t ht
    | _ => exact hs
  · intro task ht
    rw [haside.taken_eq] at ht
    exact haside.ended task (hs task ht)

/-! ## When no handle is polled again -/

/-- None of the handles that `run_agent` is still going to await has given its result. -/
def Safe (s : RunAgent) : Prop := s.PolledOnce ∧ Untaken s.handles s.main.awaited

/-- After a handle has given its result, the next ones are awaited. -/
theorem safe_took {task : Task} {rest : List Task} {main : MainAt}
    (hrest : task :: rest <:+ allTasks) (hmain : main.awaited = rest) (hp : main ≠ .panicked)
    (ht : (s.handles task).taken = false) :
    Safe (s.took task main) ↔ Untaken s.handles (task :: rest) := by
  have hnodup : (task :: rest).Nodup := List.Nodup.sublist hrest.sublist (by decide)
  constructor
  · rintro ⟨-, h⟩
    rw [show (s.took task main).main.awaited = rest from hmain] at h
    have h' := (untaken_take hnodup).1 h
    exact List.forall_mem_cons.2 ⟨ht, h'⟩
  · intro h
    refine ⟨hp, ?_⟩
    rw [show (s.took task main).main.awaited = rest from hmain]
    exact (untaken_take hnodup).2 (List.forall_mem_cons.1 h).2

/-- Within the cleanup, the timeout leaves all handles to be awaited. -/
theorem untaken_allTasks {stop : AgentStop} {task : Task} {rest : List Task} (hs : Placed s)
    (hm : s.main = .cleanup stop (task :: rest)) :
    Untaken s.handles allTasks ↔
      Untaken s.handles (task :: rest) ∧ s.main.waitsForAgent = true := by
  rw [Placed, hm] at hs
  obtain ⟨hsuffix, htaken⟩ := hs
  rw [hm]
  constructor
  · intro h
    refine ⟨fun t ht => h t (mem_allTasks t), ?_⟩
    -- The agent's handle has its result, so it is still in the list, and it is the first one there.
    have hagent : Task.agent ∈ task :: rest := by
      by_contra hnot
      have h₁ := htaken _ hnot
      rw [h _ (mem_allTasks _)] at h₁
      cases h₁
    have hall : task :: rest = allTasks := by
      rcases List.suffix_cons_iff.1 hsuffix with heq | hsuffix
      · exact heq
      · have hmem := hsuffix.subset hagent
        simp at hmem
    rw [hall]
    rfl
  · rintro ⟨h, hwaits⟩ t ht
    -- A list that begins with the agent is the whole list.
    have htask : task = .agent := by
      unfold MainAt.waitsForAgent at hwaits
      split at hwaits
      · next heq => cases heq; rfl
      · cases hwaits
    subst htask
    have hall : Task.agent :: rest = allTasks := by
      rcases List.suffix_cons_iff.1 hsuffix with heq | hsuffix
      · exact heq
      · have hmem := hsuffix.subset (List.mem_cons_self ..)
        simp at hmem
    exact h t (hall ▸ mem_allTasks t)

/-- A step after which the same handles are awaited. -/
theorem safe_moved {a : Action} (ho : Orderly s a) (hp : s.PolledOnce) (hp' : s'.PolledOnce)
    (hawaited : s'.main.awaited = s.main.awaited)
    (htaken : ∀ task, (s'.handles task).taken = (s.handles task).taken) :
    Safe s' ↔ Safe s ∧ Orderly s a := by
  unfold Safe
  rw [hawaited, Untaken.congr htaken]
  simp [ho, hp, hp']

/-- The `select!` takes the end of the agent. -/
theorem safe_joined {result : Except JoinError Unit} (hm : s.main = .selecting)
    (ht : (s.handles .agent).taken = false) :
    Safe (s.took .agent (.stopping (classifyAgentCompletion s.cancelled result))) ↔
      Safe s ∧ Orderly s (.main .joined) := by
  have hsafe : Safe s ↔ Untaken s.handles allTasks := by
    simp [Safe, PolledOnce, MainAt.awaited, hm]
  rw [hsafe]
  unfold Orderly classifyAgentCompletion
  cases s.cancelled with
  | true =>
    -- The stop counts as requested, and the cleanup is going to await the agent again.
    have hnot : ¬ Safe (s.took .agent (.stopping .requested)) := fun hsafe =>
      not_untaken_of_mem (mem_allTasks .agent) hsafe.2
    simp [hnot]
  | false =>
    -- The cleanup leaves the agent out, and awaits the other three.
    have htook : Safe (s.took .agent (.stopping (.unexpected result))) ↔
        Untaken s.handles allTasks := safe_took (List.suffix_refl _) rfl (by simp) ht
    simpa using htook

/-- A handle is polled again only where it was not safe before. -/
theorem not_safe_of_taken {task : Task} (ht : (s.handles task).taken = true)
    (hmem : task ∈ s.main.awaited) : ¬ Safe s := by
  rintro ⟨-, hsafe⟩
  rw [hsafe task hmem] at ht
  cases ht

/-- The five seconds of the cleanup are over, and all handles are going to be awaited. -/
theorem safe_timeout {stop : AgentStop} {task : Task} {rest : List Task} (hs : Placed s)
    (hm : s.main = .cleanup stop (task :: rest)) :
    Safe { s with main := .aborting stop allTasks } ↔ Safe s ∧ Orderly s (.main .timeout) := by
  have hsafe : Safe s ↔ Untaken s.handles (task :: rest) := by
    simp [Safe, PolledOnce, MainAt.awaited, hm]
  have hsafe' : Safe { s with main := .aborting stop allTasks } ↔ Untaken s.handles allTasks := by
    simp [Safe, PolledOnce, MainAt.awaited]
  rw [hsafe, hsafe']
  exact untaken_allTasks hs hm

/-- A step of `run_agent` leads to a safe state exactly from a safe one and in order. -/
theorem safe_mainStep_iff {m : MainAction} (hstep : MainStep ctx s m s') (hs : Placed s) :
    Safe s' ↔ Safe s ∧ Orderly s (.main m) := by
  cases hstep with
  | joined hm ht hr => exact safe_joined hm ht
  | @repolled _ task ht hm =>
    have hmem : task ∈ s.main.awaited := by
      obtain ⟨rfl, hm, rfl⟩ | ⟨rfl, stop, rest, hm | hm⟩ := hm
      · rw [hm]; exact mem_allTasks _
      · rw [hm]; exact List.mem_cons_self ..
      · rw [hm]; exact List.mem_cons_self ..
    have hnot' : ¬ Safe { s with main := .panicked } := fun hsafe => hsafe.1 rfl
    simp only [not_safe_of_taken ht hmem, hnot', false_and]
  | cleaned hm ht hr | rejoined hm ht hr =>
    rw [Placed, hm] at hs
    rw [safe_took hs.1 rfl (by simp) ht]
    simp [Safe, PolledOnce, Orderly, MainAt.awaited, hm]
  | timeout hm ht => exact safe_timeout hs hm
  | @abort _ _ task _ hm =>
    refine safe_moved trivial (by simp [PolledOnce, hm]) (by simp [PolledOnce])
      (by rw [hm]; rfl) fun t => ?_
    by_cases heq : t = task
    · subst heq
      simp [JoinHandle.abort]
    · simp [heq]
  | finish hm =>
    rcases hm with hm | hm
    · exact safe_moved trivial (by simp [PolledOnce, hm]) (by simp [PolledOnce])
        (by rw [hm]; rfl) fun _ => rfl
    · exact safe_moved trivial (by simp [PolledOnce, hm]) (by simp [PolledOnce])
        (by rw [hm]; rfl) fun _ => rfl
  -- The other steps go on to the next statement, and the same handles are awaited.
  | cancelled hm | stop hm | unexpected hm | publish hm | published hm | aborted hm | returns hm =>
    exact safe_moved trivial (by simp [PolledOnce, hm]) (by simp [PolledOnce])
      (by rw [hm]; rfl) fun _ => rfl

/-- A step leads to a safe state exactly from a safe one and in order. -/
theorem safe_next_iff {a : Action} (h : s.next ctx a = some s') (hs : Placed s) :
    Safe s' ↔ Safe s ∧ Orderly s a := by
  obtain ⟨m, rfl, hstep⟩ | ⟨hother, haside⟩ := next_cases h
  · exact safe_mainStep_iff hstep hs
  · have horderly : Orderly s a := by
      unfold Orderly
      split
      · exact absurd rfl (hother _)
      · exact absurd rfl (hother _)
      · trivial
    unfold Safe PolledOnce
    rw [haside.main_eq, Untaken.congr haside.taken_eq]
    simp [horderly]

/-- Every run: it is safe as long as its steps are in order. -/
theorem safe_run {hub : Hub} {control : ControlWatch} {cancelled : Bool}
    {trace : List (Action × Unit)} (h : Run (step ctx) (spawned hub control cancelled) trace s) :
    Safe s ↔ Along (step ctx) Orderly (spawned hub control cancelled) trace := by
  refine h.iff_along (I := Placed) ⟨by simp [PolledOnce, spawned], fun _ _ => rfl⟩ trivial ?_ ?_
  · intro s s' a o hs hstep
    exact placed_next (ofOption_eq_ok.1 hstep) hs
  · intro s s' a o hs hstep
    exact safe_next_iff (ofOption_eq_ok.1 hstep) hs

/-- When `run_agent` has returned, all of its tasks have ended. -/
theorem ended_of_returned {hub : Hub} {control : ControlWatch} {cancelled : Bool}
    {outcome : Except RuntimeError Unit}
    (h : Reachable (step ctx) (spawned hub control cancelled) s)
    (hm : s.main = .returned outcome) (task : Task) : s.running task = false := by
  have hinv : Placed s ∧ Given s := by
    refine h.invariant (I := fun s => Placed s ∧ Given s) ⟨trivial, ?_⟩ ?_
    · intro task ht
      cases ht
    · intro s s' a o hs hstep
      have hnext := ofOption_eq_ok.1 hstep
      exact ⟨placed_next hnext hs.1, given_next hnext hs.2⟩
  obtain ⟨hplaced, hgiven⟩ := hinv
  rw [Placed, hm] at hplaced
  have hsome := hgiven task (hplaced task)
  unfold running
  rwa [Option.isNone_eq_false_iff]

end RunAgent

/-! ## `run_daemon` -/

namespace Daemon

variable {d d' : Daemon}

/-- No handle was polled that had given its result. -/
def PolledOnce (d : Daemon) : Prop := d.main ≠ .panicked

/-- `run_daemon` has returned, or it has panicked. -/
def ended (d : Daemon) : Bool :=
  match d.main with
  | .returned _ => true
  | .panicked => true
  | _ => false

/-- The `select!` takes the end of the IPC task only when the task has panicked. -/
def Orderly (d : Daemon) : Action → Prop
  | .takeIpc => ∀ result, d.ipc_task.result ≠ some (.ok result)
  | _ => True

/-- `run_daemon` is still going to await the IPC task. -/
def awaitsIpc (d : Daemon) : Bool :=
  match d.main with
  | .selecting => true
  | .stopping _ => true
  | .waitingIpc _ => true
  | _ => false

/-- The IPC task has not given its result while it is still to be awaited. -/
def Safe (d : Daemon) : Prop := d.PolledOnce ∧ (d.awaitsIpc = true → d.ipc_task.taken = false)

/-- The supervisor is forgotten as soon as it has given its result. -/
def Waited (d : Daemon) : Prop := ∀ handle, d.supervisor = some handle → handle.taken = false

/-- `PlayitRuntime::wait` never panics. -/
theorem wait_eq_some {then_ : Except RuntimeError Unit → DaemonAt} (hd : Waited d)
    (h : d.wait then_ = some d') :
    ∃ result, d' = { d with supervisor := none, main := then_ result } := by
  unfold wait at h
  split at h
  · next hnone =>
    cases h
    exact ⟨.ok (), by rw [← hnone]⟩
  · next handle hsome =>
    split at h
    · cases h
    · cases h
      exact ⟨_, rfl⟩
    · next hpanics =>
      have htaken := poll_eq_panics.1 hpanics
      rw [hd handle hsome] at htaken
      cases htaken

/-- The IPC task that is awaited gives its result, or it has given it before. -/
theorem awaitIpc_eq_some {then_ : Except JoinError (Except IpcError Unit) → DaemonAt}
    (h : d.awaitIpc then_ = some d') :
    (∃ result, d.ipc_task.taken = false ∧ d.ipc_task.result = some result ∧
      d' = { d with ipc_task := d.ipc_task.take, main := then_ result }) ∨
    (d.ipc_task.taken = true ∧ d' = { d with main := .panicked }) := by
  unfold awaitIpc at h
  split at h
  · cases h
  · next result hpoll =>
    obtain ⟨htaken, hresult⟩ := poll_eq_ready.1 hpoll
    exact .inl ⟨result, htaken, hresult, (Option.some.inj h).symm⟩
  · next hpoll => exact .inr ⟨poll_eq_panics.1 hpoll, (Option.some.inj h).symm⟩

/-- A step that takes no result of the IPC task and goes from one statement to another. -/
theorem safe_moved {a : Action} (ho : Orderly d a) (hp : d.PolledOnce) (hp' : d'.PolledOnce)
    (htaken : d'.ipc_task.taken = d.ipc_task.taken) (hawaits : d'.awaitsIpc = d.awaitsIpc) :
    Safe d' ↔ Safe d ∧ Orderly d a := by
  unfold Safe
  rw [htaken, hawaits]
  simp [ho, hp, hp']

/-- A step in which `run_daemon` stays where it is. -/
theorem safe_aside {a : Action} (ho : Orderly d a) (hmain : d'.main = d.main)
    (htaken : d'.ipc_task.taken = d.ipc_task.taken) : Safe d' ↔ Safe d ∧ Orderly d a := by
  unfold Safe PolledOnce awaitsIpc
  rw [htaken, hmain]
  simp [ho]

/-- The supervisor is forgotten as soon as it has given its result, whatever happens. -/
theorem waited_next {a : Action} (h : d.next a = some d') (hd : Waited d) : Waited d' := by
  have hwait : ∀ then_, d.wait then_ = some d' → Waited d' := by
    intro then_ h handle hsome
    obtain ⟨result, rfl⟩ := wait_eq_some hd h
    cases hsome
  have hipc : ∀ then_, d.awaitIpc then_ = some d' → Waited d' := by
    intro then_ h
    obtain ⟨result, -, -, rfl⟩ | ⟨-, rfl⟩ := awaitIpc_eq_some h
    · exact hd
    · exact hd
  unfold next at h
  split at h <;> (repeat' split at h)
  all_goals first
    | exact hwait _ h
    | exact hipc _ h
    | (cases h; done)
    | (cases h; exact hd)
    | skip
  next handle hsome hnone =>
    cases h
    rintro _ ⟨⟩
    exact hd handle hsome

/-- The IPC task is polled again only where it was not safe before. -/
theorem safe_repolled {a : Action} (htaken : d.ipc_task.taken = true)
    (hawaits : d.awaitsIpc = true) :
    Safe { d with main := .panicked } ↔ Safe d ∧ Orderly d a := by
  have hnot : ¬ Safe d := by
    intro hsafe
    rw [hsafe.2 hawaits] at htaken
    cases htaken
  have hnot' : ¬ Safe { d with main := .panicked } := fun hsafe => hsafe.1 rfl
  simp only [hnot, hnot', false_and]

/-- The `select!` takes the end of the IPC task. -/
theorem safe_takeIpc (hm : d.main = .selecting) (h : d.awaitIpc ipcEnded = some d') :
    Safe d' ↔ Safe d ∧ Orderly d .takeIpc := by
  obtain ⟨result, htaken, hresult, rfl⟩ | ⟨htaken, rfl⟩ := awaitIpc_eq_some h
  · have hsafe : Safe d := ⟨by simp [PolledOnce, hm], fun _ => htaken⟩
    simp only [Orderly, hresult, hsafe, true_and]
    -- A panic is returned at once; after anything else the handle is going to be polled again.
    rcases result with error | (error | ⟨⟨⟩⟩)
    · simp [Safe, PolledOnce, awaitsIpc, ipcEnded]
    · simp [Safe, PolledOnce, awaitsIpc, ipcEnded, JoinHandle.take]
    · simp [Safe, PolledOnce, awaitsIpc, ipcEnded, JoinHandle.take]
  · exact safe_repolled htaken (by simp [awaitsIpc, hm])

/-- The IPC task ends while `run_daemon` is waiting for it. -/
theorem safe_waitIpc {result : Except DaemonError Unit} (hm : d.main = .waitingIpc result)
    (h : d.awaitIpc (fun _ => .shutdown result) = some d') :
    Safe d' ↔ Safe d ∧ Orderly d .await := by
  obtain ⟨_, htaken, hresult, rfl⟩ | ⟨htaken, rfl⟩ := awaitIpc_eq_some h
  · simp [Safe, PolledOnce, awaitsIpc, Orderly, hm, htaken]
  · exact safe_repolled htaken (by simp [awaitsIpc, hm])

/-- A step leads to a safe state exactly from a safe one and in order. -/
theorem safe_next_iff {a : Action} (h : d.next a = some d') (hd : Waited d) :
    Safe d' ↔ Safe d ∧ Orderly d a := by
  cases a with
  | interrupt | requestStop => cases h; exact safe_aside trivial rfl rfl
  | runtimeEnds result =>
    simp only [next] at h
    split at h <;> (try split at h) <;> cases h
    exact safe_aside trivial rfl rfl
  | ipcBreaks | ipcPanics text =>
    simp only [next] at h
    split at h <;> cases h
    exact safe_aside trivial rfl rfl
  | takeInterrupt | takeHostShutdown =>
    simp only [next] at h
    split at h <;> (try split at h) <;> cases h
    next hm _ =>
      exact safe_moved trivial (by simp [PolledOnce, hm]) (by simp [PolledOnce]) rfl
        (by simp [awaitsIpc, hm])
  | takeRuntime =>
    simp only [next] at h
    split at h
    · next hm =>
      obtain ⟨result, rfl⟩ := wait_eq_some hd h
      cases result <;> exact safe_moved trivial (by simp [PolledOnce, hm])
        (by simp [PolledOnce, runtimeEnded]) rfl (by simp [awaitsIpc, runtimeEnded, hm])
    · cases h
  | takeIpc =>
    simp only [next] at h
    split at h
    · next hm => exact safe_takeIpc hm h
    · cases h
  | proceed =>
    simp only [next] at h
    split at h <;> cases h
    all_goals
      next hm =>
        exact safe_moved trivial (by simp [PolledOnce, hm]) (by simp [PolledOnce]) rfl
          (by simp [awaitsIpc, hm])
  | await =>
    simp only [next] at h
    split at h
    · next hm => exact safe_waitIpc hm h
    · next hm =>
      obtain ⟨result, rfl⟩ := wait_eq_some hd h
      exact safe_moved trivial (by simp [PolledOnce, hm]) (by simp [PolledOnce]) rfl
        (by simp [awaitsIpc, hm])
    · cases h
  | timeout =>
    simp only [next] at h
    split at h <;> (try split at h) <;> cases h
    next hm htaken =>
      simp only [Bool.not_eq_true] at htaken
      simp [Safe, PolledOnce, awaitsIpc, Orderly, hm, htaken]

/-- Every run: it is safe as long as its steps are in order. -/
theorem safe_run {trace : List (Action × Unit)} (h : Run step spawned trace d) :
    Safe d ↔ Along step Orderly spawned trace := by
  refine h.iff_along (I := Waited) ⟨by simp [PolledOnce, spawned], fun _ => rfl⟩ ?_ ?_ ?_
  · rintro _ ⟨⟩
    rfl
  · intro d d' a o hd hstep
    exact waited_next (ofOption_eq_ok.1 hstep) hd
  · intro d d' a o hd hstep
    exact safe_next_iff (ofOption_eq_ok.1 hstep) hd

end Daemon

/-! ## Every order of events -/

/-- `run_agent` polls no handle that has given its result, whatever the order of cancellation,
completions and timeout, as long as its `select!` takes the end of the agent only while no stop is
requested and the timeout of the cleanup is over only while it is waiting for the agent; and a run
to the end in which this fails polls such a handle. `run_daemon` does so as long as its `select!`
takes the end of the IPC task only when the task has panicked, and otherwise does not. -/
theorem handles_polled_once_iff (ctx : StatusContext) (hub : Hub) (control : ControlWatch)
    (cancelled : Bool) :
    (∀ trace s, Run (RunAgent.step ctx) (.spawned hub control cancelled) trace s →
      (Along (RunAgent.step ctx) RunAgent.Orderly (.spawned hub control cancelled) trace →
        Throughout (RunAgent.step ctx) RunAgent.PolledOnce (.spawned hub control cancelled) trace) ∧
      (s.main.ended = true →
        Throughout (RunAgent.step ctx) RunAgent.PolledOnce (.spawned hub control cancelled) trace →
        Along (RunAgent.step ctx) RunAgent.Orderly (.spawned hub control cancelled) trace)) ∧
    (∀ trace d, Run Daemon.step .spawned trace d →
      (Along Daemon.step Daemon.Orderly .spawned trace →
        Throughout Daemon.step Daemon.PolledOnce .spawned trace) ∧
      (d.ended = true → Throughout Daemon.step Daemon.PolledOnce .spawned trace →
        Along Daemon.step Daemon.Orderly .spawned trace)) := by
  refine ⟨fun trace s hrun => ⟨fun hall => ?_, fun hended hpolled => ?_⟩,
    fun trace d hrun => ⟨fun hall => ?_, fun hended hpolled => ?_⟩⟩
  · intro before s₀ hpre hrun₀
    exact ((RunAgent.safe_run hrun₀).2 (hall.of_prefix hpre)).1
  · -- At the end no handle is to be awaited any more.
    have hp : s.PolledOnce := hpolled trace s (List.prefix_refl _) hrun
    have hawaited : s.main.awaited = [] := by
      cases hm : s.main with
      | returned outcome => rfl
      | panicked => rfl
      | _ => simp [hm, MainAt.ended] at hended
    refine (RunAgent.safe_run hrun).1 ⟨hp, ?_⟩
    rw [hawaited]
    exact fun _ hmem => absurd hmem (List.not_mem_nil)
  · intro before d₀ hpre hrun₀
    exact ((Daemon.safe_run hrun₀).2 (hall.of_prefix hpre)).1
  · have hp : d.PolledOnce := hpolled trace d (List.prefix_refl _) hrun
    refine (Daemon.safe_run hrun).1 ⟨hp, fun hawaits => ?_⟩
    cases hm : d.main with
    | returned result => simp [Daemon.awaitsIpc, hm] at hawaits
    | panicked => exact absurd hm hp
    | _ => simp [Daemon.ended, hm] at hended

namespace Sample

/-- A runtime for the examples. -/
def ctx : StatusContext := ⟨none, "1.0.0", 0, 1⟩

/-- What was published before `run_agent` starts. -/
def hub : Hub :=
  (publishState (ctx.status 0 .running true none) .starting).foldl PublishStep.run ⟨.default, []⟩

/-- `run_agent` has spawned its tasks. -/
def start : RunAgent := .spawned hub ⟨.connected, 0, false⟩ false

/-- A stop is requested and the agent ends, and the `select!` takes the end of the agent. -/
def agentFirst : List RunAgent.Action :=
  [.outside .requestShutdown, .outside .agentReturns, .main .joined, .main (.proceed 0),
    .main (.proceed 0), .main (.proceed 0), .main (.proceed 0), .main (.proceed 0),
    .main (.proceed 0), .main .await]

/-- A stop is requested, all tasks end, and the cleanup gets their results. -/
def cleanStop : List RunAgent.Action :=
  [.watcher .borrow, .watcher (.readSecret 0), .watcher .publish, .watcher .publish,
    .watcher .publish, .outside .requestShutdown, .main .cancelled, .main (.proceed 0),
    .main (.proceed 0), .main (.proceed 0), .main (.proceed 0), .main (.proceed 0),
    .main (.proceed 0), .stats .cancelled, .poller .cancelled, .watcher .cancelled,
    .outside .agentReturns, .main .await, .main .await, .main .await, .main .await,
    .main (.proceed 0), .main (.proceed 0)]

/-- A client asks the daemon to stop, and the `select!` takes the end of the IPC task. -/
def ipcFirst : List Daemon.Action :=
  [.requestStop, .ipcBreaks, .takeIpc, .proceed, .await]

/-- Ctrl+C, and the daemon shuts down. -/
def ctrlC : List Daemon.Action :=
  [.interrupt, .takeInterrupt, .proceed, .ipcBreaks, .await, .proceed, .runtimeEnds (.ok (.ok ())),
    .await]

end Sample

/-- Both programs can poll a handle again: `run_agent` when the agent ends after a stop was
requested and the `select!` takes the end of the agent, and `run_daemon` when a client asks it to
stop and the `select!` takes the end of the IPC task. -/
theorem handles_polled_again :
    (¬ ∀ trace s, Run (RunAgent.step Sample.ctx) Sample.start trace s → s.PolledOnce) ∧
    ¬ ∀ trace d, Run Daemon.step .spawned trace d → d.PolledOnce := by
  constructor
  · intro hall
    obtain ⟨s, hs, hm⟩ : ∃ s,
        takes (RunAgent.next Sample.ctx) Sample.start Sample.agentFirst = some s ∧
        s.main = .panicked := ⟨_, rfl, rfl⟩
    exact hall _ s (Run.nil.takes hs) hm
  · intro hall
    obtain ⟨d, hd, hm⟩ : ∃ d, takes Daemon.next .spawned Sample.ipcFirst = some d ∧
        d.main = .panicked := ⟨_, rfl, rfl⟩
    exact hall _ d (Run.nil.takes hd) hm

/-- A stop that is requested while the tasks are running, and Ctrl+C, poll each handle once. -/
theorem handles_polled_once_sample :
    Throughout (RunAgent.step Sample.ctx) RunAgent.PolledOnce Sample.start
      (Sample.cleanStop.map fun a => (a, ())) ∧
    Throughout Daemon.step Daemon.PolledOnce .spawned (Sample.ctrlC.map fun a => (a, ())) := by
  obtain ⟨hagent, hdaemon⟩ :=
    handles_polled_once_iff Sample.ctx Sample.hub ⟨.connected, 0, false⟩ false
  obtain ⟨s, hs, -⟩ : ∃ s, takes (RunAgent.next Sample.ctx) Sample.start Sample.cleanStop = some s ∧
      s.main = .returned (.ok ()) := ⟨_, rfl, rfl⟩
  obtain ⟨d, hd, -⟩ : ∃ d, takes Daemon.next .spawned Sample.ctrlC = some d ∧
      d.main = .returned (.ok ()) := ⟨_, rfl, rfl⟩
  constructor
  · refine (hagent _ s (Run.nil.takes hs)).1 (along_of_forall ?_)
    simp [Sample.cleanStop, RunAgent.Orderly]
  · refine (hdaemon _ d (Run.nil.takes hd)).1 (along_of_forall ?_)
    simp [Sample.ctrlC, Daemon.Orderly]

end PlayitAgent
