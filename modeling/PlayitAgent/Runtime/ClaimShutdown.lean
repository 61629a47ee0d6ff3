import PlayitAgent.Runtime.OneClaim

/-!
# Claim tasks and the shutdown

`PlayitRuntime::shutdown` waits for the supervisor and then joins the claim tasks that it finds in
`claim_tasks`. A call of `start_claim` looks at the cancellation once, before two awaits and the
spawn of its task, and puts the handle into `claim_tasks` behind another. So a call that is past its
checks when `shutdown` takes the list can leave a task behind. No task is left when no call is
between the store of a code and the list at that time, and none stores a code later.
-/

namespace PlayitAgent

namespace ClaimSystem

/-- A call has the handle of the task of a code, which is not in `claim_tasks` yet. -/
def Tracking (s : ClaimSystem) (code : String) : Prop := ∃ i, s.call i = .tracking code

/-- The handles that `supervise` has taken and not yet joined. -/
def superviseTasks (s : ClaimSystem) : List String :=
  match s.supervise with
  | .joining tasks => tasks
  | _ => []

/-- The handles that `shutdown` has taken and not yet joined. -/
def shutdownTasks (s : ClaimSystem) : List String :=
  match s.shutdown with
  | .joining tasks => tasks
  | _ => []

/-- `shutdown` has taken the list. -/
def Taken (s : ClaimSystem) : Prop :=
  (∃ tasks, s.shutdown = .joining tasks) ∨ s.shutdown = .returned

/-- The condition for a step to leave no task behind. When `shutdown` takes the list, no call is
about to spawn a task or to put the handle of one that runs into the list; when it has taken the
list, a call that gets the lock of `claim_code` finds a code there; and no call is dropped with the
handle of a task that runs. -/
def Registered (s : ClaimSystem) : Action → Prop
  | .shutdownTake => (∀ c, ¬s.Spawning c) ∧ ∀ c, s.Tracking c → ¬s.Active c
  | .look _ _ => s.Taken → s.claim_code ≠ none
  | .drop i => ∀ c, s.call i = .tracking c → ¬s.Active c
  | _ => True

/-! ## The invariant -/

/-- Every task that runs is known to a list or to a call, and to the list of `shutdown` once it has
taken that. -/
structure Known (s : ClaimSystem) : Prop where
  active : ∀ c, s.Active c →
    c ∈ s.claim_tasks ∨ s.Tracking c ∨ c ∈ s.superviseTasks ∨ c ∈ s.shutdownTasks
  /-- `shutdown` takes the list when the supervisor has ended. -/
  waited : s.shutdown = .locking ∨ s.Taken → s.supervise = .ended
  /-- No call spawns a task any more. -/
  spawning : s.Taken → ∀ c, ¬s.Spawning c
  /-- The tasks that come into the list later have ended. -/
  ended : s.Taken → ∀ c, s.Tracking c ∨ c ∈ s.claim_tasks → ¬s.Active c

variable {s s' : ClaimSystem} {a : Action}

/-- At first there are no tasks. -/
theorem known_start (source : SecretSource) (lifecycle : AgentLifecycle) :
    Known (start source lifecycle) where
  active c hc := by simp [Active, start] at hc
  waited h := by simp [Taken, start] at h
  spawning h := by simp [Taken, start] at h
  ended h := by simp [Taken, start] at h

/-- A step that starts no task, and after which every task that runs is with the same call or in the
same list. -/
theorem Known.mono (hs : Known s) (hactive : ∀ c, s'.Active c → s.Active c)
    (hspawning : ∀ c, s'.Spawning c → s.Spawning c)
    (htracking : ∀ c, s'.Tracking c → s.Tracking c)
    (hkept : ∀ c, s'.Active c → s.Tracking c → s'.Tracking c)
    (htasks : s'.claim_tasks = s.claim_tasks) (hsupervise : s'.supervise = s.supervise)
    (hshutdown : s'.shutdown = s.shutdown) : Known s' := by
  have htaken : s'.Taken ↔ s.Taken := by simp only [Taken, hshutdown]
  refine ⟨fun c hc => ?_, fun h => ?_, fun h c hc => ?_, fun h c hc hc' => ?_⟩
  · have hsame : s'.superviseTasks = s.superviseTasks ∧ s'.shutdownTasks = s.shutdownTasks := by
      simp only [superviseTasks, shutdownTasks, hsupervise, hshutdown, and_self]
    rw [htasks, hsame.1, hsame.2]
    exact (hs.active c (hactive c hc)).imp_right (.imp_left (hkept c hc))
  · rw [hshutdown, htaken] at h
    rw [hsupervise]
    exact hs.waited h
  · exact hs.spawning (htaken.1 h) c (hspawning c hc)
  · rw [htasks] at hc
    exact hs.ended (htaken.1 h) c (hc.imp_left (htracking c)) (hactive c hc')

/-- A handle stays with its call when another call goes somewhere else. -/
theorem Tracking.setCall {c : String} (h : s.Tracking c) {i : ℕ} (hi : s.call i ≠ .tracking c)
    (call : ClaimCall) : (s.setCall i call).Tracking c := by
  obtain ⟨j, hj⟩ := h
  have hji : j ≠ i := by
    rintro rfl
    exact hi hj
  refine ⟨j, ?_⟩
  rw [setCall_call_of_ne hji]
  exact hj

/-- A call goes somewhere else, where it has no handle and is not about to spawn a task. What it had
a handle of does not run. -/
theorem Known.setCall (hs : Known s) {i : ℕ} {call : ClaimCall}
    (hi : ∀ c, s.call i = .tracking c → ¬s.Active c) (hspawning : ∀ c, call ≠ .spawning c)
    (htracking : ∀ c, call ≠ .tracking c) : Known (s.setCall i call) := by
  refine hs.mono (fun c hc => hc) ?_ ?_ ?_ rfl rfl rfl
  · rintro c ⟨j, hj⟩
    exact ⟨j, call_of_setCall (hspawning c) hj⟩
  · rintro c ⟨j, hj⟩
    exact ⟨j, call_of_setCall (htracking c) hj⟩
  · intro c hc htracked
    exact htracked.setCall (fun h => hi c h hc) call

/-- A call stores a code, before `shutdown` has taken the list. -/
theorem Known.store (hs : Known s) {i : ℕ} {code : String} (hi : s.call i = .locking)
    (htaken : ¬s.Taken) :
    Known { s.setCall i (.spawning code) with
      claim_code := some code, used := code :: s.used } where
  active c hc := by
    have hne : s.call i ≠ .tracking c := by simp [hi]
    exact (hs.active c hc).imp_right (.imp_left fun htracked => htracked.setCall hne _)
  waited := hs.waited
  spawning h := absurd h htaken
  ended h := absurd h htaken

/-- A call spawns its task, and has the handle of it. -/
theorem Known.spawn (hs : Known s) {i : ℕ} {code : String} (hi : s.call i = .spawning code) :
    Known ((s.setFlow code .top).setCall i (.tracking code)) := by
  have htaken : ¬s.Taken := fun h => hs.spawning h code ⟨i, hi⟩
  refine ⟨fun c hc => ?_, hs.waited, fun h => absurd h htaken, fun h => absurd h htaken⟩
  by_cases hcc : c = code
  · subst hcc
    exact .inr (.inl ⟨i, setCall_call _ i _⟩)
  · have hc₀ : s.Active c := by
      simp only [Active, ClaimSystem.setCall, setFlow_flow_of_ne hcc] at hc
      exact hc
    have hne : s.call i ≠ .tracking c := by simp [hi]
    exact (hs.active c hc₀).imp_right (.imp_left fun htracked => htracked.setCall hne _)

/-- A call puts the handle of its task into the list, from which it takes those that have ended. -/
theorem Known.track (hs : Known s) {i : ℕ} {code : String} (hi : s.call i = .tracking code) :
    Known { s.setCall i (.joining code (s.claim_tasks.filter s.isFinished)) with
      claim_tasks := s.claim_tasks.filter (fun task => !s.isFinished task) ++ [code] } := by
  refine ⟨fun c hc => ?_, hs.waited, ?_, ?_⟩
  · obtain hmem | htracked | hrest := hs.active c hc
    · refine .inl (List.mem_append_left _ (List.mem_filter.2 ⟨hmem, ?_⟩))
      have hne : s.flow c ≠ .ended := hc.2
      simpa [isFinished] using hne
    · by_cases hcc : c = code
      · exact .inl (List.mem_append_right _ (List.mem_singleton.2 hcc))
      · have hne : s.call i ≠ .tracking c := by
          rw [hi]
          exact fun h => hcc (ClaimCall.tracking.inj h).symm
        exact .inr (.inl (htracked.setCall hne _))
    · exact .inr (.inr hrest)
  · rintro h c ⟨j, hj⟩
    exact hs.spawning h c ⟨j, call_of_setCall (by simp) hj⟩
  · rintro h c (⟨j, hj⟩ | hmem)
    · exact hs.ended h c (.inl ⟨j, call_of_setCall (by simp) hj⟩)
    · rcases List.mem_append.1 hmem with hmem | hmem
      · exact hs.ended h c (.inr (List.mem_filter.1 hmem).1)
      · rw [List.mem_singleton.1 hmem]
        exact hs.ended h code (.inl ⟨i, hi⟩)

/-- A task that runs takes a step. -/
theorem Known.setFlow (hs : Known s) {code : String} (hcode : s.Active code) (flow : FlowAt) :
    Known (s.setFlow code flow) := by
  refine hs.mono (fun c hc => ?_) (fun c hc => hc) (fun c hc => hc) (fun c _ hc => hc) rfl rfl rfl
  by_cases hcc : c = code
  · rw [hcc]
    exact hcode
  · simp only [Active, setFlow_flow_of_ne hcc] at hc
    exact hc

/-- A step of `supervise`, which has not ended: what it takes from `claim_tasks` it has, and it lets
go of a task when that has ended. -/
theorem Known.supervise (hs : Known s) (hne : s.supervise ≠ .ended) (hflow : s'.flow = s.flow)
    (hcall : s'.call = s.call) (hshutdown : s'.shutdown = s.shutdown)
    (htasks : ∀ c, s.Active c → c ∈ s.claim_tasks ∨ c ∈ s.superviseTasks →
      c ∈ s'.claim_tasks ∨ c ∈ s'.superviseTasks) : Known s' := by
  -- `shutdown` still waits for the supervisor, so it has not taken the list.
  have hwaited : ¬(s'.shutdown = .locking ∨ s'.Taken) := by
    simp only [Taken, hshutdown]
    exact fun h => hne (hs.waited h)
  refine ⟨fun c hc => ?_, fun h => absurd h hwaited, fun h => absurd (.inr h) hwaited,
    fun h => absurd (.inr h) hwaited⟩
  have hc₀ : s.Active c := by
    simp only [Active, hflow] at hc
    exact hc
  have htracking : s'.Tracking c ↔ s.Tracking c := by simp only [Tracking, hcall]
  have hlist : s'.shutdownTasks = s.shutdownTasks := by simp only [shutdownTasks, hshutdown]
  rw [htracking, hlist]
  have hcases := hs.active c hc₀
  have hmem := htasks c hc₀
  tauto

/-- `supervise` joins the next handle that it has taken. -/
theorem Known.superviseJoin (hs : Known s) (h : s.next .superviseJoin = some s') : Known s' := by
  obtain ⟨hjoining, rfl⟩ | ⟨d, rest, hjoining, hd, rfl⟩ := superviseJoin_eq_some h
  · refine hs.supervise (by simp [hjoining]) rfl rfl rfl fun c hc hmem => ?_
    simpa [superviseTasks, hjoining] using hmem
  · refine hs.supervise (by simp [hjoining]) rfl rfl rfl fun c hc hmem => ?_
    simp only [superviseTasks, hjoining, List.mem_cons] at hmem
    obtain hmem | rfl | hmem := hmem
    · exact .inl hmem
    · exact absurd hd hc.2
    · exact .inr hmem

/-- A step of `shutdown` before it takes the list. -/
theorem Known.shutdownBefore (hs : Known s) {cancel : Bool} {shutdown : ShutdownAt}
    (h₀ : ∀ tasks, s.shutdown ≠ .joining tasks)
    (h : shutdown = .waiting ∨ (shutdown = .locking ∧ s.supervise = .ended)) :
    Known { s with cancel, shutdown } := by
  have htaken : ¬({ s with cancel, shutdown }).Taken := by
    rcases h with rfl | ⟨rfl, -⟩ <;> simp [Taken]
  refine ⟨fun c hc => ?_, fun hw => ?_, fun h => absurd h htaken, fun h => absurd h htaken⟩
  · obtain hmem | htracking | hmem | hmem := hs.active c hc
    · exact .inl hmem
    · exact .inr (.inl htracking)
    · exact .inr (.inr (.inl hmem))
    · unfold shutdownTasks at hmem
      split at hmem
      · next tasks hjoining => exact absurd hjoining (h₀ tasks)
      · cases hmem
  · rcases h with rfl | ⟨-, hended⟩
    · exact absurd hw (by simp [Taken])
    · exact hended

/-- `shutdown` takes the list. -/
theorem Known.shutdownTake (hs : Known s) (hlocking : s.shutdown = .locking)
    (hspawning : ∀ c, ¬s.Spawning c) (htracking : ∀ c, s.Tracking c → ¬s.Active c) :
    Known { s with claim_tasks := [], shutdown := .joining s.claim_tasks } := by
  have hended := hs.waited (.inl hlocking)
  refine ⟨fun c hc => ?_, fun _ => hended, fun _ => hspawning, fun _ c hc => ?_⟩
  · obtain hmem | hc' | hmem | hmem := hs.active c hc
    · exact .inr (.inr (.inr hmem))
    · exact absurd hc (htracking c hc')
    · simp [superviseTasks, hended] at hmem
    · simp [shutdownTasks, hlocking] at hmem
  · rcases hc with hc | hc
    · exact htracking c hc
    · cases hc

/-- `shutdown` joins the next handle that it has taken. -/
theorem Known.shutdownJoin (hs : Known s) (h : s.next .shutdownJoin = some s') : Known s' := by
  obtain ⟨hjoining, rfl⟩ | ⟨d, rest, hjoining, hd, rfl⟩ := shutdownJoin_eq_some h
  · have htaken : s.Taken := .inl ⟨[], hjoining⟩
    refine ⟨fun c hc => ?_, fun _ => hs.waited (.inr htaken), fun _ => hs.spawning htaken,
      fun _ => hs.ended htaken⟩
    obtain hmem | hc' | hmem | hmem := hs.active c hc
    · exact .inl hmem
    · exact .inr (.inl hc')
    · exact .inr (.inr (.inl hmem))
    · simp [shutdownTasks, hjoining] at hmem
  · have htaken : s.Taken := .inl ⟨_, hjoining⟩
    refine ⟨fun c hc => ?_, fun _ => hs.waited (.inr htaken), fun _ => hs.spawning htaken,
      fun _ => hs.ended htaken⟩
    have hcases := hs.active c hc
    simp only [shutdownTasks, hjoining, List.mem_cons] at hcases
    obtain hmem | hc' | hmem | rfl | hmem := hcases
    · exact .inl hmem
    · exact .inr (.inl hc')
    · exact .inr (.inr (.inl hmem))
    · exact absurd hd hc.2
    · exact .inr (.inr (.inr hmem))

/-- Every step that meets the condition keeps the invariant. -/
theorem Known.next (hs : Known s) (ha : s.Registered a) (h : s.next a = some s') : Known s' := by
  cases a with
  | publish lifecycle =>
    simp only [ClaimSystem.next] at h
    split at h
    · obtain rfl := Option.some.inj h
      exact hs.mono (fun c hc => hc) (fun c hc => hc) (fun c hc => hc) (fun c _ hc => hc) rfl rfl
        rfl
    · cases h
  | cancel =>
    obtain rfl := Option.some.inj h
    exact hs.mono (fun c hc => hc) (fun c hc => hc) (fun c hc => hc) (fun c _ hc => hc) rfl rfl rfl
  | start i =>
    obtain ⟨hi, rfl⟩ := startClaim_eq_some h
    refine hs.setCall (by simp [hi]) (fun c => ?_) fun c => ?_
    · split <;> simp
    · split <;> simp
  | read i =>
    obtain ⟨hi, ⟨-, rfl⟩ | ⟨error, -, rfl⟩⟩ := readLifecycle_eq_some h
    · exact hs.setCall (by simp [hi]) (by simp) (by simp)
    · exact hs.setCall (by simp [hi]) (by simp) (by simp)
  | look i code =>
    obtain ⟨hi, ⟨existing, -, rfl⟩ | ⟨hcode, -, rfl⟩⟩ := lookAtCode_eq_some h
    · exact hs.setCall (by simp [hi]) (by simp) (by simp)
    · exact hs.store hi fun htaken => ha htaken hcode
  | spawn i =>
    obtain ⟨c, hi, rfl⟩ := spawnFlow_eq_some h
    exact hs.spawn hi
  | track i =>
    obtain ⟨c, hi, rfl⟩ := trackClaimTask_eq_some h
    exact hs.track hi
  | join i =>
    obtain ⟨c, finished, hi, rfl⟩ := joinFinished_eq_some h
    exact hs.setCall (by simp [hi]) (by simp) (by simp)
  | drop i =>
    obtain ⟨-, rfl⟩ := dropCall_eq_some h
    exact hs.setCall ha (by simp) (by simp)
  | flow code b =>
    obtain ⟨flow, hflow, rfl⟩ := Option.map_eq_some_iff.1 h
    exact hs.setFlow (FlowAt.active_of_next hflow) flow
  | clear code =>
    obtain ⟨hclearing, rfl⟩ := clearCode_eq_some h
    have hactive : s.Active code := by simp [Active, hclearing]
    have hset := hs.setFlow hactive .ended
    exact ⟨hset.active, hset.waited, hset.spawning, hset.ended⟩
  | supervisorReturns =>
    simp only [ClaimSystem.next] at h
    split at h
    · next hrunning =>
      obtain rfl := Option.some.inj h
      refine hs.supervise (by simp [hrunning]) rfl rfl rfl fun c _ hmem => ?_
      simpa [superviseTasks, hrunning] using hmem
    · cases h
  | superviseTake =>
    simp only [ClaimSystem.next] at h
    split at h
    · next hlocking =>
      obtain rfl := Option.some.inj h
      refine hs.supervise (by simp [hlocking]) rfl rfl rfl fun c _ hmem => ?_
      simpa [superviseTasks, hlocking] using hmem
    · cases h
  | superviseJoin => exact hs.superviseJoin h
  | shutdown =>
    simp only [ClaimSystem.next] at h
    split at h
    · next hnot =>
      obtain rfl := Option.some.inj h
      exact hs.shutdownBefore (by simp [hnot]) (.inl rfl)
    · cases h
  | shutdownWait =>
    simp only [ClaimSystem.next] at h
    split at h
    · next hwait =>
      obtain rfl := Option.some.inj h
      exact hs.shutdownBefore (by simp [hwait.1]) (.inr ⟨rfl, hwait.2⟩)
    · cases h
  | shutdownTake =>
    simp only [ClaimSystem.next] at h
    split at h
    · next hlocking =>
      obtain rfl := Option.some.inj h
      exact hs.shutdownTake hlocking ha.1 ha.2
    · cases h
  | shutdownJoin => exact hs.shutdownJoin h

/-- When `shutdown` has returned, no task runs. -/
theorem Known.not_active (hs : Known s) (hreturned : s.shutdown = .returned) (c : String) :
    ¬s.Active c := by
  intro hc
  have htaken : s.Taken := .inr hreturned
  have hsupervise := hs.waited (.inr htaken)
  obtain hmem | hc' | hmem | hmem := hs.active c hc
  · exact hs.ended htaken c (.inr hmem) hc
  · exact hs.ended htaken c (.inl hc') hc
  · simp [superviseTasks, hsupervise] at hmem
  · simp [shutdownTasks, hreturned] at hmem

end ClaimSystem

open ClaimSystem

/-- In a run whose steps all meet the condition, no claim task runs in any state in which `shutdown`
has returned, the ones that calls go on to later included. -/
theorem shutdown_leaves_no_claim_task {source : SecretSource} {lifecycle : AgentLifecycle}
    {trace : List (ClaimSystem.Action × Unit)} {s : ClaimSystem}
    (h : Run step (start source lifecycle) trace s)
    (hall : Along step Registered (start source lifecycle) trace)
    (hreturned : s.shutdown = .returned) (c : String) : ¬s.Active c := by
  have hknown : Known s := h.invariant_along hall (known_start source lifecycle)
    fun s s' a o hs ha hnext => hs.next ha (ofOption_eq_ok.1 hnext)
  exact hknown.not_active hreturned c

/-- A call is past its checks when `shutdown` takes the list. -/
def overlooked : List ClaimSystem.Action :=
  [.start 0, .read 0, .shutdown, .supervisorReturns, .superviseTake, .superviseJoin, .shutdownWait,
    .shutdownTake, .shutdownJoin, .look 0 "a", .spawn 0]

/-- The call stores its code and spawns its task when `shutdown` has returned. -/
theorem not_shutdown_leaves_no_claim_task :
    ¬∀ source lifecycle trace s, Run step (start source lifecycle) trace s →
      s.shutdown = .returned → ∀ c, ¬s.Active c := by
  intro hall
  obtain ⟨s, hs, hreturned, hflow⟩ : ∃ s, takes next waitingRuntime overlooked = some s ∧
      s.shutdown = .returned ∧ s.flow "a" = .top :=
    ⟨_, rfl, rfl, rfl⟩
  exact hall _ _ _ s (run_waitingRuntime hs) hreturned "a" (by simp [Active, hflow])

/-- A call has put the handle of its task into the list when `shutdown` is called. -/
def joined : List ClaimSystem.Action :=
  [.start 0, .read 0, .look 0 "a", .spawn 0, .track 0, .join 0, .shutdown, .supervisorReturns,
    .superviseTake, .flow "a" .proceed, .clear "a", .superviseJoin, .superviseJoin, .shutdownWait]

/-- A check that makes a step meet the condition: it looks at `claim_code` before `shutdown` is
called, takes no list for `shutdown`, and drops no call. -/
def beforeShutdown (s : ClaimSystem) : ClaimSystem.Action → Bool
  | .look _ _ => s.shutdown = .notCalled
  | .shutdownTake | .drop _ => false
  | _ => true

/-- The check makes a step meet the condition. -/
theorem registered_of_beforeShutdown (s : ClaimSystem) (a : ClaimSystem.Action)
    (h : beforeShutdown s a = true) : s.Registered a := by
  cases a <;> simp_all [beforeShutdown, Registered, Taken]

/-- The task that was registered in time is joined. -/
theorem shutdown_leaves_no_claim_task_sample :
    ∃ trace s, Run step waitingRuntime trace s ∧ s.shutdown = .returned ∧ s.flow "a" = .ended ∧
      ∀ c, ¬s.Active c := by
  obtain ⟨s₁, hs₁, hcall₀, hcall, s₂, hs₂, s₃, hs₃, hreturned, hflow⟩ : ∃ s₁,
      takes next waitingRuntime joined = some s₁ ∧
      s₁.call 0 = .returned (.ok ⟨claimUrl "a"⟩) ∧ (∀ i, s₁.call (i + 1) = .idle) ∧
      ∃ s₂, s₁.next .shutdownTake = some s₂ ∧ ∃ s₃, s₂.next .shutdownJoin = some s₃ ∧
        s₃.shutdown = .returned ∧ s₃.flow "a" = .ended :=
    ⟨_, rfl, rfl, fun i => rfl, _, rfl, _, rfl, rfl, rfl⟩
  have hrun₁ := run_waitingRuntime hs₁
  have hrun₂ := hrun₁.snoc (o := ()) (ofOption_eq_ok.2 hs₂)
  have hrun₃ := hrun₂.snoc (o := ()) (ofOption_eq_ok.2 hs₃)
  -- The only call has returned, so none is about to spawn a task or to track one.
  have hidle : ∀ i, (∀ c, s₁.call i ≠ .spawning c) ∧ ∀ c, s₁.call i ≠ .tracking c := by
    intro i
    cases i with
    | zero => simp [hcall₀]
    | succ i => simp [hcall]
  have hall : Along step Registered waitingRuntime (joined.map fun a => (a, ())) :=
    (Along.takes .nil along_nil hs₁ (by rfl)).imp registered_of_beforeShutdown
  refine ⟨_, s₃, hrun₃, hreturned, hflow,
    shutdown_leaves_no_claim_task hrun₃ ?_ hreturned⟩
  refine (along_snoc hrun₂ _ _).2 ⟨(along_snoc hrun₁ _ _).2 ⟨hall, ?_, ?_⟩, trivial⟩
  · rintro c ⟨i, hi⟩
    exact (hidle i).1 c hi
  · rintro c ⟨i, hi⟩
    exact absurd hi ((hidle i).2 c)

end PlayitAgent
