import PlayitAgent.Runtime.Claims

/-!
# One claim at a time

However the calls of `start_claim` and the tasks they spawn take their turns, at most one claim flow
is active, and `claim_code` holds its code. A call stores the code before it spawns the task, so the
code is also there for the moment between the two. A call that succeeds returns the URL of the code
that `claim_code` held when the call gave the lock back.
-/

namespace PlayitAgent

namespace ClaimSystem

variable {s s' : ClaimSystem} {a : Action}

/-! ## What the steps do to the code -/

/-- A call is about to spawn the task of a code. -/
def Spawning (s : ClaimSystem) (code : String) : Prop := ∃ i, s.call i = .spawning code

/-- Nothing changes that concerns the code: the same tasks, the same code, and the same calls about
to spawn a task. -/
structure Quiet (s s' : ClaimSystem) : Prop where
  flow : s'.flow = s.flow
  claim_code : s'.claim_code = s.claim_code
  used : s'.used = s.used
  call : ∀ i c, s'.call i = .spawning c ↔ s.call i = .spawning c

/-- A call that is not about to spawn a task goes somewhere else. -/
theorem quiet_setCall {i : ℕ} {call : ClaimCall} (h : ∀ c, s.call i ≠ .spawning c)
    (h' : ∀ c, call ≠ .spawning c) : Quiet s (s.setCall i call) where
  flow := rfl
  claim_code := rfl
  used := rfl
  call j c := by
    constructor
    · exact call_of_setCall (h' c)
    · intro hj
      have hji : j ≠ i := by
        rintro rfl
        exact h c hj
      rw [setCall_call_of_ne hji]
      exact hj

/-- A step of the supervisor or of `shutdown`. -/
theorem quiet_of_host (ha : a.ofHost = true) (h : s.next a = some s') : Quiet s s' := by
  obtain ⟨hflow, hcall, hcode, hused, -⟩ := next_eq_some_of_host ha h
  exact ⟨hflow, hcode, hused, fun i c => by rw [hcall]⟩

/-- What a step does to the code: nothing, or a call stores it, a call spawns its task, the task
takes a step, or the task takes its last one. -/
theorem next_code_cases (h : s.next a = some s') :
    Quiet s s' ∨
    (∃ i c, a = .look i c ∧ s.call i = .locking ∧ s.claim_code = none ∧ c ∉ s.used ∧
      s' = { s.setCall i (.spawning c) with claim_code := some c, used := c :: s.used }) ∨
    (∃ i c, a = .spawn i ∧ s.call i = .spawning c ∧
      s' = (s.setFlow c .top).setCall i (.tracking c)) ∨
    (∃ c flow, s.Active c ∧ flow ≠ .unborn ∧ flow ≠ .ended ∧ s' = s.setFlow c flow) ∨
    ∃ c, a = .clear c ∧ s.flow c = .clearing ∧ s' = { s.setFlow c .ended with
      claim_code := if s.claim_code = some c then none else s.claim_code } := by
  cases a with
  | publish lifecycle => exact .inl (quiet_of_host rfl h)
  | cancel => exact .inl (quiet_of_host rfl h)
  | start i =>
    obtain ⟨hi, rfl⟩ := startClaim_eq_some h
    refine .inl (quiet_setCall (by simp [hi]) fun c => ?_)
    split <;> simp
  | read i =>
    obtain ⟨hi, ⟨-, rfl⟩ | ⟨error, -, rfl⟩⟩ := readLifecycle_eq_some h
    · exact .inl (quiet_setCall (by simp [hi]) (by simp))
    · exact .inl (quiet_setCall (by simp [hi]) (by simp))
  | look i code =>
    obtain ⟨hi, ⟨existing, -, rfl⟩ | ⟨hcode, hused, rfl⟩⟩ := lookAtCode_eq_some h
    · exact .inl (quiet_setCall (by simp [hi]) (by simp))
    · exact .inr (.inl ⟨i, code, rfl, hi, hcode, hused, rfl⟩)
  | spawn i =>
    obtain ⟨c, hi, rfl⟩ := spawnFlow_eq_some h
    exact .inr (.inr (.inl ⟨i, c, rfl, hi, rfl⟩))
  | track i =>
    obtain ⟨c, hi, rfl⟩ := trackClaimTask_eq_some h
    have hquiet : Quiet s (s.setCall i (.joining c (s.claim_tasks.filter s.isFinished))) :=
      quiet_setCall (by simp [hi]) (by simp)
    exact .inl ⟨hquiet.flow, hquiet.claim_code, hquiet.used, hquiet.call⟩
  | join i =>
    obtain ⟨c, finished, hi, rfl⟩ := joinFinished_eq_some h
    exact .inl (quiet_setCall (by simp [hi]) (by simp))
  | drop i =>
    obtain ⟨hi, rfl⟩ := dropCall_eq_some h
    exact .inl (quiet_setCall hi (by simp))
  | flow code b =>
    obtain ⟨flow, hflow, rfl⟩ := Option.map_eq_some_iff.1 h
    have hactive := FlowAt.active_next hflow
    exact .inr (.inr (.inr (.inl
      ⟨code, flow, FlowAt.active_of_next hflow, hactive.1, hactive.2, rfl⟩)))
  | clear code =>
    obtain ⟨hclearing, rfl⟩ := clearCode_eq_some h
    exact .inr (.inr (.inr (.inr ⟨code, rfl, hclearing, rfl⟩)))
  | supervisorReturns => exact .inl (quiet_of_host rfl h)
  | superviseTake => exact .inl (quiet_of_host rfl h)
  | superviseJoin => exact .inl (quiet_of_host rfl h)
  | shutdown => exact .inl (quiet_of_host rfl h)
  | shutdownWait => exact .inl (quiet_of_host rfl h)
  | shutdownTake => exact .inl (quiet_of_host rfl h)
  | shutdownJoin => exact .inl (quiet_of_host rfl h)

/-! ## The invariant -/

/-- The code is stored first, then its task is spawned, and the last step of the task takes it out.
-/
structure OneCode (s : ClaimSystem) : Prop where
  /-- The code of a call about to spawn its task is stored, and has no task yet. -/
  spawning : ∀ c, s.Spawning c → s.claim_code = some c ∧ s.flow c = .unborn
  /-- The code of an active task is stored. -/
  active : ∀ c, s.Active c → s.claim_code = some c
  /-- A code that is stored has a task, or a call about to spawn it. -/
  stored : ∀ c, s.claim_code = some c → s.Active c ∨ s.Spawning c
  /-- One call at most is about to spawn a task. -/
  unique : ∀ i j c d, s.call i = .spawning c → s.call j = .spawning d → i = j
  /-- Only codes that were generated are stored or have a task. -/
  used : ∀ c, s.claim_code = some c ∨ s.flow c ≠ .unborn → c ∈ s.used

/-- At first there is no code. -/
theorem oneCode_start (source : SecretSource) (lifecycle : AgentLifecycle) :
    OneCode (start source lifecycle) where
  spawning c hc := by simp [Spawning, start] at hc
  active c hc := by simp [Active, start] at hc
  stored c hc := by simp [start] at hc
  unique i j c d hi := by simp [start] at hi
  used c hc := by simp [start] at hc

/-- A step that does nothing to codes keeps to one. -/
theorem Quiet.oneCode (hq : Quiet s s') (hs : OneCode s) : OneCode s' := by
  have hspawning : ∀ c, s'.Spawning c ↔ s.Spawning c := fun c =>
    exists_congr fun i => hq.call i c
  have hactive : ∀ c, s'.Active c ↔ s.Active c := fun c => by
    unfold Active
    rw [hq.flow]
  refine ⟨fun c hc => ?_, fun c hc => ?_, fun c hc => ?_, fun i j c d hi hj => ?_, fun c hc => ?_⟩
  · rw [hq.claim_code, hq.flow]
    exact hs.spawning c ((hspawning c).1 hc)
  · rw [hq.claim_code]
    exact hs.active c ((hactive c).1 hc)
  · rw [hq.claim_code] at hc
    rw [hactive, hspawning]
    exact hs.stored c hc
  · exact hs.unique i j c d ((hq.call i c).1 hi) ((hq.call j d).1 hj)
  · rw [hq.claim_code, hq.flow] at hc
    rw [hq.used]
    exact hs.used c hc

/-- A call stores a code that was not generated before, when there is none. -/
theorem OneCode.store (hs : OneCode s) {i : ℕ} {c : String} (hcode : s.claim_code = none)
    (hused : c ∉ s.used) :
    OneCode { s.setCall i (.spawning c) with claim_code := some c, used := c :: s.used } := by
  have hflow : s.flow c = .unborn := by
    by_contra hne
    exact hused (hs.used c (.inr hne))
  -- No other call is about to spawn a task, and no task is active, since no code was stored.
  have hcall : ∀ j d, (s.setCall i (.spawning c)).call j = .spawning d → j = i ∧ d = c := by
    intro j d hj
    by_cases hji : j = i
    · subst hji
      rw [setCall_call] at hj
      cases hj
      exact ⟨rfl, rfl⟩
    · rw [setCall_call_of_ne hji] at hj
      have hstored := (hs.spawning d ⟨j, hj⟩).1
      rw [hcode] at hstored
      cases hstored
  refine ⟨?_, fun d hd => ?_, ?_, fun j k d e hj hk => ?_, fun d hd => ?_⟩
  · rintro d ⟨j, hj⟩
    obtain ⟨-, rfl⟩ := hcall j d hj
    exact ⟨rfl, hflow⟩
  · have hstored := hs.active d hd
    rw [hcode] at hstored
    cases hstored
  · rintro d hd
    obtain rfl := Option.some.inj hd
    exact .inr ⟨i, setCall_call s i _⟩
  · rw [(hcall j d hj).1, (hcall k e hk).1]
  · rcases hd with hd | hd
    · obtain rfl := Option.some.inj hd
      exact List.mem_cons_self
    · exact List.mem_cons_of_mem c (hs.used d (.inr hd))

/-- The call spawns the task of its code. -/
theorem OneCode.spawn (hs : OneCode s) {i : ℕ} {c : String} (hi : s.call i = .spawning c) :
    OneCode ((s.setFlow c .top).setCall i (.tracking c)) := by
  have hstored := (hs.spawning c ⟨i, hi⟩).1
  -- It was the only one, so none is left.
  have hcall : ∀ j d, ((s.setFlow c .top).setCall i (.tracking c)).call j ≠ .spawning d := by
    intro j d hj
    by_cases hji : j = i
    · subst hji
      rw [setCall_call] at hj
      cases hj
    · rw [setCall_call_of_ne hji] at hj
      exact hji (hs.unique j i d c hj hi)
  have hflow : ∀ d, d ≠ c → ((s.setFlow c .top).setCall i (.tracking c)).flow d = s.flow d :=
    fun d hd => setFlow_flow_of_ne hd _
  have htop : ((s.setFlow c .top).setCall i (.tracking c)).flow c = .top := setFlow_flow s c _
  refine ⟨?_, fun d hd => ?_, fun d hd => ?_, fun j k d e hj => ?_, fun d hd => ?_⟩
  · rintro d ⟨j, hj⟩
    exact absurd hj (hcall j d)
  · by_cases hdc : d = c
    · rw [hdc]
      exact hstored
    · unfold Active at hd
      rw [hflow d hdc] at hd
      exact hs.active d hd
  · obtain rfl : c = d := Option.some.inj (hstored.symm.trans hd)
    refine .inl ?_
    unfold Active
    rw [htop]
    simp
  · exact absurd hj (hcall j d)
  · by_cases hdc : d = c
    · rw [hdc]
      exact hs.used c (.inl hstored)
    · rw [hflow d hdc] at hd
      exact hs.used d hd

/-- An active task takes a step that is not its last. -/
theorem OneCode.move (hs : OneCode s) {c : String} {flow : FlowAt} (hc : s.Active c)
    (hunborn : flow ≠ .unborn) (hended : flow ≠ .ended) : OneCode (s.setFlow c flow) := by
  have hactive : ∀ d, (s.setFlow c flow).Active d ↔ s.Active d := by
    intro d
    by_cases hdc : d = c
    · subst hdc
      simp only [Active, setFlow_flow]
      exact ⟨fun _ => hc, fun _ => ⟨hunborn, hended⟩⟩
    · simp only [Active, setFlow_flow_of_ne hdc]
  -- Only the task of an active code moves, so a task is unborn after the step if it was before.
  have hflow : ∀ d, (s.setFlow c flow).flow d = .unborn ↔ s.flow d = .unborn := by
    intro d
    by_cases hdc : d = c
    · subst hdc
      rw [setFlow_flow]
      exact ⟨fun h => absurd h hunborn, fun h => absurd h hc.1⟩
    · rw [setFlow_flow_of_ne hdc]
  refine ⟨fun d hd => ?_, fun d hd => ?_, fun d hd => ?_, hs.unique, fun d hd => ?_⟩
  · rw [hflow]
    exact hs.spawning d hd
  · exact hs.active d ((hactive d).1 hd)
  · rw [hactive]
    exact hs.stored d hd
  · rw [Ne, hflow] at hd
    exact hs.used d hd

/-- An active task takes its last step. The code that is stored is its own, and is taken out. -/
theorem OneCode.clear (hs : OneCode s) {c : String} (hc : s.Active c) :
    OneCode { s.setFlow c .ended with
      claim_code := if s.claim_code = some c then none else s.claim_code } := by
  have hstored := hs.active c hc
  rw [if_pos hstored]
  -- No other code has a task or a call, since its code would be stored too.
  have hother : ∀ d, s.claim_code = some d → d = c := fun d hd =>
    Option.some.inj (hd.symm.trans hstored)
  have hcall : ∀ d, ¬ s.Spawning d := by
    intro d hd
    obtain ⟨hcode, hflow⟩ := hs.spawning d hd
    rw [hother d hcode] at hflow
    exact hc.1 hflow
  have hactive : ∀ d, ¬ ({ s.setFlow c .ended with claim_code := none }).Active d := by
    intro d hd
    by_cases hdc : d = c
    · subst hdc
      exact hd.2 (setFlow_flow s d .ended)
    · simp only [Active, setFlow_flow_of_ne hdc] at hd
      exact hdc (hother d (hs.active d hd))
  refine ⟨fun d hd => absurd hd (hcall d), fun d hd => absurd hd (hactive d),
    fun d hd => absurd hd (by simp), hs.unique, fun d hd => ?_⟩
  by_cases hdc : d = c
  · rw [hdc]
    exact hs.used c (.inl hstored)
  · simp only [setFlow_flow_of_ne hdc, reduceCtorEq, false_or] at hd
    exact hs.used d (.inr hd)

/-- Every step keeps it. -/
theorem OneCode.next (hs : OneCode s) (h : s.next a = some s') : OneCode s' := by
  obtain hquiet | ⟨i, c, -, -, hcode, hused, rfl⟩ | ⟨i, c, -, hi, rfl⟩ |
    ⟨c, flow, hc, hunborn, hended, rfl⟩ | ⟨c, -, hclearing, rfl⟩ := next_code_cases h
  · exact hquiet.oneCode hs
  · exact hs.store hcode hused
  · exact hs.spawn hi
  · exact hs.move hc hunborn hended
  · exact hs.clear (by simp [Active, hclearing])

/-- It holds in every state that a run leads to. -/
theorem oneCode_of_run {source : SecretSource} {lifecycle : AgentLifecycle}
    {trace : List (Action × Unit)} (h : Run step (start source lifecycle) trace s) : OneCode s :=
  h.invariant (I := fun _ s => OneCode s) (oneCode_start source lifecycle)
    fun _ _ _ _ _ hs hnext => hs.next (ofOption_eq_ok.1 hnext)

/-! ## What a call returns -/

/-- What a call returns, once that is fixed: the URL of the code it has stored, or what it has
returned. -/
def response : ClaimCall → Option ClaimResponse
  | .spawning c | .tracking c | .joining c _ => some ⟨claimUrl c⟩
  | .returned (.ok response) => some response
  | _ => none

/-- When a call goes somewhere else, what the other calls return stays as it was. -/
theorem response_setCall {i j : ℕ} {call : ClaimCall} {r : ClaimResponse}
    (h : response ((s.setCall j call).call i) = some r) :
    response (s.call i) = some r ∨ (i = j ∧ response call = some r) := by
  by_cases hij : i = j
  · subst hij
    rw [setCall_call] at h
    exact .inr ⟨rfl, h⟩
  · rw [setCall_call_of_ne hij] at h
    exact .inl h

/-- A call goes somewhere else, where it returns the same or nothing. -/
theorem response_of_setCall {i j : ℕ} {call : ClaimCall} {r : ClaimResponse}
    (hcall : response call = none ∨ response call = response (s.call j))
    (h : response ((s.setCall j call).call i) = some r) : response (s.call i) = some r := by
  rcases response_setCall h with hi | ⟨rfl, hr⟩
  · exact hi
  · rcases hcall with hcall | hcall
    · rw [hcall] at hr
      cases hr
    · rw [← hcall]
      exact hr

/-- What a call returns is fixed when it has the lock, by the code that is stored then. -/
theorem response_next {i : ℕ} {r : ClaimResponse} (h : s.next a = some s')
    (hi : response (s'.call i) = some r) :
    response (s.call i) = some r ∨
      ∃ code c, a = .look i code ∧ s'.claim_code = some c ∧ r = ⟨claimUrl c⟩ := by
  have hhost : a.ofHost = true → response (s.call i) = some r := by
    intro ha
    obtain ⟨-, hcall, -⟩ := next_eq_some_of_host ha h
    rw [← hcall]
    exact hi
  cases a with
  | start j =>
    obtain ⟨hj, rfl⟩ := startClaim_eq_some h
    refine .inl (response_of_setCall (.inl ?_) hi)
    split <;> rfl
  | read j =>
    obtain ⟨hj, ⟨-, rfl⟩ | ⟨error, -, rfl⟩⟩ := readLifecycle_eq_some h
    · exact .inl (response_of_setCall (.inl rfl) hi)
    · exact .inl (response_of_setCall (.inl rfl) hi)
  | look j code =>
    obtain ⟨hj, ⟨existing, hcode, rfl⟩ | ⟨hcode, hused, rfl⟩⟩ := lookAtCode_eq_some h
    · rcases response_setCall hi with hi | ⟨rfl, hr⟩
      · exact .inl hi
      · exact .inr ⟨code, existing, rfl, hcode, (Option.some.inj hr).symm⟩
    · rcases response_setCall hi with hi | ⟨rfl, hr⟩
      · exact .inl hi
      · exact .inr ⟨code, code, rfl, rfl, (Option.some.inj hr).symm⟩
  | spawn j =>
    obtain ⟨c, hj, rfl⟩ := spawnFlow_eq_some h
    have hsame : response (.tracking c) = response ((s.setFlow c .top).call j) := by
      change _ = response (s.call j)
      rw [hj]
      rfl
    exact .inl (response_of_setCall (.inr hsame) hi)
  | track j =>
    obtain ⟨c, hj, rfl⟩ := trackClaimTask_eq_some h
    exact .inl (response_of_setCall (.inr (by rw [hj]; rfl)) hi)
  | join j =>
    obtain ⟨c, finished, hj, rfl⟩ := joinFinished_eq_some h
    exact .inl (response_of_setCall (.inr (by rw [hj]; rfl)) hi)
  | drop j =>
    obtain ⟨-, rfl⟩ := dropCall_eq_some h
    exact .inl (response_of_setCall (.inl rfl) hi)
  | flow code b =>
    obtain ⟨flow, -, rfl⟩ := Option.map_eq_some_iff.1 h
    exact .inl hi
  | clear code =>
    obtain ⟨-, rfl⟩ := clearCode_eq_some h
    exact .inl hi
  | _ => exact .inl (hhost rfl)

/-- A call that has succeeded had the lock of `claim_code` at some time in the run, and has returned
the URL of the code that was stored then. -/
theorem response_of_run {source : SecretSource} {lifecycle : AgentLifecycle}
    {trace : List (Action × Unit)} (h : Run step (start source lifecycle) trace s) {i : ℕ}
    {r : ClaimResponse} (hi : response (s.call i) = some r) :
    ∃ before code c s₁, before ++ [(.look i code, ())] <+: trace ∧
      Run step (start source lifecycle) (before ++ [(.look i code, ())]) s₁ ∧
      s₁.claim_code = some c ∧ r = ⟨claimUrl c⟩ := by
  induction h with
  | nil => cases hi
  | @snoc trace s s' a o hrun hnext ih =>
    rcases response_next (ofOption_eq_ok.1 hnext) hi with hi | ⟨code, c, rfl, hcode, hr⟩
    · obtain ⟨before, code, c, s₁, hpre, hrest⟩ := ih hi
      exact ⟨before, code, c, s₁, hpre.trans (List.prefix_append _ _), hrest⟩
    · exact ⟨trace, code, c, s', List.prefix_refl _, hrun.snoc hnext, hcode, hr⟩

/-! ## The claims of a run -/

/-- A code that is stored is taken out by the last step of its own task, and by nothing else. -/
theorem claim_code_next {c : String} (hs : OneCode s) (h : s.next a = some s')
    (hc : s.claim_code = some c) (hc' : s'.claim_code ≠ some c) :
    a = .clear c ∧ s'.claim_code = none := by
  obtain hquiet | ⟨i, d, -, -, hcode, -, rfl⟩ | ⟨i, d, -, -, rfl⟩ | ⟨d, flow, -, -, -, rfl⟩ |
    ⟨d, rfl, hclearing, rfl⟩ := next_code_cases h
  · exact absurd (hquiet.claim_code.trans hc) hc'
  · rw [hcode] at hc
    cases hc
  · exact absurd hc hc'
  · exact absurd hc hc'
  · -- The task that ends was active, so the code that is stored is its own.
    have hd := hs.active d (by simp [Active, hclearing])
    obtain rfl : c = d := Option.some.inj (hc.symm.trans hd)
    exact ⟨rfl, if_pos hc⟩

/-- A call that has the lock while a code is stored returns its URL. -/
theorem look_next {i : ℕ} {code c : String} (hc : s.claim_code = some c)
    (h : s.next (.look i code) = some s') :
    s'.call i = .returned (.ok ⟨claimUrl c⟩) ∧ s'.claim_code = some c := by
  obtain ⟨-, ⟨existing, hcode, rfl⟩ | ⟨hcode, -, rfl⟩⟩ := lookAtCode_eq_some h
  · obtain rfl : existing = c := Option.some.inj (hcode.symm.trans hc)
    exact ⟨setCall_call s i _, hc⟩
  · rw [hcode] at hc
    cases hc

end ClaimSystem

open ClaimSystem

/-- In every run of calls, tasks, the supervisor and `shutdown`, at most one claim flow is active.
`claim_code` holds a code exactly while its flow is active or the call that stored it is about to
spawn the flow; a call that has the lock meanwhile returns its URL; every call that succeeds has
returned the URL of the code that was stored when it gave the lock back; and a code is taken out
only by the last step of its own flow. -/
theorem one_claim_at_a_time {source : SecretSource} {lifecycle : AgentLifecycle}
    {trace : List (ClaimSystem.Action × Unit)} {s : ClaimSystem}
    (h : Run step (start source lifecycle) trace s) :
    (∀ c d, s.Active c → s.Active d → c = d) ∧
    (∀ c, s.claim_code = some c ↔ s.Active c ∨ s.Spawning c) ∧
    (∀ c i code s', s.claim_code = some c → s.next (.look i code) = some s' →
      s'.call i = .returned (.ok ⟨claimUrl c⟩) ∧ s'.claim_code = some c) ∧
    (∀ i r, s.call i = .returned (.ok r) →
      ∃ before code c s₁, before ++ [(.look i code, ())] <+: trace ∧
        Run step (start source lifecycle) (before ++ [(.look i code, ())]) s₁ ∧
        s₁.claim_code = some c ∧ r = ⟨claimUrl c⟩) ∧
    ∀ c a s', s.claim_code = some c → s.next a = some s' → s'.claim_code ≠ some c →
      a = .clear c ∧ s'.claim_code = none := by
  have hs := oneCode_of_run h
  refine ⟨fun c d hc hd => ?_, fun c => ⟨hs.stored c, ?_⟩, fun c i code s' hc => look_next hc,
    fun i r hi => response_of_run h (by rw [hi]; rfl),
    fun c a s' hc hnext => claim_code_next hs hnext hc⟩
  · exact Option.some.inj ((hs.active c hc).symm.trans (hs.active d hd))
  · rintro (hc | hc)
    · exact hs.active c hc
    · exact (hs.spawning c hc).1

/-- A runtime that waits for a secret. -/
def waitingRuntime : ClaimSystem := start (.file "playit.toml") .waitingForSecret

/-- The flow of the first call ends before the call is done, and a second call has started another.
-/
def overtaken : List ClaimSystem.Action :=
  [.start 0, .read 0, .look 0 "a", .spawn 0, .flow "a" .proceed, .flow "a" .claimTimeout,
    .clear "a", .start 1, .read 1, .look 1 "b", .spawn 1, .track 0]

/-- The run that a list of actions makes. -/
theorem run_waitingRuntime {actions : List ClaimSystem.Action} {s : ClaimSystem}
    (h : takes next waitingRuntime actions = some s) :
    Run step waitingRuntime (actions.map fun a => (a, ())) s :=
  Run.takes .nil h

/-- The second claim takes the place of the first. -/
theorem one_claim_at_a_time_sample :
    ∃ trace s, Run step waitingRuntime trace s ∧ s.Active "b" ∧ (∀ c, s.Active c → c = "b") ∧
      s.claim_code = some "b" := by
  obtain ⟨s, hs, hflow⟩ : ∃ s, takes next waitingRuntime overtaken = some s ∧ s.flow "b" = .top :=
    ⟨_, rfl, rfl⟩
  have hrun := run_waitingRuntime hs
  have hactive : s.Active "b" := by simp [Active, hflow]
  have hone := one_claim_at_a_time hrun
  exact ⟨_, s, hrun, hactive, fun c hc => hone.1 c "b" hc hactive, (hone.2.1 "b").2 (.inl hactive)⟩

/-- The code is stored before its flow is active; and a call whose flow has ended already returns
the URL of it while another flow is active. -/
theorem not_one_claim_at_a_time :
    (¬∀ source lifecycle trace s, Run step (start source lifecycle) trace s →
      ∀ c, s.claim_code = some c ↔ s.Active c) ∧
    ¬∀ source lifecycle trace s, Run step (start source lifecycle) trace s →
      ∀ c i a s' r, s.Active c → s.next a = some s' → s.call i ≠ .returned (.ok r) →
        s'.call i = .returned (.ok r) → r = ⟨claimUrl c⟩ := by
  constructor
  · intro hall
    obtain ⟨s, hs, hcode, hflow⟩ : ∃ s,
        takes next waitingRuntime [.start 0, .read 0, .look 0 "a"] = some s ∧
          s.claim_code = some "a" ∧ s.flow "a" = .unborn :=
      ⟨_, rfl, rfl, rfl⟩
    exact ((hall _ _ _ s (run_waitingRuntime hs) "a").1 hcode).1 hflow
  · intro hall
    obtain ⟨s, s', hs, hflow, hjoining, hnext, hreturned⟩ : ∃ s s',
        takes next waitingRuntime overtaken = some s ∧ s.flow "b" = .top ∧
          s.call 0 = .joining "a" [] ∧ s.next (.join 0) = some s' ∧
          s'.call 0 = .returned (.ok ⟨claimUrl "a"⟩) :=
      ⟨_, _, rfl, rfl, rfl, rfl, rfl⟩
    have hurl := hall _ _ _ s (run_waitingRuntime hs) "b" 0 (.join 0) s' ⟨claimUrl "a"⟩
      (by simp [Active, hflow]) hnext (by simp [hjoining]) hreturned
    exact absurd hurl (by decide)

end PlayitAgent
