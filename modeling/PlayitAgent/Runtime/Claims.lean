import PlayitAgent.Lib.Run
import PlayitAgent.Runtime.RunAgent

/-!
# Claims

`PlayitHandle::start_claim` of `playit-runtime/src/handle.rs`, the claim flow of `claim.rs`, and
`PlayitRuntime::shutdown` and `supervise` of `runtime.rs`, as far as they concern the claim tasks.
Any number of calls run at the same time, each with a task of its own if it creates a code. A step
goes from one await, or from one access to a lock, to the next: no lock is held across an await.
What the API answers, when timers fire and which branch a `select!` takes are part of the actions.
-/

namespace PlayitAgent

/-! ## Provisioning -/

/-- `SecretSource`. -/
inductive SecretSource where
  | inline (secret : String)
  | file (path : String)
  deriving DecidableEq

/-- `SecretSource::allows_provisioning`. -/
def SecretSource.allowsProvisioning : SecretSource → Bool
  | .inline _ => false
  | .file _ => true

/-- `SecretSource::provisioning_error`. -/
def SecretSource.provisioningError : SecretSource → RuntimeError
  | .inline _ => .secret ⟨.secretPinned,
    "Secret provisioning is unavailable because the runtime was started with an inline secret.",
    false, none⟩
  | .file _ => .secret ⟨.provisioningUnavailable, "Secret provisioning is unavailable.", true, none⟩

/-- `over_limit_guidance`. -/
def overLimitGuidance : String :=
  "Delete unused agents: https://playit.gg/account/agents\n" ++
    "Increase your agent limit: https://playit.gg/account/upgrade"

/-- The text of `secret_provisioning_state_error`, and whether it can be tried again. -/
def provisioningStateMessage : AgentLifecycle → String × Bool
  | .waitingForSecret =>
    ("The Playit service is not ready to save a secret yet. Try setup again in a few seconds.",
      true)
  | .hasInvalidSecret error =>
    ("The Playit service is not waiting for a new secret because its current secret is invalid: " ++
      error.message, false)
  | .disabledOverLimit error =>
    ("Setup is unavailable because this account is over the agent limit.\n" ++ overLimitGuidance ++
      "\nReason: " ++ error.message, false)
  | .starting => ("The Playit service is still starting. Try setup again in a few seconds.", true)
  | .running _ =>
    ("The Playit service already has a configured secret. " ++
      "Run playit reset before provisioning a new one.", false)
  | .stopping => ("The Playit service is stopping and cannot accept setup right now.", true)
  | .error error =>
    ("The Playit service reported an error and cannot accept setup right now: " ++ error.message,
      true)

/-- `secret_provisioning_state_error`. -/
def secretProvisioningStateError (lifecycle : AgentLifecycle) : RuntimeError :=
  .invalidState ⟨.provisioningUnavailable, (provisioningStateMessage lifecycle).1,
    (provisioningStateMessage lifecycle).2, none⟩

/-- The checks of `start_claim` and `set_secret` behind the read of the lifecycle. -/
def provisioningCheck (source : SecretSource) (lifecycle : AgentLifecycle) :
    Except RuntimeError Unit :=
  if lifecycle ≠ .waitingForSecret then .error (secretProvisioningStateError lifecycle)
  else if source.allowsProvisioning then .ok ()
  else .error source.provisioningError

/-! ## The claim flow -/

/-- `ClaimResponse`. -/
structure ClaimResponse where
  claim_url : String
  deriving DecidableEq

/-- `claim_url`. -/
def claimUrl (code : String) : String := "https://playit.gg/claim/" ++ code

/-- `ClaimSetupResponse`. -/
inductive ClaimSetupResponse where
  | waitingForUserVisit
  | waitingForUser
  | userAccepted
  | userRejected
  deriving DecidableEq

/-- What a claim request to the API fails with, as far as the flow looks at it. -/
inductive ClaimFailure where
  /-- `ClaimExchangeError::NotAccepted`. -/
  | notAccepted
  | other
  deriving DecidableEq

/-- Where a claim task is. -/
inductive FlowAt where
  /-- Not yet spawned. -/
  | unborn
  /-- At the top of the loop of `run_claim_flow_inner`. -/
  | top
  /-- In the request `claim_setup`. -/
  | setup
  /-- In the delay before the next one. -/
  | setupDelay
  /-- In the request `claim_exchange`. -/
  | exchange
  /-- In the delay after an exchange that came too early. -/
  | exchangeDelay
  /-- It sends the secret to the supervisor. -/
  | sending
  /-- It waits for the answer of the supervisor. -/
  | replying
  /-- Behind `run_claim_flow_inner` or its timeout, before the lock of `claim_code`. -/
  | clearing
  | ended
  deriving DecidableEq

/-- A step of a claim task. -/
inductive FlowAction where
  /-- The loop begins again. -/
  | proceed
  /-- The cancellation is seen. -/
  | cancelled
  /-- The timeout of a request, of the send, or of the wait for the answer. -/
  | requestTimeout
  /-- `CLAIM_TIMEOUT`. -/
  | claimTimeout
  | setupAnswered (result : Except ClaimFailure ClaimSetupResponse)
  | exchangeAnswered (result : Except ClaimFailure String)
  /-- A delay is over. -/
  | delayed
  /-- The send succeeds, or the channel is closed. -/
  | sent (ok : Bool)
  /-- The supervisor answers, or drops the request. -/
  | replied

namespace FlowAt

/-- It is in one of the awaits of `run_claim_flow_inner`. -/
def awaits : FlowAt → Bool
  | .setup | .setupDelay | .exchange | .exchangeDelay | .sending | .replying => true
  | _ => false

/-- One step of `run_claim_flow_inner` and its timeout, when the token is cancelled or not. -/
def next (cancel : Bool) : FlowAt → FlowAction → Option FlowAt
  | .top, .proceed => some (if cancel then .clearing else .setup)
  | .setup, .setupAnswered (.ok .waitingForUserVisit) => some .setupDelay
  | .setup, .setupAnswered (.ok .waitingForUser) => some .setupDelay
  | .setup, .setupAnswered (.ok .userAccepted) => some .exchange
  | .setup, .setupAnswered (.ok .userRejected) => some .clearing
  | .setup, .setupAnswered (.error _) => some .clearing
  | .setupDelay, .delayed => some .top
  | .exchange, .exchangeAnswered (.ok _) => some .sending
  | .exchange, .exchangeAnswered (.error .notAccepted) => some .exchangeDelay
  | .exchange, .exchangeAnswered (.error .other) => some .clearing
  | .exchangeDelay, .delayed => some .top
  | .sending, .sent ok => some (if ok then .replying else .clearing)
  | .replying, .replied => some .clearing
  | .setup, .requestTimeout => some .clearing
  | .exchange, .requestTimeout => some .clearing
  | .sending, .requestTimeout => some .clearing
  | .replying, .requestTimeout => some .clearing
  | state, .cancelled => if state.awaits && cancel then some .clearing else none
  | state, .claimTimeout => if state.awaits then some .clearing else none
  | _, _ => none

/-- A task that takes a step is there, and has not ended. -/
theorem active_of_next {cancel : Bool} {flow flow' : FlowAt} {a : FlowAction}
    (h : flow.next cancel a = some flow') : flow ≠ .unborn ∧ flow ≠ .ended := by
  constructor
  · rintro rfl
    cases a <;> simp [next, awaits] at h
  · rintro rfl
    cases a <;> simp [next, awaits] at h

/-- Only its last step ends a task, which is none of these. -/
theorem active_next {cancel : Bool} {flow flow' : FlowAt} {a : FlowAction}
    (h : flow.next cancel a = some flow') : flow' ≠ .unborn ∧ flow' ≠ .ended := by
  unfold next at h
  split at h <;> grind

end FlowAt

/-! ## The calls -/

/-- Where a call of `start_claim` is. -/
inductive ClaimCall where
  | idle
  /-- It reads the lifecycle. -/
  | reading
  /-- It waits for the lock of `claim_code`. -/
  | locking
  /-- It has stored a code, and is about to spawn the task. -/
  | spawning (code : String)
  /-- It waits for the lock of `claim_tasks`, with the handle of the task. -/
  | tracking (code : String)
  /-- It joins the tasks that had finished. -/
  | joining (code : String) (finished : List String)
  | returned (result : Except RuntimeError ClaimResponse)
  /-- Its future was dropped. -/
  | dropped

/-- Where `supervise` is. -/
inductive SuperviseAt where
  /-- In `run_supervisor`. -/
  | running
  /-- It has requested the shutdown, and waits for the lock of `claim_tasks`. -/
  | locking
  | joining (tasks : List String)
  | ended
  deriving DecidableEq

/-- Where `PlayitRuntime::shutdown` is. -/
inductive ShutdownAt where
  | notCalled
  /-- It has requested the shutdown, and waits for the supervisor. -/
  | waiting
  /-- It waits for the lock of `claim_tasks`. -/
  | locking
  | joining (tasks : List String)
  | returned
  deriving DecidableEq

/-- A runtime, as far as claims are concerned. A task is known by its code. -/
structure ClaimSystem where
  source : SecretSource
  /-- The lifecycle in the cache. -/
  lifecycle : AgentLifecycle
  /-- `cancel_token`, whose child tokens the tasks have. -/
  cancel : Bool
  claim_code : Option String
  /-- The codes that were generated. -/
  used : List String
  claim_tasks : List String
  flow : String → FlowAt
  call : ℕ → ClaimCall
  supervise : SuperviseAt
  shutdown : ShutdownAt

namespace ClaimSystem

/-- What can happen. -/
inductive Action where
  /-- A lifecycle is published, by the supervisor or a task of it. -/
  | publish (lifecycle : AgentLifecycle)
  /-- The token is cancelled. -/
  | cancel
  /-- A call of `start_claim`, up to the read of the lifecycle. -/
  | start (i : ℕ)
  | read (i : ℕ)
  /-- The lock of `claim_code` is taken and given back, with the code that is generated if there is
  none. -/
  | look (i : ℕ) (code : String)
  | spawn (i : ℕ)
  | track (i : ℕ)
  | join (i : ℕ)
  | drop (i : ℕ)
  /-- A step of a claim task. -/
  | flow (code : String) (a : FlowAction)
  /-- The last step of a claim task, under the lock of `claim_code`. -/
  | clear (code : String)
  /-- `run_supervisor` returns, and the shutdown is requested. -/
  | supervisorReturns
  /-- `supervise` takes the tasks. -/
  | superviseTake
  /-- `supervise` has joined the next task, or all. -/
  | superviseJoin
  /-- `PlayitRuntime::shutdown`. -/
  | shutdown
  /-- `wait` returns. -/
  | shutdownWait
  | shutdownTake
  | shutdownJoin

/-- It is a step of the supervisor or of `shutdown`. -/
def Action.ofHost : Action → Bool
  | .publish _ | .cancel | .supervisorReturns | .superviseTake | .superviseJoin => true
  | .shutdown | .shutdownWait | .shutdownTake | .shutdownJoin => true
  | _ => false

/-- The system with a call somewhere else. -/
def setCall (s : ClaimSystem) (i : ℕ) (call : ClaimCall) : ClaimSystem :=
  { s with call := Function.update s.call i call }

/-- The system with a task somewhere else. -/
def setFlow (s : ClaimSystem) (code : String) (flow : FlowAt) : ClaimSystem :=
  { s with flow := Function.update s.flow code flow }

/-- `JoinHandle::is_finished`. -/
def isFinished (s : ClaimSystem) (code : String) : Bool := s.flow code = .ended

/-- `start_claim`, up to the read of the lifecycle. -/
def startClaim (s : ClaimSystem) (i : ℕ) : Option ClaimSystem :=
  match s.call i with
  | .idle => some (s.setCall i (if s.cancel then .returned (.error .stopped) else .reading))
  | _ => none

/-- `start_claim`, from the read of the lifecycle up to the lock of `claim_code`. -/
def readLifecycle (s : ClaimSystem) (i : ℕ) : Option ClaimSystem :=
  match s.call i with
  | .reading =>
    some (s.setCall i
      (match provisioningCheck s.source s.lifecycle with
      | .ok () => .locking
      | .error error => .returned (.error error)))
  | _ => none

/-- `start_claim`, under the lock of `claim_code`. Codes that are generated are distinct. -/
def lookAtCode (s : ClaimSystem) (i : ℕ) (code : String) : Option ClaimSystem :=
  match s.call i, s.claim_code with
  | .locking, some existing => some (s.setCall i (.returned (.ok ⟨claimUrl existing⟩)))
  | .locking, none =>
    if code ∈ s.used then none
    else some { s.setCall i (.spawning code) with claim_code := some code, used := code :: s.used }
  | _, _ => none

/-- `tokio::spawn` in `start_claim`. -/
def spawnFlow (s : ClaimSystem) (i : ℕ) : Option ClaimSystem :=
  match s.call i with
  | .spawning code => some ((s.setFlow code .top).setCall i (.tracking code))
  | _ => none

/-- `track_claim_task`, under the lock of `claim_tasks`. -/
def trackClaimTask (s : ClaimSystem) (i : ℕ) : Option ClaimSystem :=
  match s.call i with
  | .tracking code =>
    some { s.setCall i (.joining code (s.claim_tasks.filter s.isFinished)) with
      claim_tasks := s.claim_tasks.filter (fun task => !s.isFinished task) ++ [code] }
  | _ => none

/-- `track_claim_task`, from the join of the tasks that had finished on, and the return of
`start_claim`. -/
def joinFinished (s : ClaimSystem) (i : ℕ) : Option ClaimSystem :=
  match s.call i with
  | .joining code finished =>
    if finished.all s.isFinished then some (s.setCall i (.returned (.ok ⟨claimUrl code⟩))) else none
  | _ => none

/-- A call is dropped at an await. -/
def dropCall (s : ClaimSystem) (i : ℕ) : Option ClaimSystem :=
  match s.call i with
  | .reading | .locking | .tracking _ | .joining _ _ => some (s.setCall i .dropped)
  | _ => none

/-- `run_claim_flow_with_api`, from its lock on. -/
def clearCode (s : ClaimSystem) (code : String) : Option ClaimSystem :=
  if s.flow code = .clearing then
    some { s.setFlow code .ended with
      claim_code := if s.claim_code = some code then none else s.claim_code }
  else none

/-- `join_claim_task_handles`, the next of the handles: those that are left, when it has ended. -/
def joinNext (s : ClaimSystem) : List String → Option (List String)
  | [] => none
  | code :: rest => if s.isFinished code then some rest else none

/-- One step, if it is possible. -/
def next (s : ClaimSystem) : Action → Option ClaimSystem
  | .publish lifecycle => if s.supervise = .running then some { s with lifecycle } else none
  | .cancel => some { s with cancel := true }
  | .start i => s.startClaim i
  | .read i => s.readLifecycle i
  | .look i code => s.lookAtCode i code
  | .spawn i => s.spawnFlow i
  | .track i => s.trackClaimTask i
  | .join i => s.joinFinished i
  | .drop i => s.dropCall i
  | .flow code a => ((s.flow code).next s.cancel a).map fun flow => s.setFlow code flow
  | .clear code => s.clearCode code
  | .supervisorReturns =>
    if s.supervise = .running then some { s with cancel := true, supervise := .locking } else none
  | .superviseTake =>
    if s.supervise = .locking then
      some { s with claim_tasks := [], supervise := .joining s.claim_tasks }
    else none
  | .superviseJoin => match s.supervise with
    | .joining [] => some { s with supervise := .ended }
    | .joining tasks => (s.joinNext tasks).map fun rest => { s with supervise := .joining rest }
    | _ => none
  | .shutdown =>
    if s.shutdown = .notCalled then some { s with cancel := true, shutdown := .waiting } else none
  | .shutdownWait =>
    if s.shutdown = .waiting ∧ s.supervise = .ended then some { s with shutdown := .locking }
    else none
  | .shutdownTake =>
    if s.shutdown = .locking then
      some { s with claim_tasks := [], shutdown := .joining s.claim_tasks }
    else none
  | .shutdownJoin => match s.shutdown with
    | .joining [] => some { s with shutdown := .returned }
    | .joining tasks => (s.joinNext tasks).map fun rest => { s with shutdown := .joining rest }
    | _ => none

/-- A runtime that was just started. -/
def start (source : SecretSource) (lifecycle : AgentLifecycle) : ClaimSystem where
  source
  lifecycle
  cancel := false
  claim_code := none
  used := []
  claim_tasks := []
  flow _ := .unborn
  call _ := .idle
  supervise := .running
  shutdown := .notCalled

/-- The claims as a system that takes a step at a time. -/
def step : ClaimSystem → Action → Except Unit (ClaimSystem × Unit) := ofOption next

/-- The flow is active: spawned, and not yet past its last step. -/
def Active (s : ClaimSystem) (code : String) : Prop :=
  s.flow code ≠ .unborn ∧ s.flow code ≠ .ended

/-! ## What the steps do -/

section
variable {s s' : ClaimSystem} {i : ℕ} {code : String}

/-- The call is where it was put. -/
@[simp]
theorem setCall_call (s : ClaimSystem) (i : ℕ) (call : ClaimCall) :
    (s.setCall i call).call i = call := by
  simp [setCall]

/-- The other calls are where they were. -/
theorem setCall_call_of_ne {j : ℕ} (h : j ≠ i) (call : ClaimCall) :
    (s.setCall i call).call j = s.call j := by
  simp [setCall, h]

/-- A call is somewhere that no call was put, so it has been there before. -/
theorem call_of_setCall {j : ℕ} {call target : ClaimCall} (hne : call ≠ target)
    (h : (s.setCall i call).call j = target) : s.call j = target := by
  by_cases hji : j = i
  · subst hji
    rw [setCall_call] at h
    exact absurd h hne
  · rw [setCall_call_of_ne hji] at h
    exact h

/-- The task is where it was put. -/
@[simp]
theorem setFlow_flow (s : ClaimSystem) (code : String) (flow : FlowAt) :
    (s.setFlow code flow).flow code = flow := by
  simp [setFlow]

/-- The other tasks are where they were. -/
theorem setFlow_flow_of_ne {other : String} (h : other ≠ code) (flow : FlowAt) :
    (s.setFlow code flow).flow other = s.flow other := by
  simp [setFlow, h]

/-- A call of `start_claim` begins. -/
theorem startClaim_eq_some (h : s.startClaim i = some s') :
    s.call i = .idle ∧
      s' = s.setCall i (if s.cancel then .returned (.error .stopped) else .reading) := by
  unfold startClaim at h
  split at h
  · next hi => exact ⟨hi, (Option.some.inj h).symm⟩
  · cases h

/-- The checks behind the read of the lifecycle let the call go on, or it returns an error. -/
theorem readLifecycle_eq_some (h : s.readLifecycle i = some s') :
    s.call i = .reading ∧
      ((provisioningCheck s.source s.lifecycle = .ok () ∧ s' = s.setCall i .locking) ∨
        ∃ error, provisioningCheck s.source s.lifecycle = .error error ∧
          s' = s.setCall i (.returned (.error error))) := by
  unfold readLifecycle at h
  split at h
  · next hi =>
    obtain rfl := Option.some.inj h
    refine ⟨hi, ?_⟩
    cases hcheck : provisioningCheck s.source s.lifecycle with
    | ok u => exact .inl ⟨rfl, rfl⟩
    | error error => exact .inr ⟨error, rfl, rfl⟩
  · cases h

/-- A call returns the URL of the code that is there, or it stores a new one. -/
theorem lookAtCode_eq_some (h : s.lookAtCode i code = some s') :
    s.call i = .locking ∧
      ((∃ existing, s.claim_code = some existing ∧
          s' = s.setCall i (.returned (.ok ⟨claimUrl existing⟩))) ∨
        (s.claim_code = none ∧ code ∉ s.used ∧
          s' = { s.setCall i (.spawning code) with
            claim_code := some code, used := code :: s.used })) := by
  unfold lookAtCode at h
  split at h
  · next existing hi hcode => exact ⟨hi, .inl ⟨existing, hcode, (Option.some.inj h).symm⟩⟩
  · next hi hcode =>
    split at h
    · cases h
    · next hused => exact ⟨hi, .inr ⟨hcode, hused, (Option.some.inj h).symm⟩⟩
  · cases h

/-- A call spawns the task of its code. -/
theorem spawnFlow_eq_some (h : s.spawnFlow i = some s') :
    ∃ c, s.call i = .spawning c ∧ s' = (s.setFlow c .top).setCall i (.tracking c) := by
  unfold spawnFlow at h
  split at h
  · next c hi => exact ⟨c, hi, (Option.some.inj h).symm⟩
  · cases h

/-- A call takes the handles of the tasks that have ended, and leaves its own. -/
theorem trackClaimTask_eq_some (h : s.trackClaimTask i = some s') :
    ∃ c, s.call i = .tracking c ∧
      s' = { s.setCall i (.joining c (s.claim_tasks.filter s.isFinished)) with
        claim_tasks := s.claim_tasks.filter (fun task => !s.isFinished task) ++ [c] } := by
  unfold trackClaimTask at h
  split at h
  · next c hi => exact ⟨c, hi, (Option.some.inj h).symm⟩
  · cases h

/-- A call returns the URL of its code. -/
theorem joinFinished_eq_some (h : s.joinFinished i = some s') :
    ∃ c finished, s.call i = .joining c finished ∧
      s' = s.setCall i (.returned (.ok ⟨claimUrl c⟩)) := by
  unfold joinFinished at h
  split at h
  · next c finished hi =>
    split at h
    · exact ⟨c, finished, hi, (Option.some.inj h).symm⟩
    · cases h
  · cases h

/-- A call is dropped at one of its awaits, of which there is none between the store of a code and
the spawn of the task. -/
theorem dropCall_eq_some (h : s.dropCall i = some s') :
    (∀ c, s.call i ≠ .spawning c) ∧ s' = s.setCall i .dropped := by
  unfold dropCall at h
  split at h
  · next hi => exact ⟨by simp [hi], (Option.some.inj h).symm⟩
  · next hi => exact ⟨by simp [hi], (Option.some.inj h).symm⟩
  · next hi => exact ⟨by simp [hi], (Option.some.inj h).symm⟩
  · next hi => exact ⟨by simp [hi], (Option.some.inj h).symm⟩
  · cases h

/-- A task gives its code up and ends. -/
theorem clearCode_eq_some (h : s.clearCode code = some s') :
    s.flow code = .clearing ∧ s' = { s.setFlow code .ended with
      claim_code := if s.claim_code = some code then none else s.claim_code } := by
  unfold clearCode at h
  split at h
  · next hf => exact ⟨hf, (Option.some.inj h).symm⟩
  · cases h

/-- The next of the handles has ended, and is left out. -/
theorem joinNext_eq_some {tasks rest : List String} (h : s.joinNext tasks = some rest) :
    ∃ c, tasks = c :: rest ∧ s.flow c = .ended := by
  cases tasks with
  | nil => cases h
  | cons c tasks =>
    simp only [joinNext, isFinished, decide_eq_true_eq] at h
    split at h
    · next hc =>
      obtain rfl := Option.some.inj h
      exact ⟨c, rfl, hc⟩
    · cases h

/-- `supervise` joins the next of its handles, or it is done. -/
theorem superviseJoin_eq_some (h : s.next .superviseJoin = some s') :
    (s.supervise = .joining [] ∧ s' = { s with supervise := .ended }) ∨
      ∃ c rest, s.supervise = .joining (c :: rest) ∧ s.flow c = .ended ∧
        s' = { s with supervise := .joining rest } := by
  simp only [next] at h
  split at h
  · next hs => exact .inl ⟨hs, (Option.some.inj h).symm⟩
  · next hs =>
    obtain ⟨rest, hrest, rfl⟩ := Option.map_eq_some_iff.1 h
    obtain ⟨c, rfl, hc⟩ := joinNext_eq_some hrest
    exact .inr ⟨c, rest, hs, hc, rfl⟩
  · cases h

/-- `shutdown` joins the next of its handles, or it is done. -/
theorem shutdownJoin_eq_some (h : s.next .shutdownJoin = some s') :
    (s.shutdown = .joining [] ∧ s' = { s with shutdown := .returned }) ∨
      ∃ c rest, s.shutdown = .joining (c :: rest) ∧ s.flow c = .ended ∧
        s' = { s with shutdown := .joining rest } := by
  simp only [next] at h
  split at h
  · next hs => exact .inl ⟨hs, (Option.some.inj h).symm⟩
  · next hs =>
    obtain ⟨rest, hrest, rfl⟩ := Option.map_eq_some_iff.1 h
    obtain ⟨c, rfl, hc⟩ := joinNext_eq_some hrest
    exact .inr ⟨c, rest, hs, hc, rfl⟩
  · cases h

/-- A step of the supervisor or of `shutdown` changes no call, no task and no code. -/
theorem next_eq_some_of_host {a : Action} (ha : a.ofHost = true) (h : s.next a = some s') :
    s'.flow = s.flow ∧ s'.call = s.call ∧ s'.claim_code = s.claim_code ∧ s'.used = s.used ∧
      s'.source = s.source := by
  cases a with
  | superviseJoin =>
    obtain ⟨-, rfl⟩ | ⟨c, rest, -, -, rfl⟩ := superviseJoin_eq_some h
    · exact ⟨rfl, rfl, rfl, rfl, rfl⟩
    · exact ⟨rfl, rfl, rfl, rfl, rfl⟩
  | shutdownJoin =>
    obtain ⟨-, rfl⟩ | ⟨c, rest, -, -, rfl⟩ := shutdownJoin_eq_some h
    · exact ⟨rfl, rfl, rfl, rfl, rfl⟩
    · exact ⟨rfl, rfl, rfl, rfl, rfl⟩
  | publish | cancel | supervisorReturns | superviseTake | shutdown | shutdownWait | shutdownTake =>
    simp only [next] at h
    grind
  | start | read | look | spawn | track | join | drop | flow | clear => cases ha

end

end ClaimSystem

end PlayitAgent
