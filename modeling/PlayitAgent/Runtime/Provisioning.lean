import PlayitAgent.Lib.Text
import PlayitAgent.Runtime.Claims

/-!
# Provisioning

`wait_for_provisioned_secret` of `playit-runtime/src/secret.rs`, `wait_for_secret` of `runtime.rs`
and `PlayitHandle::set_secret` of `handle.rs`, beside the claims, which send their secrets over the
same channel. A request carries the number of the `WaitingForSecret` period in which it was
submitted; the code has no such number. The file system is part of the actions.
-/

namespace PlayitAgent

/-! ## Secrets -/

/-- `validate_secret`. -/
def validateSecret (secret : String) : Except String String :=
  if secret = "" then
    .error "The secret is empty. It should be the key generated by playit setup."
  else if decodesHex secret then .ok secret
  else .error "The secret is not valid. It should be the key generated by playit setup."

/-- The text of a `RuntimeError`. -/
def RuntimeError.text : RuntimeError → String
  | .secret error => "secret error: " ++ error.message
  | .setup error => "runtime setup error: " ++ error.message
  | .api error => "Playit API error: " ++ error.message
  | .invalidState error => "invalid runtime state: " ++ error.message
  | .io text => "runtime I/O error: " ++ text
  | .stopped => "the Playit runtime has stopped"

/-- What the file system does in `persist_secret_file`, behind the check of the secret. A failure
can come before the file is replaced or after it. -/
inductive WriteOutcome where
  | written
  | failed (error : RuntimeError) (replaced : Bool)

/-- `persist_secret_file`, with whether the secret file was replaced. -/
def persistSecretFile (secret : String) (outcome : WriteOutcome) :
    Except RuntimeError String × Bool :=
  match validateSecret (trim secret) with
  | .error error => (.error (.secret ⟨.invalidSecret, error, false, none⟩), false)
  | .ok secret =>
    match outcome with
    | .written => (.ok secret, true)
    | .failed error replaced => (.error error, replaced)

/-! ## Requests -/

/-- Who submits a request: a call of `set_secret`, or the claim flow of a code. -/
inductive Submitter where
  | call (i : ℕ)
  | flow (code : String)
  deriving DecidableEq

/-- `SecretProvisionRequest`, with the period in which it was submitted, if it was in one. -/
structure SecretProvisionRequest where
  submitter : Submitter
  secret : String
  period : Option ℕ
  deriving DecidableEq

/-- `CommandResponse`. -/
structure CommandResponse where
  accepted : Bool
  message : Option String
  deriving DecidableEq

/-- Where a call of `set_secret` is. -/
inductive SetSecretCall where
  | idle
  /-- It reads the lifecycle. -/
  | reading (secret : String)
  /-- It sends the request. -/
  | sending (request : SecretProvisionRequest)
  /-- It waits for the answer. -/
  | waiting
  | returned (result : Except RuntimeError CommandResponse)
  /-- Its future was dropped. -/
  | dropped

/-- What `set_secret` returns for an answer of the supervisor. -/
def setSecretResult : Except String Unit → Except RuntimeError CommandResponse
  | .ok () => .ok ⟨true, some "secret provisioned"⟩
  | .error message => .error (.secret ⟨.secretWriteFailed, message, true, none⟩)

/-- Where `run_supervisor` is. -/
inductive SupervisorAt where
  /-- Not in `wait_for_secret`. -/
  | elsewhere
  /-- In the `select!` of `wait_for_provisioned_secret`. -/
  | waiting
  /-- In `persist_secret_file`. -/
  | persisting (request : SecretProvisionRequest)
  /-- `wait_for_provisioned_secret` has returned a secret. -/
  | provisioned (secret : String)
  /-- `wait_for_provisioned_secret` has returned without one. -/
  | stopping
  /-- `run_supervisor` is about to return. -/
  | returning
  | ended
  deriving DecidableEq

/-- The capacity of the channel. -/
def secretChannelCapacity : ℕ := 8

/-- A runtime, as far as provisioning is concerned. -/
structure ProvisionSystem where
  /-- The claims, with the lifecycle and the cancellation. -/
  claims : ClaimSystem
  /-- How many `WaitingForSecret` periods have begun. -/
  period : ℕ
  channel : List SecretProvisionRequest
  supervisor : SupervisorAt
  call : ℕ → SetSecretCall
  /-- What the claim flow of a code sends. -/
  claimRequest : String → Option SecretProvisionRequest
  /-- The answers, by the ends of their channels. -/
  reply : Submitter → Option (Except String Unit)
  /-- Whose requests the channel has accepted. -/
  accepted : List Submitter
  /-- The requests whose secrets were written to the file, with the period of it. -/
  writes : List (SecretProvisionRequest × ℕ)

namespace ProvisionSystem

/-- What can happen. -/
inductive Action where
  /-- A step of the claims that does not concern the channel or the supervisor. -/
  | claims (a : ClaimSystem.Action)
  /-- A step of a claim task. -/
  | flow (code : String) (a : FlowAction)
  /-- A lifecycle other than `WaitingForSecret` is published. -/
  | publish (lifecycle : AgentLifecycle)
  /-- `wait_for_secret`, up to the loop of `wait_for_provisioned_secret`. -/
  | startWaiting
  | receive
  | persist (outcome : WriteOutcome)
  /-- The loop sees the cancellation. -/
  | waitCancelled
  /-- `wait_for_secret`, behind the loop. -/
  | endWaiting
  | supervisorReturns
  /-- A call of `set_secret`, up to the read of the lifecycle. -/
  | setSecret (i : ℕ) (secret : String)
  | read (i : ℕ)
  /-- The send succeeds, or the channel is closed. -/
  | send (i : ℕ)
  /-- The supervisor has answered, or dropped the request. -/
  | answered (i : ℕ)
  /-- A call sees the cancellation. -/
  | cancelled (i : ℕ)
  | drop (i : ℕ)

/-- The receiver of the channel was dropped. -/
def closed (s : ProvisionSystem) : Bool := s.supervisor = .ended

/-- The period, while the lifecycle is `WaitingForSecret`. -/
def currentPeriod (s : ProvisionSystem) : Option ℕ :=
  if s.claims.lifecycle = .waitingForSecret then some s.period else none

/-- The system with a call somewhere else. -/
def setCall (s : ProvisionSystem) (i : ℕ) (call : SetSecretCall) : ProvisionSystem :=
  { s with call := Function.update s.call i call }

/-- A step of the claims that goes through as it is. -/
def passes : ClaimSystem.Action → Bool
  | .publish _ | .flow _ _ | .supervisorReturns => false
  | _ => true

/-- A request goes into the channel. -/
def accept (s : ProvisionSystem) (request : SecretProvisionRequest) : ProvisionSystem :=
  { s with channel := s.channel ++ [request], accepted := request.submitter :: s.accepted }

/-- The channel is open and has room. -/
def hasRoom (s : ProvisionSystem) : Bool :=
  !s.closed && s.channel.length < secretChannelCapacity

/-- A step of a claim task, which leads the claims to `claims`. -/
def flowNext (s : ProvisionSystem) (code : String) (claims : ClaimSystem) :
    FlowAction → Option ProvisionSystem
  | .exchangeAnswered (.ok secret) =>
    some { s with
      claims
      claimRequest := Function.update s.claimRequest code
        (some ⟨.flow code, secret, s.currentPeriod⟩) }
  | .sent true =>
    match s.claimRequest code with
    | some request => if s.hasRoom then some { s.accept request with claims } else none
    | none => none
  | .sent false => if s.closed then some { s with claims } else none
  | .replied => if (s.reply (.flow code)).isSome || s.closed then some { s with claims } else none
  | _ => some { s with claims }

/-- `wait_for_provisioned_secret`, from the result of `persist_secret_file` on. -/
def persisted (s : ProvisionSystem) (request : SecretProvisionRequest) (outcome : WriteOutcome) :
    ProvisionSystem :=
  let persist := persistSecretFile request.secret outcome
  { s with
    reply := Function.update s.reply request.submitter
      (some (match persist.1 with
        | .ok _ => .ok ()
        | .error error => .error error.text))
    supervisor := match persist.1 with
      | .ok secret => .provisioned secret
      | .error _ => .waiting
    writes := if persist.2 then (request, s.period) :: s.writes else s.writes }

/-- `set_secret`, from the read of the lifecycle up to the send. -/
def readLifecycle (s : ProvisionSystem) (i : ℕ) : Option ProvisionSystem :=
  match s.call i with
  | .reading secret =>
    some (s.setCall i
      (match provisioningCheck s.claims.source s.claims.lifecycle with
      | .ok () => .sending ⟨.call i, secret, s.currentPeriod⟩
      | .error error => .returned (.error error)))
  | _ => none

/-- `set_secret`, the end of the send. -/
def sendRequest (s : ProvisionSystem) (i : ℕ) : Option ProvisionSystem :=
  match s.call i with
  | .sending request =>
    if s.closed then some (s.setCall i (.returned (.error .stopped)))
    else if s.hasRoom then some ((s.accept request).setCall i .waiting)
    else none
  | _ => none

/-- `set_secret`, the end of the wait for the answer. -/
def receiveAnswer (s : ProvisionSystem) (i : ℕ) : Option ProvisionSystem :=
  match s.call i with
  | .waiting =>
    match s.reply (.call i) with
    | some result => some (s.setCall i (.returned (setSecretResult result)))
    | none => if s.closed then some (s.setCall i (.returned (.error .stopped))) else none
  | _ => none

/-- One step, if it is possible. -/
def next (s : ProvisionSystem) : Action → Option ProvisionSystem
  | .claims a => if passes a then (s.claims.next a).map fun claims => { s with claims } else none
  | .flow code a => (s.claims.next (.flow code a)).bind fun claims => s.flowNext code claims a
  | .publish lifecycle =>
    if lifecycle = .waitingForSecret then none
    else (s.claims.next (.publish lifecycle)).map fun claims => { s with claims }
  | .startWaiting =>
    if s.supervisor = .elsewhere ∧ s.claims.source.allowsProvisioning then
      (s.claims.next (.publish .waitingForSecret)).map fun claims =>
        { s with claims, period := s.period + 1, supervisor := .waiting }
    else none
  | .receive => match s.supervisor, s.channel with
    | .waiting, request :: rest =>
      some { s with channel := rest, supervisor := .persisting request }
    | _, _ => none
  | .persist outcome => match s.supervisor with
    | .persisting request => some (s.persisted request outcome)
    | _ => none
  | .waitCancelled =>
    if s.supervisor = .waiting ∧ s.claims.cancel then some { s with supervisor := .stopping }
    else none
  | .endWaiting => match s.supervisor with
    | .provisioned _ => (s.claims.next (.publish .starting)).map fun claims =>
      { s with claims, supervisor := .elsewhere }
    | .stopping => (s.claims.next (.publish .stopping)).map fun claims =>
      { s with claims, supervisor := .returning }
    | _ => none
  | .supervisorReturns =>
    if s.supervisor = .elsewhere ∨ s.supervisor = .returning then
      (s.claims.next .supervisorReturns).map fun claims =>
        { s with claims, supervisor := .ended, channel := [] }
    else none
  | .setSecret i secret => match s.call i with
    | .idle => some (s.setCall i
      (if s.claims.cancel then .returned (.error .stopped) else .reading secret))
    | _ => none
  | .read i => s.readLifecycle i
  | .send i => s.sendRequest i
  | .answered i => s.receiveAnswer i
  | .cancelled i => match s.call i with
    | .sending _ | .waiting =>
      if s.claims.cancel then some (s.setCall i (.returned (.error .stopped))) else none
    | _ => none
  | .drop i => match s.call i with
    | .reading _ | .sending _ | .waiting => some (s.setCall i .dropped)
    | _ => none

/-- A runtime that was just started. -/
def start (source : SecretSource) : ProvisionSystem where
  claims := .start source .starting
  period := 0
  channel := []
  supervisor := .elsewhere
  call _ := .idle
  claimRequest _ := none
  reply _ := none
  accepted := []
  writes := []

/-- Provisioning as a system that takes a step at a time. -/
def step : ProvisionSystem → Action → Except Unit (ProvisionSystem × Unit) := ofOption next

end ProvisionSystem

end PlayitAgent
