import PlayitAgent.Ipc.Protocol
import PlayitAgent.Runtime.Handles
import PlayitAgent.Runtime.SecretFile

/-!
# The supervisor

`run_supervisor`, `wait_for_secret` and `build_agent_with_reprovisioning` of
`playit-runtime/src/runtime.rs`: a secret is loaded or waited for, and an agent is set up with it
and run, again and again. A step goes from one await to the next, and each write or event of a
publication is a step. The agents are those of `RunAgent`, with all their tasks; the tasks of an
agent whose `run_agent` has returned could still take steps here. What the API, the file system and
the setup of an agent come to is part of the actions, and so is the clock of the timers.
-/

namespace PlayitAgent

/-! ## How a setup fails -/

/-- `AuthError`. -/
inductive AuthError where
  | authRequired
  | invalidHeader
  | invalidSignature
  | invalidTimestamp
  | invalidApiKey
  | invalidAgentKey
  | sessionExpired
  | invalidAuthType
  | scopeNotAllowed
  | noLongerValid
  | guestAccountNotAllowed
  | emailMustBeVerified
  | accountDoesNotExist
  | adminOnly
  | invalidToken
  | totpRequred
  | notAllowedWithReadOnly
  | defaultAgentBlocked
  | agentNotSelfManaged
  | selfManagedAgentCanOnlyAffectSelf
  | accountNotAuthorized
  deriving DecidableEq

/-- `ApiResponseError`. -/
inductive ApiResponseError where
  | validation (message : String)
  | pathNotFound (path : String)
  | auth (error : AuthError)
  | internal (trace_id : String)
  deriving DecidableEq

/-- `ProtoRegisterError`. -/
inductive ProtoRegisterError where
  | unknownPlayitVersion
  | disabledByUser
  | agentDisabledOverLimit
  | accountBanned
  deriving DecidableEq

/-- `SetupError`, with what the supervisor looks at. An error of the API comes with its text. -/
inductive AgentSetupError where
  | ioError (text : String)
  | failedToConnect
  | apiFail (payload : String)
  | apiError (error : ApiResponseError) (text : String)
  | requestError
  | attemptingToAuthWithOldFlow
  | failedToDecodeSignedAgentRegisterHex
  | noResponseFromAuthenticate
  | registerInvalidSignature
  | registerUnauthorized
  | timeout
  deriving DecidableEq

/-- `is_transient_setup_error`. -/
def isTransientSetupError : AgentSetupError → Bool
  | .failedToConnect | .requestError | .timeout | .ioError _ | .attemptingToAuthWithOldFlow
  | .noResponseFromAuthenticate | .registerUnauthorized => true
  | .apiError (.internal _) _ => true
  | .apiError (.auth .sessionExpired) _ => true
  | _ => false

/-- `is_invalid_agent_secret_error`. -/
def isInvalidAgentSecretError : AgentSetupError → Bool
  | .apiError (.auth .invalidAgentKey) _ | .apiError (.auth .noLongerValid) _ => true
  | _ => false

section
variable (parse : String → Option ProtoRegisterError)

/-- `parse_proto_register_error`, where `parse` is `serde_json::from_str`. -/
def parseProtoRegisterError : AgentSetupError → Option ProtoRegisterError
  | .apiFail payload => parse payload
  | _ => none

/-- `is_agent_disabled_over_limit_error`. -/
def isAgentDisabledOverLimitError (error : AgentSetupError) : Bool :=
  parseProtoRegisterError parse error = some .agentDisabledOverLimit

/-- `agent_disabled_over_limit_message`. -/
def agentDisabledOverLimitMessage : String :=
  "This account is over the agent limit. Delete an unused agent or upgrade the account, then " ++
  "the service will retry."

/-- The text of the errors without data, which is their name. -/
def AgentSetupError.name : AgentSetupError → String
  | .attemptingToAuthWithOldFlow => "AttemptingToAuthWithOldFlow"
  | .failedToDecodeSignedAgentRegisterHex => "FailedToDecodeSignedAgentRegisterHex"
  | .noResponseFromAuthenticate => "NoResponseFromAuthenticate"
  | .registerInvalidSignature => "RegisterInvalidSignature"
  | .registerUnauthorized => "RegisterUnauthorized"
  | _ => ""

/-- `setup_error_user_message`. -/
def setupErrorUserMessage : AgentSetupError → String
  | .failedToConnect =>
    "Could not connect to Playit tunnel servers. The service will retry automatically; check " ++
    "your internet connection, firewall, VPN, or DNS settings."
  | .requestError =>
    "Could not reach the Playit API. The service will retry automatically; check your internet " ++
    "connection or try again later."
  | .apiError (.auth .invalidAgentKey) _ | .apiError (.auth .noLongerValid) _ =>
    "The configured playit secret is no longer valid. Run playit setup to provision a new secret."
  | .apiError _ text => "The playit API rejected the agent startup request: " ++ text
  | .apiFail payload =>
    if parse payload = some .agentDisabledOverLimit then agentDisabledOverLimitMessage
    else
      "The playit API rejected the agent registration request. Check your account and tunnel " ++
      "configuration, then try again."
  | .timeout =>
    "Timed out while connecting to Playit. The service will retry automatically; check your " ++
    "network or firewall."
  | .ioError text =>
    "Could not open a required network socket: " ++ text ++
    ". The service will retry automatically."
  | error => "Failed to start the playit agent: " ++ error.name

end

/-! ## Delays -/

/-- `AGENT_LIMIT_RETRY_INTERVAL`, in milliseconds. -/
def agentLimitRetryInterval : ℕ := 30000

/-- `TRANSIENT_RETRY_DELAYS`, in milliseconds. -/
def transientRetryDelays : List ℕ := [1000, 2000, 4000, 8000, 15000, 30000]

/-- `retry_delay`. -/
def setupRetryDelay (attempt : UInt32) : ℕ :=
  transientRetryDelays.getD (min attempt.toNat (transientRetryDelays.length - 1)) 0

/-- `saturating_add(1)`. -/
def nextAttempt (attempt : UInt32) : UInt32 := if attempt = 4294967295 then attempt else attempt + 1

/-! ## The supervisor -/

/-- Why it sleeps. -/
inductive SleepFor where
  /-- In `wait_for_retry`. -/
  | retry
  /-- Until the account may be below its limit. -/
  | limit
  deriving DecidableEq

/-- What it goes on with behind a publication. -/
inductive AfterPublish where
  /-- `wait_for_provisioned_secret`. -/
  | wait
  /-- The head of the loop. -/
  | loop
  /-- `PlayitAgent::new_with_identity`. -/
  | create
  /-- `run_agent`, with the state of the new agent's control connection. -/
  | run (control : ControlWatch)
  | sleep (why : SleepFor)
  | finish (result : Except RuntimeError Unit)
  /-- The secret was invalid, and another may be provisioned. -/
  | reprovision (error : ServiceError)

/-- Where it is. -/
inductive SupervisorPlace where
  /-- `secret_source.load()`. -/
  | loading
  | publishing (steps : List PublishStep) (after : AfterPublish)
  /-- In `wait_for_provisioned_secret`. -/
  | waiting
  /-- At the head of the loop. -/
  | looping
  /-- In `v1_agents_rundata`. -/
  | requesting
  /-- In `PlayitAgent::new_with_identity`. -/
  | creating
  /-- In `run_agent`. If that panics, it stays here. -/
  | running (agent : RunAgent)
  /-- Until the time or a cancellation. -/
  | sleeping (deadline : ℕ) (why : SleepFor)
  | returned (result : Except RuntimeError Unit)

/-- A call of `PlayitAgent::new_with_identity`. -/
structure SetupAttempt where
  secret : String
  time : ℕ
  /-- How many secrets there were, and how often it had slept for a reason. -/
  secrets : ℕ
  retries : ℕ
  limits : ℕ

/-- What has gone wrong. -/
inductive Setback where
  /-- `load` found a secret that is not valid. -/
  | load (message : String)
  /-- `PlayitAgent::new_with_identity` has failed. -/
  | setup (error : AgentSetupError)
  /-- `run_agent` has returned an error. -/
  | agent (error : RuntimeError)

/-- `run_supervisor`, with what it shares with the rest of the runtime. -/
structure Supervisor where
  source : SecretSource
  /-- `inner.cancel_token`. -/
  cancelled : Bool
  /-- The clock of the timers, in milliseconds. -/
  clock : ℕ
  hub : Hub
  /-- `inner.api`, by its secret. -/
  api : Option String
  secret_code : String
  retry_attempt : UInt32
  place : SupervisorPlace
  /-- The agents whose `run_agent` has returned. -/
  past : List RunAgent
  /-- The secrets that were loaded or provisioned. -/
  secrets : List String
  /-- How often `wait_for_retry` has returned `true`. -/
  retries : ℕ
  /-- How often the sleep of an account over its limit has ended. -/
  limits : ℕ
  attempts : List SetupAttempt
  /-- How setups have failed. -/
  failures : List AgentSetupError
  /-- All that has gone wrong. -/
  setbacks : List Setback

namespace Supervisor

/-- `SecretSource::load`, with what the file would give. -/
def load : SecretSource → SecretFile.LoadedSecret → SecretFile.LoadedSecret
  | .inline secret, _ => match validateSecret (trim secret) with
    | .ok secret => .ready secret
    | .error error => .invalid ("Invalid secret passed via inline configuration: " ++ error)
  | .file _, loaded => loaded

/-- `publish_state` is called. -/
def publish (s : Supervisor) (status : ServiceStatus) (lifecycle : AgentLifecycle)
    (after : AfterPublish) : Supervisor :=
  { s with place := .publishing (publishState status lifecycle) after }

section
variable (ctx : StatusContext)

/-- `publish_starting`, with a secret. -/
def publishStarting (s : Supervisor) (now : UInt64) (after : AfterPublish) : Supervisor :=
  s.publish (ctx.status now .starting true none) .starting after

/-- `publish_reconnecting`, with a secret. -/
def publishReconnecting (s : Supervisor) (now : UInt64) (error : ServiceError)
    (after : AfterPublish) : Supervisor :=
  s.publish (ctx.status now .reconnecting true (some error)) .starting after

/-- `publish_stopping`, and then it returns. -/
def publishStoppingLast (s : Supervisor) (now : UInt64) (has_secret : Bool) : Supervisor :=
  s.publish (ctx.status now .stopping has_secret none) .stopping (.finish (.ok ()))

/-- `wait_for_secret`, up to the wait. There is a channel whenever there is a file. -/
def waitForSecret (s : Supervisor) (now : UInt64) (last_error : Option ServiceError) : Supervisor :=
  match s.source with
  | .inline _ => { s with place := .returned (.error (.secret ⟨.provisioningUnavailable,
      "No file-backed secret source is available for provisioning.", false, none⟩)) }
  | .file _ =>
    s.publish (ctx.status now .waitingForSecret false last_error) .waitingForSecret .wait

/-- There is a secret. -/
def gotSecret (s : Supervisor) (now : UInt64) (secret : String) : Supervisor :=
  { s with secret_code := secret, secrets := s.secrets ++ [secret] }.publishStarting ctx now .loop

/-- Something has gone wrong. -/
def setBack (s : Supervisor) (setback : Setback) : Supervisor :=
  { s with setbacks := s.setbacks ++ [setback] }

/-- The error of a secret that cannot be read. -/
def invalidSecret (source : SecretSource) (message : String) : RuntimeError :=
  .secret ⟨.invalidSecret, message, source.allowsProvisioning, none⟩

/-- What follows `load`. -/
def loaded (s : Supervisor) (now : UInt64) : SecretFile.LoadedSecret → Supervisor
  | .ready secret => s.gotSecret ctx now secret
  | .missing => s.waitForSecret ctx now none
  | .invalid message =>
    let error := invalidSecret s.source message
    (s.setBack (.load message)).publish
      (ctx.status now .hasInvalidSecret false (some error.asServiceError))
      (.hasInvalidSecret error.asServiceError)
      (if s.source.allowsProvisioning then .reprovision error.asServiceError
      else .finish (.error error))

/-- The error for a secret that the API does not take any more. -/
def noLongerValid : ServiceError :=
  ⟨.invalidSecret, "The configured playit secret is no longer valid. Run playit setup to " ++
    "provision a new secret.", true, none⟩

/-- The error for an account over its limit. -/
def disabledOverLimit : ServiceError :=
  ⟨.agentDisabledOverLimit, agentDisabledOverLimitMessage, true, none⟩

/-- What follows a setup that has failed: the first guard that holds decides. -/
def setupFailed (parse : String → Option ProtoRegisterError) (s : Supervisor) (now : UInt64)
    (error : AgentSetupError) : Supervisor :=
  let s := { s with failures := s.failures ++ [error] }.setBack (.setup error)
  if s.source.allowsProvisioning ∧ isInvalidAgentSecretError error = true then
    { s with api := none }.waitForSecret ctx now (some noLongerValid)
  else if isAgentDisabledOverLimitError parse error then
    s.publish (ctx.status now .disabledOverLimit true (some disabledOverLimit))
      (.disabledOverLimit disabledOverLimit) (.sleep .limit)
  else if isTransientSetupError error then
    s.publishReconnecting ctx now
      (RuntimeError.ofSetup (setupErrorUserMessage parse error) true).asServiceError (.sleep .retry)
  else
    let error := RuntimeError.ofSetup (setupErrorUserMessage parse error) true
    s.publish (ctx.status now .error true (some error.asServiceError))
      (.error error.asServiceError) (.finish (.error error))

/-- What follows `run_agent`. -/
def agentReturned (s : Supervisor) (now : UInt64) : Except RuntimeError Unit → Supervisor
  | .ok () => { s with place := .returned (.ok ()) }
  | .error error =>
    let s := s.setBack (.agent error)
    if s.cancelled then s.publishStoppingLast ctx now true
    else s.publishReconnecting ctx now (RuntimeError.ofSetup error.text true).asServiceError
      (.sleep .retry)

/-- A setup that is made now. -/
def setupNow (s : Supervisor) : SetupAttempt :=
  ⟨s.secret_code, s.clock, s.secrets.length, s.retries, s.limits⟩

/-- A publication has ended. -/
def published (s : Supervisor) (now : UInt64) : AfterPublish → Supervisor
  | .wait => { s with place := .waiting }
  | .loop => { s with place := .looping }
  | .create => { s with place := .creating, attempts := s.attempts ++ [s.setupNow] }
  | .run control => { s with place := .running (.spawned s.hub control s.cancelled) }
  | .sleep .retry =>
    { s with place := .sleeping (s.clock + setupRetryDelay s.retry_attempt) .retry }
  | .sleep .limit => { s with place := .sleeping (s.clock + agentLimitRetryInterval) .limit }
  | .finish result => { s with place := .returned result }
  | .reprovision error => s.waitForSecret ctx now (some error)

/-- What can happen. -/
inductive Action where
  /-- `request_shutdown` cancels the runtime's token. -/
  | requestShutdown
  /-- Time passes. -/
  | pass (elapsed : ℕ)
  /-- `load` returns. -/
  | load (now : UInt64) (file : SecretFile.LoadedSecret)
  /-- The next step of a publication, or the statement behind it. -/
  | publish (now : UInt64)
  /-- A secret comes over the channel and is persisted, or not. -/
  | provision (now : UInt64) (secret : String) (outcome : WriteOutcome)
  /-- A `select!` takes the cancellation. -/
  | stop (now : UInt64)
  /-- The statements from the head of the loop to the request for the run data. -/
  | turn (now : UInt64)
  /-- `v1_agents_rundata` returns. -/
  | rundata (now : UInt64)
  /-- The agent is set up. -/
  | created (now : UInt64) (control : ControlWatch)
  | createFails (now : UInt64) (error : AgentSetupError)
  /-- A step of the agent that runs. -/
  | agent (a : RunAgent.Action)
  /-- `run_agent` has returned. -/
  | returns (now : UInt64)
  /-- A step of a task of an earlier agent. -/
  | straggle (i : ℕ) (a : RunAgent.Action)
  /-- A sleep ends. -/
  | wake

/-- The step is one of a task. -/
def ofTask : RunAgent.Action → Bool
  | .stats _ | .poller _ | .watcher _ => true
  | _ => false

/-- A step of an agent, with the hub and the token that it shares. -/
def stepAgent (s : Supervisor) (agent : RunAgent) (a : RunAgent.Action) :
    Option (Supervisor × RunAgent) :=
  (RunAgent.next ctx { agent with hub := s.hub, cancelled := s.cancelled } a).map fun agent' =>
    ({ s with hub := agent'.hub, cancelled := agent'.cancelled }, agent')

/-- One step, if it is possible. -/
def next (parse : String → Option ProtoRegisterError) (s : Supervisor) : Action → Option Supervisor
  | .requestShutdown => match s.place with
    | .running agent => (s.stepAgent ctx agent (.outside .requestShutdown)).map fun p =>
        { p.1 with place := .running p.2 }
    | _ => some { s with cancelled := true }
  | .pass elapsed => some { s with clock := s.clock + elapsed }
  | .load now file => match s.place with
    | .loading => some (s.loaded ctx now (load s.source file))
    | _ => none
  | .publish now => match s.place with
    | .publishing (step :: rest) after =>
      some { s with hub := step.run s.hub, place := .publishing rest after }
    | .publishing [] after => some (s.published ctx now after)
    | _ => none
  | .provision now secret outcome => match s.place with
    | .waiting => match (persistSecretFile secret outcome).1 with
      | .ok secret => some (s.gotSecret ctx now secret)
      | .error _ => some s
    | _ => none
  | .stop now => match s.place with
    | .waiting => if s.cancelled then some (s.publishStoppingLast ctx now false) else none
    | .sleeping _ _ => if s.cancelled then some (s.publishStoppingLast ctx now true) else none
    | _ => none
  | .turn now => match s.place with
    | .looping =>
      if s.cancelled then some (s.publishStoppingLast ctx now true)
      else some { s with api := some s.secret_code, place := .requesting }
    | _ => none
  | .rundata now => match s.place with
    | .requesting => some (s.publishStarting ctx now .create)
    | _ => none
  | .created now control => match s.place with
    | .creating =>
      some (s.publish (ctx.status now .running true none) .starting (.run control))
    | _ => none
  | .createFails now error => match s.place with
    | .creating => some (s.setupFailed ctx parse now error)
    | _ => none
  | .agent a => match s.place with
    | .running agent => (s.stepAgent ctx agent a).map fun p => { p.1 with place := .running p.2 }
    | _ => none
  | .returns now => match s.place with
    | .running agent => match agent.main with
      | .returned outcome =>
        some ({ s with past := s.past ++ [agent] }.agentReturned ctx now outcome)
      | _ => none
    | _ => none
  | .straggle i a => match s.past[i]? with
    | some agent =>
      if ofTask a then
        (s.stepAgent ctx agent a).map fun p => { p.1 with past := s.past.set i p.2 }
      else none
    | none => none
  | .wake => match s.place with
    | .sleeping deadline why =>
      if deadline ≤ s.clock then
        match why with
        | .retry => some { s with
            place := .looping
            retries := s.retries + 1
            retry_attempt := nextAttempt s.retry_attempt }
        | .limit => some { s with place := .looping, limits := s.limits + 1 }
      else none
    | _ => none

/-- A supervisor that was just spawned. -/
def spawned (source : SecretSource) (now : UInt64) (clock : ℕ) : Supervisor where
  source := source
  cancelled := false
  clock := clock
  hub := (publishState (ctx.status now .starting false none) .starting).foldl PublishStep.run
    ⟨StateCache.default, []⟩
  api := none
  secret_code := ""
  retry_attempt := 0
  place := .loading
  past := []
  secrets := []
  retries := 0
  limits := 0
  attempts := []
  failures := []
  setbacks := []

/-- `PlayitRuntime::start_with_event_sender`, as far as it looks at the secret. -/
def start (source : SecretSource) (now : UInt64) (clock : ℕ) : Except RuntimeError Supervisor :=
  match source with
  | .inline secret => match validateSecret (trim secret) with
    | .ok _ => .ok (spawned ctx source now clock)
    | .error error => .error (.secret ⟨.invalidSecret, error, false, none⟩)
  | .file _ => .ok (spawned ctx source now clock)

/-- The supervisor as a system that takes a step at a time. -/
def step (parse : String → Option ProtoRegisterError) :
    Supervisor → Action → Except Unit (Supervisor × Unit) :=
  ofOption (next ctx parse)

end

/-! ## What a step does -/

/-- It is not about to return. -/
def goesOn : SupervisorPlace → Bool
  | .publishing _ (.finish _) | .returned _ => false
  | _ => true

section
variable (ctx : StatusContext) (parse : String → Option ProtoRegisterError)

/-- What a step does. -/
inductive Step (s : Supervisor) : Supervisor → Prop
  | cancels : (∀ agent, s.place ≠ .running agent) → Step s { s with cancelled := true }
  | passes (elapsed : ℕ) : Step s { s with clock := s.clock + elapsed }
  | loads (now : UInt64) (file : SecretFile.LoadedSecret) : s.place = .loading →
    Step s (s.loaded ctx now (load s.source file))
  | writes {step : PublishStep} {rest : List PublishStep} {after : AfterPublish} :
    s.place = .publishing (step :: rest) after →
    Step s { s with hub := step.run s.hub, place := .publishing rest after }
  | published (now : UInt64) {after : AfterPublish} : s.place = .publishing [] after →
    Step s (s.published ctx now after)
  | provisioned (now : UInt64) (secret : String) : s.place = .waiting →
    Step s (s.gotSecret ctx now secret)
  | rejects : Step s s
  | stops (now : UInt64) (has_secret : Bool) : s.cancelled = true → goesOn s.place = true →
    Step s (s.publishStoppingLast ctx now has_secret)
  | turns : s.place = .looping → s.cancelled = false →
    Step s { s with api := some s.secret_code, place := .requesting }
  | requests (now : UInt64) : s.place = .requesting → Step s (s.publishStarting ctx now .create)
  | creates (now : UInt64) (control : ControlWatch) : s.place = .creating →
    Step s (s.publish (ctx.status now .running true none) .starting (.run control))
  | fails (now : UInt64) (error : AgentSetupError) : s.place = .creating →
    Step s (s.setupFailed ctx parse now error)
  | agent {agent agent' : RunAgent} {a : RunAgent.Action} : s.place = .running agent →
    RunAgent.next ctx { agent with hub := s.hub, cancelled := s.cancelled } a = some agent' →
    Step s { s with
      hub := agent'.hub, cancelled := agent'.cancelled, place := .running agent' }
  | returns (now : UInt64) {agent : RunAgent} {outcome : Except RuntimeError Unit} :
    s.place = .running agent → agent.main = .returned outcome →
    Step s ({ s with past := s.past ++ [agent] }.agentReturned ctx now outcome)
  | straggles {i : ℕ} {agent agent' : RunAgent} {a : RunAgent.Action} : s.past[i]? = some agent →
    ofTask a = true →
    RunAgent.next ctx { agent with hub := s.hub, cancelled := s.cancelled } a = some agent' →
    Step s { s with
      hub := agent'.hub, cancelled := agent'.cancelled, past := s.past.set i agent' }
  | retries {deadline : ℕ} : s.place = .sleeping deadline .retry → deadline ≤ s.clock →
    Step s { s with
      place := .looping
      retries := s.retries + 1
      retry_attempt := nextAttempt s.retry_attempt }
  | limits {deadline : ℕ} : s.place = .sleeping deadline .limit → deadline ≤ s.clock →
    Step s { s with place := .looping, limits := s.limits + 1 }

variable {ctx parse} {s s' : Supervisor}

/-- An agent takes a step of its own, on the hub and the token of the runtime. -/
theorem stepAgent_eq_some {agent : RunAgent} {a : RunAgent.Action} {p : Supervisor × RunAgent}
    (h : s.stepAgent ctx agent a = some p) :
    RunAgent.next ctx { agent with hub := s.hub, cancelled := s.cancelled } a = some p.2 ∧
      p.1 = { s with hub := p.2.hub, cancelled := p.2.cancelled } := by
  obtain ⟨agent', hnext, rfl⟩ := Option.map_eq_some_iff.1 h
  exact ⟨hnext, rfl⟩

/-- A step of the agent that runs. -/
theorem step_of_agent {agent : RunAgent} {a : RunAgent.Action} (hplace : s.place = .running agent)
    (h : ((s.stepAgent ctx agent a).map fun p => { p.1 with place := .running p.2 }) = some s') :
    Step ctx parse s s' := by
  obtain ⟨p, hstep, rfl⟩ := Option.map_eq_some_iff.1 h
  obtain ⟨hnext, heq⟩ := stepAgent_eq_some hstep
  rw [heq]
  exact .agent hplace hnext

/-- A step is one of those. -/
theorem step_of_next {a : Action} (h : s.next ctx parse a = some s') : Step ctx parse s s' := by
  cases a with
  | requestShutdown =>
    simp only [next] at h
    split at h
    · next agent hplace => exact step_of_agent hplace h
    · next hplace =>
      obtain rfl := Option.some.inj h
      exact .cancels hplace
  | pass elapsed =>
    obtain rfl := Option.some.inj h
    exact .passes elapsed
  | load now file =>
    simp only [next] at h
    split at h
    · next hplace =>
      obtain rfl := Option.some.inj h
      exact .loads now file hplace
    · cases h
  | publish now =>
    simp only [next] at h
    split at h
    · next hplace =>
      obtain rfl := Option.some.inj h
      exact .writes hplace
    · next hplace =>
      obtain rfl := Option.some.inj h
      exact .published now hplace
    · cases h
  | provision now secret outcome =>
    simp only [next] at h
    split at h
    · next hplace =>
      split at h
      · obtain rfl := Option.some.inj h
        exact .provisioned now _ hplace
      · obtain rfl := Option.some.inj h
        exact .rejects
    · cases h
  | stop now =>
    simp only [next] at h
    split at h
    · next hplace =>
      split at h
      · next hcancelled =>
        obtain rfl := Option.some.inj h
        exact .stops now _ hcancelled (by rw [hplace]; rfl)
      · cases h
    · next hplace =>
      split at h
      · next hcancelled =>
        obtain rfl := Option.some.inj h
        exact .stops now _ hcancelled (by rw [hplace]; rfl)
      · cases h
    · cases h
  | turn now =>
    simp only [next] at h
    split at h
    · next hplace =>
      split at h
      · next hcancelled =>
        obtain rfl := Option.some.inj h
        exact .stops now _ hcancelled (by rw [hplace]; rfl)
      · next hcancelled =>
        obtain rfl := Option.some.inj h
        exact .turns hplace (Bool.eq_false_iff.2 hcancelled)
    · cases h
  | rundata now =>
    simp only [next] at h
    split at h
    · next hplace =>
      obtain rfl := Option.some.inj h
      exact .requests now hplace
    · cases h
  | created now control =>
    simp only [next] at h
    split at h
    · next hplace =>
      obtain rfl := Option.some.inj h
      exact .creates now control hplace
    · cases h
  | createFails now error =>
    simp only [next] at h
    split at h
    · next hplace =>
      obtain rfl := Option.some.inj h
      exact .fails now error hplace
    · cases h
  | agent a =>
    simp only [next] at h
    split at h
    · next agent hplace => exact step_of_agent hplace h
    · cases h
  | returns now =>
    simp only [next] at h
    split at h
    · next agent hplace =>
      split at h
      · next outcome hmain =>
        obtain rfl := Option.some.inj h
        exact .returns now hplace hmain
      · cases h
    · cases h
  | straggle i a =>
    simp only [next] at h
    split at h
    · next agent hpast =>
      split at h
      · next htask =>
        obtain ⟨p, hstep, rfl⟩ := Option.map_eq_some_iff.1 h
        obtain ⟨hnext, heq⟩ := stepAgent_eq_some hstep
        rw [heq]
        exact .straggles hpast htask hnext
      · cases h
    · cases h
  | wake =>
    simp only [next] at h
    split at h
    · next deadline why hplace =>
      split at h
      · next hdeadline =>
        cases why with
        | retry =>
          obtain rfl := Option.some.inj h
          exact .retries hplace hdeadline
        | limit =>
          obtain rfl := Option.some.inj h
          exact .limits hplace hdeadline
      · cases h
    · cases h

end

end Supervisor

end PlayitAgent
