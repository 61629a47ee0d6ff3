import PlayitAgent.Lib.JoinHandle
import PlayitAgent.Lib.Run
import PlayitAgent.Runtime.State

/-!
# `run_agent` and its tasks

`run_agent` of `playit-runtime/src/runtime.rs` spawns the agent and three tasks that publish:
`broadcast_stats`, `broadcast_agent_state` (the poller of the API) and `broadcast_control_state`
(the watcher of the control connection). It waits until a stop is requested or the agent ends, and
then awaits its tasks for at most five seconds before it aborts them.

All of these run at the same time. A `RunAgent` holds where each of them is, and an action lets one
of them take one step: a step ends at an `await`, or after one access to what the tasks share. Which
branch a `select!` takes, when timers fire, and what the API and the agent do are part of the
actions.
-/

namespace PlayitAgent

/-- `RuntimeError`. What most of its variants carry is the error that is shown to a client. -/
inductive RuntimeError where
  | secret (error : ServiceError)
  | setup (error : ServiceError)
  | api (error : ServiceError)
  | invalidState (error : ServiceError)
  | io (text : String)
  | stopped
  deriving DecidableEq

/-- `RuntimeError::setup`. -/
def RuntimeError.ofSetup (message : String) (retryable : Bool) : RuntimeError :=
  .setup ⟨.internal, message, retryable, none⟩

/-! ## The tasks -/

/-- The tasks that `run_agent` spawns, by their handles. -/
inductive Task where
  | agent
  | stats
  | state
  | controlState
  deriving DecidableEq

/-- `account_status` in an answer of the API. -/
inductive ApiAccountStatus where
  | guest
  | emailNotVerified
  | verified
  deriving DecidableEq

/-- The status that is shown. -/
def ApiAccountStatus.shown : ApiAccountStatus → AccountStatus
  | .guest => .guest
  | .emailNotVerified => .emailNotVerified
  | .verified => .verified

/-- What the poller makes of the rows of an answer of `v1_agents_rundata`. -/
structure RunData where
  tunnels : List TunnelState
  pending : List PendingTunnelState
  notices : List NoticeState
  account_status : ApiAccountStatus
  agent_id : String
  deriving DecidableEq

/-- The `AgentState` that the poller publishes. -/
def RunData.agentState (data : RunData) (ctx : StatusContext) (login_link : Option String) :
    AgentState where
  version := ctx.version
  tunnels := data.tunnels
  pending_tunnels := data.pending
  notices := data.notices
  account_status := data.account_status.shown
  agent_id := data.agent_id
  login_link := login_link
  start_time := ctx.start_time

/-- Where `broadcast_agent_state` is. -/
inductive PollerAt where
  /-- At its `select!`. -/
  | selecting
  /-- In `api.v1_agents_rundata()`. -/
  | requesting
  /-- In `get_cached_guest_login_link`. -/
  | linking (data : RunData)
  /-- With the steps of a publication to take. -/
  | publishing (steps : List PublishStep)

/-- Where `broadcast_control_state` is. -/
inductive WatcherAt where
  /-- At the top of its loop. -/
  | looking
  /-- About to read `has_secret` from the cache. -/
  | reading (state : ControlConnectionState)
  /-- With the steps of a publication to take. -/
  | publishing (state : ControlConnectionState) (steps : List PublishStep)
  /-- At its `select!`. -/
  | selecting

/-- `broadcast_control_state`: where it is, `last_state`, and the version of the channel that
`control_state` has seen. -/
structure Watcher where
  place : WatcherAt
  last_state : Option ControlConnectionState
  seen : ℕ

/-- The `watch` channel on which the control connection tells its state. -/
structure ControlWatch where
  value : ControlConnectionState
  version : ℕ
  closed : Bool

/-! ## `run_agent` -/

/-- `AgentStop`. -/
inductive AgentStop where
  | requested
  | unexpected (result : Except JoinError Unit)
  deriving DecidableEq

/-- `classify_agent_completion`. -/
def classifyAgentCompletion (runtime_cancelled : Bool) (result : Except JoinError Unit) :
    AgentStop :=
  if runtime_cancelled then .requested else .unexpected result

/-- What `run_agent` returns. -/
def AgentStop.outcome : AgentStop → Except RuntimeError Unit
  | .requested => .ok ()
  | .unexpected (.ok ()) => .error (.ofSetup "playit agent task stopped unexpectedly" true)
  | .unexpected (.error error) =>
    .error (.ofSetup s!"playit agent task failed: {error.text}" true)

/-- The handles that the cleanup awaits: the agent's only `if !unexpected`. -/
def AgentStop.cleanup : AgentStop → List Task
  | .requested => [.agent, .stats, .state, .controlState]
  | .unexpected _ => [.stats, .state, .controlState]

/-- The handles that are aborted, and then awaited, after the timeout. -/
def allTasks : List Task := [.agent, .stats, .state, .controlState]

/-- Where `run_agent` is. -/
inductive MainAt where
  /-- At its `select!`. -/
  | selecting
  /-- About to cancel the agent's token. -/
  | stopping (stop : AgentStop)
  /-- In `publish_stopping`: a stop was requested. -/
  | publishing (steps : List PublishStep)
  /-- In the cleanup, with the handles that it has still to await. -/
  | cleanup (stop : AgentStop) (rest : List Task)
  /-- After the timeout, with the handles that it has still to abort. -/
  | aborting (stop : AgentStop) (rest : List Task)
  /-- After the timeout, with the handles that it has still to await. -/
  | joining (stop : AgentStop) (rest : List Task)
  /-- About to forget the agent's token. -/
  | finishing (stop : AgentStop)
  | returned (outcome : Except RuntimeError Unit)
  /-- A handle was polled that had given its result. -/
  | panicked
  deriving DecidableEq

/-- `run_agent`, the tasks it spawned, and what they share. -/
structure RunAgent where
  /-- `inner.cancel_token`. -/
  cancelled : Bool
  /-- The token of the agent and of the three tasks. -/
  agent_cancelled : Bool
  /-- `inner.agent_cancel` holds the token of the agent. -/
  registered : Bool
  hub : Hub
  control : ControlWatch
  handles : Task → JoinHandle Unit
  /-- The steps that `broadcast_stats` has to take before it is at its `select!`. -/
  stats : List PublishStep
  poller : PollerAt
  watcher : Watcher
  main : MainAt

namespace RunAgent

/-- The tasks were just spawned. -/
def spawned (hub : Hub) (control : ControlWatch) (cancelled : Bool) : RunAgent where
  cancelled := cancelled
  agent_cancelled := false
  registered := true
  hub := hub
  control := control
  handles := fun _ => .spawned
  stats := []
  poller := .selecting
  watcher := ⟨.looking, none, control.version⟩
  main := .selecting

/-- The task is still running. -/
def running (s : RunAgent) (task : Task) : Bool := (s.handles task).result.isNone

/-- The task ends. -/
def finish (s : RunAgent) (task : Task) (result : Except JoinError Unit) : RunAgent :=
  { s with handles := Function.update s.handles task ((s.handles task).finish result) }

/-- The next of the steps can be preceded by a pause: a write awaits its lock, and what follows it
is sent at once. -/
def yields : List PublishStep → Bool
  | .send _ :: _ => false
  | _ => true

/-- The task is at an `await`, where it can be stopped. -/
def atAwait (s : RunAgent) : Task → Bool
  | .agent => true
  | .stats => yields s.stats
  | .state => match s.poller with
    | .publishing steps => yields steps
    | _ => true
  | .controlState => match s.watcher.place with
    | .publishing _ steps => yields steps
    | _ => true

/-! ## Actions -/

/-- What the agent, its control connection, and `request_shutdown` do. -/
inductive OutsideAction where
  /-- `request_shutdown` cancels the runtime's token. -/
  | requestShutdown
  /-- `request_shutdown` goes on to the agent's token. -/
  | requestAgentShutdown
  /-- The agent, when it ends, cancels its token first. -/
  | agentCancels
  | agentReturns
  | controlSends (state : ControlConnectionState)
  | controlCloses
  /-- A task panics, or it was aborted and is stopped. -/
  | fails (task : Task) (error : JoinError)

/-- What `broadcast_stats` does. -/
inductive StatsAction where
  | tick (stats : ConnectionStats)
  | publish
  | cancelled

/-- What `broadcast_agent_state` does. -/
inductive PollerAction where
  | tick
  | answered (data : Option RunData)
  | linked (login_link : Option String)
  | publish
  | cancelled

/-- What `broadcast_control_state` does. -/
inductive WatcherAction where
  | borrow
  | readSecret (now : UInt64)
  | publish
  | cancelled
  | changed

/-- What `run_agent` does. -/
inductive MainAction where
  /-- Its `select!` takes `inner.cancel_token.cancelled()`. -/
  | cancelled
  /-- Its `select!` takes `&mut agent_handle`. -/
  | joined
  /-- It goes on to the next statement. -/
  | proceed (now : UInt64)
  /-- It awaits the next handle. -/
  | await
  /-- The five seconds are over. -/
  | timeout

/-- One step of the system. -/
inductive Action where
  | outside (a : OutsideAction)
  | stats (a : StatsAction)
  | poller (a : PollerAction)
  | watcher (a : WatcherAction)
  | main (a : MainAction)

/-! ## Steps -/

/-- The step is taken, if it is possible. -/
def stepOutside (s : RunAgent) : OutsideAction → Option RunAgent
  | .requestShutdown => some { s with cancelled := true }
  | .requestAgentShutdown =>
    if s.cancelled && s.registered then some { s with agent_cancelled := true } else none
  | .agentCancels => if s.running .agent then some { s with agent_cancelled := true } else none
  | .agentReturns => if s.running .agent then some (s.finish .agent (.ok ())) else none
  | .controlSends state =>
    if s.control.closed then none
    else some { s with control := ⟨state, s.control.version + 1, false⟩ }
  | .controlCloses => some { s with control := { s.control with closed := true } }
  | .fails task (.panic text) =>
    if s.running task && s.atAwait task then some (s.finish task (.error (.panic text))) else none
  | .fails task (.cancelled text) =>
    if s.running task && s.atAwait task && (s.handles task).aborted then
      some (s.finish task (.error (.cancelled text)))
    else none

/-- `broadcast_stats`. -/
def stepStats (s : RunAgent) : StatsAction → Option RunAgent
  | .tick stats => match s.stats with
    | [] => some { s with stats := publishStats stats }
    | _ :: _ => none
  | .publish => match s.stats with
    | [] => none
    | step :: rest => some { s with hub := step.run s.hub, stats := rest }
  | .cancelled => match s.stats with
    | [] => if s.agent_cancelled then some (s.finish .stats (.ok ())) else none
    | _ :: _ => none

/-- `broadcast_agent_state`. -/
def stepPoller (ctx : StatusContext) (s : RunAgent) : PollerAction → Option RunAgent
  | .tick => match s.poller with
    | .selecting => some { s with poller := .requesting }
    | _ => none
  -- An error of the API is only logged.
  | .answered none => match s.poller with
    | .requesting => some { s with poller := .selecting }
    | _ => none
  | .answered (some data) => match s.poller with
    | .requesting => match data.account_status with
      | .guest => some { s with poller := .linking data }
      | _ =>
        some { s with
          poller := .publishing (publishLifecycle (.running (data.agentState ctx none))) }
    | _ => none
  | .linked login_link => match s.poller with
    | .linking data =>
      some { s with
        poller := .publishing (publishLifecycle (.running (data.agentState ctx login_link))) }
    | _ => none
  | .publish => match s.poller with
    | .publishing [] => some { s with poller := .selecting }
    | .publishing (step :: rest) =>
      some { s with hub := step.run s.hub, poller := .publishing rest }
    | _ => none
  | .cancelled => match s.poller with
    | .selecting => if s.agent_cancelled then some (s.finish .state (.ok ())) else none
    | _ => none

/-- The phase that is shown for a state of the control connection. -/
def servicePhase : ControlConnectionState → ServicePhase
  | .connected => .running
  | .reconnecting => .reconnecting

/-- `broadcast_control_state`. -/
def stepWatcher (ctx : StatusContext) (s : RunAgent) : WatcherAction → Option RunAgent
  | .borrow => match s.watcher.place with
    | .looking =>
      if s.watcher.last_state = some s.control.value then
        some { s with watcher := { s.watcher with place := .selecting } }
      else some { s with watcher := { s.watcher with place := .reading s.control.value } }
    | _ => none
  | .readSecret now => match s.watcher.place with
    | .reading state =>
      -- `has_secret` is taken over from the cache, and the rest is new.
      let status := ctx.status now (servicePhase state) s.hub.cache.status.has_secret none
      some { s with
        watcher := { s.watcher with place := .publishing state (publishStatus status) } }
    | _ => none
  | .publish => match s.watcher.place with
    | .publishing state [] =>
      some { s with watcher := { s.watcher with place := .selecting, last_state := some state } }
    | .publishing state (step :: rest) =>
      some { s with
        hub := step.run s.hub
        watcher := { s.watcher with place := .publishing state rest } }
    | _ => none
  | .cancelled => match s.watcher.place with
    | .selecting => if s.agent_cancelled then some (s.finish .controlState (.ok ())) else none
    | _ => none
  | .changed => match s.watcher.place with
    | .selecting =>
      -- A last value is seen before the end of the sender is.
      if s.watcher.seen ≠ s.control.version then
        some { s with watcher := { s.watcher with place := .looking, seen := s.control.version } }
      else if s.control.closed then some (s.finish .controlState (.ok ()))
      else none
    | _ => none

/-- A handle has given its result, and `run_agent` goes on. -/
def took (s : RunAgent) (task : Task) (main : MainAt) : RunAgent :=
  { s with handles := Function.update s.handles task (s.handles task).take, main := main }

/-- The handle is awaited: nothing happens while its task is running. -/
def await (s : RunAgent) (task : Task) (next : Except JoinError Unit → MainAt) : Option RunAgent :=
  match (s.handles task).poll with
  | .pending => none
  | .ready result => some (s.took task (next result))
  | .panics => some { s with main := .panicked }

/-- `run_agent`. -/
def stepMain (ctx : StatusContext) (s : RunAgent) : MainAction → Option RunAgent
  | .cancelled => match s.main with
    | .selecting => if s.cancelled then some { s with main := .stopping .requested } else none
    | _ => none
  | .joined => match s.main with
    | .selecting =>
      -- The token is looked at after the result was taken.
      s.await .agent fun result => .stopping (classifyAgentCompletion s.cancelled result)
    | _ => none
  | .proceed now => match s.main with
    -- `agent_cancel.cancel()`, in both cases.
    | .stopping .requested =>
      some { s with agent_cancelled := true, main := .publishing (publishStopping ctx now) }
    | .stopping (.unexpected result) =>
      some { s with
        agent_cancelled := true
        main := .cleanup (.unexpected result) (AgentStop.unexpected result).cleanup }
    | .publishing (step :: rest) =>
      some { s with hub := step.run s.hub, main := .publishing rest }
    | .publishing [] => some { s with main := .cleanup .requested AgentStop.requested.cleanup }
    | .cleanup stop [] => some { s with main := .finishing stop }
    | .aborting stop (task :: rest) =>
      some { s with
        handles := Function.update s.handles task (s.handles task).abort
        main := .aborting stop rest }
    -- All four handles are awaited, also those that have given their results.
    | .aborting stop [] => some { s with main := .joining stop allTasks }
    | .joining stop [] => some { s with main := .finishing stop }
    -- `set_agent_cancel(None)`.
    | .finishing stop => some { s with registered := false, main := .returned stop.outcome }
    | _ => none
  | .await => match s.main with
    | .cleanup stop (task :: rest) => s.await task fun _ => .cleanup stop rest
    | .joining stop (task :: rest) => s.await task fun _ => .joining stop rest
    | _ => none
  -- A timeout polls the future it limits first, so the handle it waits for was pending.
  | .timeout => match s.main with
    | .cleanup stop (task :: _) =>
      if (s.handles task).taken then none else some { s with main := .aborting stop allTasks }
    | _ => none

/-- One step of the system, if it is possible. The tasks take steps while they are running. -/
def next (ctx : StatusContext) (s : RunAgent) : Action → Option RunAgent
  | .outside a => s.stepOutside a
  | .stats a => if s.running .stats then s.stepStats a else none
  | .poller a => if s.running .state then s.stepPoller ctx a else none
  | .watcher a => if s.running .controlState then s.stepWatcher ctx a else none
  | .main a => s.stepMain ctx a

/-- The system as one that takes a step at a time. -/
def step (ctx : StatusContext) : RunAgent → Action → Except Unit (RunAgent × Unit) :=
  ofOption (next ctx)

end RunAgent

end PlayitAgent
