import PlayitAgent.Lib.Run
import PlayitAgent.Runtime.State

/-!
# A client of the event stream

The tasks of the runtime publish to the cache and to the event channel, each at its own pace, and
`IpcServer::handle_client` of `playitd/src/ipc_server.rs` serves a client: it subscribes to the
channel when the client connects, answers a subscribe request with a snapshot of the cache, and then
forwards the events. A `Feed` holds all of them. Each write, each send and each read of the cache is
one step. A task that is aborted is stopped before it writes, so its publication has not begun.
-/

namespace PlayitAgent

/-- The tasks that publish. -/
inductive Publisher where
  | supervisor
  | watcher
  | poller
  | stats
  deriving DecidableEq

/-- What a task begins to publish. -/
inductive Publication where
  /-- `publish_state`, in the supervisor. -/
  | state (status : ServiceStatus) (lifecycle : AgentLifecycle)
  /-- `publish_status`, in `broadcast_control_state`. -/
  | status (status : ServiceStatus)
  /-- `broadcast_agent_state`. -/
  | lifecycle (state : AgentState)
  /-- `broadcast_stats`. -/
  | stats (stats : ConnectionStats)

/-- The task that publishes it. -/
def Publication.publisher : Publication → Publisher
  | .state _ _ => .supervisor
  | .status _ => .watcher
  | .lifecycle _ => .poller
  | .stats _ => .stats

/-- Its steps. -/
def Publication.steps : Publication → List PublishStep
  | .state shown agent => publishState shown agent
  | .status shown => publishStatus shown
  | .lifecycle agent => publishLifecycle (.running agent)
  | .stats shown => publishStats shown

/-- `SubscriptionSnapshot`, which has the parts of the cache. -/
abbrev SubscriptionSnapshot := StateCache

/-- How far the answer to a subscribe request is. -/
inductive Answering where
  /-- No request is being answered. -/
  | idle
  /-- `StateCache::subscription_snapshot`, about to read the status. -/
  | readStatus
  | readLifecycle (status : ServiceStatus)
  | readStats (status : ServiceStatus) (lifecycle : AgentLifecycle)
  /-- `PlayitHandle::subscription_snapshot`, about to read the status again. -/
  | readStatusAgain (snapshot : SubscriptionSnapshot)
  | respond (snapshot : SubscriptionSnapshot)

/-- A connection of `handle_client`, with what the client makes of what it is sent. -/
structure Connection where
  /-- What `event_rx` has still to receive. -/
  queue : List ServiceUpdate
  /-- Events were dropped before they were received. -/
  lagged : Bool
  answering : Answering
  /-- The last snapshot, overwritten by the events received since, once the client is subscribed. -/
  view : Option SubscriptionSnapshot

/-- An event that is sent is put into the queue. -/
def Connection.receive (c : Connection) : PublishStep → Connection
  | .write _ => c
  | .send u => { c with queue := c.queue ++ [u] }

/-- The publishers and one client. -/
structure Feed where
  hub : Hub
  /-- The steps that each task has still to take. -/
  pending : Publisher → List PublishStep
  connection : Option Connection

/-- `IpcServer`: its endpoint, and when its runtime was started. -/
structure IpcServer where
  socket_path : String
  start_time : UInt64

/-- `IpcServer::transport_event`. -/
def IpcServer.transportEvent (server : IpcServer) : ServiceUpdate → ServiceUpdate
  | .status shown => .status { shown with socket_path := server.socket_path }
  | event => event

/-- `PlayitHandle::status`, from the status in the cache. -/
def IpcServer.handleStatus (server : IpcServer) (now : UInt64) (status : ServiceStatus) :
    ServiceStatus :=
  { status with uptime_secs := uptimeSecs now server.start_time }

namespace Feed

/-- Nobody is publishing, and no client is connected. -/
def start (hub : Hub) : Feed := ⟨hub, fun _ => [], none⟩

/-- The capacity of the event channel. -/
def capacity : ℕ := 256

/-- What can happen. -/
inductive Action where
  | begin (publication : Publication)
  | publish (publisher : Publisher)
  | connect
  /-- A subscribe request arrives. -/
  | subscribe
  /-- The next read of the cache for the answer. -/
  | read (now : UInt64)
  /-- The answer is sent. -/
  | respond
  /-- An event is forwarded. -/
  | deliver
  /-- The client was too slow, and so many of the oldest events are dropped. -/
  | lag (dropped : ℕ)

/-- `subscription_snapshot`, one read at a time. -/
def read (server : IpcServer) (cache : StateCache) (now : UInt64) : Answering → Option Answering
  | .readStatus => some (.readLifecycle cache.status)
  | .readLifecycle status => some (.readStats status cache.lifecycle)
  | .readStats status lifecycle => some (.readStatusAgain ⟨lifecycle, status, cache.stats⟩)
  | .readStatusAgain snapshot =>
    some (.respond { snapshot with status := server.handleStatus now cache.status })
  | _ => none

/-- One step of the connection, if it is possible. -/
def stepConnection (server : IpcServer) (cache : StateCache) (c : Connection) :
    Action → Option Connection
  | .subscribe => match c.answering with
    | .idle => some { c with answering := .readStatus }
    | _ => none
  | .read now =>
    (read server cache now c.answering).map fun answering => { c with answering := answering }
  -- `subscribe_response` fills in the endpoint.
  | .respond => match c.answering with
    | .respond snapshot =>
      some { c with
        answering := .idle
        view := some
          { snapshot with status := { snapshot.status with socket_path := server.socket_path } } }
    | _ => none
  -- Events are received only between requests, by a client that has subscribed.
  | .deliver => match c.answering, c.view, c.queue with
    | .idle, some view, event :: queue =>
      if queue.length < capacity then
        some { c with queue := queue, view := some (view.set (server.transportEvent event)) }
      else none
    | _, _, _ => none
  -- The log lines share the channel, so also events within its capacity may be dropped.
  | .lag dropped =>
    if 0 < dropped ∧ dropped ≤ c.queue.length ∧ c.queue.length ≤ dropped + capacity then
      some { c with queue := c.queue.drop dropped, lagged := true }
    else none
  | _ => none

/-- A task has taken a step, and the others are left for it. -/
def took (s : Feed) (publisher : Publisher) (step : PublishStep) (rest : List PublishStep) :
    Feed where
  hub := step.run s.hub
  pending := Function.update s.pending publisher rest
  connection := s.connection.map fun c => c.receive step

/-- One step, if it is possible. -/
def next (server : IpcServer) (s : Feed) : Action → Option Feed
  | .begin publication => match s.pending publication.publisher with
    | [] =>
      some { s with
        pending := Function.update s.pending publication.publisher publication.steps }
    | _ :: _ => none
  | .publish publisher => match s.pending publisher with
    | [] => none
    | step :: rest => some (s.took publisher step rest)
  | .connect => match s.connection with
    | none => some { s with connection := some ⟨[], false, .idle, none⟩ }
    | some _ => none
  | a => match s.connection with
    | none => none
    | some c =>
      (stepConnection server s.hub.cache c a).map fun c' => { s with connection := some c' }

/-- The feed as a system that takes a step at a time. -/
def step (server : IpcServer) : Feed → Action → Except Unit (Feed × Unit) := ofOption (next server)

end Feed

end PlayitAgent
