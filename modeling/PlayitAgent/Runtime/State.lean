import Mathlib.Data.List.Basic
import PlayitAgent.Control.Environment

/-!
# What the runtime tells its clients

The state of `playit-runtime/src/state.rs`: a cache with the status of the service, the lifecycle of
the agent and the statistics, each behind a lock of its own, and a channel on which every change is
sent as an event. A publication is a few steps on these, and other tasks can run between any two of
them.
-/

namespace PlayitAgent

/-! ## The data of `playit-ipc/src/model.rs` -/

/-- `ServicePhase`. -/
inductive ServicePhase where
  | waitingForSecret
  | hasInvalidSecret
  | disabledOverLimit
  | starting
  | reconnecting
  | running
  | stopping
  | error
  deriving DecidableEq

/-- `ServiceErrorCode`. -/
inductive ServiceErrorCode where
  | internal
  | unsupportedProtocol
  | invalidRequest
  | invalidRequestType
  | agentDisabledOverLimit
  | invalidSecret
  | secretPinned
  | provisioningUnavailable
  | secretWriteFailed
  | apiUnavailable
  | invalidTunnelRequest
  | tunnelNotFound
  | apiRejected
  | permissionDenied
  deriving DecidableEq

/-- `ServiceError`, with the text of its JSON details. -/
structure ServiceError where
  code : ServiceErrorCode
  message : String
  retryable : Bool
  details : Option String
  deriving DecidableEq

/-- `AccountStatus`. -/
inductive AccountStatus where
  | unknown
  | guest
  | emailNotVerified
  | verified
  deriving DecidableEq

/-- `TunnelProtocol`. -/
inductive TunnelProtocol where
  | tcp
  | udp
  | both
  deriving DecidableEq

/-- `TunnelState`. -/
structure TunnelState where
  id : String
  name : Option String
  display_address : String
  destination : String
  protocol : TunnelProtocol
  port_count : UInt16
  local_address : Option String
  local_port : Option UInt16
  is_disabled : Bool
  disabled_reason : Option String
  deriving DecidableEq

/-- `PendingTunnelState`. -/
structure PendingTunnelState where
  id : String
  status_msg : String
  deriving DecidableEq

/-- `NoticeState`. -/
structure NoticeState where
  priority : String
  message : String
  resolve_link : Option String
  deriving DecidableEq

/-- `AgentState`. -/
structure AgentState where
  version : String
  tunnels : List TunnelState
  pending_tunnels : List PendingTunnelState
  notices : List NoticeState
  account_status : AccountStatus
  agent_id : String
  login_link : Option String
  start_time : UInt64
  deriving DecidableEq

/-- `AgentLifecycle`. -/
inductive AgentLifecycle where
  | waitingForSecret
  | hasInvalidSecret (error : ServiceError)
  | disabledOverLimit (error : ServiceError)
  | starting
  | running (state : AgentState)
  | stopping
  | error (error : ServiceError)
  deriving DecidableEq

/-- `ConnectionStats`. -/
structure ConnectionStats where
  bytes_in : UInt64
  bytes_out : UInt64
  active_tcp : UInt32
  active_udp : UInt32
  deriving DecidableEq

/-- `ProtocolInfo`. -/
structure ProtocolInfo where
  ipc_version : UInt32
  capabilities : List String
  deriving DecidableEq

/-- `protocol_info`. -/
def protocolInfo : ProtocolInfo where
  ipc_version := 3
  capabilities := ["structured_responses", "stream_events", "lifecycle_state", "rich_status",
    "secret_provisioning", "tunnel_management", "account_tunnel_management",
    "semantic_tunnel_types", "account_state", "control_reconnect_state", "claim_provisioning",
    "direct_account_auth"]

/-- `ServiceStatus`. -/
structure ServiceStatus where
  phase : ServicePhase
  pid : UInt32
  uptime_secs : UInt64
  version : String
  socket_path : String
  secret_path : Option String
  has_secret : Bool
  protocol : ProtocolInfo
  last_error : Option ServiceError
  deriving DecidableEq

/-- `ServiceUpdate`, without the log lines: they come from the tracing layer and tell nothing of the
state. -/
inductive ServiceUpdate where
  | status (status : ServiceStatus)
  | lifecycle (lifecycle : AgentLifecycle)
  | stats (stats : ConnectionStats)
  deriving DecidableEq

/-- The three things the runtime tells. -/
inductive Kind where
  | status
  | lifecycle
  | stats
  deriving DecidableEq

/-- What an event is about. -/
def ServiceUpdate.kind : ServiceUpdate → Kind
  | .status _ => .status
  | .lifecycle _ => .lifecycle
  | .stats _ => .stats

/-! ## The cache -/

/-- `StateCache`. -/
structure StateCache where
  lifecycle : AgentLifecycle
  status : ServiceStatus
  stats : ConnectionStats
  deriving DecidableEq

/-- `StateCache::default`. -/
def StateCache.default : StateCache where
  lifecycle := .starting
  status := ⟨.starting, 0, 0, "", "", none, false, ⟨0, []⟩, none⟩
  stats := ⟨0, 0, 0, 0⟩

/-- `set_status`, `set_lifecycle` and `set_stats`: the write of what an event will tell. -/
def StateCache.set (cache : StateCache) : ServiceUpdate → StateCache
  | .status status => { cache with status := status }
  | .lifecycle lifecycle => { cache with lifecycle := lifecycle }
  | .stats stats => { cache with stats := stats }

/-- `status`, `lifecycle` and `stats`: the reads, as what an event would tell. -/
def StateCache.get (cache : StateCache) : Kind → ServiceUpdate
  | .status => .status cache.status
  | .lifecycle => .lifecycle cache.lifecycle
  | .stats => .stats cache.stats

/-- A read gives something of the kind that is asked for. -/
@[simp]
theorem StateCache.kind_get (cache : StateCache) (kind : Kind) : (cache.get kind).kind = kind := by
  cases kind <;> rfl

/-- What was written is read. -/
@[simp]
theorem StateCache.get_set (cache : StateCache) (u : ServiceUpdate) :
    (cache.set u).get u.kind = u := by
  cases u <;> rfl

/-- A write leaves what is of another kind. -/
theorem StateCache.get_set_of_ne (cache : StateCache) {u : ServiceUpdate} {kind : Kind}
    (h : u.kind ≠ kind) : (cache.set u).get kind = cache.get kind := by
  cases u <;> cases kind <;> first | rfl | exact absurd rfl h

/-- `StatusContext`, with the id of the process. -/
structure StatusContext where
  secret_path : Option String
  version : String
  start_time : UInt64
  pid : UInt32

/-- `now.saturating_sub(start_time) / 1000`. -/
def uptimeSecs (now start_time : UInt64) : UInt64 :=
  if now < start_time then 0 else (now - start_time) / 1000

/-- `StatusContext::status`, at the time `now`. -/
def StatusContext.status (ctx : StatusContext) (now : UInt64) (phase : ServicePhase)
    (has_secret : Bool) (last_error : Option ServiceError) : ServiceStatus where
  phase := phase
  pid := ctx.pid
  uptime_secs := uptimeSecs now ctx.start_time
  version := ctx.version
  -- The reusable runtime has no endpoint: an IPC adapter fills its own in.
  socket_path := ""
  secret_path := ctx.secret_path
  has_secret := has_secret
  protocol := protocolInfo
  last_error := last_error

/-! ## Publications -/

/-- One step of a publication: a write to the cache, or an event sent on the channel. -/
inductive PublishStep where
  | write (u : ServiceUpdate)
  | send (u : ServiceUpdate)
  deriving DecidableEq

/-- What a step tells. -/
def PublishStep.update : PublishStep → ServiceUpdate
  | .write u => u
  | .send u => u

/-- The cache and the events sent so far. -/
structure Hub where
  cache : StateCache
  sent : List ServiceUpdate

/-- A step is taken. -/
def PublishStep.run (hub : Hub) : PublishStep → Hub
  | .write u => { hub with cache := hub.cache.set u }
  | .send u => { hub with sent := hub.sent ++ [u] }

/-- The last event of a kind. -/
def Hub.lastSent (hub : Hub) (kind : Kind) : Option ServiceUpdate :=
  hub.sent.reverse.find? fun u => u.kind = kind

/-- `RuntimeInner::publish_state`. -/
def publishState (status : ServiceStatus) (lifecycle : AgentLifecycle) : List PublishStep :=
  [.write (.status status), .write (.lifecycle lifecycle), .send (.status status),
    .send (.lifecycle lifecycle)]

/-- `RuntimeInner::publish_status`. -/
def publishStatus (status : ServiceStatus) : List PublishStep :=
  [.write (.status status), .send (.status status)]

/-- What `broadcast_agent_state` does with an answer of the API. -/
def publishLifecycle (lifecycle : AgentLifecycle) : List PublishStep :=
  [.write (.lifecycle lifecycle), .send (.lifecycle lifecycle)]

/-- What `broadcast_stats` does at each tick. -/
def publishStats (stats : ConnectionStats) : List PublishStep :=
  [.write (.stats stats), .send (.stats stats)]

/-- `publish_stopping`, with a secret. -/
def publishStopping (ctx : StatusContext) (now : UInt64) : List PublishStep :=
  publishState (ctx.status now .stopping true none) .stopping

end PlayitAgent
