import PlayitAgent.Ipc.Server

/-!
# The client of the IPC protocol

`IpcClient` of `playit-ipc/src/ipc.rs`, from one await to the next: the greeting in
`connect_with_path`, the calls through `request`, and `recv_update`. The end of a connection at the
server has that name here already, so this one is `IpcCaller`.

What `serde_json` makes of the messages is a parameter again. `FramedWrite` keeps what it has not
written yet, also when the future of a call is dropped, and `FramedRead` keeps what it has not cut
into lines.
-/

namespace PlayitAgent

/-! ## Messages -/

/-- `RequestEnvelope`. -/
structure RequestEnvelope where
  ipc_version : UInt32
  request_id : UInt64
  request : ServiceRequest
  deriving DecidableEq

/-- `ServiceUpdateOrUnknown`. -/
inductive ServiceUpdateOrUnknown where
  | known (event : ServiceEvent)
  | unknown (type_name : String)

/-- `IncomingServerEnvelope`. -/
inductive IncomingServerEnvelope where
  | hello (protocol : ProtocolInfo)
  | response (envelope : ResponseEnvelope)
  | event (ipc_version : UInt32) (event : ServiceUpdateOrUnknown)

/-- It is a response. -/
def IncomingServerEnvelope.isResponse : IncomingServerEnvelope → Bool
  | .response _ => true
  | _ => false

/-- The update in a frame, if it is one of a known type. -/
def IncomingServerEnvelope.update? : IncomingServerEnvelope → Option ServiceEvent
  | .event _ (.known update) => some update
  | _ => none

/-- A frame of a server of the same version. -/
def ServerEnvelope.incoming : ServerEnvelope → IncomingServerEnvelope
  | .hello protocol => .hello protocol
  | .response envelope => .response envelope
  | .event ipc_version update => .event ipc_version (.known update)

/-- `IpcError`, as far as the calls return it. A line that is not UTF-8 text is an `IoError`, and
one that is not a message is a `JsonError`; both are `invalidLine`. -/
inductive CallError where
  | ioError (text : String)
  | invalidLine
  | protocolMismatch (expected actual : UInt32)
  | protocolError (message : String)
  | service (error : ServiceError)
  deriving DecidableEq

/-- `service_response_name`. -/
def serviceResponseName : ServiceResponse → String
  | .subscribe _ => "subscribe"
  | .status _ => "status"
  | .state _ => "state"
  | .tunnels _ => "tunnels"
  | .accountTunnels _ => "account_tunnels"
  | .createTunnel _ => "create_tunnel"
  | .deleteTunnel _ => "delete_tunnel"
  | .reassignTunnel _ => "reassign_tunnel"
  | .account _ => "account"
  | .claim _ => "claim"
  | .stop _ => "stop"
  | .setSecret _ => "set_secret"
  | .resetSecret _ => "reset_secret"
  | .secretPath _ => "secret_path"
  | .accountLoginUrl _ => "account_login_url"
  | .error _ => "error"

/-- `service_update_name`. -/
def serviceUpdateName : ServiceEvent → String
  | .update (.status _) => "status"
  | .update (.lifecycle _) => "lifecycle"
  | .update (.stats _) => "stats"
  | .log _ => "log"

/-- `is_known_update_type`. -/
def isKnownUpdateType (event_type : String) : Bool :=
  event_type ∈ ["status", "lifecycle", "stats", "log"]

/-- What `serde_json` and the derived instances do with the messages, over the values of JSON. -/
structure EnvelopeCodec (Value : Type) where
  /-- `to_string` of a request. -/
  request : RequestEnvelope → List UInt8
  /-- `to_string` of a frame. -/
  frame : ServerEnvelope → List UInt8
  /-- `from_str::<ServerEnvelope>`. -/
  parse : List UInt8 → Option ServerEnvelope
  /-- A line as an `IncomingServerEnvelope`, with the event as it is. -/
  parseIncoming : List UInt8 → Option ((ProtocolInfo ⊕ ResponseEnvelope) ⊕ (UInt32 × Value))
  /-- `ServiceUpdate::deserialize`. -/
  update : Value → Option ServiceEvent
  /-- `UnknownTaggedEvent::deserialize`: the string in the field `type`. -/
  unknown : Value → Option String

namespace EnvelopeCodec

variable {Value : Type} (codec : EnvelopeCodec Value)

/-- `ServiceUpdateOrUnknown::deserialize`: the first of the two that succeeds. -/
def updateOrUnknown (value : Value) : Option ServiceUpdateOrUnknown :=
  match codec.update value with
  | some event => some (.known event)
  | none => (codec.unknown value).map .unknown

/-- `from_str::<IncomingServerEnvelope>`. -/
def decodeIncoming (line : List UInt8) : Option IncomingServerEnvelope :=
  match codec.parseIncoming line with
  | some (.inl (.inl protocol)) => some (.hello protocol)
  | some (.inl (.inr envelope)) => some (.response envelope)
  | some (.inr (ipc_version, value)) => (codec.updateOrUnknown value).map (.event ipc_version)
  | none => none

end EnvelopeCodec

/-! ## What a line comes to -/

/-- `ensure_ipc_version`. -/
def ensureIpcVersion (actual : UInt32) : Except CallError Unit :=
  if actual = ipcVersion then .ok () else .error (.protocolMismatch ipcVersion actual)

/-- `recv_hello` and the check behind it. -/
def recvHello : ServerEnvelope → Except CallError ProtocolInfo
  | .hello protocol => (ensureIpcVersion protocol.ipc_version).map fun _ => protocol
  | .response envelope =>
    .error (.protocolError ("expected hello frame, got " ++ serviceResponseName envelope.response ++
      " RPC response"))
  | .event _ event =>
    .error (.protocolError ("expected hello frame, got " ++ serviceUpdateName event ++
      " stream event"))

/-- `recv_response`. -/
def recvResponse : ServerEnvelope → Except CallError ResponseEnvelope
  | .response envelope => .ok envelope
  | .event _ event =>
    .error (.protocolError ("received " ++ serviceUpdateName event ++
      " stream event while waiting for RPC response"))
  | .hello _ => .error (.protocolError "received duplicate hello while waiting for RPC response")

/-- The error for a response to another request. -/
def mismatchedResponseId (expected actual : UInt64) : CallError :=
  .protocolError ("mismatched response id: expected " ++ toString expected.toNat ++ ", got " ++
    toString actual.toNat)

/-- The rest of `request`, behind the read of a frame. -/
def requestResult (request_id : UInt64) (frame : ServerEnvelope) :
    Except CallError ServiceResponse := do
  let response ← recvResponse frame
  ensureIpcVersion response.ipc_version
  if response.request_id ≠ request_id then
    .error (mismatchedResponseId request_id response.request_id)
  else .ok response.response

/-- `validate_incoming_server_envelope`. -/
def validateIncomingServerEnvelope : IncomingServerEnvelope → Except CallError Unit
  | .event _ (.unknown type_name) =>
    if isKnownUpdateType type_name then
      .error (.protocolError ("invalid IPC event payload for " ++ type_name))
    else .ok ()
  | _ => .ok ()

/-- A turn of the loop in `recv_update`, or `none` when there is another. -/
def recvUpdate (envelope : IncomingServerEnvelope) : Except CallError (Option ServiceEvent) := do
  validateIncomingServerEnvelope envelope
  match envelope with
  | .event ipc_version event =>
    ensureIpcVersion ipc_version
    match event with
    | .known event => .ok (some event)
    | .unknown _ => .ok none
  | .response envelope =>
    .error (.protocolError ("received " ++ serviceResponseName envelope.response ++
      " RPC response while waiting for stream event"))
  | .hello _ =>
    .error (.protocolError "received duplicate hello while waiting for stream event")

/-- `expect_response`. -/
def expectResponse {α : Type} (response : ServiceResponse) (expected : String)
    (extract : ServiceResponse → Option α) : Except CallError α :=
  match response with
  | .error error => .error (.service error)
  | response =>
    match extract response with
    | some a => .ok a
    | none => .error (.protocolError ("expected " ++ expected ++ ", got " ++
        serviceResponseName response))

/-! ## The typed calls -/

namespace ServiceResponse

/-- The `Subscribe` response, if it is one. -/
def subscribe? : ServiceResponse → Option SubscribeResponse
  | .subscribe response => some response
  | _ => none

/-- The `Status` response, if it is one. -/
def status? : ServiceResponse → Option ServiceStatus
  | .status response => some response
  | _ => none

/-- The `State` response, if it is one. -/
def state? : ServiceResponse → Option AgentLifecycle
  | .state response => some response
  | _ => none

/-- The `Tunnels` response, if it is one. -/
def tunnels? : ServiceResponse → Option TunnelListResponse
  | .tunnels response => some response
  | _ => none

/-- The `AccountTunnels` response, if it is one. -/
def accountTunnels? : ServiceResponse → Option AccountTunnelListResponse
  | .accountTunnels response => some response
  | _ => none

/-- The `CreateTunnel` response, if it is one. -/
def createTunnel? : ServiceResponse → Option TunnelCreateResponse
  | .createTunnel response => some response
  | _ => none

/-- The `DeleteTunnel` response, if it is one. -/
def deleteTunnel? : ServiceResponse → Option CommandResponse
  | .deleteTunnel response => some response
  | _ => none

/-- The `ReassignTunnel` response, if it is one. -/
def reassignTunnel? : ServiceResponse → Option CommandResponse
  | .reassignTunnel response => some response
  | _ => none

/-- The `Account` response, if it is one. -/
def account? : ServiceResponse → Option AccountResponse
  | .account response => some response
  | _ => none

/-- The `Claim` response, if it is one. -/
def claim? : ServiceResponse → Option ClaimResponse
  | .claim response => some response
  | _ => none

/-- The `Stop` response, if it is one. -/
def stop? : ServiceResponse → Option CommandResponse
  | .stop response => some response
  | _ => none

/-- The `SetSecret` response, if it is one. -/
def setSecret? : ServiceResponse → Option CommandResponse
  | .setSecret response => some response
  | _ => none

/-- The `ResetSecret` response, if it is one. -/
def resetSecret? : ServiceResponse → Option CommandResponse
  | .resetSecret response => some response
  | _ => none

/-- The `SecretPath` response, if it is one. -/
def secretPath? : ServiceResponse → Option SecretPathResponse
  | .secretPath response => some response
  | _ => none

/-- The `AccountLoginUrl` response, if it is one. -/
def accountLoginUrl? : ServiceResponse → Option AccountLoginUrlResponse
  | .accountLoginUrl response => some response
  | _ => none

end ServiceResponse

namespace IpcCaller

/-- `subscribe`, with what `request` returned. -/
def subscribe (response : ServiceResponse) : Except CallError SubscribeResponse :=
  expectResponse response "subscribe response" ServiceResponse.subscribe?

/-- `status`, with what `request` returned. -/
def status (response : ServiceResponse) : Except CallError ServiceStatus :=
  expectResponse response "status response" ServiceResponse.status?

/-- `lifecycle`, with what `request` returned. -/
def lifecycle (response : ServiceResponse) : Except CallError AgentLifecycle :=
  expectResponse response "lifecycle response" ServiceResponse.state?

/-- `list_tunnels`, with what `request` returned. -/
def listTunnels (response : ServiceResponse) : Except CallError TunnelListResponse :=
  expectResponse response "tunnel list response" ServiceResponse.tunnels?

/-- `list_account_tunnels`, with what `request` returned. -/
def listAccountTunnels (response : ServiceResponse) : Except CallError AccountTunnelListResponse :=
  expectResponse response "account tunnel list response" ServiceResponse.accountTunnels?

/-- `create_tunnel`, with what `request` returned. -/
def createTunnel (response : ServiceResponse) : Except CallError TunnelCreateResponse :=
  expectResponse response "tunnel create response" ServiceResponse.createTunnel?

/-- `create_minecraft_java_tunnel`, with what `request` returned. -/
def createMinecraftJavaTunnel (response : ServiceResponse) :
    Except CallError TunnelCreateResponse :=
  expectResponse response "Minecraft Java tunnel create response" ServiceResponse.createTunnel?

/-- `delete_tunnel`, with what `request` returned. -/
def deleteTunnel (response : ServiceResponse) : Except CallError CommandResponse :=
  expectResponse response "tunnel delete response" ServiceResponse.deleteTunnel?

/-- `reassign_tunnel`, with what `request` returned. -/
def reassignTunnel (response : ServiceResponse) : Except CallError CommandResponse :=
  expectResponse response "tunnel reassignment response" ServiceResponse.reassignTunnel?

/-- `account`, with what `request` returned. -/
def account (response : ServiceResponse) : Except CallError AccountResponse :=
  expectResponse response "account response" ServiceResponse.account?

/-- `start_claim`, with what `request` returned. -/
def startClaim (response : ServiceResponse) : Except CallError ClaimResponse :=
  expectResponse response "claim response" ServiceResponse.claim?

/-- `stop`, with what `request` returned. -/
def stop (response : ServiceResponse) : Except CallError CommandResponse :=
  expectResponse response "stop response" ServiceResponse.stop?

/-- `set_secret`, with what `request` returned. -/
def setSecret (response : ServiceResponse) : Except CallError CommandResponse :=
  expectResponse response "secret provisioning response" ServiceResponse.setSecret?

/-- `reset_secret`, with what `request` returned. -/
def resetSecret (response : ServiceResponse) : Except CallError CommandResponse :=
  expectResponse response "reset secret response" ServiceResponse.resetSecret?

/-- `get_secret_path`, with what `request` returned. -/
def getSecretPath (response : ServiceResponse) : Except CallError SecretPathResponse :=
  expectResponse response "secret path response" ServiceResponse.secretPath?

/-- `get_account_login_url`, with what `request` returned. -/
def getAccountLoginUrl (response : ServiceResponse) : Except CallError AccountLoginUrlResponse :=
  expectResponse response "account login URL response" ServiceResponse.accountLoginUrl?

/-- What the method for a request makes of the response, without its value. -/
def check : ServiceRequest → ServiceResponse → Except CallError Unit
  | .subscribe, response => (subscribe response).map fun _ => ()
  | .getStatus, response => (status response).map fun _ => ()
  | .getState, response => (lifecycle response).map fun _ => ()
  | .getTunnels, response => (listTunnels response).map fun _ => ()
  | .getAccountTunnels, response => (listAccountTunnels response).map fun _ => ()
  | .createTunnel .., response => (createTunnel response).map fun _ => ()
  | .createMinecraftJavaTunnel .., response => (createMinecraftJavaTunnel response).map fun _ => ()
  | .deleteTunnel .., response => (deleteTunnel response).map fun _ => ()
  | .reassignTunnel .., response => (reassignTunnel response).map fun _ => ()
  | .getAccount, response => (account response).map fun _ => ()
  | .startClaim, response => (startClaim response).map fun _ => ()
  | .stop, response => (stop response).map fun _ => ()
  | .setSecret .., response => (setSecret response).map fun _ => ()
  | .resetSecret, response => (resetSecret response).map fun _ => ()
  | .getSecretPath, response => (getSecretPath response).map fun _ => ()
  | .getAccountLoginUrl, response => (getAccountLoginUrl response).map fun _ => ()

end IpcCaller

/-! ## The client -/

/-- Where the client is. -/
inductive CallerAt where
  /-- In `recv_hello`. -/
  | greeting
  | idle
  /-- In `write_json`, with the line not in the buffer yet. -/
  | feeding (envelope : RequestEnvelope)
  /-- In `write_json`, with the line in the buffer. -/
  | flushing (envelope : RequestEnvelope)
  /-- In `recv_response`. -/
  | awaiting (envelope : RequestEnvelope)
  /-- In `recv_update`. -/
  | updating
  /-- It was dropped, or never returned. -/
  | gone
  deriving DecidableEq

/-- The request of a call that has put it in the buffer and waits. -/
def CallerAt.waiting? : CallerAt → Option RequestEnvelope
  | .flushing envelope | .awaiting envelope => some envelope
  | _ => none

/-- A call of `request` that has returned. -/
structure Call where
  envelope : RequestEnvelope
  result : Except CallError ServiceResponse
  /-- How many requests before its own had no response that was read. -/
  stale : ℕ

/-- `IpcClient` of `playit-ipc`. -/
structure IpcCaller where
  phase : CallerAt
  next_request_id : UInt64
  server_protocol : Option ProtocolInfo
  /-- The buffer of `FramedRead`. -/
  buffer : List UInt8
  /-- The end of the stream was found. -/
  eof : Bool
  /-- The buffer of `FramedWrite`. -/
  pending : List UInt8
  /-- How many calls there were. -/
  started : ℕ
  /-- The requests that were put in the buffer. -/
  requests : List RequestEnvelope
  /-- The frames that were read. -/
  taken : List IncomingServerEnvelope
  log : List Call
  /-- What `recv_update` has returned. -/
  updates : List ServiceEvent

namespace IpcCaller

/-- The backpressure boundary of `FramedWrite`. -/
def backpressureBoundary : ℕ := 8 * 1024

/-- What the client can do. -/
inductive Action where
  /-- A call, with `next_request_id` taken. -/
  | call (request : ServiceRequest)
  /-- The line of the call is put in the buffer. -/
  | feed
  | flushed
  /-- `recv_update` is called. -/
  | update
  /-- A line is read. -/
  | read
  /-- The end of the stream is read. -/
  | readEnd
  /-- An operation of the socket fails. -/
  | fails (text : String)
  /-- The future is dropped. -/
  | cancel
  /-- The client is dropped. -/
  | hangUp

/-- The step leaves a call without the response to its request. -/
def Action.abandons : Action → Bool
  | .fails _ | .cancel | .readEnd => true
  | _ => false

/-- The client that `connect_with_path` makes. -/
def connected : IpcCaller where
  phase := .greeting
  next_request_id := 1
  server_protocol := none
  buffer := []
  eof := false
  pending := []
  started := 0
  requests := []
  taken := []
  log := []
  updates := []

/-- How many responses were read. -/
def answered (s : IpcCaller) : ℕ := s.taken.countP IncomingServerEnvelope.isResponse

/-- How many requests before the last one have no response that was read. -/
def stale (s : IpcCaller) : ℕ := s.requests.length - 1 - s.answered

/-- The call returns. -/
def returns (s : IpcCaller) (envelope : RequestEnvelope)
    (result : Except CallError ServiceResponse) : IpcCaller :=
  { s with phase := .idle, log := s.log ++ [⟨envelope, result, s.stale⟩] }

/-- What the client awaits fails. -/
def fail (s : IpcCaller) (error : CallError) : IpcCaller :=
  match s.phase with
  | .greeting => { s with phase := .gone }
  | .feeding envelope => { s with
      phase := .idle, log := s.log ++ [⟨envelope, .error error, s.requests.length - s.answered⟩] }
  | .flushing envelope | .awaiting envelope => s.returns envelope (.error error)
  | .updating => { s with phase := .idle }
  | .idle | .gone => s

section
variable {Value : Type} (codec : EnvelopeCodec Value)

/-- A frame is read by `recv_server_envelope`. -/
def receive (s : IpcCaller) (frame : ServerEnvelope) : IpcCaller :=
  let s' := { s with taken := s.taken ++ [frame.incoming] }
  match s.phase with
  | .greeting => match recvHello frame with
    | .ok protocol => { s' with phase := .idle, server_protocol := some protocol }
    | .error _ => { s' with phase := .gone }
  | .awaiting envelope =>
    -- What was in front of the own request was so before the read.
    { s' with
      phase := .idle
      log := s.log ++ [⟨envelope, requestResult envelope.request_id frame, s.stale⟩] }
  | _ => s'

/-- A frame is read by `recv_update`. -/
def receiveIncoming (s : IpcCaller) (envelope : IncomingServerEnvelope) : IpcCaller :=
  let s := { s with taken := s.taken ++ [envelope] }
  match recvUpdate envelope with
  | .ok (some event) => { s with phase := .idle, updates := s.updates ++ [event] }
  | .ok none => s
  | .error _ => { s with phase := .idle }

/-- A line is read. -/
def readLine (s : IpcCaller) (line rest : List UInt8) : IpcCaller :=
  let s := { s with buffer := rest }
  let text := IpcClient.withoutCarriageReturn line
  match s.phase with
  | .updating => match codec.decodeIncoming text with
    | some envelope => s.receiveIncoming envelope
    | none => s.fail .invalidLine
  | _ => match codec.parse text with
    | some frame => s.receive frame
    | none => s.fail .invalidLine

/-- The client waits for a line. -/
def CallerAt.reads : CallerAt → Bool
  | .greeting | .awaiting _ | .updating => true
  | _ => false

/-- One step, if it is possible. -/
def next (s : IpcCaller) : Action → Option IpcCaller
  | .call request => match s.phase with
    | .idle => some { s with
        phase := .feeding ⟨ipcVersion, s.next_request_id, request⟩
        next_request_id := s.next_request_id + 1
        started := s.started + 1 }
    | _ => none
  | .feed => match s.phase with
    | .feeding envelope =>
      if s.pending.length < backpressureBoundary then
        some { s with
          phase := .flushing envelope
          pending := s.pending ++ (codec.request envelope ++ [IpcClient.newline])
          requests := s.requests ++ [envelope] }
      else none
    | _ => none
  | .flushed => match s.phase with
    | .flushing envelope =>
      if s.pending = [] then some { s with phase := .awaiting envelope } else none
    | _ => none
  | .update => match s.phase with
    | .idle => some { s with phase := .updating }
    | _ => none
  | .read => match takeLine IpcClient.newline s.buffer with
    | some (line, rest) =>
      if CallerAt.reads s.phase then some (s.readLine codec line rest) else none
    | none => none
  -- What is left behind the last newline is a line, too, if it is not empty.
  | .readEnd => match takeLine IpcClient.newline s.buffer with
    | some _ => none
    | none =>
      if CallerAt.reads s.phase ∧ s.eof then
        if s.buffer = [] ∨ s.buffer = [13] then some (s.fail (.ioError "Connection closed"))
        else some (s.readLine codec s.buffer [])
      else none
  | .fails text => match s.phase with
    | .idle | .gone => none
    | _ => some (s.fail (.ioError text))
  | .cancel => match s.phase with
    | .greeting => some { s with phase := .gone }
    | .idle | .gone => none
    | _ => some { s with phase := .idle }
  | .hangUp => some { s with phase := .gone }

end

end IpcCaller

end PlayitAgent
