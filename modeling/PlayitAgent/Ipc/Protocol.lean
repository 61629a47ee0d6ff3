import PlayitAgent.Runtime.Provisioning
import PlayitAgent.Runtime.Subscription

/-!
# The IPC protocol

The messages of `playit-ipc/src/ipc.rs`, and `validate_request_envelope` and
`handle_service_request` of `playitd/src/ipc_server.rs`. `serde` and `serde_json` are outside: what
they make of a line, and of the value of the field `request`, is a parameter. The fallback of
`ServiceRequestOrUnknown` from one to the other is in the model, as is the list of known request
types.
-/

namespace PlayitAgent

/-- `IPC_VERSION`. -/
def ipcVersion : UInt32 := 3

/-! ## Requests -/

/-- `ServiceRequest`. -/
inductive ServiceRequest where
  | subscribe
  | getStatus
  | getState
  | getTunnels
  | getAccountTunnels
  | createTunnel (local_port : UInt16) (protocol : TunnelProtocol) (local_address : Option String)
    (name : Option String)
  | createMinecraftJavaTunnel (local_port : UInt16) (local_address : Option String)
    (name : Option String)
  | deleteTunnel (tunnel_id : String)
  | reassignTunnel (tunnel_id : String) (local_port : UInt16) (local_address : Option String)
  | getAccount
  | startClaim
  | stop
  | setSecret (secret : String)
  | resetSecret
  | getSecretPath
  | getAccountLoginUrl
  deriving DecidableEq

/-- The tag of a request: its name in `snake_case`. -/
def ServiceRequest.typeName : ServiceRequest → String
  | .subscribe => "subscribe"
  | .getStatus => "get_status"
  | .getState => "get_state"
  | .getTunnels => "get_tunnels"
  | .getAccountTunnels => "get_account_tunnels"
  | .createTunnel .. => "create_tunnel"
  | .createMinecraftJavaTunnel .. => "create_minecraft_java_tunnel"
  | .deleteTunnel .. => "delete_tunnel"
  | .reassignTunnel .. => "reassign_tunnel"
  | .getAccount => "get_account"
  | .startClaim => "start_claim"
  | .stop => "stop"
  | .setSecret .. => "set_secret"
  | .resetSecret => "reset_secret"
  | .getSecretPath => "get_secret_path"
  | .getAccountLoginUrl => "get_account_login_url"

/-- The names in `is_known_request_type`. -/
def knownRequestTypes : List String :=
  ["subscribe", "get_status", "get_state", "get_tunnels", "get_account_tunnels", "create_tunnel",
    "create_minecraft_java_tunnel", "delete_tunnel", "reassign_tunnel", "get_account",
    "start_claim", "stop", "set_secret", "reset_secret", "get_secret_path", "get_account_login_url"]

/-- `is_known_request_type`. -/
def isKnownRequestType (type_name : String) : Bool := type_name ∈ knownRequestTypes

/-- `UnknownTaggedMessage`, without the fields that nothing reads. -/
structure UnknownTaggedMessage where
  type_name : String
  deriving DecidableEq

/-- `ServiceRequestOrUnknown`. -/
inductive ServiceRequestOrUnknown where
  | known (request : ServiceRequest)
  | unknown (message : UnknownTaggedMessage)
  deriving DecidableEq

/-- `IncomingRequestEnvelope`. -/
structure IncomingRequestEnvelope where
  ipc_version : UInt32
  request_id : UInt64
  request : ServiceRequestOrUnknown
  deriving DecidableEq

/-- What `serde_json` and the derived `Deserialize` instances do, over the values of JSON. -/
structure RequestCodec (Value : Type) where
  /-- A line as an object with the fields of `IncomingRequestEnvelope`, the last of them as it
  is. -/
  parse : List UInt8 → Option (UInt32 × UInt64 × Value)
  /-- `ServiceRequest::deserialize`. -/
  request : Value → Option ServiceRequest
  /-- `UnknownTaggedMessage::deserialize`. -/
  unknown : Value → Option UnknownTaggedMessage

namespace RequestCodec

variable {Value : Type} (codec : RequestCodec Value)

/-- `ServiceRequestOrUnknown::deserialize`: the first of the two that succeeds. -/
def requestOrUnknown (value : Value) : Option ServiceRequestOrUnknown :=
  match codec.request value with
  | some request => some (.known request)
  | none => (codec.unknown value).map .unknown

/-- `serde_json::from_str` in `read_json`. -/
def decode (line : List UInt8) : Option IncomingRequestEnvelope :=
  (codec.parse line).bind fun p =>
    (codec.requestOrUnknown p.2.2).map fun request => ⟨p.1, p.2.1, request⟩

/-- `ServiceRequest` and `UnknownTaggedMessage` have the same tag, the string in the field `type`.
-/
def TagsAgree : Prop :=
  ∀ value request message, codec.request value = some request →
    codec.unknown value = some message → message.type_name = request.typeName

end RequestCodec

/-! ## Responses -/

/-- `SecretPathResponse`. -/
structure SecretPathResponse where
  secret_path : Option String

/-- `AccountLoginUrlResponse`. -/
structure AccountLoginUrlResponse where
  login_url : String

/-- `SubscribeResponse`. -/
structure SubscribeResponse where
  protocol : ProtocolInfo
  snapshot : SubscriptionSnapshot

/-- `TunnelListResponse`. -/
structure TunnelListResponse where
  tunnels : List TunnelState
  pending_tunnels : List PendingTunnelState

/-- `AccountTunnelState`. -/
structure AccountTunnelState where
  id : String
  name : Option String
  display_address : String
  destination : String
  protocol : TunnelProtocol
  tunnel_type : Option String
  local_address : Option String
  local_port : Option UInt16
  agent_id : Option String
  is_disabled : Bool
  disabled_reason : Option String

/-- `AccountTunnelListResponse`. -/
structure AccountTunnelListResponse where
  tunnels : List AccountTunnelState

/-- `TunnelCreateResponse`. -/
structure TunnelCreateResponse where
  tunnel_id : String
  message : Option String

/-- `AccountResponse`. -/
structure AccountResponse where
  status : AccountStatus
  agent_id : Option String
  login_link : Option String
  claim_url : Option String

/-- `ServiceResponse`. -/
inductive ServiceResponse where
  | subscribe (response : SubscribeResponse)
  | status (status : ServiceStatus)
  | state (lifecycle : AgentLifecycle)
  | tunnels (response : TunnelListResponse)
  | accountTunnels (response : AccountTunnelListResponse)
  | createTunnel (response : TunnelCreateResponse)
  | deleteTunnel (response : CommandResponse)
  | reassignTunnel (response : CommandResponse)
  | account (response : AccountResponse)
  | claim (response : ClaimResponse)
  | stop (response : CommandResponse)
  | setSecret (response : CommandResponse)
  | resetSecret (response : CommandResponse)
  | secretPath (response : SecretPathResponse)
  | accountLoginUrl (response : AccountLoginUrlResponse)
  | error (error : ServiceError)

/-- It is an `Error` response. -/
def ServiceResponse.isError : ServiceResponse → Bool
  | .error _ => true
  | _ => false

/-- It is a `Subscribe` response. -/
def ServiceResponse.isSubscribe : ServiceResponse → Bool
  | .subscribe _ => true
  | _ => false

/-- `RuntimeError::as_service_error`. -/
def RuntimeError.asServiceError : RuntimeError → ServiceError
  | .secret error | .setup error | .api error | .invalidState error => error
  | .io text => ⟨.internal, text, true, none⟩
  | .stopped => ⟨.apiUnavailable, "The Playit runtime has stopped.", true, none⟩

/-! ## Validation -/

/-- `json!({ "request_type": request_type })`, as text. -/
def requestTypeDetails (request_type : String) : String :=
  "\x7b\"request_type\":\"" ++ String.join (request_type.toList.map jsonChar) ++ "\"\x7d"

/-- `protocol_error`. -/
def protocolError (code : ServiceErrorCode) (message : String) (retryable : Bool) : ServiceError :=
  ⟨code, message, retryable, none⟩

/-- `invalid_request_type_error`. -/
def invalidRequestTypeError (request_type : String) : ServiceError :=
  ⟨.invalidRequestType, "unknown IPC request type: " ++ request_type, false,
    some (requestTypeDetails request_type)⟩

/-- `IpcServer::validate_request_envelope`. -/
def validateRequestEnvelope (envelope : IncomingRequestEnvelope) :
    Except ServiceResponse ServiceRequest :=
  if envelope.ipc_version ≠ ipcVersion then
    .error (.error (protocolError .unsupportedProtocol
      ("unsupported IPC version " ++ toString envelope.ipc_version.toNat ++ " (expected " ++
        toString ipcVersion.toNat ++ ")") false))
  else
    match envelope.request with
    | .known request => .ok request
    | .unknown message =>
      if isKnownRequestType message.type_name then
        .error (.error (protocolError .invalidRequest
          ("invalid IPC request payload for " ++ message.type_name) false))
      else .error (.error (invalidRequestTypeError message.type_name))

/-! ## Handling -/

/-- An operation of the runtime, with its arguments. -/
inductive RuntimeOperation where
  | subscriptionSnapshot
  | status
  | lifecycle
  | listTunnels
  | listAccountTunnels
  | createTunnel (local_port : UInt16) (protocol : TunnelProtocol) (local_address : Option String)
    (name : Option String)
  | createMinecraftJavaTunnel (local_port : UInt16) (local_address : Option String)
    (name : Option String)
  | deleteTunnel (tunnel_id : String)
  | reassignTunnel (tunnel_id : String) (local_port : UInt16) (local_address : Option String)
  | account
  | startClaim
  | setSecret (secret : String)
  | resetSecret
  | secretPath
  | accountLoginUrl
  deriving DecidableEq

/-- The operation that `handle_service_request` calls for a request. A `stop` is for the host. -/
def ServiceRequest.operation : ServiceRequest → Option RuntimeOperation
  | .subscribe => some .subscriptionSnapshot
  | .getStatus => some .status
  | .getState => some .lifecycle
  | .getTunnels => some .listTunnels
  | .getAccountTunnels => some .listAccountTunnels
  | .createTunnel local_port protocol local_address name =>
    some (.createTunnel local_port protocol local_address name)
  | .createMinecraftJavaTunnel local_port local_address name =>
    some (.createMinecraftJavaTunnel local_port local_address name)
  | .deleteTunnel tunnel_id => some (.deleteTunnel tunnel_id)
  | .reassignTunnel tunnel_id local_port local_address =>
    some (.reassignTunnel tunnel_id local_port local_address)
  | .getAccount => some .account
  | .startClaim => some .startClaim
  | .stop => none
  | .setSecret secret => some (.setSecret secret)
  | .resetSecret => some .resetSecret
  | .getSecretPath => some .secretPath
  | .getAccountLoginUrl => some .accountLoginUrl

/-- What the operations of the runtime return at some time. -/
structure RuntimeResults where
  subscription_snapshot : SubscribeResponse
  status : ServiceStatus
  lifecycle : AgentLifecycle
  list_tunnels : Except RuntimeError TunnelListResponse
  list_account_tunnels : Except RuntimeError AccountTunnelListResponse
  create_tunnel : Except RuntimeError TunnelCreateResponse
  create_minecraft_java_tunnel : Except RuntimeError TunnelCreateResponse
  delete_tunnel : Except RuntimeError CommandResponse
  reassign_tunnel : Except RuntimeError CommandResponse
  account : Except RuntimeError AccountResponse
  start_claim : Except RuntimeError ClaimResponse
  set_secret : Except RuntimeError CommandResponse
  reset_secret : Except RuntimeError CommandResponse
  secret_path : Option String
  account_login_url : Except RuntimeError AccountLoginUrlResponse

/-- `RequestOutcome`. -/
structure RequestOutcome where
  response : ServiceResponse
  subscribed : Bool

/-- `RequestOutcome::respond`. -/
def RequestOutcome.respond (response : ServiceResponse) : RequestOutcome := ⟨response, false⟩

/-- The response for what an operation returned, or `runtime_error_response`. -/
def responseOf {α : Type} (response : α → ServiceResponse) : Except RuntimeError α → ServiceResponse
  | .ok a => response a
  | .error error => .error error.asServiceError

/-- `IpcServer::subscribe_response`. -/
def IpcServer.subscribeResponse (server : IpcServer) (response : SubscribeResponse) :
    SubscribeResponse :=
  { response with
    snapshot := { response.snapshot with
      status := { response.snapshot.status with socket_path := server.socket_path } } }

/-- `IpcServer::status_response`. -/
def IpcServer.statusResponse (server : IpcServer) (status : ServiceStatus) : ServiceStatus :=
  { status with socket_path := server.socket_path }

/-- `IpcServer::handle_service_request`, with what the runtime returns. -/
def IpcServer.handleServiceRequest (server : IpcServer) (results : RuntimeResults) :
    ServiceRequest → RequestOutcome
  | .subscribe => ⟨.subscribe (server.subscribeResponse results.subscription_snapshot), true⟩
  | .getStatus => .respond (.status (server.statusResponse results.status))
  | .getState => .respond (.state results.lifecycle)
  | .getTunnels => .respond (responseOf .tunnels results.list_tunnels)
  | .getAccountTunnels => .respond (responseOf .accountTunnels results.list_account_tunnels)
  | .createTunnel .. => .respond (responseOf .createTunnel results.create_tunnel)
  | .createMinecraftJavaTunnel .. =>
    .respond (responseOf .createTunnel results.create_minecraft_java_tunnel)
  | .deleteTunnel .. => .respond (responseOf .deleteTunnel results.delete_tunnel)
  | .reassignTunnel .. => .respond (responseOf .reassignTunnel results.reassign_tunnel)
  | .getAccount => .respond (responseOf .account results.account)
  | .startClaim => .respond (responseOf .claim results.start_claim)
  | .stop => .respond (.stop ⟨true, some "shutdown requested"⟩)
  | .setSecret .. => .respond (responseOf .setSecret results.set_secret)
  | .resetSecret => .respond (responseOf .resetSecret results.reset_secret)
  | .getSecretPath => .respond (.secretPath ⟨results.secret_path⟩)
  | .getAccountLoginUrl => .respond (responseOf .accountLoginUrl results.account_login_url)

/-- Only a `Subscribe` request subscribes. -/
theorem IpcServer.handleServiceRequest_subscribed (server : IpcServer) (results : RuntimeResults)
    (request : ServiceRequest) :
    (server.handleServiceRequest results request).subscribed = true ↔ request = .subscribe := by
  cases request <;> simp [handleServiceRequest, RequestOutcome.respond]

/-! ## Requests that are rejected -/

/-- `is_known_request_type` knows the types of the requests, and no others. -/
theorem isKnownRequestType_iff {type_name : String} :
    isKnownRequestType type_name = true ↔
      ∃ request : ServiceRequest, request.typeName = type_name := by
  constructor
  · intro h
    simp only [isKnownRequestType, knownRequestTypes, List.mem_cons, List.not_mem_nil, or_false,
      decide_eq_true_eq] at h
    rcases h with rfl | rfl | rfl | rfl | rfl | rfl | rfl | rfl | rfl | rfl | rfl | rfl | rfl |
      rfl | rfl | rfl
    · exact ⟨.subscribe, rfl⟩
    · exact ⟨.getStatus, rfl⟩
    · exact ⟨.getState, rfl⟩
    · exact ⟨.getTunnels, rfl⟩
    · exact ⟨.getAccountTunnels, rfl⟩
    · exact ⟨.createTunnel 0 .tcp none none, rfl⟩
    · exact ⟨.createMinecraftJavaTunnel 0 none none, rfl⟩
    · exact ⟨.deleteTunnel "", rfl⟩
    · exact ⟨.reassignTunnel "" 0 none, rfl⟩
    · exact ⟨.getAccount, rfl⟩
    · exact ⟨.startClaim, rfl⟩
    · exact ⟨.stop, rfl⟩
    · exact ⟨.setSecret "", rfl⟩
    · exact ⟨.resetSecret, rfl⟩
    · exact ⟨.getSecretPath, rfl⟩
    · exact ⟨.getAccountLoginUrl, rfl⟩
  · rintro ⟨request, rfl⟩
    cases request <;> simp [isKnownRequestType, knownRequestTypes, ServiceRequest.typeName]

/-- The request of a line has a wrong version, an unknown type, or a known type with a payload that
does not fit. -/
def RequestCodec.Rejected {Value : Type} (codec : RequestCodec Value) (line : List UInt8) : Prop :=
  ∃ version id value, codec.parse line = some (version, id, value) ∧
    (version ≠ ipcVersion ∨
      ∃ message, codec.unknown value = some message ∧
        (isKnownRequestType message.type_name = false ∨ codec.request value = none))

/-- Such a request gets an `Error` response, and is not handled. -/
theorem validateRequestEnvelope_of_rejected {Value : Type} {codec : RequestCodec Value}
    (hcodec : codec.TagsAgree) {line : List UInt8} {envelope : IncomingRequestEnvelope}
    (hdecode : codec.decode line = some envelope) (h : codec.Rejected line) :
    ∃ error, validateRequestEnvelope envelope = .error (.error error) := by
  obtain ⟨version, id, value, hparse, h⟩ := h
  simp only [RequestCodec.decode, hparse, Option.bind_some, Option.map_eq_some_iff] at hdecode
  obtain ⟨request, hrequest, rfl⟩ := hdecode
  unfold validateRequestEnvelope
  by_cases hversion : version = ipcVersion
  · obtain ⟨message, hmessage, h⟩ := h.resolve_left (not_not_intro hversion)
    -- The payload is not a request: its type would be known.
    have hnone : codec.request value = none := by
      rcases h with hunknown | hnone
      · rw [Option.eq_none_iff_forall_ne_some]
        intro request' hrequest'
        have htype := hcodec value request' message hrequest' hmessage
        rw [isKnownRequestType_iff.2 ⟨request', htype.symm⟩] at hunknown
        cases hunknown
      · exact hnone
    simp only [RequestCodec.requestOrUnknown, hnone, hmessage, Option.map_some,
      Option.some.injEq] at hrequest
    subst hrequest
    rw [if_neg (not_not_intro hversion)]
    split
    · next heq => cases heq
    · split
      · exact ⟨_, rfl⟩
      · exact ⟨_, rfl⟩
  · rw [if_pos hversion]
    exact ⟨_, rfl⟩

end PlayitAgent
