import PlayitAgent.Proto.ControlRequest

/-!
# Control responses and the control feed

What the tunnel server sends, from `control_messages.rs`, `control_feed.rs`, and `rpc.rs` of
`agent_proto/src`: the responses to requests, and the feed that carries them together with new
clients.
-/

namespace PlayitAgent

section
variable (e : MessageEncodingCrate)

/-! ## Responses -/

/-- The acknowledgement of `CheckMtuReceived`. -/
structure CheckMtuReceivedAck where
  id : UInt64
  message_length : UInt32
  ip_header_length : UInt32
  udp_payload_length : UInt32
  deriving DecidableEq

/-- The encoding of `CheckMtuReceivedAck`. -/
def CheckMtuReceivedAck.encoding : MessageEncoding CheckMtuReceivedAck where
  staticSize := some (8 + 4 + 4 + 4)
  writeTo m := do
    let mut sum := 0
    sum := sum + (← e.u64.writeTo m.id)
    sum := sum + (← e.u32.writeTo m.message_length)
    sum := sum + (← e.u32.writeTo m.ip_header_length)
    sum := sum + (← e.u32.writeTo m.udp_payload_length)
    return sum
  readFrom := do
    let id ← e.u64.readFrom
    let message_length ← e.u32.readFrom
    let ip_header_length ← e.u32.readFrom
    let udp_payload_length ← e.u32.readFrom
    return { id, message_length, ip_header_length, udp_payload_length }

/-- The message that `SendMtuTest` asks for. -/
structure MtuTestPacket where
  data_center_id : UInt32
  udp_payload_length : UInt32
  deriving DecidableEq

/-- The encoding of `MtuTestPacket`. It returns the size of its second word only. -/
def MtuTestPacket.encoding : MessageEncoding MtuTestPacket where
  staticSize := some 4
  writeTo m := do
    let _ ← e.u32.writeTo m.data_center_id
    e.u32.writeTo m.udp_payload_length
  readFrom := do
    let data_center_id ← e.u32.readFrom
    let udp_payload_length ← e.u32.readFrom
    return { data_center_id, udp_payload_length }

/-- Why there is no `MtuTestPacket`. -/
inductive MtuTestFailCode where
  | invalidUdpPayloadLength
  | invalidDcId
  | unknown
  deriving DecidableEq

/-- `self as u32`. -/
def MtuTestFailCode.toU32 : MtuTestFailCode → UInt32
  | .invalidUdpPayloadLength => 0
  | .invalidDcId => 1
  | .unknown => 2

/-- The encoding of `MtuTestFailCode`. -/
def MtuTestFailCode.encoding : MessageEncoding MtuTestFailCode where
  staticSize := some 4
  writeTo m := e.u32.writeTo m.toU32
  readFrom := do
    let num ← e.u32.readFrom
    if MtuTestFailCode.unknown.toU32 ≤ num then return .unknown
    -- The `transmute` of the source.
    match num with
    | 0 => return .invalidUdpPayloadLength
    | 1 => return .invalidDcId
    | _ => return .unknown

/-- The answer to `SendMtuTest` when there is no `MtuTestPacket`. -/
structure MtuTestFail where
  error_code : MtuTestFailCode
  deriving DecidableEq

/-- The encoding of `MtuTestFail`. -/
def MtuTestFail.encoding : MessageEncoding MtuTestFail where
  staticSize := (MtuTestFailCode.encoding e).staticSize
  writeTo m := (MtuTestFailCode.encoding e).writeTo m.error_code
  readFrom := do
    let error_code ← (MtuTestFailCode.encoding e).readFrom
    return { error_code }

/-- Where a port range is mapped. -/
inductive AgentPortMappingFound where
  | toAgent (id : AgentSessionId)
  deriving DecidableEq

/-- The encoding of `AgentPortMappingFound`. -/
def AgentPortMappingFound.encoding : MessageEncoding AgentPortMappingFound where
  maxSize := some (4 + e.mMaxList [e.mMax (AgentSessionId.encoding e)])
  writeTo m := do
    let mut sum := 0
    match m with
    | .toAgent id =>
      sum := sum + (← e.u32.writeTo 1)
      sum := sum + (← (AgentSessionId.encoding e).writeTo id)
    return sum
  readFrom := do
    match ← readBE UInt32 with
    | 1 => return .toAgent (← (AgentSessionId.encoding e).readFrom)
    | _ => ioError .other "unknown AgentPortMappingFound id"

/-- The answer to `AgentCheckPortMapping`. -/
structure AgentPortMapping where
  range : PortRange
  found : Option AgentPortMappingFound
  deriving DecidableEq

/-- The encoding of `AgentPortMapping`. -/
def AgentPortMapping.encoding : MessageEncoding AgentPortMapping where
  maxSize := some (e.mMax (PortRange.encoding e) +
    e.mMax (e.option (AgentPortMappingFound.encoding e)))
  writeTo m := do
    let mut sum := 0
    sum := sum + (← (PortRange.encoding e).writeTo m.range)
    sum := sum + (← (e.option (AgentPortMappingFound.encoding e)).writeTo m.found)
    return sum
  readFrom := do
    let range ← (PortRange.encoding e).readFrom
    let found ← (e.option (AgentPortMappingFound.encoding e)).readFrom
    return { range, found }

/-- The session of the channel for UDP: where the tunnel server is, and the token that opens the
channel. -/
structure UdpChannelDetails where
  tunnel_addr : SocketAddr
  token : List UInt8
  deriving DecidableEq

/-- The encoding of `UdpChannelDetails`. -/
def UdpChannelDetails.encoding : MessageEncoding UdpChannelDetails where
  writeTo m := do
    let mut sum := 0
    sum := sum + (← e.socketAddr.writeTo m.tunnel_addr)
    sum := sum + (← e.vec.writeTo m.token)
    return sum
  readFrom := do
    let tunnel_addr ← e.socketAddr.readFrom
    let token ← e.vec.readFrom
    return { tunnel_addr, token }

/-- The answer to a ping. -/
structure Pong where
  request_now : UInt64
  server_now : UInt64
  server_id : UInt64
  data_center_id : UInt32
  client_addr : SocketAddr
  tunnel_addr : SocketAddr
  session_expire_at : Option UInt64
  deriving DecidableEq

/-- The encoding of `Pong`. -/
def Pong.encoding : MessageEncoding Pong where
  maxSize := some (e.mStatic e.u64 * 3 + e.mStatic e.u32 + e.mMax e.socketAddr * 2 +
    e.mStatic (e.option e.u64))
  writeTo m := do
    let mut sum := 0
    sum := sum + (← e.u64.writeTo m.request_now)
    sum := sum + (← e.u64.writeTo m.server_now)
    sum := sum + (← e.u64.writeTo m.server_id)
    sum := sum + (← e.u32.writeTo m.data_center_id)
    sum := sum + (← e.socketAddr.writeTo m.client_addr)
    sum := sum + (← e.socketAddr.writeTo m.tunnel_addr)
    sum := sum + (← (e.option e.u64).writeTo m.session_expire_at)
    return sum
  readFrom := do
    let request_now ← readBE UInt64
    let server_now ← readBE UInt64
    let server_id ← readBE UInt64
    let data_center_id ← readBE UInt32
    let client_addr ← e.socketAddr.readFrom
    let tunnel_addr ← e.socketAddr.readFrom
    let session_expire_at ← (e.option e.u64).readFrom
    return { request_now, server_now, server_id, data_center_id, client_addr, tunnel_addr,
             session_expire_at }

/-- The answer to a registration. -/
structure AgentRegistered where
  id : AgentSessionId
  expires_at : UInt64
  deriving DecidableEq

/-- The encoding of `AgentRegistered`. -/
def AgentRegistered.encoding : MessageEncoding AgentRegistered where
  staticSize := some (e.mStatic (AgentSessionId.encoding e) + e.mStatic e.u64)
  writeTo m := do
    let mut sum := 0
    sum := sum + (← (AgentSessionId.encoding e).writeTo m.id)
    sum := sum + (← e.u64.writeTo m.expires_at)
    return sum
  readFrom := do
    let id ← (AgentSessionId.encoding e).readFrom
    let expires_at ← readBE UInt64
    return { id, expires_at }

/-- The responses of the tunnel server. -/
inductive ControlResponse where
  | pong (data : Pong)
  | invalidSignature
  | unauthorized
  | requestQueued
  | tryAgainLater
  | agentRegistered (data : AgentRegistered)
  | agentPortMapping (data : AgentPortMapping)
  | udpChannelDetails (data : UdpChannelDetails)
  | checkMtuReceivedAck (data : CheckMtuReceivedAck)
  | mtuTestPacket (data : MtuTestPacket)
  | mtuTestFail (data : MtuTestFail)
  deriving DecidableEq

/-- `ControlResponse::write_to`. -/
def ControlResponse.writeTo (m : ControlResponse) : WriteM ℕ := do
  let mut sum := 0
  match m with
  | .pong data =>
    sum := sum + (← e.u32.writeTo 1)
    sum := sum + (← (Pong.encoding e).writeTo data)
  | .invalidSignature => sum := sum + (← e.u32.writeTo 2)
  | .unauthorized => sum := sum + (← e.u32.writeTo 3)
  | .requestQueued => sum := sum + (← e.u32.writeTo 4)
  | .tryAgainLater => sum := sum + (← e.u32.writeTo 5)
  | .agentRegistered data =>
    sum := sum + (← e.u32.writeTo 6)
    sum := sum + (← (AgentRegistered.encoding e).writeTo data)
  | .agentPortMapping data =>
    sum := sum + (← e.u32.writeTo 7)
    sum := sum + (← (AgentPortMapping.encoding e).writeTo data)
  | .udpChannelDetails data =>
    sum := sum + (← e.u32.writeTo 8)
    sum := sum + (← (UdpChannelDetails.encoding e).writeTo data)
  | .checkMtuReceivedAck data =>
    sum := sum + (← e.u32.writeTo 9)
    sum := sum + (← (CheckMtuReceivedAck.encoding e).writeTo data)
  | .mtuTestPacket data =>
    sum := sum + (← e.u32.writeTo 10)
    sum := sum + (← (MtuTestPacket.encoding e).writeTo data)
  | .mtuTestFail data =>
    sum := sum + (← e.u32.writeTo 11)
    sum := sum + (← (MtuTestFail.encoding e).writeTo data)
  return sum

/-- `ControlResponse::read_from`. -/
def ControlResponse.readFrom : ReadM ControlResponse := do
  match ← readBE UInt32 with
  | 1 => return .pong (← (Pong.encoding e).readFrom)
  | 2 => return .invalidSignature
  | 3 => return .unauthorized
  | 4 => return .requestQueued
  | 5 => return .tryAgainLater
  | 6 => return .agentRegistered (← (AgentRegistered.encoding e).readFrom)
  | 7 => return .agentPortMapping (← (AgentPortMapping.encoding e).readFrom)
  | 8 => return .udpChannelDetails (← (UdpChannelDetails.encoding e).readFrom)
  | 9 => return .checkMtuReceivedAck (← (CheckMtuReceivedAck.encoding e).readFrom)
  | 10 => return .mtuTestPacket (← (MtuTestPacket.encoding e).readFrom)
  | 11 => return .mtuTestFail (← (MtuTestFail.encoding e).readFrom)
  | _ => ioError .other "invalid ControlResponse id"

/-- The encoding of `ControlResponse`. -/
def ControlResponse.encoding : MessageEncoding ControlResponse where
  writeTo := ControlResponse.writeTo e
  readFrom := ControlResponse.readFrom e

/-! ## Requests and responses with their ids -/

/-- A request or a response, with the id that ties them together. -/
structure ControlRpcMessage (α : Type) where
  request_id : UInt64
  content : α
  deriving DecidableEq

/-- The encoding of `ControlRpcMessage<T>`. -/
def ControlRpcMessage.encoding {α : Type} (c : MessageEncoding α) :
    MessageEncoding (ControlRpcMessage α) where
  staticSize := c.staticSize.map (8 + ·)
  maxSize := c.maxSize.map (8 + ·)
  writeTo m := do
    let mut sum := 0
    sum := sum + (← e.u64.writeTo m.request_id)
    sum := sum + (← c.writeTo m.content)
    return sum
  readFrom := do
    let request_id ← readBE UInt64
    let content ← c.readFrom
    return { request_id, content }

/-! ## The feed -/

/-- How to claim a client's connection. -/
structure ClaimInstructions where
  address : SocketAddr
  token : List UInt8
  deriving DecidableEq

/-- The encoding of `ClaimInstructions`. -/
def ClaimInstructions.encoding : MessageEncoding ClaimInstructions where
  writeTo m := do
    let mut sum := 0
    sum := sum + (← e.socketAddr.writeTo m.address)
    sum := sum + (← e.vec.writeTo m.token)
    return sum
  readFrom := do
    let address ← e.socketAddr.readFrom
    let token ← e.vec.readFrom
    return { address, token }

/-- A new client. -/
structure NewClient where
  connect_addr : SocketAddr
  peer_addr : SocketAddr
  data_center_id : UInt32
  tunnel_id : UInt64
  port_offset : UInt16
  claim_instructions : ClaimInstructions
  deriving DecidableEq

/-- The encoding of `NewClient`. -/
def NewClient.encoding : MessageEncoding NewClient where
  writeTo m := do
    let mut sum := 0
    sum := sum + (← e.socketAddr.writeTo m.connect_addr)
    sum := sum + (← e.socketAddr.writeTo m.peer_addr)
    sum := sum + (← e.u32.writeTo m.data_center_id)
    sum := sum + (← e.u64.writeTo m.tunnel_id)
    sum := sum + (← e.u16.writeTo m.port_offset)
    sum := sum + (← (ClaimInstructions.encoding e).writeTo m.claim_instructions)
    return sum
  readFrom := do
    let connect_addr ← e.socketAddr.readFrom
    let peer_addr ← e.socketAddr.readFrom
    let data_center_id ← e.u32.readFrom
    let tunnel_id ← e.u64.readFrom
    let port_offset ← e.u16.readFrom
    let claim_instructions ← (ClaimInstructions.encoding e).readFrom
    return { connect_addr, peer_addr, data_center_id, tunnel_id, port_offset,
             claim_instructions }

/-- A new client, in its old form. -/
structure NewClientOld where
  connect_addr : SocketAddr
  peer_addr : SocketAddr
  claim_instructions : ClaimInstructions
  tunnel_server_id : UInt64
  data_center_id : UInt32
  deriving DecidableEq

/-- `From<NewClientOld> for NewClient`. -/
def NewClientOld.toNewClient (m : NewClientOld) : NewClient where
  connect_addr := m.connect_addr
  peer_addr := m.peer_addr
  data_center_id := m.data_center_id
  tunnel_id := 0
  port_offset := 0
  claim_instructions := m.claim_instructions

/-- The encoding of `NewClientOld`. -/
def NewClientOld.encoding : MessageEncoding NewClientOld where
  writeTo m := do
    let mut sum := 0
    sum := sum + (← e.socketAddr.writeTo m.connect_addr)
    sum := sum + (← e.socketAddr.writeTo m.peer_addr)
    sum := sum + (← (ClaimInstructions.encoding e).writeTo m.claim_instructions)
    sum := sum + (← e.u64.writeTo m.tunnel_server_id)
    sum := sum + (← e.u32.writeTo m.data_center_id)
    return sum
  readFrom := do
    let connect_addr ← e.socketAddr.readFrom
    let peer_addr ← e.socketAddr.readFrom
    let claim_instructions ← (ClaimInstructions.encoding e).readFrom
    let tunnel_server_id ← readBE UInt64
    let data_center_id ← readBE UInt32
    return { connect_addr, peer_addr, claim_instructions, tunnel_server_id, data_center_id }

/-- What the tunnel server sends on the control connection. -/
inductive ControlFeed where
  | response (res : ControlRpcMessage ControlResponse)
  | newClient (client : NewClient)
  | newClientOld (client : NewClientOld)
  deriving DecidableEq

/-- The encoding of `ControlFeed`. Clients in the old form are read as new clients. -/
def ControlFeed.encoding : MessageEncoding ControlFeed where
  writeTo m := do
    let mut sum := 0
    match m with
    | .response res =>
      sum := sum + (← e.u32.writeTo 1)
      sum := sum + (← (ControlRpcMessage.encoding e (ControlResponse.encoding e)).writeTo res)
    | .newClientOld client =>
      sum := sum + (← e.u32.writeTo 2)
      sum := sum + (← (NewClientOld.encoding e).writeTo client)
    | .newClient client =>
      sum := sum + (← e.u32.writeTo 3)
      sum := sum + (← (NewClient.encoding e).writeTo client)
    return sum
  readFrom := do
    match ← readBE UInt32 with
    | 1 =>
      return .response (← (ControlRpcMessage.encoding e (ControlResponse.encoding e)).readFrom)
    | 2 => return .newClient (← (NewClientOld.encoding e).readFrom).toNewClient
    | 3 => return .newClient (← (NewClient.encoding e).readFrom)
    | _ => ioError .other "invalid ControlFeed id"

end

end PlayitAgent
