import PlayitAgent.Proto.MessageEncoding

/-!
# Control requests

The requests of the control protocol and their encodings, from `lib.rs` and `control_messages.rs` of
`agent_proto/src`. Each message type `T` has its `MessageEncoding` as `T.encoding`, over the
implementations of the crate `message_encoding`. A `sum` counts the bytes as the encoders do; words
read with `byteorder` are `readBE`.
-/

namespace PlayitAgent

/-- An `io::Error` that stops a reader or a writer. -/
def ioError {σ α : Type} (kind : ErrorKind) (message : String) : StateT σ (Except Failure) α :=
  throw (.io ⟨kind, message⟩)

section
variable (e : MessageEncodingCrate)

/-! ## Sessions and port ranges -/

/-- The identity of an agent's session. -/
structure AgentSessionId where
  session_id : UInt64
  account_id : UInt64
  agent_id : UInt64
  deriving DecidableEq

/-- The encoding of `AgentSessionId`. -/
def AgentSessionId.encoding : MessageEncoding AgentSessionId where
  staticSize := some (8 * 3)
  writeTo m := do
    let mut sum := 0
    sum := sum + (← e.u64.writeTo m.session_id)
    sum := sum + (← e.u64.writeTo m.account_id)
    sum := sum + (← e.u64.writeTo m.agent_id)
    return sum
  readFrom := do
    let session_id ← readBE UInt64
    let account_id ← readBE UInt64
    let agent_id ← readBE UInt64
    return { session_id, account_id, agent_id }

/-- The transport protocols of a port range. -/
inductive PortProto where
  | both
  | tcp
  | udp
  deriving DecidableEq

/-- The encoding of `PortProto`. -/
def PortProto.encoding : MessageEncoding PortProto where
  staticSize := some 1
  writeTo m := do
    match m with
    | .tcp => writeBE (1 : UInt8)
    | .udp => writeBE (2 : UInt8)
    | .both => writeBE (3 : UInt8)
    return 1
  readFrom := do
    match ← readBE UInt8 with
    | 1 => return .tcp
    | 2 => return .udp
    | 3 => return .both
    | _ => ioError .other "invalid port proto"

/-- A range of ports of an address. -/
structure PortRange where
  ip : IpAddr
  port_start : UInt16
  port_end : UInt16
  port_proto : PortProto
  deriving DecidableEq

/-- The encoding of `PortRange`. Its constant does not compile when one of the sizes is unknown, so
it is `none` here. -/
def PortRange.encoding : MessageEncoding PortRange where
  maxSize := do
    let ip ← e.ipAddr.maxSize
    let port_proto ← PortProto.encoding.maxSize
    return ip + 4 + port_proto
  writeTo m := do
    let mut len := 4
    len := len + (← e.ipAddr.writeTo m.ip)
    writeBE m.port_start
    writeBE m.port_end
    len := len + (← PortProto.encoding.writeTo m.port_proto)
    return len
  readFrom := do
    let ip ← e.ipAddr.readFrom
    let port_start ← readBE UInt16
    let port_end ← readBE UInt16
    let port_proto ← PortProto.encoding.readFrom
    return { ip, port_start, port_end, port_proto }

/-! ## The MTU pattern -/

/-- `MTU_PATTERN_SIZE`. -/
def mtuPatternSize : ℕ := 4

/-- `MTU_TEST_PATTERN`: four bytes, repeated. -/
def mtuTestPattern : List UInt8 :=
  (List.range 2048).map fun i => [0x0a, 0x0b, 0x0c, 0x0d].getD (i % 4) 0

/-- `write_mtu_pattern`. -/
def writeMtuPattern (len : ℕ) : WriteM ℕ := do
  if ¬len ≤ 2048 then throw (.panic .assertion)
  writeAll (mtuTestPattern.take len)
  return len

/-- The loop of `read_and_verify_mtu_pattern` from the index `i` on. The slice of the pattern is out
of range, a panic, when fewer than `size` bytes are left behind the offset. -/
def readAndVerifyMtuPatternFrom (len i : ℕ) : ReadM Unit := do
  if i < len then
    let size := min (len - i) 128
    let buffer ← readExact size
    let offset := mtuTestPattern.drop (i % mtuPatternSize)
    if offset.length < size then throw (.panic .index)
    if buffer ≠ offset.take size then
      ioError .invalidData "invalid mtu test pattern"
    readAndVerifyMtuPatternFrom len (i + size)
termination_by len - i
decreasing_by omega

/-- `read_and_verify_mtu_pattern`. -/
def readAndVerifyMtuPattern (len : ℕ) : ReadM Unit := readAndVerifyMtuPatternFrom len 0

/-! ## Requests -/

/-- The ids of requests. -/
inductive ControlRequestId where
  | pingV1
  | agentRegisterV1
  | agentKeepAliveV1
  | setupUdpChannelV1
  | agentCheckPortMappingV1
  | pingV2
  | agentRegisterV2
  | checkMtuReceivedV1
  | sendMtuTestV1
  | endId
  deriving DecidableEq

/-- `self as u32`. -/
def ControlRequestId.toU32 : ControlRequestId → UInt32
  | .pingV1 => 1
  | .agentRegisterV1 => 2
  | .agentKeepAliveV1 => 3
  | .setupUdpChannelV1 => 4
  | .agentCheckPortMappingV1 => 5
  | .pingV2 => 6
  | .agentRegisterV2 => 7
  | .checkMtuReceivedV1 => 8
  | .sendMtuTestV1 => 9
  | .endId => 10

/-- `ControlRequestId::from_num`. -/
def ControlRequestId.fromNum (num : UInt32) : Option ControlRequestId :=
  if ControlRequestId.endId.toU32 ≤ num ∨ num = 0 then none
  else
    -- The `transmute` of the source.
    match num with
    | 1 => some .pingV1
    | 2 => some .agentRegisterV1
    | 3 => some .agentKeepAliveV1
    | 4 => some .setupUdpChannelV1
    | 5 => some .agentCheckPortMappingV1
    | 6 => some .pingV2
    | 7 => some .agentRegisterV2
    | 8 => some .checkMtuReceivedV1
    | 9 => some .sendMtuTestV1
    | _ => some .endId

/-- The encoding of `ControlRequestId`. -/
def ControlRequestId.encoding : MessageEncoding ControlRequestId where
  staticSize := some 4
  writeTo m := e.u32.writeTo m.toU32
  readFrom := do
    let v ← e.u32.readFrom
    match fromNum v with
    | some id => return id
    | none => ioError .invalidData "invalid request id"

/-- The report that a message of some size has arrived. -/
structure CheckMtuReceived where
  id : UInt64
  message_size : UInt32
  deriving DecidableEq

/-- The encoding of `CheckMtuReceived`. -/
def CheckMtuReceived.encoding : MessageEncoding CheckMtuReceived where
  staticSize := none
  maxSize := none
  writeTo m := do
    let mut sum := 0
    sum := sum + (← e.u64.writeTo m.id)
    sum := sum + (← e.u32.writeTo m.message_size)
    sum := sum + (← writeMtuPattern m.message_size.toNat)
    return sum
  readFrom := do
    let id ← e.u64.readFrom
    let message_size ← e.u32.readFrom
    readAndVerifyMtuPattern message_size.toNat
    return { id, message_size }

/-- The request for a message of some size. -/
structure SendMtuTest where
  id : UInt64
  data_center_id : UInt32
  udp_payload_length : UInt32
  deriving DecidableEq

/-- The encoding of `SendMtuTest`. -/
def SendMtuTest.encoding : MessageEncoding SendMtuTest where
  staticSize := some (8 + 4 + 4)
  writeTo m := do
    let mut sum := 0
    sum := sum + (← e.u64.writeTo m.id)
    sum := sum + (← e.u32.writeTo m.data_center_id)
    sum := sum + (← e.u32.writeTo m.udp_payload_length)
    return sum
  readFrom := do
    let id ← e.u64.readFrom
    let data_center_id ← e.u32.readFrom
    let udp_payload_length ← e.u32.readFrom
    return { id, data_center_id, udp_payload_length }

/-- The question where a port range is mapped. -/
structure AgentCheckPortMapping where
  agent_session_id : AgentSessionId
  port_range : PortRange
  deriving DecidableEq

/-- The encoding of `AgentCheckPortMapping`. -/
def AgentCheckPortMapping.encoding : MessageEncoding AgentCheckPortMapping where
  maxSize := some (e.mStatic (AgentSessionId.encoding e) + e.mMax (PortRange.encoding e))
  writeTo m := do
    let mut sum := 0
    sum := sum + (← (AgentSessionId.encoding e).writeTo m.agent_session_id)
    sum := sum + (← (PortRange.encoding e).writeTo m.port_range)
    return sum
  readFrom := do
    let agent_session_id ← (AgentSessionId.encoding e).readFrom
    let port_range ← (PortRange.encoding e).readFrom
    return { agent_session_id, port_range }

/-- A ping. -/
structure Ping where
  now : UInt64
  current_ping : Option UInt32
  session_id : Option AgentSessionId
  deriving DecidableEq

/-- The encoding of `Ping`. -/
def Ping.encoding : MessageEncoding Ping where
  staticSize := some
    (8 + e.mStatic (e.option e.u32) + e.mStatic (e.option (AgentSessionId.encoding e)))
  writeTo m := do
    let mut sum := 0
    sum := sum + (← e.u64.writeTo m.now)
    sum := sum + (← (e.option e.u32).writeTo m.current_ping)
    sum := sum + (← (e.option (AgentSessionId.encoding e)).writeTo m.session_id)
    return sum
  readFrom := do
    let now ← e.u64.readFrom
    let current_ping ← (e.option e.u32).readFrom
    let session_id ← (e.option (AgentSessionId.encoding e)).readFrom
    return { now, current_ping, session_id }

/-- A signature, `[u8; 32]`. -/
structure Signature where
  /-- The bytes. -/
  bytes : List UInt8
  /-- There are 32 of them. -/
  length_bytes : bytes.length = 32
  deriving DecidableEq

/-- The array `[0u8; 32]` after its front was overwritten. -/
def Signature.ofBytes (bs : List UInt8) : Signature :=
  ⟨(bs ++ List.replicate 32 0).take 32, by simp⟩

/-- A signature is what overwriting an array with its bytes gives. -/
@[simp]
theorem Signature.ofBytes_bytes (s : Signature) : Signature.ofBytes s.bytes = s := by
  cases s with
  | mk bytes length_bytes => simp [Signature.ofBytes, ← length_bytes]

/-- The registration of an agent. -/
structure AgentRegister where
  proto_version : UInt64
  account_id : UInt64
  agent_id : UInt64
  agent_version : UInt64
  timestamp : UInt64
  client_addr : SocketAddr
  tunnel_addr : SocketAddr
  signature : Signature
  deriving DecidableEq

/-- `ENCODING_INCLUDES_VERSION_BIT`. -/
def encodingIncludesVersionBit : UInt64 := (1 : UInt64) <<< 63

/-- `(word & ENCODING_INCLUDES_VERSION_BIT) == ENCODING_INCLUDES_VERSION_BIT`. -/
def includesVersion (word : UInt64) : Bool :=
  word &&& encodingIncludesVersionBit == encodingIncludesVersionBit

/-- The head of `AgentRegister::write_to`: the first version starts with the account id, later ones
with the version, marked by a bit, and the account id. -/
def AgentRegister.writeHead (m : AgentRegister) : WriteM ℕ := do
  if m.proto_version ≤ 1 then
    if includesVersion m.account_id then
      ioError .invalidInput "account id too large for proto version 1"
    e.u64.writeTo m.account_id
  else
    if includesVersion m.proto_version then
      ioError .invalidInput "invalid proto version"
    let mut sum := 0
    sum := sum + (← e.u64.writeTo (m.proto_version ||| encodingIncludesVersionBit))
    sum := sum + (← e.u64.writeTo m.account_id)
    return sum

/-- The head of `AgentRegister::read_from`: the version and the account id. -/
def AgentRegister.readHead : ReadM (UInt64 × UInt64) := do
  let first_word ← e.u64.readFrom
  if includesVersion first_word then
    let account_id ← e.u64.readFrom
    return (first_word &&& ~~~encodingIncludesVersionBit, account_id)
  else
    return (1, first_word)

/-- The encoding of `AgentRegister`. -/
def AgentRegister.encoding : MessageEncoding AgentRegister where
  maxSize := e.mOptSum [e.u64.maxSize, e.u64.maxSize, e.u64.maxSize, e.u64.maxSize, e.u64.maxSize,
    e.socketAddr.maxSize, e.socketAddr.maxSize, some 32]
  writeTo m := do
    let mut sum := 0
    sum := sum + (← writeHead e m)
    sum := sum + (← e.u64.writeTo m.agent_id)
    sum := sum + (← e.u64.writeTo m.agent_version)
    sum := sum + (← e.u64.writeTo m.timestamp)
    sum := sum + (← e.socketAddr.writeTo m.client_addr)
    sum := sum + (← e.socketAddr.writeTo m.tunnel_addr)
    writeAll m.signature.bytes
    sum := sum + m.signature.bytes.length
    return sum
  readFrom := do
    let (proto_version, account_id) ← readHead e
    let agent_id ← e.u64.readFrom
    let agent_version ← e.u64.readFrom
    let timestamp ← e.u64.readFrom
    let client_addr ← e.socketAddr.readFrom
    let tunnel_addr ← e.socketAddr.readFrom
    let signature := Signature.ofBytes (← readExact 32)
    return { proto_version, account_id, agent_id, agent_version, timestamp, client_addr,
             tunnel_addr, signature }

/-- The registration of an agent, in its first version. -/
structure AgentRegisterV1 where
  account_id : UInt64
  agent_id : UInt64
  agent_version : UInt64
  timestamp : UInt64
  client_addr : SocketAddr
  tunnel_addr : SocketAddr
  signature : Signature
  deriving DecidableEq

/-- The encoding of `AgentRegisterV1`. -/
def AgentRegisterV1.encoding : MessageEncoding AgentRegisterV1 where
  writeTo m := do
    writeBE m.account_id
    writeBE m.agent_id
    writeBE m.agent_version
    writeBE m.timestamp
    let mut len := 8 + 8 + 8 + 8
    len := len + (← e.socketAddr.writeTo m.client_addr)
    len := len + (← e.socketAddr.writeTo m.tunnel_addr)
    if (← write m.signature.bytes) ≠ 32 then
      ioError .writeZero "failed to write full signature"
    len := len + 32
    return len
  readFrom := do
    let account_id ← readBE UInt64
    let agent_id ← readBE UInt64
    let agent_version ← readBE UInt64
    let timestamp ← readBE UInt64
    let client_addr ← e.socketAddr.readFrom
    let tunnel_addr ← e.socketAddr.readFrom
    let bytes ← read 32
    if bytes.length ≠ 32 then
      ioError .unexpectedEof "missing signature"
    return { account_id, agent_id, agent_version, timestamp, client_addr, tunnel_addr,
             signature := Signature.ofBytes bytes }

/-- `AgentRegisterV1::upgrade`. -/
def AgentRegisterV1.upgrade (m : AgentRegisterV1) : AgentRegister where
  proto_version := 1
  account_id := m.account_id
  agent_id := m.agent_id
  agent_version := m.agent_version
  timestamp := m.timestamp
  client_addr := m.client_addr
  tunnel_addr := m.tunnel_addr
  signature := m.signature

/-- The requests of an agent. -/
inductive ControlRequest where
  | ping (data : Ping)
  | agentRegister (data : AgentRegister)
  | agentKeepAlive (data : AgentSessionId)
  | setupUdpChannel (data : AgentSessionId)
  | agentCheckPortMapping (data : AgentCheckPortMapping)
  | checkMtuReceived (data : CheckMtuReceived)
  | sendMtuTest (data : SendMtuTest)
  deriving DecidableEq

/-- `ControlRequest::write_to`. -/
def ControlRequest.writeTo (m : ControlRequest) : WriteM ℕ := do
  let mut sum := 0
  match m with
  | .ping data =>
    sum := sum + (← (ControlRequestId.encoding e).writeTo .pingV2)
    sum := sum + (← (Ping.encoding e).writeTo data)
  | .agentRegister data =>
    if data.proto_version ≤ 1 then
      sum := sum + (← (ControlRequestId.encoding e).writeTo .agentRegisterV1)
    else
      sum := sum + (← (ControlRequestId.encoding e).writeTo .agentRegisterV2)
    sum := sum + (← (AgentRegister.encoding e).writeTo data)
  | .agentKeepAlive data =>
    sum := sum + (← (ControlRequestId.encoding e).writeTo .agentKeepAliveV1)
    sum := sum + (← (AgentSessionId.encoding e).writeTo data)
  | .setupUdpChannel data =>
    sum := sum + (← (ControlRequestId.encoding e).writeTo .setupUdpChannelV1)
    sum := sum + (← (AgentSessionId.encoding e).writeTo data)
  | .agentCheckPortMapping data =>
    sum := sum + (← (ControlRequestId.encoding e).writeTo .agentCheckPortMappingV1)
    sum := sum + (← (AgentCheckPortMapping.encoding e).writeTo data)
  | .checkMtuReceived data =>
    sum := sum + (← (ControlRequestId.encoding e).writeTo .checkMtuReceivedV1)
    sum := sum + (← (CheckMtuReceived.encoding e).writeTo data)
  | .sendMtuTest data =>
    sum := sum + (← (ControlRequestId.encoding e).writeTo .sendMtuTestV1)
    sum := sum + (← (SendMtuTest.encoding e).writeTo data)
  return sum

/-- `ControlRequest::read_from`. -/
def ControlRequest.readFrom : ReadM ControlRequest := do
  match ← (ControlRequestId.encoding e).readFrom with
  | .pingV2 => return .ping (← (Ping.encoding e).readFrom)
  | .agentRegisterV1 =>
    return .agentRegister (← (AgentRegisterV1.encoding e).readFrom).upgrade
  | .agentRegisterV2 => return .agentRegister (← (AgentRegister.encoding e).readFrom)
  | .agentKeepAliveV1 => return .agentKeepAlive (← (AgentSessionId.encoding e).readFrom)
  | .setupUdpChannelV1 => return .setupUdpChannel (← (AgentSessionId.encoding e).readFrom)
  | .agentCheckPortMappingV1 =>
    return .agentCheckPortMapping (← (AgentCheckPortMapping.encoding e).readFrom)
  | .checkMtuReceivedV1 => return .checkMtuReceived (← (CheckMtuReceived.encoding e).readFrom)
  | .sendMtuTestV1 => return .sendMtuTest (← (SendMtuTest.encoding e).readFrom)
  | .pingV1 => return .ping { now := ← e.u64.readFrom, session_id := none, current_ping := none }
  | .endId => ioError .other "old control request no longer supported"

/-- The encoding of `ControlRequest`. -/
def ControlRequest.encoding : MessageEncoding ControlRequest where
  maxSize := none
  writeTo := ControlRequest.writeTo e
  readFrom := ControlRequest.readFrom e

/-! ## Signatures -/

/-- A key of `HmacSha256`, as what it signs and what it accepts. -/
structure HmacSha256 where
  /-- `sign`. -/
  sign : List UInt8 → Signature
  /-- `verify(data, sig).is_ok()`. -/
  verify : List UInt8 → List UInt8 → Bool

/-- `AgentRegister::write_plain`: the contents of the buffer afterwards. -/
def AgentRegister.writePlain (m : AgentRegister) (temp_buffer : List UInt8) :
    Except Panic (List UInt8) :=
  -- `clear` keeps nothing of the buffer.
  match (AgentRegister.encoding e).writeTo m ⟨temp_buffer.take 0, none⟩ with
  | .error (.io _) => throw .unwrap
  | .error (.panic p) => throw p
  | .ok (_, out) =>
    if m.signature.bytes.length ≤ out.written.length then
      return out.written.take (out.written.length - m.signature.bytes.length)
    else throw .assertion

/-- `AgentRegister::update_signature`: the registration and the buffer afterwards. -/
def AgentRegister.updateSignature (m : AgentRegister) (temp_buffer : List UInt8)
    (hmac : HmacSha256) : Except Panic (AgentRegister × List UInt8) := do
  let temp_buffer ← m.writePlain e temp_buffer
  return ({ m with signature := hmac.sign temp_buffer }, temp_buffer)

/-- `AgentRegister::verify_signature`: the result and the buffer afterwards. -/
def AgentRegister.verifySignature (m : AgentRegister) (temp_buffer : List UInt8)
    (hmac : HmacSha256) : Except Panic (Bool × List UInt8) := do
  let temp_buffer ← m.writePlain e temp_buffer
  return (hmac.verify temp_buffer m.signature.bytes, temp_buffer)

end

end PlayitAgent
