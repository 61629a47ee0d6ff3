import PlayitAgent.Proto.ControlFeed

/-!
# The control protocol round-trips

Whatever an encoder of the control protocol writes, the decoder reads back, and it leaves exactly
what follows. The theorems go up the tree of message types, one for each encoding, and end at the
messages that travel: requests, responses, and the feed.
-/

namespace PlayitAgent

/-! ## The MTU pattern -/

/-- The byte of the repeated pattern at an index. -/
def mtuPatternByte (i : ℕ) : UInt8 := [0x0a, 0x0b, 0x0c, 0x0d].getD (i % 4) 0

/-- The `n` bytes of the repeated pattern from an index on. -/
def mtuPatternFrom (i n : ℕ) : List UInt8 := (List.range n).map fun k => mtuPatternByte (i + k)

/-- The pattern has the length that it was asked for. -/
@[simp]
theorem length_mtuPatternFrom (i n : ℕ) : (mtuPatternFrom i n).length = n := by
  simp [mtuPatternFrom]

/-- The repeated pattern in two parts. -/
theorem mtuPatternFrom_add (i m n : ℕ) :
    mtuPatternFrom i (m + n) = mtuPatternFrom i m ++ mtuPatternFrom (i + m) n := by
  simp [mtuPatternFrom, List.range_add, Nat.add_assoc]

/-- The repeated pattern has the period four. -/
theorem mtuPatternFrom_mod (i n : ℕ) : mtuPatternFrom (i % 4) n = mtuPatternFrom i n := by
  simp [mtuPatternFrom, mtuPatternByte]

/-- A slice of the array is a piece of the repeated pattern. -/
theorem take_drop_mtuTestPattern {i n : ℕ} (h : i + n ≤ 2048) :
    (mtuTestPattern.drop i).take n = mtuPatternFrom i n := by
  apply List.ext_getElem
  · simp [mtuTestPattern]
    omega
  · intro k h₁ h₂
    simp [mtuTestPattern, mtuPatternFrom, mtuPatternByte]

/-- The slice of the array for a chunk is in range, and is the piece of the pattern at the index of
the chunk. -/
theorem slice_mtuTestPattern (i size : ℕ) (hsize : size ≤ 128) :
    ¬(mtuTestPattern.drop (i % mtuPatternSize)).length < size ∧
      (mtuTestPattern.drop (i % mtuPatternSize)).take size = mtuPatternFrom i size := by
  have hmod : i % 4 < 4 := Nat.mod_lt i (by norm_num)
  constructor
  · simp only [mtuPatternSize, mtuTestPattern, List.length_drop, List.length_map,
      List.length_range]
    omega
  · rw [mtuPatternSize, take_drop_mtuTestPattern (by omega), mtuPatternFrom_mod]

/-- The check accepts the repeated pattern, of any length. -/
theorem decodes_readAndVerifyMtuPatternFrom (len i : ℕ) :
    Decodes (readAndVerifyMtuPatternFrom len i) () (mtuPatternFrom i (len - i)) := by
  -- The induction is that of the loop, which checks a chunk of at most 128 bytes at a time.
  induction i using readAndVerifyMtuPatternFrom.induct len with
  | case1 i hi size ih =>
    rw [readAndVerifyMtuPatternFrom, if_pos hi]
    have hsize : size = min (len - i) 128 := rfl
    obtain ⟨hrange, hslice⟩ := slice_mtuTestPattern i size (by omega)
    have hsplit : len - i = size + (len - (i + size)) := by omega
    rw [hsplit, mtuPatternFrom_add]
    have hread := Decodes.readExact (mtuPatternFrom i size)
    rw [length_mtuPatternFrom] at hread
    simp only [← hsplit, ← hsize]
    refine hread.bind ?_
    simp only [hrange, hslice, if_false, ne_eq, not_true]
    exact ih
  | case2 i hi =>
    rw [readAndVerifyMtuPatternFrom, if_neg hi, Nat.sub_eq_zero_of_le (by omega)]
    exact Decodes.pure ()

/-- The pattern that is written is checked. -/
theorem readsBack_writeMtuPattern (len : ℕ) :
    ReadsBack (writeMtuPattern len) (readAndVerifyMtuPattern len) () := by
  unfold writeMtuPattern
  by_cases h : len ≤ 2048
  · simp only [h, not_true, if_false]
    refine Writes.bind (Writes.writeAll _) fun _ bs hbs => Writes.pure ?_
    have hd := decodes_readAndVerifyMtuPatternFrom len 0
    rw [Nat.sub_zero, ← take_drop_mtuTestPattern (by omega), List.drop_zero] at hd
    rw [List.append_nil, hbs]
    exact hd
  · simp only [h, not_false_eq_true, if_true]
    exact ReadsBack.throw

/-! ## The version bit -/

/-- The version bit is the highest bit. -/
theorem toBitVec_encodingIncludesVersionBit :
    encodingIncludesVersionBit.toBitVec = BitVec.twoPow 64 63 := by decide

/-- A word includes a version when its highest bit is set. -/
theorem includesVersion_eq (word : UInt64) : includesVersion word = word.toBitVec.getLsbD 63 := by
  rw [Bool.eq_iff_iff, includesVersion, beq_iff_eq, ← UInt64.toBitVec_inj, UInt64.toBitVec_and,
    toBitVec_encodingIncludesVersionBit, BitVec.and_twoPow]
  cases word.toBitVec.getLsbD 63 <;> decide

/-- A version that is marked is recognised. -/
theorem includesVersion_or (word : UInt64) :
    includesVersion (word ||| encodingIncludesVersionBit) = true := by
  rw [includesVersion_eq, UInt64.toBitVec_or, BitVec.getLsbD_or]
  simp [encodingIncludesVersionBit]

/-- A version whose mark is removed has none. -/
theorem includesVersion_and_not (word : UInt64) :
    includesVersion (word &&& ~~~encodingIncludesVersionBit) = false := by
  rw [includesVersion_eq, UInt64.toBitVec_and, BitVec.getLsbD_and, UInt64.toBitVec_not,
    toBitVec_encodingIncludesVersionBit]
  simp

/-- Removing the mark of a version that was marked gives the version. -/
theorem or_and_not_encodingIncludesVersionBit {word : UInt64} (h : includesVersion word = false) :
    (word ||| encodingIncludesVersionBit) &&& ~~~encodingIncludesVersionBit = word := by
  rw [includesVersion_eq, BitVec.getLsbD_eq_getElem (by decide)] at h
  rw [← UInt64.toBitVec_inj]
  simp only [UInt64.toBitVec_and, UInt64.toBitVec_or, UInt64.toBitVec_not,
    toBitVec_encodingIncludesVersionBit]
  ext i hi
  by_cases h63 : i = 63
  · subst h63
    simp [h]
  · simp [BitVec.getElem_twoPow, h63]

section
variable {e : MessageEncodingCrate} (h : Lawful.RoundTrips e)
include h

/-! ## Sessions and port ranges -/

/-- Sessions round-trip. -/
theorem AgentSessionId.roundTrip (m : AgentSessionId) :
    (AgentSessionId.encoding e).RoundTrip m := by
  refine (h.u64.readsBack m.session_id).bind fun _ => ?_
  refine (h.u64.readsBack m.account_id).bind fun _ => ?_
  refine (h.u64.readsBack m.agent_id).bind fun _ => ?_
  exact ReadsBack.pure _ m

omit h in
/-- Transport protocols round-trip. -/
theorem PortProto.roundTrip (m : PortProto) : PortProto.encoding.RoundTrip m := by
  cases m with
  | both => exact (readsBack_writeBE (3 : UInt8)).bind fun _ => ReadsBack.pure 1 PortProto.both
  | tcp => exact (readsBack_writeBE (1 : UInt8)).bind fun _ => ReadsBack.pure 1 PortProto.tcp
  | udp => exact (readsBack_writeBE (2 : UInt8)).bind fun _ => ReadsBack.pure 1 PortProto.udp

/-- Port ranges round-trip. -/
theorem PortRange.roundTrip (m : PortRange) : (PortRange.encoding e).RoundTrip m := by
  refine (h.ipAddr m.ip).bind fun _ => ?_
  refine (readsBack_writeBE m.port_start).bind fun _ => ?_
  refine (readsBack_writeBE m.port_end).bind fun _ => ?_
  refine ReadsBack.bind (PortProto.roundTrip m.port_proto) fun _ => ?_
  exact ReadsBack.pure _ m

/-! ## Requests -/

/-- Ids of requests read back, apart from the one past the end. -/
theorem ControlRequestId.roundTrip {m : ControlRequestId} (hm : m ≠ .endId) :
    (ControlRequestId.encoding e).RoundTrip m := by
  have hnum : fromNum m.toU32 = some m := by
    revert hm
    cases m <;> decide
  refine (h.u32.roundTrip m.toU32).result ?_
  rw [hnum]

/-- Reports of received messages round-trip. -/
theorem CheckMtuReceived.roundTrip (m : CheckMtuReceived) :
    (CheckMtuReceived.encoding e).RoundTrip m := by
  refine (h.u64.roundTrip m.id).bind fun _ => ?_
  refine (h.u32.roundTrip m.message_size).bind fun _ => ?_
  refine (readsBack_writeMtuPattern m.message_size.toNat).bind fun _ => ?_
  exact ReadsBack.pure _ m

/-- Requests for messages round-trip. -/
theorem SendMtuTest.roundTrip (m : SendMtuTest) : (SendMtuTest.encoding e).RoundTrip m := by
  refine (h.u64.roundTrip m.id).bind fun _ => ?_
  refine (h.u32.roundTrip m.data_center_id).bind fun _ => ?_
  refine (h.u32.roundTrip m.udp_payload_length).bind fun _ => ?_
  exact ReadsBack.pure _ m

/-- Questions about port mappings round-trip. -/
theorem AgentCheckPortMapping.roundTrip (m : AgentCheckPortMapping) :
    (AgentCheckPortMapping.encoding e).RoundTrip m := by
  refine ReadsBack.bind (AgentSessionId.roundTrip h m.agent_session_id) fun _ => ?_
  refine ReadsBack.bind (PortRange.roundTrip h m.port_range) fun _ => ?_
  exact ReadsBack.pure _ m

/-- Pings round-trip. -/
theorem Ping.roundTrip (m : Ping) : (Ping.encoding e).RoundTrip m := by
  refine (h.u64.roundTrip m.now).bind fun _ => ?_
  refine (h.option e.u32 m.current_ping fun a _ => h.u32.roundTrip a).bind fun _ => ?_
  refine (h.option (AgentSessionId.encoding e) m.session_id
    fun a _ => AgentSessionId.roundTrip h a).bind fun _ => ?_
  exact ReadsBack.pure _ m

/-- The head of a registration in the first version is its account id. -/
theorem AgentRegister.readsBack_writeHead_v1 {m : AgentRegister} (hv : m.proto_version ≤ 1) :
    ReadsBack (writeHead e m) (readBE UInt64) m.account_id := by
  unfold writeHead
  rw [if_pos hv]
  cases hw : includesVersion m.account_id with
  | true => exact ReadsBack.throw
  | false => exact h.u64.readsBack m.account_id

/-- The head of a registration reads back as its version and its account id. -/
theorem AgentRegister.readsBack_writeHead {m : AgentRegister} (hv : 1 ≤ m.proto_version) :
    ReadsBack (writeHead e m) (readHead e) (m.proto_version, m.account_id) := by
  unfold writeHead readHead
  by_cases hv1 : m.proto_version ≤ 1
  · have hone : m.proto_version = 1 := UInt64.le_antisymm hv1 hv
    rw [if_pos hv1]
    cases hw : includesVersion m.account_id with
    | true => exact ReadsBack.throw
    | false =>
      refine (h.u64.roundTrip m.account_id).result ?_
      simp only [hw, Bool.false_eq_true, if_false, hone]
  · rw [if_neg hv1]
    cases hw : includesVersion m.proto_version with
    | true => exact ReadsBack.throw
    | false =>
      refine (h.u64.roundTrip (m.proto_version ||| encodingIncludesVersionBit)).bind fun _ => ?_
      simp only [includesVersion_or, if_true, or_and_not_encodingIncludesVersionBit hw]
      refine (h.u64.roundTrip m.account_id).bind fun _ => ?_
      exact ReadsBack.pure _ (m.proto_version, m.account_id)

omit h in
/-- A signature reads back. -/
theorem Signature.readsBack (s : Signature) :
    ReadsBack (writeAll s.bytes) (readExact 32) s.bytes := by
  have hs := ReadsBack.writeAll s.bytes
  rwa [s.length_bytes] at hs

omit h in
/-- A signature reads back with a single `read`. -/
theorem Signature.readsBack_read (s : Signature) :
    ReadsBack (writeAll s.bytes) (read 32) s.bytes := by
  refine (Writes.writeAll s.bytes).mono fun _ bs hbs => ?_
  rw [hbs, ← s.length_bytes]
  exact Decodes.read s.bytes

/-- Registrations round-trip in the layout that their version selects. -/
theorem AgentRegister.roundTrip {m : AgentRegister} (hv : 1 ≤ m.proto_version)
    (hc : m.client_addr.Plain) (ht : m.tunnel_addr.Plain) :
    (AgentRegister.encoding e).RoundTrip m := by
  refine (readsBack_writeHead h hv).bind fun _ => ?_
  refine (h.u64.roundTrip m.agent_id).bind fun _ => ?_
  refine (h.u64.roundTrip m.agent_version).bind fun _ => ?_
  refine (h.u64.roundTrip m.timestamp).bind fun _ => ?_
  refine (h.socketAddr m.client_addr hc).bind fun _ => ?_
  refine (h.socketAddr m.tunnel_addr ht).bind fun _ => ?_
  refine (Signature.readsBack m.signature).bind fun _ => ?_
  simp only [Signature.ofBytes_bytes]
  exact ReadsBack.pure _ m

/-- A registration without a marked version reads back in the first version. -/
theorem AgentRegister.readsBack_v1 {m : AgentRegister} (hv : m.proto_version ≤ 1)
    (hc : m.client_addr.Plain) (ht : m.tunnel_addr.Plain) :
    ReadsBack ((AgentRegister.encoding e).writeTo m) (AgentRegisterV1.encoding e).readFrom
      ⟨m.account_id, m.agent_id, m.agent_version, m.timestamp, m.client_addr, m.tunnel_addr,
        m.signature⟩ := by
  refine (readsBack_writeHead_v1 h hv).bind fun _ => ?_
  refine (h.u64.readsBack m.agent_id).bind fun _ => ?_
  refine (h.u64.readsBack m.agent_version).bind fun _ => ?_
  refine (h.u64.readsBack m.timestamp).bind fun _ => ?_
  refine (h.socketAddr m.client_addr hc).bind fun _ => ?_
  refine (h.socketAddr m.tunnel_addr ht).bind fun _ => ?_
  refine (Signature.readsBack_read m.signature).bind fun _ => ?_
  simp only [m.signature.length_bytes, ne_eq, not_true, if_false, Signature.ofBytes_bytes]
  exact ReadsBack.pure _ _

/-- What the round trip needs of a request: a registration has a version, and its addresses carry
nothing that does not travel. -/
def ControlRequest.Regular : ControlRequest → Prop
  | .agentRegister m => 1 ≤ m.proto_version ∧ m.client_addr.Plain ∧ m.tunnel_addr.Plain
  | _ => True

/-- A registration without a marked version reads back in the first version, whatever its own. -/
theorem ControlRequest.readsBack_agentRegister_v1 {data : AgentRegister}
    (hv : data.proto_version ≤ 1) (hc : data.client_addr.Plain) (ht : data.tunnel_addr.Plain) :
    ReadsBack ((ControlRequest.encoding e).writeTo (.agentRegister data))
      (ControlRequest.encoding e).readFrom (.agentRegister { data with proto_version := 1 }) := by
  have hid := ControlRequestId.roundTrip h (m := .agentRegisterV1) (by decide)
  unfold ControlRequest.encoding ControlRequest.writeTo ControlRequest.readFrom
  simp only [hv, if_true]
  refine ReadsBack.bind hid fun _ => ?_
  refine ReadsBack.bind (AgentRegister.readsBack_v1 h hv hc ht) fun _ => ?_
  exact ReadsBack.pure _ (ControlRequest.agentRegister { data with proto_version := 1 })

/-- Requests round-trip. -/
theorem ControlRequest.roundTrip {m : ControlRequest} (hm : m.Regular) :
    (ControlRequest.encoding e).RoundTrip m := by
  have hid (id : ControlRequestId) (hne : id ≠ .endId) := ControlRequestId.roundTrip h hne
  unfold MessageEncoding.RoundTrip ControlRequest.encoding ControlRequest.writeTo
    ControlRequest.readFrom
  cases m with
  | ping data =>
    refine ReadsBack.bind (hid .pingV2 (by decide)) fun _ => ?_
    refine ReadsBack.bind (Ping.roundTrip h data) fun _ => ?_
    exact ReadsBack.pure _ (ControlRequest.ping data)
  | agentRegister data =>
    obtain ⟨hv, hc, ht⟩ := hm
    by_cases hv1 : data.proto_version ≤ 1
    · have hread := ControlRequest.readsBack_agentRegister_v1 h hv1 hc ht
      rwa [UInt64.le_antisymm hv hv1] at hread
    · simp only [hv1, if_false]
      refine ReadsBack.bind (hid .agentRegisterV2 (by decide)) fun _ => ?_
      refine ReadsBack.bind (AgentRegister.roundTrip h hv hc ht) fun _ => ?_
      exact ReadsBack.pure _ (ControlRequest.agentRegister data)
  | agentKeepAlive data =>
    refine ReadsBack.bind (hid .agentKeepAliveV1 (by decide)) fun _ => ?_
    refine ReadsBack.bind (AgentSessionId.roundTrip h data) fun _ => ?_
    exact ReadsBack.pure _ (ControlRequest.agentKeepAlive data)
  | setupUdpChannel data =>
    refine ReadsBack.bind (hid .setupUdpChannelV1 (by decide)) fun _ => ?_
    refine ReadsBack.bind (AgentSessionId.roundTrip h data) fun _ => ?_
    exact ReadsBack.pure _ (ControlRequest.setupUdpChannel data)
  | agentCheckPortMapping data =>
    refine ReadsBack.bind (hid .agentCheckPortMappingV1 (by decide)) fun _ => ?_
    refine ReadsBack.bind (AgentCheckPortMapping.roundTrip h data) fun _ => ?_
    exact ReadsBack.pure _ (ControlRequest.agentCheckPortMapping data)
  | checkMtuReceived data =>
    refine ReadsBack.bind (hid .checkMtuReceivedV1 (by decide)) fun _ => ?_
    refine ReadsBack.bind (CheckMtuReceived.roundTrip h data) fun _ => ?_
    exact ReadsBack.pure _ (ControlRequest.checkMtuReceived data)
  | sendMtuTest data =>
    refine ReadsBack.bind (hid .sendMtuTestV1 (by decide)) fun _ => ?_
    refine ReadsBack.bind (SendMtuTest.roundTrip h data) fun _ => ?_
    exact ReadsBack.pure _ (ControlRequest.sendMtuTest data)

/-! ## Responses -/

/-- Acknowledgements round-trip. -/
theorem CheckMtuReceivedAck.roundTrip (m : CheckMtuReceivedAck) :
    (CheckMtuReceivedAck.encoding e).RoundTrip m := by
  refine (h.u64.roundTrip m.id).bind fun _ => ?_
  refine (h.u32.roundTrip m.message_length).bind fun _ => ?_
  refine (h.u32.roundTrip m.ip_header_length).bind fun _ => ?_
  refine (h.u32.roundTrip m.udp_payload_length).bind fun _ => ?_
  exact ReadsBack.pure _ m

/-- Test messages round-trip. -/
theorem MtuTestPacket.roundTrip (m : MtuTestPacket) :
    (MtuTestPacket.encoding e).RoundTrip m := by
  refine (h.u32.roundTrip m.data_center_id).bind fun _ => ?_
  exact (h.u32.roundTrip m.udp_payload_length).result rfl

/-- The codes of failed tests round-trip. -/
theorem MtuTestFailCode.roundTrip (m : MtuTestFailCode) :
    (MtuTestFailCode.encoding e).RoundTrip m := by
  refine (h.u32.roundTrip m.toU32).result ?_
  cases m <;> rfl

/-- Failed tests round-trip. -/
theorem MtuTestFail.roundTrip (m : MtuTestFail) : (MtuTestFail.encoding e).RoundTrip m :=
  ReadsBack.result (MtuTestFailCode.roundTrip h m.error_code) rfl

/-- Found mappings round-trip. -/
theorem AgentPortMappingFound.roundTrip (m : AgentPortMappingFound) :
    (AgentPortMappingFound.encoding e).RoundTrip m := by
  cases m with
  | toAgent id =>
    refine (h.u32.readsBack 1).bind fun _ => ?_
    refine ReadsBack.bind (AgentSessionId.roundTrip h id) fun _ => ?_
    exact ReadsBack.pure _ (AgentPortMappingFound.toAgent id)

/-- Answers about port mappings round-trip. -/
theorem AgentPortMapping.roundTrip (m : AgentPortMapping) :
    (AgentPortMapping.encoding e).RoundTrip m := by
  refine ReadsBack.bind (PortRange.roundTrip h m.range) fun _ => ?_
  refine ReadsBack.bind (h.option _ m.found fun a _ => AgentPortMappingFound.roundTrip h a)
    fun _ => ?_
  exact ReadsBack.pure _ m

/-- Sessions of the channel for UDP round-trip. -/
theorem UdpChannelDetails.roundTrip {m : UdpChannelDetails} (ht : m.tunnel_addr.Plain) :
    (UdpChannelDetails.encoding e).RoundTrip m := by
  refine (h.socketAddr m.tunnel_addr ht).bind fun _ => ?_
  refine (h.vec m.token).bind fun _ => ?_
  exact ReadsBack.pure _ m

/-- Pongs round-trip. -/
theorem Pong.roundTrip {m : Pong} (hc : m.client_addr.Plain) (ht : m.tunnel_addr.Plain) :
    (Pong.encoding e).RoundTrip m := by
  refine (h.u64.readsBack m.request_now).bind fun _ => ?_
  refine (h.u64.readsBack m.server_now).bind fun _ => ?_
  refine (h.u64.readsBack m.server_id).bind fun _ => ?_
  refine (h.u32.readsBack m.data_center_id).bind fun _ => ?_
  refine (h.socketAddr m.client_addr hc).bind fun _ => ?_
  refine (h.socketAddr m.tunnel_addr ht).bind fun _ => ?_
  refine (h.option e.u64 m.session_expire_at fun a _ => h.u64.roundTrip a).bind fun _ => ?_
  exact ReadsBack.pure _ m

/-- Answers to registrations round-trip. -/
theorem AgentRegistered.roundTrip (m : AgentRegistered) :
    (AgentRegistered.encoding e).RoundTrip m := by
  refine ReadsBack.bind (AgentSessionId.roundTrip h m.id) fun _ => ?_
  refine (h.u64.readsBack m.expires_at).bind fun _ => ?_
  exact ReadsBack.pure _ m

/-- The addresses of a response carry nothing that does not travel. -/
def ControlResponse.Regular : ControlResponse → Prop
  | .pong m => m.client_addr.Plain ∧ m.tunnel_addr.Plain
  | .udpChannelDetails m => m.tunnel_addr.Plain
  | _ => True

/-- Responses round-trip. -/
theorem ControlResponse.roundTrip {m : ControlResponse} (hm : m.Regular) :
    (ControlResponse.encoding e).RoundTrip m := by
  cases m with
  | pong data =>
    refine (h.u32.readsBack 1).bind fun _ => ?_
    refine ReadsBack.bind (Pong.roundTrip h hm.1 hm.2) fun _ => ?_
    exact ReadsBack.pure _ (ControlResponse.pong data)
  | invalidSignature =>
    exact (h.u32.readsBack 2).bind fun _ => ReadsBack.pure _ ControlResponse.invalidSignature
  | unauthorized =>
    exact (h.u32.readsBack 3).bind fun _ => ReadsBack.pure _ ControlResponse.unauthorized
  | requestQueued =>
    exact (h.u32.readsBack 4).bind fun _ => ReadsBack.pure _ ControlResponse.requestQueued
  | tryAgainLater =>
    exact (h.u32.readsBack 5).bind fun _ => ReadsBack.pure _ ControlResponse.tryAgainLater
  | agentRegistered data =>
    refine (h.u32.readsBack 6).bind fun _ => ?_
    refine ReadsBack.bind (AgentRegistered.roundTrip h data) fun _ => ?_
    exact ReadsBack.pure _ (ControlResponse.agentRegistered data)
  | agentPortMapping data =>
    refine (h.u32.readsBack 7).bind fun _ => ?_
    refine ReadsBack.bind (AgentPortMapping.roundTrip h data) fun _ => ?_
    exact ReadsBack.pure _ (ControlResponse.agentPortMapping data)
  | udpChannelDetails data =>
    refine (h.u32.readsBack 8).bind fun _ => ?_
    refine ReadsBack.bind (UdpChannelDetails.roundTrip h hm) fun _ => ?_
    exact ReadsBack.pure _ (ControlResponse.udpChannelDetails data)
  | checkMtuReceivedAck data =>
    refine (h.u32.readsBack 9).bind fun _ => ?_
    refine ReadsBack.bind (CheckMtuReceivedAck.roundTrip h data) fun _ => ?_
    exact ReadsBack.pure _ (ControlResponse.checkMtuReceivedAck data)
  | mtuTestPacket data =>
    refine (h.u32.readsBack 10).bind fun _ => ?_
    refine ReadsBack.bind (MtuTestPacket.roundTrip h data) fun _ => ?_
    exact ReadsBack.pure _ (ControlResponse.mtuTestPacket data)
  | mtuTestFail data =>
    refine (h.u32.readsBack 11).bind fun _ => ?_
    refine ReadsBack.bind (MtuTestFail.roundTrip h data) fun _ => ?_
    exact ReadsBack.pure _ (ControlResponse.mtuTestFail data)

/-! ## The feed -/

/-- A message with an id round-trips when its content does. -/
theorem ControlRpcMessage.roundTrip {α : Type} {c : MessageEncoding α} {m : ControlRpcMessage α}
    (hm : c.RoundTrip m.content) : (ControlRpcMessage.encoding e c).RoundTrip m := by
  refine (h.u64.readsBack m.request_id).bind fun _ => ?_
  refine ReadsBack.bind hm fun _ => ?_
  exact ReadsBack.pure _ m

/-- Claim instructions round-trip. -/
theorem ClaimInstructions.roundTrip {m : ClaimInstructions} (ha : m.address.Plain) :
    (ClaimInstructions.encoding e).RoundTrip m := by
  refine (h.socketAddr m.address ha).bind fun _ => ?_
  refine (h.vec m.token).bind fun _ => ?_
  exact ReadsBack.pure _ m

/-- New clients round-trip. -/
theorem NewClient.roundTrip {m : NewClient} (hc : m.connect_addr.Plain) (hp : m.peer_addr.Plain)
    (ha : m.claim_instructions.address.Plain) : (NewClient.encoding e).RoundTrip m := by
  refine (h.socketAddr m.connect_addr hc).bind fun _ => ?_
  refine (h.socketAddr m.peer_addr hp).bind fun _ => ?_
  refine (h.u32.roundTrip m.data_center_id).bind fun _ => ?_
  refine (h.u64.roundTrip m.tunnel_id).bind fun _ => ?_
  refine (h.u16.roundTrip m.port_offset).bind fun _ => ?_
  refine ReadsBack.bind (ClaimInstructions.roundTrip h ha) fun _ => ?_
  exact ReadsBack.pure _ m

/-- New clients in the old form round-trip. -/
theorem NewClientOld.roundTrip {m : NewClientOld} (hc : m.connect_addr.Plain)
    (hp : m.peer_addr.Plain) (ha : m.claim_instructions.address.Plain) :
    (NewClientOld.encoding e).RoundTrip m := by
  refine (h.socketAddr m.connect_addr hc).bind fun _ => ?_
  refine (h.socketAddr m.peer_addr hp).bind fun _ => ?_
  refine ReadsBack.bind (ClaimInstructions.roundTrip h ha) fun _ => ?_
  refine (h.u64.readsBack m.tunnel_server_id).bind fun _ => ?_
  refine (h.u32.readsBack m.data_center_id).bind fun _ => ?_
  exact ReadsBack.pure _ m

/-- The addresses of a message of the feed carry nothing that does not travel. -/
def ControlFeed.Regular : ControlFeed → Prop
  | .response res => res.content.Regular
  | .newClient m => m.connect_addr.Plain ∧ m.peer_addr.Plain ∧ m.claim_instructions.address.Plain
  | .newClientOld m =>
    m.connect_addr.Plain ∧ m.peer_addr.Plain ∧ m.claim_instructions.address.Plain

/-- What a message of the feed is read as: a client in the old form becomes a new client. -/
def ControlFeed.current : ControlFeed → ControlFeed
  | .newClientOld client => .newClient client.toNewClient
  | m => m

/-- The feed reads back, up to the old form of clients. -/
theorem ControlFeed.readsBack {m : ControlFeed} (hm : m.Regular) :
    ReadsBack ((ControlFeed.encoding e).writeTo m) (ControlFeed.encoding e).readFrom m.current := by
  cases m with
  | response res =>
    refine (h.u32.readsBack 1).bind fun _ => ?_
    refine ReadsBack.bind (ControlRpcMessage.roundTrip h (ControlResponse.roundTrip h hm))
      fun _ => ?_
    exact ReadsBack.pure _ (ControlFeed.response res)
  | newClient client =>
    obtain ⟨hc, hp, ha⟩ := hm
    refine (h.u32.readsBack 3).bind fun _ => ?_
    refine ReadsBack.bind (NewClient.roundTrip h hc hp ha) fun _ => ?_
    exact ReadsBack.pure _ (ControlFeed.newClient client)
  | newClientOld client =>
    obtain ⟨hc, hp, ha⟩ := hm
    refine (h.u32.readsBack 2).bind fun _ => ?_
    refine ReadsBack.bind (NewClientOld.roundTrip h hc hp ha) fun _ => ?_
    exact ReadsBack.pure _ (ControlFeed.newClient client.toNewClient)

/-! ## The protocol -/

/-- Reading what was written gives the message back and leaves exactly what follows, for every
request, response, and message of the feed that the encoder accepts. A request to register has a
version, and addresses carry neither flow information nor a scope. A client in the old form reads
back as the new client that it converts to. -/
theorem control_protocol_roundTrip :
    (∀ (m : ControlRpcMessage ControlRequest) (out out' : Sink) (n : ℕ), m.content.Regular →
      (ControlRpcMessage.encoding e (ControlRequest.encoding e)).writeTo m out = .ok (n, out') →
      ∃ bs, out' = out.push bs ∧ ∀ rest,
        (ControlRpcMessage.encoding e (ControlRequest.encoding e)).readFrom (bs ++ rest) =
          .ok (m, rest)) ∧
    (∀ (m : ControlRpcMessage ControlResponse) (out out' : Sink) (n : ℕ), m.content.Regular →
      (ControlRpcMessage.encoding e (ControlResponse.encoding e)).writeTo m out = .ok (n, out') →
      ∃ bs, out' = out.push bs ∧ ∀ rest,
        (ControlRpcMessage.encoding e (ControlResponse.encoding e)).readFrom (bs ++ rest) =
          .ok (m, rest)) ∧
    ∀ (m : ControlFeed) (out out' : Sink) (n : ℕ), m.Regular →
      (ControlFeed.encoding e).writeTo m out = .ok (n, out') →
      ∃ bs, out' = out.push bs ∧ ∀ rest,
        (ControlFeed.encoding e).readFrom (bs ++ rest) = .ok (m.current, rest) := by
  refine ⟨fun m out out' n hm hw => ?_, fun m out out' n hm hw => ?_, fun m out out' n hm hw => ?_⟩
  · exact ControlRpcMessage.roundTrip h (ControlRequest.roundTrip h hm) out n out' hw
  · exact ControlRpcMessage.roundTrip h (ControlResponse.roundTrip h hm) out n out' hw
  · exact ControlFeed.readsBack h hm out n out' hw

end

/-- The registration of the source's test `agent_register_old_proto_decode`. -/
def AgentRegister.sample : AgentRegister where
  proto_version := 1
  account_id := 1
  agent_id := 2
  agent_version := 3
  timestamp := 1000
  client_addr := .v4 ⟨0x0a141e28, 5678⟩
  tunnel_addr := .v4 ⟨0x09140328, 9912⟩
  signature := Signature.ofBytes []

/-- A client in the old form. -/
def NewClientOld.sample : NewClientOld where
  connect_addr := .v4 ⟨0x09140328, 25565⟩
  peer_addr := .v4 ⟨0x0a141e28, 5678⟩
  claim_instructions := ⟨.v4 ⟨0x09140329, 1234⟩, [1, 2, 3]⟩
  tunnel_server_id := 5
  data_center_id := 6

/-- A response with the details of a channel. -/
def ControlResponse.sample : ControlResponse :=
  .udpChannelDetails ⟨.v6 ⟨1, 9912, 0, 0⟩, [4, 5, 6]⟩

set_option maxRecDepth 10000 in
/-- The sample is written in the first layout and reads back. So do the registration in the second
layout and the response, and the client in the old form reads back as a new client. -/
theorem control_protocol_roundTrip_sample :
    (∃ bs,
      (ControlRpcMessage.encoding Wire.crate (ControlRequest.encoding Wire.crate)).writeTo
        ⟨7, .agentRegister AgentRegister.sample⟩ Sink.vec = .ok (90, Sink.vec.push bs) ∧
      ∀ rest, (ControlRpcMessage.encoding Wire.crate (ControlRequest.encoding Wire.crate)).readFrom
        (bs ++ rest) = .ok (⟨7, .agentRegister AgentRegister.sample⟩, rest)) ∧
    (∃ bs,
      (ControlRpcMessage.encoding Wire.crate (ControlRequest.encoding Wire.crate)).writeTo
        ⟨8, .agentRegister { AgentRegister.sample with proto_version := 2 }⟩ Sink.vec =
          .ok (98, Sink.vec.push bs) ∧
      ∀ rest, (ControlRpcMessage.encoding Wire.crate (ControlRequest.encoding Wire.crate)).readFrom
        (bs ++ rest) =
          .ok (⟨8, .agentRegister { AgentRegister.sample with proto_version := 2 }⟩, rest)) ∧
    (∃ n bs,
      (ControlRpcMessage.encoding Wire.crate (ControlResponse.encoding Wire.crate)).writeTo
        ⟨9, ControlResponse.sample⟩ Sink.vec = .ok (n, Sink.vec.push bs) ∧
      ∀ rest, (ControlRpcMessage.encoding Wire.crate (ControlResponse.encoding Wire.crate)).readFrom
        (bs ++ rest) = .ok (⟨9, ControlResponse.sample⟩, rest)) ∧
    ∃ n bs,
      (ControlFeed.encoding Wire.crate).writeTo (.newClientOld NewClientOld.sample) Sink.vec =
        .ok (n, Sink.vec.push bs) ∧
      ∀ rest, (ControlFeed.encoding Wire.crate).readFrom (bs ++ rest) =
        .ok (.newClient NewClientOld.sample.toNewClient, rest) := by
  obtain ⟨hrequest, hresponse, hfeed⟩ := control_protocol_roundTrip Wire.crate_roundTrips
  refine ⟨?_, ?_, ?_, ?_⟩
  · have hw : (ControlRpcMessage.encoding Wire.crate (ControlRequest.encoding Wire.crate)).writeTo
        ⟨7, .agentRegister AgentRegister.sample⟩ Sink.vec = .ok (90, Sink.vec.push
          (be (7 : UInt64) ++ be (2 : UInt32) ++ be (1 : UInt64) ++ be (2 : UInt64) ++
            be (3 : UInt64) ++ be (1000 : UInt64) ++ [4, 0x0a, 0x14, 0x1e, 0x28] ++
            be (5678 : UInt16) ++ [4, 0x09, 0x14, 0x03, 0x28] ++ be (9912 : UInt16) ++
            List.replicate 32 0)) := rfl
    obtain ⟨bs, hbs, hread⟩ := hrequest ⟨7, .agentRegister AgentRegister.sample⟩ Sink.vec _ 90
      ⟨by decide, trivial, trivial⟩ hw
    exact ⟨bs, hbs ▸ hw, hread⟩
  · obtain ⟨out, hw⟩ : ∃ out,
        (ControlRpcMessage.encoding Wire.crate (ControlRequest.encoding Wire.crate)).writeTo
          ⟨8, .agentRegister { AgentRegister.sample with proto_version := 2 }⟩ Sink.vec =
            .ok (98, out) := ⟨_, rfl⟩
    obtain ⟨bs, hbs, hread⟩ := hrequest
      ⟨8, .agentRegister { AgentRegister.sample with proto_version := 2 }⟩ Sink.vec _ 98
      ⟨by decide, trivial, trivial⟩ hw
    exact ⟨bs, hbs ▸ hw, hread⟩
  · obtain ⟨n, out, hw⟩ : ∃ n out,
        (ControlRpcMessage.encoding Wire.crate (ControlResponse.encoding Wire.crate)).writeTo
          ⟨9, ControlResponse.sample⟩ Sink.vec = .ok (n, out) := ⟨_, _, rfl⟩
    obtain ⟨bs, hbs, hread⟩ := hresponse ⟨9, ControlResponse.sample⟩ Sink.vec _ n ⟨rfl, rfl⟩ hw
    exact ⟨n, bs, hbs ▸ hw, hread⟩
  · obtain ⟨n, out, hw⟩ : ∃ n out, (ControlFeed.encoding Wire.crate).writeTo
        (.newClientOld NewClientOld.sample) Sink.vec = .ok (n, out) := ⟨_, _, rfl⟩
    obtain ⟨bs, hbs, hread⟩ := hfeed (.newClientOld NewClientOld.sample) Sink.vec _ n
      ⟨trivial, trivial, trivial⟩ hw
    exact ⟨n, bs, hbs ▸ hw, hread⟩

end PlayitAgent
