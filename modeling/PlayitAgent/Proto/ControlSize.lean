import PlayitAgent.Proto.ControlFeed

/-!
# The sizes of control messages

An encoder returns the number of bytes that it wrote, and its type may declare that number or a
bound on it. Every encoder of the control protocol obeys this, apart from two. That of
`MtuTestPacket` returns and declares the size of one of its two words, and so do the messages that
carry one. That of `Ping` declares the size of a ping whose two options are there, and an absent
option is shorter.
-/

namespace PlayitAgent

/-! ## Sizes of parts -/

/-- A type that declares no size declares nothing of a returned size. -/
theorem MessageEncoding.declares_of_none {α : Type} {c : MessageEncoding α}
    (hs : c.staticSize = none) (hm : c.maxSize = none) (n : ℕ) : c.Declares n :=
  ⟨by simp [hs], by simp [hm]⟩

/-- A type that declares a static size alone. -/
theorem MessageEncoding.declares_static {α : Type} {c : MessageEncoding α} {n : ℕ}
    (hs : c.staticSize = some n) (hm : c.maxSize = some n) : c.Declares n :=
  ⟨by simp [hs], by simp [hm]⟩

/-- A type that declares a maximal size alone. -/
theorem MessageEncoding.declares_max {α : Type} {c : MessageEncoding α} {k n : ℕ}
    (hs : c.staticSize = none) (hm : c.maxSize = some k) (hn : n ≤ k) : c.Declares n :=
  ⟨by simp [hs], by simpa [hm] using hn⟩

section
variable {e : MessageEncodingCrate}

/-- The size of an option with values of `n` bytes. -/
def optionSize {α : Type} (n : ℕ) (o : Option α) : ℕ := if o.isSome then 1 + n else 1

/-- An option is no longer than one with a value. -/
theorem optionSize_le {α : Type} (n : ℕ) (o : Option α) : optionSize n o ≤ 1 + n := by
  unfold optionSize
  split <;> omega

/-- An absent option counts one byte. -/
theorem Lawful.Options.counts_none (h : Lawful.Options e) {α : Type} (c : MessageEncoding α) :
    Counts 0 ((e.option c).writeTo none) (· = 1) := by
  obtain ⟨tag, htag⟩ := h.none_writeTo
  rw [htag]
  refine (writes_writeBE tag).bind fun _ bs hbs => Writes.pure ⟨?_, rfl⟩
  simp [hbs, Word.size]

/-- An option with a value counts one byte more than the value. -/
theorem Lawful.Options.counts_some (h : Lawful.Options e) {α : Type} {c : MessageEncoding α} {a : α}
    {P : ℕ → Prop} (ha : Counts 0 (c.writeTo a) P) :
    Counts 0 ((e.option c).writeTo (some a)) fun n => ∃ k, P k ∧ n = 1 + k := by
  obtain ⟨tag, htag⟩ := h.some_writeTo
  rw [htag]
  refine (writes_writeBE tag).bind fun _ bs hbs => ?_
  refine Writes.bind ha fun k cs hk => Writes.pure ⟨?_, k, hk.2, rfl⟩
  have hcount := hk.1
  simp only [hbs, List.length_append, length_be, List.length_nil, Word.size]
  omega

/-- An option of values of one size counts its own size. -/
theorem Lawful.Options.counts (h : Lawful.Options e) {α : Type} {c : MessageEncoding α} {k : ℕ}
    (ha : ∀ a, Counts 0 (c.writeTo a) (· = k)) (o : Option α) :
    Counts 0 ((e.option c).writeTo o) (· = optionSize k o) := by
  cases o with
  | none => exact h.counts_none c
  | some a =>
    refine (h.counts_some (ha a)).mono fun n hn => ?_
    obtain ⟨j, hj, hn⟩ := hn
    rw [hn, hj]
    rfl

/-- An option of bounded values is bounded. -/
theorem Lawful.Options.counts_le (h : Lawful.Options e) {α : Type} {c : MessageEncoding α} {k : ℕ}
    (ha : ∀ a, Counts 0 (c.writeTo a) (· ≤ k)) (o : Option α) :
    Counts 0 ((e.option c).writeTo o) (· ≤ 1 + k) := by
  cases o with
  | none => exact (h.counts_none c).mono fun n hn => by omega
  | some a =>
    refine (h.counts_some (ha a)).mono fun n hn => ?_
    obtain ⟨j, hj, hn⟩ := hn
    omega

/-- An option of values that can be sent can be sent. -/
theorem Lawful.Options.sendable (h : Lawful.Options e) {α : Type} {c : MessageEncoding α}
    (ha : ∀ a, c.Sendable a) (o : Option α) : (e.option c).Sendable o := by
  unfold MessageEncoding.Sendable
  cases o with
  | none =>
    obtain ⟨tag, htag⟩ := h.none_writeTo
    rw [htag]
    exact (succeeds_writeBE tag).bind fun _ => Succeeds.pure _
  | some a =>
    obtain ⟨tag, htag⟩ := h.some_writeTo
    rw [htag]
    exact (succeeds_writeBE tag).bind fun _ => Succeeds.bind (ha a) fun _ => Succeeds.pure _

end

section
variable {e : MessageEncodingCrate} (h : Lawful.Sizes e)
include h

/-- A 16-bit integer counts two bytes. -/
theorem Lawful.Sizes.counts_u16 (a : UInt16) : Counts 0 (e.u16.writeTo a) (· = 2) := h.u16.counts a

/-- A 32-bit integer counts four bytes. -/
theorem Lawful.Sizes.counts_u32 (a : UInt32) : Counts 0 (e.u32.writeTo a) (· = 4) := h.u32.counts a

/-- A 64-bit integer counts eight bytes. -/
theorem Lawful.Sizes.counts_u64 (a : UInt64) : Counts 0 (e.u64.writeTo a) (· = 8) := h.u64.counts a

/-- 64-bit integers obey the size law. -/
theorem Lawful.Sizes.u64_sizeLaw (a : UInt64) : e.u64.SizeLaw a :=
  MessageEncoding.sizeLaw_iff.2 <| (h.counts_u64 a).mono fun _ hn =>
    hn ▸ MessageEncoding.declares_static h.u64_size.1 h.u64_size.2

omit h in
/-- What obeys the size law counts its bytes. -/
theorem MessageEncoding.SizeLaw.counts {α : Type} {c : MessageEncoding α} {a : α}
    (ha : c.SizeLaw a) : Counts 0 (c.writeTo a) fun _ => True :=
  (sizeLaw_iff.1 ha).mono fun _ _ => trivial

/-- What has a static size counts it. -/
theorem Lawful.Sizes.counts_mStatic {α : Type} {c : MessageEncoding α} {a : α} (ha : c.SizeLaw a)
    (hs : c.staticSize.isSome) : Counts 0 (c.writeTo a) (· = e.mStatic c) := by
  obtain ⟨k, hk⟩ := Option.isSome_iff_exists.1 hs
  rw [h.mStatic c k hk]
  exact (MessageEncoding.sizeLaw_iff.1 ha).mono fun n hn => hn.1 k hk

/-- What has a maximal size counts no more. -/
theorem Lawful.Sizes.counts_mMax {α : Type} {c : MessageEncoding α} {a : α} (ha : c.SizeLaw a)
    (hm : c.maxSize.isSome) : Counts 0 (c.writeTo a) (· ≤ e.mMax c) := by
  obtain ⟨k, hk⟩ := Option.isSome_iff_exists.1 hm
  rw [h.mMax c k hk]
  exact (MessageEncoding.sizeLaw_iff.1 ha).mono fun n hn => hn.2 k hk

/-! ## Sessions and port ranges -/

/-- Sessions obey the size law. -/
theorem AgentSessionId.sizeLaw (m : AgentSessionId) : (AgentSessionId.encoding e).SizeLaw m := by
  rw [MessageEncoding.sizeLaw_iff]
  refine (h.counts_u64 m.session_id).bind fun _ h₁ => ?_
  refine (h.counts_u64 m.account_id).bind fun _ h₂ => ?_
  refine (h.counts_u64 m.agent_id).bind fun _ h₃ => ?_
  subst h₁ h₂ h₃
  exact Counts.pure (MessageEncoding.declares_static rfl rfl)

/-- A session counts its three words. -/
theorem AgentSessionId.counts (m : AgentSessionId) :
    Counts 0 ((AgentSessionId.encoding e).writeTo m) (· = 24) :=
  (MessageEncoding.sizeLaw_iff.1 (AgentSessionId.sizeLaw h m)).mono fun _ hn => hn.1 24 rfl

/-- A session can be sent. -/
theorem AgentSessionId.sends (m : AgentSessionId) : (AgentSessionId.encoding e).Sendable m :=
  Succeeds.bind (h.u64.sendable m.session_id) fun _ =>
    Succeeds.bind (h.u64.sendable m.account_id) fun _ =>
      Succeeds.bind (h.u64.sendable m.agent_id) fun _ => Succeeds.pure _

omit h in
/-- Transport protocols obey the size law. -/
theorem PortProto.sizeLaw (m : PortProto) : PortProto.encoding.SizeLaw m := by
  have hone (b : UInt8) : Writes (do writeBE b; return 1) PortProto.encoding.Sized := by
    refine (writes_writeBE b).bind fun _ bs hbs => Writes.pure ⟨?_, ?_, ?_⟩
    · simp [hbs, Word.size]
    · rintro k ⟨⟩
      rfl
    · rintro k ⟨⟩
      rfl
  cases m with
  | both => exact hone 3
  | tcp => exact hone 1
  | udp => exact hone 2

/-- Port ranges obey the size law. -/
theorem PortRange.sizeLaw (m : PortRange) : (PortRange.encoding e).SizeLaw m := by
  obtain ⟨k, hk⟩ := Option.isSome_iff_exists.1 h.ipAddr_max
  refine Writes.bind (h.ipAddr m.ip) fun n₁ b₁ h₁ => ?_
  refine (writes_writeBE m.port_start).bind fun _ b₂ h₂ => ?_
  refine (writes_writeBE m.port_end).bind fun _ b₃ h₃ => ?_
  refine Writes.bind (PortProto.sizeLaw m.port_proto) fun n₄ b₄ h₄ => Writes.pure ⟨?_, ?_, ?_⟩
  · have hc₁ := h₁.count
    have hc₄ := h₄.count
    simp only [h₂, h₃, List.length_append, length_be, List.length_nil, Word.size]
    omega
  · rintro k ⟨⟩
  · have hm₁ := h₁.max k hk
    have hs₄ := h₄.static 1 rfl
    intro k' hk'
    obtain rfl : k + 4 + 1 = k' := by
      simpa [PortRange.encoding, PortProto.encoding, hk] using hk'
    omega

/-- A port range has a maximal size. -/
theorem PortRange.maxSize_isSome : (PortRange.encoding e).maxSize.isSome := by
  obtain ⟨k, hk⟩ := Option.isSome_iff_exists.1 h.ipAddr_max
  simp [PortRange.encoding, PortProto.encoding, hk]

/-! ## Requests -/

/-- Ids of requests obey the size law. -/
theorem ControlRequestId.sizeLaw (m : ControlRequestId) :
    (ControlRequestId.encoding e).SizeLaw m := by
  rw [MessageEncoding.sizeLaw_iff]
  refine (h.counts_u32 m.toU32).mono fun n hn => ?_
  subst hn
  exact MessageEncoding.declares_static rfl rfl

omit h in
/-- The pattern counts its length. -/
theorem counts_writeMtuPattern (len : ℕ) : Counts 0 (writeMtuPattern len) fun _ => True := by
  unfold writeMtuPattern
  by_cases hlen : len ≤ 2048
  · simp only [hlen, not_true, if_false]
    refine (Writes.writeAll _).bind fun _ bs hbs => Writes.pure ⟨?_, trivial⟩
    simp only [hbs, List.append_nil, List.length_take, mtuTestPattern, List.length_map,
      List.length_range]
    omega
  · simp only [hlen, not_false_eq_true, if_true]
    exact Counts.throw

/-- Reports of received messages obey the size law. -/
theorem CheckMtuReceived.sizeLaw (m : CheckMtuReceived) :
    (CheckMtuReceived.encoding e).SizeLaw m := by
  rw [MessageEncoding.sizeLaw_iff]
  refine (h.counts_u64 m.id).bind fun _ _ => ?_
  refine (h.counts_u32 m.message_size).bind fun _ _ => ?_
  refine (counts_writeMtuPattern m.message_size.toNat).bind fun _ _ => ?_
  exact Counts.pure (MessageEncoding.declares_of_none rfl rfl _)

/-- Requests for messages obey the size law. -/
theorem SendMtuTest.sizeLaw (m : SendMtuTest) : (SendMtuTest.encoding e).SizeLaw m := by
  rw [MessageEncoding.sizeLaw_iff]
  refine (h.counts_u64 m.id).bind fun _ h₁ => ?_
  refine (h.counts_u32 m.data_center_id).bind fun _ h₂ => ?_
  refine (h.counts_u32 m.udp_payload_length).bind fun _ h₃ => ?_
  subst h₁ h₂ h₃
  exact Counts.pure (MessageEncoding.declares_static rfl rfl)

/-- Questions about port mappings obey the size law. -/
theorem AgentCheckPortMapping.sizeLaw (m : AgentCheckPortMapping) :
    (AgentCheckPortMapping.encoding e).SizeLaw m := by
  rw [MessageEncoding.sizeLaw_iff]
  refine (h.counts_mStatic (AgentSessionId.sizeLaw h m.agent_session_id) rfl).bind fun _ h₁ => ?_
  refine (h.counts_mMax (PortRange.sizeLaw h m.port_range) (PortRange.maxSize_isSome h)).bind
    fun _ h₂ => ?_
  exact Counts.pure (MessageEncoding.declares_max rfl rfl (by omega))

/-- The size of a ping. -/
def Ping.size (m : Ping) : ℕ := 8 + optionSize 4 m.current_ping + optionSize 24 m.session_id

/-- A ping counts its size. -/
theorem Ping.counts (m : Ping) : Counts 0 ((Ping.encoding e).writeTo m) (· = m.size) := by
  refine (h.counts_u64 m.now).bind fun _ h₁ => ?_
  refine (h.option.counts h.counts_u32 m.current_ping).bind fun _ h₂ => ?_
  refine (h.option.counts (AgentSessionId.counts h) m.session_id).bind fun _ h₃ => ?_
  refine Counts.pure ?_
  unfold size
  omega

/-- A ping can be sent. -/
theorem Ping.sends (m : Ping) : (Ping.encoding e).Sendable m :=
  Succeeds.bind (h.u64.sendable m.now) fun _ =>
    Succeeds.bind (h.option.sendable h.u32.sendable m.current_ping) fun _ =>
      Succeeds.bind (h.option.sendable (AgentSessionId.sends h) m.session_id) fun _ =>
        Succeeds.pure _

/-- A ping declares the size of one whose options are there. -/
theorem Ping.staticSize_eq : (Ping.encoding e).staticSize = some 38 := by
  have hping : e.mStatic (e.option e.u32) = 5 :=
    h.mStatic _ _ (by rw [h.option.staticSize, h.u32_size.1]; rfl)
  have hsession : e.mStatic (e.option (AgentSessionId.encoding e)) = 25 :=
    h.mStatic _ _ (by rw [h.option.staticSize]; rfl)
  simp only [encoding, hping, hsession]

/-- Pings whose options are there obey the size law. -/
theorem Ping.sizeLaw {m : Ping} (hping : m.current_ping.isSome) (hsession : m.session_id.isSome) :
    (Ping.encoding e).SizeLaw m := by
  have hsize : m.size = 38 := by simp [size, optionSize, hping, hsession]
  rw [MessageEncoding.sizeLaw_iff]
  refine (Ping.counts h m).mono fun n hn => ?_
  rw [hn, hsize]
  exact MessageEncoding.declares_static (staticSize_eq h) (staticSize_eq h)

/-- The head of a registration counts one word or two. -/
theorem AgentRegister.counts_writeHead (m : AgentRegister) :
    Counts 0 (writeHead e m) (· ≤ 16) := by
  unfold writeHead
  by_cases hv : m.proto_version ≤ 1
  · rw [if_pos hv]
    cases includesVersion m.account_id with
    | true => exact Counts.throw
    | false => exact (h.counts_u64 m.account_id).mono fun n hn => by omega
  · rw [if_neg hv]
    cases includesVersion m.proto_version with
    | true => exact Counts.throw
    | false =>
      refine (h.counts_u64 _).bind fun _ h₁ => ?_
      refine (h.counts_u64 m.account_id).bind fun _ h₂ => ?_
      exact Counts.pure (by omega)

/-- The maximal size of a registration, if it is declared. -/
theorem AgentRegister.maxSize_eq {k : ℕ} (hk : (AgentRegister.encoding e).maxSize = some k) :
    k = 72 + 2 * e.mMax e.socketAddr := by
  obtain ⟨m, hm⟩ := Option.isSome_iff_exists.1 h.socketAddr_max
  obtain ⟨ns, hns, rfl⟩ := h.mOptSum _ _ hk
  rw [h.u64_size.2, hm] at hns
  obtain rfl : [8, 8, 8, 8, 8, m, m, 32] = ns :=
    List.map_injective_iff.2 (Option.some_injective _) hns
  simp only [h.mMax _ _ hm, List.sum_cons, List.sum_nil]
  omega

/-- Registrations obey the size law. -/
theorem AgentRegister.sizeLaw (m : AgentRegister) : (AgentRegister.encoding e).SizeLaw m := by
  rw [MessageEncoding.sizeLaw_iff]
  refine (counts_writeHead h m).bind fun _ h₁ => ?_
  refine (h.counts_u64 m.agent_id).bind fun _ h₂ => ?_
  refine (h.counts_u64 m.agent_version).bind fun _ h₃ => ?_
  refine (h.counts_u64 m.timestamp).bind fun _ h₄ => ?_
  refine (h.counts_mMax (h.socketAddr m.client_addr) h.socketAddr_max).bind fun _ h₅ => ?_
  refine (h.counts_mMax (h.socketAddr m.tunnel_addr) h.socketAddr_max).bind fun _ h₆ => ?_
  refine Counts.writeAll ⟨by rintro k ⟨⟩, fun k hk => ?_⟩
  rw [maxSize_eq h hk, m.signature.length_bytes]
  omega

/-- Registrations in the first version obey the size law. -/
theorem AgentRegisterV1.sizeLaw (m : AgentRegisterV1) :
    (AgentRegisterV1.encoding e).SizeLaw m := by
  refine (writes_writeBE m.account_id).bind fun _ b₁ h₁ => ?_
  refine (writes_writeBE m.agent_id).bind fun _ b₂ h₂ => ?_
  refine (writes_writeBE m.agent_version).bind fun _ b₃ h₃ => ?_
  refine (writes_writeBE m.timestamp).bind fun _ b₄ h₄ => ?_
  refine Writes.bind (h.socketAddr m.client_addr) fun n₅ b₅ h₅ => ?_
  refine Writes.bind (h.socketAddr m.tunnel_addr) fun n₆ b₆ h₆ => ?_
  refine (Writes.write m.signature.bytes).bind fun n₇ b₇ h₇ => ?_
  by_cases hn : n₇ = 32
  · simp only [hn, ne_eq, not_true, if_false]
    refine Writes.pure ⟨?_, by rintro k ⟨⟩, by rintro k ⟨⟩⟩
    have hc₅ := h₅.count
    have hc₆ := h₆.count
    have hc₇ := h₇.1
    simp only [h₁, h₂, h₃, h₄, List.length_append, length_be, List.length_nil, Word.size]
    omega
  · simp only [hn, ne_eq, not_false_eq_true, if_true]
    exact Writes.throw

/-- Requests obey the size law. -/
theorem ControlRequest.sizeLaw (m : ControlRequest) : (ControlRequest.encoding e).SizeLaw m := by
  have hid (id : ControlRequestId) := (ControlRequestId.sizeLaw h id).counts
  have hnone (n : ℕ) : (ControlRequest.encoding e).Declares n :=
    MessageEncoding.declares_of_none rfl rfl n
  rw [MessageEncoding.sizeLaw_iff]
  cases m with
  | ping data =>
    exact (hid .pingV2).bind fun _ _ => (Ping.counts h data).bind fun _ _ =>
      Counts.pure (hnone _)
  | agentRegister data =>
    have hdata := (AgentRegister.sizeLaw h data).counts
    simp only [encoding, ControlRequest.writeTo]
    split
    · exact (hid .agentRegisterV1).bind fun _ _ => hdata.bind fun _ _ => Counts.pure (hnone _)
    · exact (hid .agentRegisterV2).bind fun _ _ => hdata.bind fun _ _ => Counts.pure (hnone _)
  | agentKeepAlive data =>
    exact (hid .agentKeepAliveV1).bind fun _ _ => (AgentSessionId.sizeLaw h data).counts.bind
      fun _ _ => Counts.pure (hnone _)
  | setupUdpChannel data =>
    exact (hid .setupUdpChannelV1).bind fun _ _ => (AgentSessionId.sizeLaw h data).counts.bind
      fun _ _ => Counts.pure (hnone _)
  | agentCheckPortMapping data =>
    exact (hid .agentCheckPortMappingV1).bind fun _ _ =>
      (AgentCheckPortMapping.sizeLaw h data).counts.bind fun _ _ => Counts.pure (hnone _)
  | checkMtuReceived data =>
    exact (hid .checkMtuReceivedV1).bind fun _ _ => (CheckMtuReceived.sizeLaw h data).counts.bind
      fun _ _ => Counts.pure (hnone _)
  | sendMtuTest data =>
    exact (hid .sendMtuTestV1).bind fun _ _ => (SendMtuTest.sizeLaw h data).counts.bind
      fun _ _ => Counts.pure (hnone _)

/-! ## Responses -/

/-- Acknowledgements obey the size law. -/
theorem CheckMtuReceivedAck.sizeLaw (m : CheckMtuReceivedAck) :
    (CheckMtuReceivedAck.encoding e).SizeLaw m := by
  rw [MessageEncoding.sizeLaw_iff]
  refine (h.counts_u64 m.id).bind fun _ h₁ => ?_
  refine (h.counts_u32 m.message_length).bind fun _ h₂ => ?_
  refine (h.counts_u32 m.ip_header_length).bind fun _ h₃ => ?_
  refine (h.counts_u32 m.udp_payload_length).bind fun _ h₄ => ?_
  subst h₁ h₂ h₃ h₄
  exact Counts.pure (MessageEncoding.declares_static rfl rfl)

/-- The codes of failed tests obey the size law. -/
theorem MtuTestFailCode.sizeLaw (m : MtuTestFailCode) :
    (MtuTestFailCode.encoding e).SizeLaw m := by
  rw [MessageEncoding.sizeLaw_iff]
  refine (h.counts_u32 m.toU32).mono fun n hn => ?_
  subst hn
  exact MessageEncoding.declares_static rfl rfl

/-- Failed tests obey the size law. -/
theorem MtuTestFail.sizeLaw (m : MtuTestFail) : (MtuTestFail.encoding e).SizeLaw m := by
  rw [MessageEncoding.sizeLaw_iff]
  refine (h.counts_u32 m.error_code.toU32).mono fun n hn => ?_
  subst hn
  exact MessageEncoding.declares_static rfl rfl

/-- Found mappings obey the size law. -/
theorem AgentPortMappingFound.sizeLaw (m : AgentPortMappingFound) :
    (AgentPortMappingFound.encoding e).SizeLaw m := by
  have hmax := h.mMaxList [e.mMax (AgentSessionId.encoding e)] _ (List.mem_singleton.2 rfl)
  rw [MessageEncoding.sizeLaw_iff]
  cases m with
  | toAgent id =>
    refine (h.counts_u32 1).bind fun _ h₁ => ?_
    refine (h.counts_mMax (AgentSessionId.sizeLaw h id) rfl).bind fun _ h₂ => ?_
    exact Counts.pure (MessageEncoding.declares_max rfl rfl (by omega))

/-- Answers about port mappings obey the size law. -/
theorem AgentPortMapping.sizeLaw (m : AgentPortMapping) :
    (AgentPortMapping.encoding e).SizeLaw m := by
  have hfound := h.option.counts_le
    (fun a => h.counts_mMax (AgentPortMappingFound.sizeLaw h a) rfl) m.found
  have hmax : e.mMax (e.option (AgentPortMappingFound.encoding e)) =
      1 + e.mMax (AgentPortMappingFound.encoding e) := by
    rw [h.mMax (AgentPortMappingFound.encoding e) _ rfl]
    exact h.mMax _ _ (by rw [h.option.maxSize]; rfl)
  rw [MessageEncoding.sizeLaw_iff]
  refine (h.counts_mMax (PortRange.sizeLaw h m.range) (PortRange.maxSize_isSome h)).bind
    fun _ h₁ => ?_
  refine hfound.bind fun _ h₂ => ?_
  exact Counts.pure (MessageEncoding.declares_max rfl rfl (by omega))

/-- Sessions of the channel for UDP obey the size law. -/
theorem UdpChannelDetails.sizeLaw (m : UdpChannelDetails) :
    (UdpChannelDetails.encoding e).SizeLaw m := by
  rw [MessageEncoding.sizeLaw_iff]
  refine (h.socketAddr m.tunnel_addr).counts.bind fun _ _ => ?_
  refine (h.vec m.token).counts.bind fun _ _ => ?_
  exact Counts.pure (MessageEncoding.declares_of_none rfl rfl _)

/-- Pongs obey the size law. -/
theorem Pong.sizeLaw (m : Pong) : (Pong.encoding e).SizeLaw m := by
  have hopt : e.mStatic (e.option e.u64) = 9 :=
    h.mStatic _ _ (by rw [h.option.staticSize, h.u64_size.1]; rfl)
  have hle := optionSize_le 8 m.session_expire_at
  have h64 := h.mStatic _ _ h.u64_size.1
  have h32 := h.mStatic _ _ h.u32_size.1
  rw [MessageEncoding.sizeLaw_iff]
  refine (h.counts_u64 m.request_now).bind fun _ h₁ => ?_
  refine (h.counts_u64 m.server_now).bind fun _ h₂ => ?_
  refine (h.counts_u64 m.server_id).bind fun _ h₃ => ?_
  refine (h.counts_u32 m.data_center_id).bind fun _ h₄ => ?_
  refine (h.counts_mMax (h.socketAddr m.client_addr) h.socketAddr_max).bind fun _ h₅ => ?_
  refine (h.counts_mMax (h.socketAddr m.tunnel_addr) h.socketAddr_max).bind fun _ h₆ => ?_
  refine (h.option.counts h.counts_u64 m.session_expire_at).bind fun _ h₇ => ?_
  exact Counts.pure (MessageEncoding.declares_max rfl rfl (by omega))

/-- Answers to registrations obey the size law. -/
theorem AgentRegistered.sizeLaw (m : AgentRegistered) :
    (AgentRegistered.encoding e).SizeLaw m := by
  have h64 := h.counts_mStatic (h.u64_sizeLaw m.expires_at) (by simp [h.u64_size.1])
  rw [MessageEncoding.sizeLaw_iff]
  refine (h.counts_mStatic (AgentSessionId.sizeLaw h m.id) rfl).bind fun _ h₁ => ?_
  refine h64.bind fun _ h₂ => ?_
  subst h₁ h₂
  rw [Nat.zero_add]
  exact Counts.pure (MessageEncoding.declares_static rfl rfl)

/-- Responses obey the size law, other than test messages. -/
theorem ControlResponse.sizeLaw {m : ControlResponse} (hm : ∀ data, m ≠ .mtuTestPacket data) :
    (ControlResponse.encoding e).SizeLaw m := by
  have hnone (n : ℕ) : (ControlResponse.encoding e).Declares n :=
    MessageEncoding.declares_of_none rfl rfl n
  rw [MessageEncoding.sizeLaw_iff]
  cases m with
  | pong data =>
    exact (h.counts_u32 1).bind fun _ _ => (Pong.sizeLaw h data).counts.bind fun _ _ =>
      Counts.pure (hnone _)
  | invalidSignature => exact (h.counts_u32 2).bind fun _ _ => Counts.pure (hnone _)
  | unauthorized => exact (h.counts_u32 3).bind fun _ _ => Counts.pure (hnone _)
  | requestQueued => exact (h.counts_u32 4).bind fun _ _ => Counts.pure (hnone _)
  | tryAgainLater => exact (h.counts_u32 5).bind fun _ _ => Counts.pure (hnone _)
  | agentRegistered data =>
    exact (h.counts_u32 6).bind fun _ _ => (AgentRegistered.sizeLaw h data).counts.bind fun _ _ =>
      Counts.pure (hnone _)
  | agentPortMapping data =>
    exact (h.counts_u32 7).bind fun _ _ => (AgentPortMapping.sizeLaw h data).counts.bind fun _ _ =>
      Counts.pure (hnone _)
  | udpChannelDetails data =>
    exact (h.counts_u32 8).bind fun _ _ => (UdpChannelDetails.sizeLaw h data).counts.bind fun _ _ =>
      Counts.pure (hnone _)
  | checkMtuReceivedAck data =>
    exact (h.counts_u32 9).bind fun _ _ => (CheckMtuReceivedAck.sizeLaw h data).counts.bind
      fun _ _ => Counts.pure (hnone _)
  | mtuTestPacket data => exact absurd rfl (hm data)
  | mtuTestFail data =>
    exact (h.counts_u32 11).bind fun _ _ => (MtuTestFail.sizeLaw h data).counts.bind fun _ _ =>
      Counts.pure (hnone _)

/-! ## The feed -/

/-- A message with an id obeys the size law when its content does. -/
theorem ControlRpcMessage.sizeLaw {α : Type} {c : MessageEncoding α} {m : ControlRpcMessage α}
    (hm : c.SizeLaw m.content) : (ControlRpcMessage.encoding e c).SizeLaw m := by
  rw [MessageEncoding.sizeLaw_iff] at hm ⊢
  refine (h.counts_u64 m.request_id).bind fun _ h₁ => ?_
  refine hm.bind fun n h₂ => Counts.pure ⟨fun k hk => ?_, fun k hk => ?_⟩
  · obtain ⟨j, hj, rfl⟩ := Option.map_eq_some_iff.1 hk
    have := h₂.1 j hj
    omega
  · obtain ⟨j, hj, rfl⟩ := Option.map_eq_some_iff.1 hk
    have := h₂.2 j hj
    omega

/-- Claim instructions obey the size law. -/
theorem ClaimInstructions.sizeLaw (m : ClaimInstructions) :
    (ClaimInstructions.encoding e).SizeLaw m := by
  rw [MessageEncoding.sizeLaw_iff]
  refine (h.socketAddr m.address).counts.bind fun _ _ => ?_
  refine (h.vec m.token).counts.bind fun _ _ => ?_
  exact Counts.pure (MessageEncoding.declares_of_none rfl rfl _)

/-- New clients obey the size law. -/
theorem NewClient.sizeLaw (m : NewClient) : (NewClient.encoding e).SizeLaw m := by
  rw [MessageEncoding.sizeLaw_iff]
  refine (h.socketAddr m.connect_addr).counts.bind fun _ _ => ?_
  refine (h.socketAddr m.peer_addr).counts.bind fun _ _ => ?_
  refine (h.counts_u32 m.data_center_id).bind fun _ _ => ?_
  refine (h.counts_u64 m.tunnel_id).bind fun _ _ => ?_
  refine (h.counts_u16 m.port_offset).bind fun _ _ => ?_
  refine (ClaimInstructions.sizeLaw h m.claim_instructions).counts.bind fun _ _ => ?_
  exact Counts.pure (MessageEncoding.declares_of_none rfl rfl _)

/-- New clients in the old form obey the size law. -/
theorem NewClientOld.sizeLaw (m : NewClientOld) : (NewClientOld.encoding e).SizeLaw m := by
  rw [MessageEncoding.sizeLaw_iff]
  refine (h.socketAddr m.connect_addr).counts.bind fun _ _ => ?_
  refine (h.socketAddr m.peer_addr).counts.bind fun _ _ => ?_
  refine (ClaimInstructions.sizeLaw h m.claim_instructions).counts.bind fun _ _ => ?_
  refine (h.counts_u64 m.tunnel_server_id).bind fun _ _ => ?_
  refine (h.counts_u32 m.data_center_id).bind fun _ _ => ?_
  exact Counts.pure (MessageEncoding.declares_of_none rfl rfl _)

/-- The feed obeys the size law, other than for test messages. -/
theorem ControlFeed.sizeLaw {m : ControlFeed}
    (hm : ∀ id data, m ≠ .response ⟨id, .mtuTestPacket data⟩) :
    (ControlFeed.encoding e).SizeLaw m := by
  have hnone (n : ℕ) : (ControlFeed.encoding e).Declares n :=
    MessageEncoding.declares_of_none rfl rfl n
  rw [MessageEncoding.sizeLaw_iff]
  cases m with
  | response res =>
    have hres : (ControlResponse.encoding e).SizeLaw res.content :=
      ControlResponse.sizeLaw h fun data hd => hm res.request_id data (by rw [← hd])
    exact (h.counts_u32 1).bind fun _ _ => (ControlRpcMessage.sizeLaw h hres).counts.bind
      fun _ _ => Counts.pure (hnone _)
  | newClient client =>
    exact (h.counts_u32 3).bind fun _ _ => (NewClient.sizeLaw h client).counts.bind fun _ _ =>
      Counts.pure (hnone _)
  | newClientOld client =>
    exact (h.counts_u32 2).bind fun _ _ => (NewClientOld.sizeLaw h client).counts.bind fun _ _ =>
      Counts.pure (hnone _)

end

/-! ## The size law -/

/-- The types of the control protocol. -/
inductive ControlType where
  | agentSessionId
  | portProto
  | portRange
  | controlRequestId
  | checkMtuReceived
  | sendMtuTest
  | agentCheckPortMapping
  | ping
  | agentRegister
  | agentRegisterV1
  | controlRequest
  | checkMtuReceivedAck
  | mtuTestPacket
  | mtuTestFailCode
  | mtuTestFail
  | agentPortMappingFound
  | agentPortMapping
  | udpChannelDetails
  | pong
  | agentRegistered
  | controlResponse
  | claimInstructions
  | newClient
  | newClientOld
  | controlFeed
  | controlRpcMessage (content : ControlType)

namespace ControlType

/-- The values of a type. -/
def Carrier : ControlType → Type
  | agentSessionId => AgentSessionId
  | portProto => PortProto
  | portRange => PortRange
  | controlRequestId => ControlRequestId
  | checkMtuReceived => CheckMtuReceived
  | sendMtuTest => SendMtuTest
  | agentCheckPortMapping => AgentCheckPortMapping
  | ping => Ping
  | agentRegister => AgentRegister
  | agentRegisterV1 => AgentRegisterV1
  | controlRequest => ControlRequest
  | checkMtuReceivedAck => CheckMtuReceivedAck
  | mtuTestPacket => MtuTestPacket
  | mtuTestFailCode => MtuTestFailCode
  | mtuTestFail => MtuTestFail
  | agentPortMappingFound => AgentPortMappingFound
  | agentPortMapping => AgentPortMapping
  | udpChannelDetails => UdpChannelDetails
  | pong => Pong
  | agentRegistered => AgentRegistered
  | controlResponse => ControlResponse
  | claimInstructions => ClaimInstructions
  | newClient => NewClient
  | newClientOld => NewClientOld
  | controlFeed => ControlFeed
  | controlRpcMessage t => ControlRpcMessage t.Carrier

/-- The encoding of a type. -/
def encoding (e : MessageEncodingCrate) : (t : ControlType) → MessageEncoding t.Carrier
  | agentSessionId => AgentSessionId.encoding e
  | portProto => PortProto.encoding
  | portRange => PortRange.encoding e
  | controlRequestId => ControlRequestId.encoding e
  | checkMtuReceived => CheckMtuReceived.encoding e
  | sendMtuTest => SendMtuTest.encoding e
  | agentCheckPortMapping => AgentCheckPortMapping.encoding e
  | ping => Ping.encoding e
  | agentRegister => AgentRegister.encoding e
  | agentRegisterV1 => AgentRegisterV1.encoding e
  | controlRequest => ControlRequest.encoding e
  | checkMtuReceivedAck => CheckMtuReceivedAck.encoding e
  | mtuTestPacket => MtuTestPacket.encoding e
  | mtuTestFailCode => MtuTestFailCode.encoding e
  | mtuTestFail => MtuTestFail.encoding e
  | agentPortMappingFound => AgentPortMappingFound.encoding e
  | agentPortMapping => AgentPortMapping.encoding e
  | udpChannelDetails => UdpChannelDetails.encoding e
  | pong => Pong.encoding e
  | agentRegistered => AgentRegistered.encoding e
  | controlResponse => ControlResponse.encoding e
  | claimInstructions => ClaimInstructions.encoding e
  | newClient => NewClient.encoding e
  | newClientOld => NewClientOld.encoding e
  | controlFeed => ControlFeed.encoding e
  | controlRpcMessage t => ControlRpcMessage.encoding e (t.encoding e)

/-- The value is a `MtuTestPacket` or carries one, or it is a `Ping` without one of its options,
alone or behind ids. -/
def Miscounts : (t : ControlType) → t.Carrier → Prop
  | mtuTestPacket, _ => True
  | controlResponse, m => ∃ data, m = ControlResponse.mtuTestPacket data
  | controlFeed, m => ∃ id data, m = ControlFeed.response ⟨id, .mtuTestPacket data⟩
  | ping, m => Ping.current_ping m = none ∨ Ping.session_id m = none
  | controlRpcMessage t, m => Miscounts t m.content
  | _, _ => False

section
variable {e : MessageEncodingCrate} (h : Lawful.Sizes e)
include h

/-- The encoder of a test message emits eight bytes and returns four. -/
theorem emits_mtuTestPacket (m : MtuTestPacket) :
    Emits ((MtuTestPacket.encoding e).writeTo m) 4
      (be m.data_center_id ++ be m.udp_payload_length) :=
  (h.u32.emits m.data_center_id).bind (h.u32.emits m.udp_payload_length)

/-- The encoder of a response with a test message emits twelve bytes and returns eight. -/
theorem emits_controlResponse_mtuTestPacket (m : MtuTestPacket) :
    Emits ((ControlResponse.encoding e).writeTo (.mtuTestPacket m)) 8
      (be (10 : UInt32) ++ (be m.data_center_id ++ be m.udp_payload_length)) := by
  rw [← List.append_nil (be m.data_center_id ++ be m.udp_payload_length)]
  exact (h.u32.emits 10).bind ((emits_mtuTestPacket h m).bind (Emits.pure 8))

/-- The encoder of a message with an id emits eight more bytes and counts them. -/
theorem emits_controlRpcMessage {α : Type} {c : MessageEncoding α} {m : ControlRpcMessage α}
    {n : ℕ} {bs : List UInt8} (hs : Emits (c.writeTo m.content) n bs) :
    Emits ((ControlRpcMessage.encoding e c).writeTo m) (8 + n) (be m.request_id ++ bs) := by
  rw [← List.append_nil bs, ← Nat.zero_add 8]
  exact (h.u64.emits m.request_id).bind (hs.bind (Emits.pure _))

omit h in
/-- A message with an id is sized only when its content is. -/
theorem sized_content {α : Type} {c : MessageEncoding α} {n : ℕ} {id : UInt64} {bs : List UInt8}
    (hs : (ControlRpcMessage.encoding e c).Sized (8 + n) (be id ++ bs)) : c.Sized n bs := by
  refine ⟨?_, fun k hk => ?_, fun k hk => ?_⟩
  · have hcount := hs.count
    simp only [List.length_append, length_be, Word.size] at hcount
    omega
  · have hstatic := hs.static (8 + k) (by simp [ControlRpcMessage.encoding, hk])
    omega
  · have hmax := hs.max (8 + k) (by simp [ControlRpcMessage.encoding, hk])
    omega

/-- A ping without one of its options is shorter than it declares. -/
theorem ping_not_sized {m : Ping} (hm : m.current_ping = none ∨ m.session_id = none) :
    ∃ n bs, Emits ((Ping.encoding e).writeTo m) n bs ∧ ¬(Ping.encoding e).Sized n bs := by
  obtain ⟨n, bs, hs⟩ := Ping.sends h m
  refine ⟨n, bs, hs, fun hsized => ?_⟩
  have hstatic : n = 38 := hsized.static 38 (Ping.staticSize_eq h)
  obtain ⟨bs', -, -, hn⟩ := Ping.counts h m _ _ _ hs.run_vec
  have hping := optionSize_le 4 m.current_ping
  have hsession := optionSize_le 24 m.session_id
  unfold Ping.size at hn
  rcases hm with hm | hm
  · simp only [hm, optionSize, Option.isSome_none, Bool.false_eq_true, if_false] at hn hsession
    omega
  · simp only [hm, optionSize, Option.isSome_none, Bool.false_eq_true, if_false] at hn hping
    omega

/-- The others are sent with a size that is not right. -/
theorem emits_not_sized {t : ControlType} {m : t.Carrier} (hm : t.Miscounts m) :
    ∃ n bs, Emits ((t.encoding e).writeTo m) n bs ∧ ¬(t.encoding e).Sized n bs := by
  have hne {α : Type} {c : MessageEncoding α} {n : ℕ} {bs : List UInt8} (hn : n ≠ bs.length) :
      ¬c.Sized n bs := fun hs => hn hs.count
  -- The induction is on the nesting of ids around the message.
  induction t with
  | mtuTestPacket => exact ⟨4, _, emits_mtuTestPacket h m, hne (by simp [Word.size])⟩
  | controlResponse =>
    obtain ⟨data, rfl⟩ := hm
    exact ⟨8, _, emits_controlResponse_mtuTestPacket h data, hne (by simp [Word.size])⟩
  | controlFeed =>
    obtain ⟨id, data, rfl⟩ := hm
    have hs := emits_controlRpcMessage h (m := ⟨id, ControlResponse.mtuTestPacket data⟩)
      (emits_controlResponse_mtuTestPacket h data)
    exact ⟨20, _, (h.u32.emits 1).bind (hs.bind (Emits.pure 20)), hne (by simp [Word.size])⟩
  | ping => exact ping_not_sized h hm
  | controlRpcMessage t ih =>
    obtain ⟨n, bs, hs, hn⟩ := ih hm
    exact ⟨_, _, emits_controlRpcMessage h hs, fun hsized => hn (sized_content hsized)⟩
  | _ => cases hm

/-- The size law holds of the other values of the control protocol. -/
theorem sizeLaw_of_not_miscounts {t : ControlType} {m : t.Carrier} (hm : ¬t.Miscounts m) :
    (t.encoding e).SizeLaw m := by
  induction t with
  | agentSessionId => exact AgentSessionId.sizeLaw h m
  | portProto => exact PortProto.sizeLaw m
  | portRange => exact PortRange.sizeLaw h m
  | controlRequestId => exact ControlRequestId.sizeLaw h m
  | checkMtuReceived => exact CheckMtuReceived.sizeLaw h m
  | sendMtuTest => exact SendMtuTest.sizeLaw h m
  | agentCheckPortMapping => exact AgentCheckPortMapping.sizeLaw h m
  | ping =>
    obtain ⟨hping, hsession⟩ := not_or.1 hm
    exact Ping.sizeLaw h (Option.isSome_iff_ne_none.2 hping) (Option.isSome_iff_ne_none.2 hsession)
  | agentRegister => exact AgentRegister.sizeLaw h m
  | agentRegisterV1 => exact AgentRegisterV1.sizeLaw h m
  | controlRequest => exact ControlRequest.sizeLaw h m
  | checkMtuReceivedAck => exact CheckMtuReceivedAck.sizeLaw h m
  | mtuTestPacket => exact absurd trivial hm
  | mtuTestFailCode => exact MtuTestFailCode.sizeLaw h m
  | mtuTestFail => exact MtuTestFail.sizeLaw h m
  | agentPortMappingFound => exact AgentPortMappingFound.sizeLaw h m
  | agentPortMapping => exact AgentPortMapping.sizeLaw h m
  | udpChannelDetails => exact UdpChannelDetails.sizeLaw h m
  | pong => exact Pong.sizeLaw h m
  | agentRegistered => exact AgentRegistered.sizeLaw h m
  | controlResponse => exact ControlResponse.sizeLaw h fun data hd => hm ⟨data, hd⟩
  | claimInstructions => exact ClaimInstructions.sizeLaw h m
  | newClient => exact NewClient.sizeLaw h m
  | newClientOld => exact NewClientOld.sizeLaw h m
  | controlFeed => exact ControlFeed.sizeLaw h fun id data hd => hm ⟨id, data, hd⟩
  | controlRpcMessage t ih => exact ControlRpcMessage.sizeLaw h (ih hm)

/-- The size law holds of a value of the control protocol exactly when the value carries no
`MtuTestPacket` and is no `Ping` without one of its options. -/
theorem sizeLaw_iff_not_miscounts (t : ControlType) (m : t.Carrier) :
    (t.encoding e).SizeLaw m ↔ ¬t.Miscounts m := by
  refine ⟨fun hlaw hm => ?_, sizeLaw_of_not_miscounts h⟩
  obtain ⟨n, bs, hs, hn⟩ := emits_not_sized h hm
  obtain ⟨bs', hb, hsized⟩ := hlaw _ _ _ hs.run_vec
  obtain rfl : bs = bs' := by simpa [Sink.vec, Sink.push] using hb
  exact hn hsized

end

/-- A queued request is counted right, and so is a ping whose options are there. A test message is
not, nor is a ping without them, unless it is in a request, which declares no size. -/
theorem sizeLaw_requestQueued_mtuTestPacket :
    ((controlRpcMessage controlResponse).encoding Wire.crate).SizeLaw
      ⟨1, ControlResponse.requestQueued⟩ ∧
    ¬((controlRpcMessage controlResponse).encoding Wire.crate).SizeLaw
      ⟨1, ControlResponse.mtuTestPacket ⟨3, 1200⟩⟩ ∧
    (ping.encoding Wire.crate).SizeLaw (Ping.mk 1 (some 20) (some ⟨1, 2, 3⟩)) ∧
    ¬(ping.encoding Wire.crate).SizeLaw (Ping.mk 1 none none) ∧
    (controlRequest.encoding Wire.crate).SizeLaw (ControlRequest.ping (Ping.mk 1 none none)) := by
  have hiff := sizeLaw_iff_not_miscounts Wire.crate_sizes
  refine ⟨(hiff _ _).2 ?_, fun hlaw => (hiff _ _).1 hlaw ⟨⟨3, 1200⟩, rfl⟩, (hiff _ _).2 ?_,
    fun hlaw => (hiff _ _).1 hlaw (.inl rfl), (hiff _ _).2 id⟩
  · rintro ⟨_, ⟨⟩⟩
  · rintro (⟨⟨⟩⟩ | ⟨⟨⟩⟩)

/-- The encoder of a test message writes eight bytes into an empty buffer and returns four. -/
theorem mtuTestPacket_miscount :
    (MtuTestPacket.encoding Wire.crate).writeTo ⟨3, 1200⟩ Sink.vec =
      .ok (4, ⟨[0, 0, 0, 3, 0, 0, 4, 0xb0], none⟩) ∧
    ¬(mtuTestPacket.encoding Wire.crate).SizeLaw ⟨3, 1200⟩ := by
  have hw : (MtuTestPacket.encoding Wire.crate).writeTo ⟨3, 1200⟩ Sink.vec =
      .ok (4, ⟨[0, 0, 0, 3, 0, 0, 4, 0xb0], none⟩) := rfl
  refine ⟨hw, fun hlaw => ?_⟩
  obtain ⟨bs, hbs, hsized⟩ := hlaw _ _ _ hw
  obtain rfl : [0, 0, 0, 3, 0, 0, 4, 0xb0] = bs := by simpa [Sink.vec, Sink.push] using hbs
  exact absurd hsized.count (by decide)

end ControlType

end PlayitAgent
