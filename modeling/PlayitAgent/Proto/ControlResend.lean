import PlayitAgent.Proto.ControlRoundTrip

/-!
# Sending a request again

The decoder of requests accepts more than the encoder writes. A registration in the first version
may carry an account id with the version bit, a marked version may be zero or one, and a report of a
received message may announce any size. Which accepted byte strings lead to a request that can be
sent again, and whose signature can be checked, is `ControlRequest.Resendable`.
-/

namespace PlayitAgent

/-! ## What the encoder accepts -/

/-- The encoder accepts the registration. -/
def AgentRegister.Encodable (m : AgentRegister) : Prop :=
  includesVersion (if m.proto_version ≤ 1 then m.account_id else m.proto_version) = false

/-- The encoder accepts the request. -/
def ControlRequest.Encodable : ControlRequest → Prop
  | .agentRegister m => m.Encodable
  | .checkMtuReceived m => m.message_size.toNat ≤ 2048
  | _ => True

/-- The request can be sent, and what is sent reads back as the request. -/
def ControlRequest.SendsAgain (e : MessageEncodingCrate) (m : ControlRequest) : Prop :=
  ∃ n bs, Emits ((ControlRequest.encoding e).writeTo m) n bs ∧
    Decodes (ControlRequest.encoding e).readFrom m bs

/-- The pattern is written up to its length. -/
theorem succeeds_writeMtuPattern {len : ℕ} (hlen : len ≤ 2048) :
    Succeeds (writeMtuPattern len) := by
  unfold writeMtuPattern
  simp only [hlen, not_true, if_false]
  exact (Succeeds.writeAll _).bind fun _ => Succeeds.pure len

/-- Beyond its length, the pattern is not written: the assertion panics. -/
theorem fails_writeMtuPattern {len : ℕ} (hlen : ¬len ≤ 2048) : Fails (writeMtuPattern len) := by
  unfold writeMtuPattern
  simp only [hlen, not_false_eq_true, if_true]
  exact Fails.throw

section
variable {e : MessageEncodingCrate} (h : Lawful.Total e)
include h

/-- Sessions can be sent. -/
theorem AgentSessionId.sendable (m : AgentSessionId) : (AgentSessionId.encoding e).Sendable m := by
  refine (h.u64.sendable m.session_id).bind fun _ => ?_
  refine (h.u64.sendable m.account_id).bind fun _ => ?_
  refine (h.u64.sendable m.agent_id).bind fun _ => ?_
  exact Succeeds.pure _

/-- Port ranges can be sent. -/
theorem PortRange.sendable (m : PortRange) : (PortRange.encoding e).Sendable m := by
  refine (h.ipAddr_sendable m.ip).bind fun _ => ?_
  refine (succeeds_writeBE m.port_start).bind fun _ => ?_
  refine (succeeds_writeBE m.port_end).bind fun _ => ?_
  refine Succeeds.bind ?_ fun _ => Succeeds.pure _
  cases m.port_proto with
  | both => exact (succeeds_writeBE (3 : UInt8)).bind fun _ => Succeeds.pure 1
  | tcp => exact (succeeds_writeBE (1 : UInt8)).bind fun _ => Succeeds.pure 1
  | udp => exact (succeeds_writeBE (2 : UInt8)).bind fun _ => Succeeds.pure 1

/-- Pings can be sent. -/
theorem Ping.sendable (m : Ping) : (Ping.encoding e).Sendable m := by
  refine (h.u64.sendable m.now).bind fun _ => ?_
  refine (h.option_sendable e.u32 m.current_ping fun a _ => h.u32.sendable a).bind fun _ => ?_
  refine (h.option_sendable _ m.session_id fun a _ => AgentSessionId.sendable h a).bind fun _ => ?_
  exact Succeeds.pure _

/-- The head of a registration that the encoder accepts is written. -/
theorem AgentRegister.succeeds_writeHead {m : AgentRegister} (hm : m.Encodable) :
    Succeeds (writeHead e m) := by
  unfold writeHead
  unfold Encodable at hm
  by_cases hv : m.proto_version ≤ 1
  · simp only [hv, if_true] at hm ⊢
    simp only [hm, Bool.false_eq_true, if_false]
    exact h.u64.sendable m.account_id
  · simp only [hv, if_false] at hm ⊢
    simp only [hm, Bool.false_eq_true, if_false]
    refine (h.u64.sendable _).bind fun _ => ?_
    exact (h.u64.sendable m.account_id).bind fun _ => Succeeds.pure _

omit h in
/-- The encoder fails at the head of any other registration. -/
theorem AgentRegister.fails_writeHead {m : AgentRegister} (hm : ¬m.Encodable) :
    Fails (writeHead e m) := by
  unfold writeHead
  unfold Encodable at hm
  by_cases hv : m.proto_version ≤ 1
  · simp only [hv, if_true, Bool.not_eq_false] at hm ⊢
    simp only [hm, if_true]
    exact Fails.throw
  · simp only [hv, if_false, Bool.not_eq_false] at hm ⊢
    simp only [hm, if_true]
    exact Fails.throw

/-- What is sent of a registration ends in its signature. -/
theorem AgentRegister.emits {m : AgentRegister} (hm : m.Encodable) :
    ∃ n bs, Emits ((AgentRegister.encoding e).writeTo m) n (bs ++ m.signature.bytes) := by
  obtain ⟨n₁, b₁, h₁⟩ := succeeds_writeHead h hm
  obtain ⟨n₅, b₅, h₅⟩ := h.socketAddr_sendable m.client_addr
  obtain ⟨n₆, b₆, h₆⟩ := h.socketAddr_sendable m.tunnel_addr
  have hbody := h₁.bind (f := fun n => do
      let n₂ ← e.u64.writeTo m.agent_id
      let n₃ ← e.u64.writeTo m.agent_version
      let n₄ ← e.u64.writeTo m.timestamp
      let n₅ ← e.socketAddr.writeTo m.client_addr
      let n₆ ← e.socketAddr.writeTo m.tunnel_addr
      writeAll m.signature.bytes
      return 0 + n + n₂ + n₃ + n₄ + n₅ + n₆ + m.signature.bytes.length)
    ((h.u64.emits m.agent_id).bind ((h.u64.emits m.agent_version).bind
      ((h.u64.emits m.timestamp).bind (h₅.bind (h₆.bind
        ((Emits.writeAll m.signature.bytes).bind (Emits.pure _)))))))
  simp only [List.append_nil, ← List.append_assoc] at hbody
  exact ⟨_, _, hbody⟩

/-- A request that the encoder accepts can be sent. -/
theorem ControlRequest.sendable {m : ControlRequest} (hm : m.Encodable) :
    (ControlRequest.encoding e).Sendable m := by
  have hid (id : ControlRequestId) : Succeeds ((ControlRequestId.encoding e).writeTo id) :=
    h.u32.sendable id.toU32
  have hsession (data : AgentSessionId) := AgentSessionId.sendable h data
  unfold MessageEncoding.Sendable encoding ControlRequest.writeTo
  cases m with
  | ping data =>
    exact (hid _).bind fun _ => Succeeds.bind (Ping.sendable h data) fun _ => Succeeds.pure _
  | agentRegister data =>
    obtain ⟨n, bs, hs⟩ := AgentRegister.emits h hm
    have hdata : Succeeds ((AgentRegister.encoding e).writeTo data) := ⟨n, _, hs⟩
    by_cases hv : data.proto_version ≤ 1
    · simp only [hv, if_true]
      exact (hid _).bind fun _ => hdata.bind fun _ => Succeeds.pure _
    · simp only [hv, if_false]
      exact (hid _).bind fun _ => hdata.bind fun _ => Succeeds.pure _
  | agentKeepAlive data =>
    exact (hid _).bind fun _ => Succeeds.bind (hsession data) fun _ => Succeeds.pure _
  | setupUdpChannel data =>
    exact (hid _).bind fun _ => Succeeds.bind (hsession data) fun _ => Succeeds.pure _
  | agentCheckPortMapping data =>
    refine (hid _).bind fun _ => Succeeds.bind ?_ fun _ => Succeeds.pure _
    refine Succeeds.bind (hsession data.agent_session_id) fun _ => ?_
    exact Succeeds.bind (PortRange.sendable h data.port_range) fun _ => Succeeds.pure _
  | checkMtuReceived data =>
    refine (hid _).bind fun _ => Succeeds.bind ?_ fun _ => Succeeds.pure _
    refine (h.u64.sendable data.id).bind fun _ => ?_
    refine (h.u32.sendable data.message_size).bind fun _ => ?_
    exact (succeeds_writeMtuPattern hm).bind fun _ => Succeeds.pure _
  | sendMtuTest data =>
    refine (hid _).bind fun _ => Succeeds.bind ?_ fun _ => Succeeds.pure _
    refine (h.u64.sendable data.id).bind fun _ => (h.u32.sendable data.data_center_id).bind
      fun _ => ?_
    exact (h.u32.sendable data.udp_payload_length).bind fun _ => Succeeds.pure _

omit h in
/-- The encoder fails on any other request. -/
theorem ControlRequest.fails {m : ControlRequest} (hm : ¬m.Encodable) :
    Fails ((ControlRequest.encoding e).writeTo m) := by
  unfold encoding ControlRequest.writeTo
  cases m with
  | agentRegister data =>
    have hdata : Fails ((AgentRegister.encoding e).writeTo data) :=
      (AgentRegister.fails_writeHead hm).bind_left
    by_cases hv : data.proto_version ≤ 1
    · simp only [hv, if_true]
      exact Fails.bind_right fun _ => hdata.bind_left
    · simp only [hv, if_false]
      exact Fails.bind_right fun _ => hdata.bind_left
  | checkMtuReceived data =>
    refine Fails.bind_right fun _ => Fails.bind_left ?_
    exact Fails.bind_right fun _ => Fails.bind_right fun _ => (fails_writeMtuPattern hm).bind_left
  | _ => exact absurd trivial hm

/-! ## Sending again -/

/-- A request whose addresses carry nothing that does not travel is sent again when the encoder
accepts it and, for a registration, when it has a version. -/
theorem ControlRequest.sendsAgain_iff {m : ControlRequest}
    (hplain : ∀ r, m = .agentRegister r → r.client_addr.Plain ∧ r.tunnel_addr.Plain) :
    m.SendsAgain e ↔ m.Encodable ∧ m.Regular := by
  constructor
  · rintro ⟨n, bs, hs, hd⟩
    refine ⟨by_contra fun hm => (ControlRequest.fails hm).not_succeeds ⟨n, bs, hs⟩, ?_⟩
    cases m with
    | agentRegister data =>
      obtain ⟨hc, ht⟩ := hplain data rfl
      refine ⟨by_contra fun hv => ?_, hc, ht⟩
      -- Without a version it is sent, and read, in the first version.
      have hv1 : data.proto_version ≤ 1 := UInt64.le_of_lt (UInt64.not_le.1 hv)
      have hd' := (ControlRequest.readsBack_agentRegister_v1 h.toRoundTrips hv1 hc ht).decodes hs
      have heq := (hd []).symm.trans (hd' [])
      injection heq with heq
      injection heq with heq
      injection heq with heq
      exact hv (heq ▸ UInt64.le_refl 1)
    | _ => trivial
  · rintro ⟨hm, hreg⟩
    obtain ⟨n, bs, hs⟩ := ControlRequest.sendable h hm
    exact ⟨n, bs, hs, (ControlRequest.roundTrip h.toRoundTrips hreg).decodes hs⟩

/-- The signature of a registration that the encoder accepts can be checked. -/
theorem AgentRegister.verifySignature_eq_ok {m : AgentRegister} (hm : m.Encodable)
    (temp_buffer : List UInt8) (hmac : HmacSha256) :
    ∃ res, m.verifySignature e temp_buffer hmac = .ok res := by
  obtain ⟨n, bs, hs⟩ := AgentRegister.emits h hm
  have hplain : m.writePlain e temp_buffer = .ok bs := by
    have hrun := hs.run_vec
    simp only [Sink.vec] at hrun
    simp [writePlain, hrun]
    rfl
  exact ⟨_, by rw [verifySignature, hplain]; rfl⟩

/-! ## What the decoder accepts -/

omit h in
/-- A request id is read as its number. -/
theorem ControlRequestId.toU32_of_fromNum {num : UInt32} {id : ControlRequestId}
    (hid : fromNum num = some id) : num = id.toU32 := by
  unfold fromNum at hid
  split at hid
  · cases hid
  · rename_i hlt
    split at hid <;> cases hid <;> try rfl
    -- The numbers from one to nine are the ids before the last.
    simp only [toU32, not_or, UInt32.not_le] at hlt
    grind

/-- The version and the account id that the head of a registration gives. -/
theorem AgentRegister.readHead_eq_ok {b rest : List UInt8} {v a : UInt64}
    (hr : readHead e b = .ok ((v, a), rest)) :
    if includesVersion (wordAt UInt64 b 0) then
      v = wordAt UInt64 b 0 &&& ~~~encodingIncludesVersionBit ∧ a = wordAt UInt64 b 8
    else v = 1 ∧ a = wordAt UInt64 b 0 := by
  unfold readHead at hr
  rw [h.u64.readFrom] at hr
  obtain ⟨w, b₁, hw, hr⟩ := bind_eq_ok.1 hr
  obtain ⟨rfl, rfl⟩ := readBE_eq_ok hw
  split
  · rename_i hv
    simp only [hv, if_true] at hr
    obtain ⟨w, b₂, hw, hr⟩ := bind_eq_ok.1 hr
    obtain ⟨rfl, rfl⟩ := readBE_eq_ok hw
    cases hr
    exact ⟨rfl, by simp [Word.size]⟩
  · rename_i hv
    simp only [hv] at hr
    cases hr
    exact ⟨rfl, rfl⟩

/-- A registration that was read has the version and the account id of its head, and addresses that
carry nothing that does not travel. -/
theorem AgentRegister.readFrom_eq_ok {b rest : List UInt8} {m : AgentRegister}
    (hr : (AgentRegister.encoding e).readFrom b = .ok (m, rest)) :
    (∃ rest', readHead e b = .ok ((m.proto_version, m.account_id), rest')) ∧
      m.client_addr.Plain ∧ m.tunnel_addr.Plain := by
  obtain ⟨head, b₁, hhead, hr⟩ := bind_eq_ok.1 hr
  obtain ⟨_, b₂, -, hr⟩ := bind_eq_ok.1 hr
  obtain ⟨_, b₃, -, hr⟩ := bind_eq_ok.1 hr
  obtain ⟨_, b₄, -, hr⟩ := bind_eq_ok.1 hr
  obtain ⟨_, b₅, hc, hr⟩ := bind_eq_ok.1 hr
  obtain ⟨_, b₆, ht, hr⟩ := bind_eq_ok.1 hr
  obtain ⟨_, b₇, -, hr⟩ := bind_eq_ok.1 hr
  cases hr
  exact ⟨⟨b₁, hhead⟩, h.socketAddr_plain _ _ _ hc, h.socketAddr_plain _ _ _ ht⟩

/-- A registration in the first version that was read starts with its account id, and its addresses
carry nothing that does not travel. -/
theorem AgentRegisterV1.readFrom_eq_ok {b rest : List UInt8} {m : AgentRegisterV1}
    (hr : (AgentRegisterV1.encoding e).readFrom b = .ok (m, rest)) :
    m.account_id = wordAt UInt64 b 0 ∧ m.client_addr.Plain ∧ m.tunnel_addr.Plain := by
  obtain ⟨_, b₁, hid, hr⟩ := bind_eq_ok.1 hr
  obtain ⟨_, b₂, -, hr⟩ := bind_eq_ok.1 hr
  obtain ⟨_, b₃, -, hr⟩ := bind_eq_ok.1 hr
  obtain ⟨_, b₄, -, hr⟩ := bind_eq_ok.1 hr
  obtain ⟨_, b₅, hc, hr⟩ := bind_eq_ok.1 hr
  obtain ⟨_, b₆, ht, hr⟩ := bind_eq_ok.1 hr
  obtain ⟨bytes, b₇, -, hr⟩ := bind_eq_ok.1 hr
  split at hr
  · cases hr
  · cases hr
    exact ⟨(readBE_eq_ok hid).1, h.socketAddr_plain _ _ _ hc, h.socketAddr_plain _ _ _ ht⟩

/-- What a request that was read has of its bytes, as far as the encoder looks at it again. -/
theorem ControlRequest.readFrom_eq_ok {b rest : List UInt8} {m : ControlRequest}
    (hr : (ControlRequest.encoding e).readFrom b = .ok (m, rest)) :
    (wordAt UInt32 b 0 = 2 ∧ ∃ r, m = .agentRegister r ∧
      (r.proto_version = 1 ∧ r.account_id = wordAt UInt64 b 4) ∧
      r.client_addr.Plain ∧ r.tunnel_addr.Plain) ∨
    (wordAt UInt32 b 0 = 7 ∧ ∃ r, m = .agentRegister r ∧
      (if includesVersion (wordAt UInt64 b 4) then
        r.proto_version = wordAt UInt64 b 4 &&& ~~~encodingIncludesVersionBit ∧
          r.account_id = wordAt UInt64 b 12
      else r.proto_version = 1 ∧ r.account_id = wordAt UInt64 b 4) ∧
      r.client_addr.Plain ∧ r.tunnel_addr.Plain) ∨
    (wordAt UInt32 b 0 = 8 ∧ ∃ c, m = .checkMtuReceived c ∧
      c.message_size = wordAt UInt32 b 12) ∨
    (wordAt UInt32 b 0 ≠ 2 ∧ wordAt UInt32 b 0 ≠ 7 ∧ wordAt UInt32 b 0 ≠ 8 ∧
      m.Encodable ∧ m.Regular ∧ ∀ r, m ≠ .agentRegister r) := by
  obtain ⟨id, b₁, hid, hr⟩ := bind_eq_ok.1 hr
  obtain ⟨num, b₂, hnum, hid⟩ := bind_eq_ok.1 hid
  rw [h.u32.readFrom] at hnum
  obtain ⟨rfl, rfl⟩ := readBE_eq_ok hnum
  cases hfrom : ControlRequestId.fromNum (wordAt UInt32 b 0) with
  | none =>
    simp only [hfrom] at hid
    cases hid
  | some id' =>
    simp only [hfrom] at hid
    cases hid
    rw [ControlRequestId.toU32_of_fromNum hfrom]
    cases id with
    | agentRegisterV1 =>
      obtain ⟨v1, b₃, hv1, hr⟩ := bind_eq_ok.1 hr
      cases hr
      obtain ⟨hacc, hplain⟩ := AgentRegisterV1.readFrom_eq_ok h hv1
      refine .inl ⟨rfl, _, rfl, ⟨rfl, ?_⟩, hplain⟩
      simpa [Word.size, AgentRegisterV1.upgrade] using hacc
    | agentRegisterV2 =>
      obtain ⟨r, b₃, hr', hr⟩ := bind_eq_ok.1 hr
      cases hr
      obtain ⟨⟨rest', hhead⟩, hplain⟩ := AgentRegister.readFrom_eq_ok h hr'
      refine .inr (.inl ⟨rfl, _, rfl, ?_, hplain⟩)
      simpa [Word.size] using AgentRegister.readHead_eq_ok h hhead
    | checkMtuReceivedV1 =>
      obtain ⟨c, b₃, hc, hr⟩ := bind_eq_ok.1 hr
      cases hr
      obtain ⟨id, b₄, hid, hc⟩ := bind_eq_ok.1 hc
      obtain ⟨size, b₅, hsize, hc⟩ := bind_eq_ok.1 hc
      obtain ⟨_, b₆, -, hc⟩ := bind_eq_ok.1 hc
      cases hc
      rw [h.u64.readFrom] at hid
      rw [h.u32.readFrom] at hsize
      obtain ⟨-, rfl⟩ := readBE_eq_ok hid
      obtain ⟨rfl, -⟩ := readBE_eq_ok hsize
      refine .inr (.inr (.inl ⟨rfl, _, rfl, ?_⟩))
      simp [Word.size]
    | endId => cases hr
    | _ =>
      -- The remaining ids lead to requests that the encoder accepts as they are.
      obtain ⟨data, b₃, -, hr⟩ := bind_eq_ok.1 hr
      cases hr
      exact .inr (.inr (.inr ⟨by decide, by decide, by decide, trivial, trivial, by simp⟩))

end

/-- The bytes of a request that can be sent again: a registration in the first version has an
account id without the version bit, a version that is marked is not zero, and is not one when the
account id has that bit, and a report of a received message is within the length of the pattern. -/
def ControlRequest.Resendable (b : List UInt8) : Prop :=
  (wordAt UInt32 b 0 = 2 → includesVersion (wordAt UInt64 b 4) = false) ∧
  (wordAt UInt32 b 0 = 7 → includesVersion (wordAt UInt64 b 4) = true →
    wordAt UInt64 b 4 &&& ~~~encodingIncludesVersionBit ≠ 0 ∧
    (wordAt UInt64 b 4 &&& ~~~encodingIncludesVersionBit = 1 →
      includesVersion (wordAt UInt64 b 12) = false)) ∧
  (wordAt UInt32 b 0 = 8 → (wordAt UInt32 b 12).toNat ≤ 2048)

/-- A registration is accepted by the encoder and has a version when its version is not zero and,
if that is one, its account id is without the version bit. The version itself is without it. -/
theorem AgentRegister.encodable_and_versioned_iff {m : AgentRegister}
    (hm : includesVersion m.proto_version = false) :
    m.Encodable ∧ 1 ≤ m.proto_version ↔
      m.proto_version ≠ 0 ∧ (m.proto_version = 1 → includesVersion m.account_id = false) := by
  have hpos : 1 ≤ m.proto_version ↔ m.proto_version ≠ 0 := by
    rw [UInt64.le_iff_toNat_le, ne_eq, ← UInt64.toNat_inj]
    simp only [UInt64.toNat_one, UInt64.toNat_zero]
    omega
  rw [and_comm, hpos, Encodable]
  refine and_congr_right fun hne => ?_
  by_cases hv : m.proto_version ≤ 1
  · have hone : m.proto_version = 1 := UInt64.le_antisymm hv (hpos.2 hne)
    simp [hone]
  · have hone : m.proto_version ≠ 1 := fun heq => hv (heq ▸ UInt64.le_refl 1)
    simp [hv, hone, hm]

/-- A request that was read from `b` can be sent again, and its signature checked with any key, if
and only if `b` is `Resendable`. -/
theorem ControlRequest.resendable_iff {e : MessageEncodingCrate} (h : Lawful.Total e)
    {b rest : List UInt8} {m : ControlRequest}
    (hr : (ControlRequest.encoding e).readFrom b = .ok (m, rest)) :
    (m.SendsAgain e ∧ ∀ r, m = .agentRegister r → ∀ temp_buffer hmac,
      ∃ res, r.verifySignature e temp_buffer hmac = .ok res) ↔ ControlRequest.Resendable b := by
  have hcases := ControlRequest.readFrom_eq_ok h hr
  have hplain : ∀ r, m = .agentRegister r → r.client_addr.Plain ∧ r.tunnel_addr.Plain := by
    rintro r rfl
    rcases hcases with ⟨-, r', ⟨⟩, -, hp⟩ | ⟨-, r', ⟨⟩, -, hp⟩ | ⟨-, c, ⟨⟩, -⟩ |
      ⟨-, -, -, -, -, hne⟩
    · exact hp
    · exact hp
    · exact absurd rfl (hne r)
  have hsends := ControlRequest.sendsAgain_iff h hplain
  -- What is sent again has been encoded, which is all that the check of the signature needs.
  have hverify : m.SendsAgain e → ∀ r, m = .agentRegister r → ∀ temp_buffer hmac,
      ∃ res, r.verifySignature e temp_buffer hmac = .ok res := by
    rintro hs r rfl temp_buffer hmac
    exact AgentRegister.verifySignature_eq_ok h (hsends.1 hs).1 temp_buffer hmac
  rw [and_iff_left_of_imp hverify, hsends]
  rcases hcases with ⟨hid, r, rfl, ⟨hv, hacc⟩, hp⟩ | ⟨hid, r, rfl, hhead, hp⟩ |
    ⟨hid, c, rfl, hsize⟩ | ⟨h2, h7, h8, henc, hreg, -⟩
  · have hiff := AgentRegister.encodable_and_versioned_iff (m := r) (by rw [hv]; decide)
    simp only [Encodable, Regular, hp, and_true, Resendable, hid]
    rw [hiff, hv, hacc]
    simp
  · simp only [Encodable, Regular, hp, and_true, Resendable, hid]
    cases hw : includesVersion (wordAt UInt64 b 4) with
    | true =>
      simp only [hw, if_true] at hhead
      have hiff := AgentRegister.encodable_and_versioned_iff (m := r)
        (by rw [hhead.1]; exact includesVersion_and_not _)
      rw [hiff, hhead.1, hhead.2]
      simp
    | false =>
      simp only [hw, Bool.false_eq_true, if_false] at hhead
      have hiff := AgentRegister.encodable_and_versioned_iff (m := r) (by rw [hhead.1]; decide)
      rw [hiff, hhead.1, hhead.2]
      simp [hw]
  · simp [Encodable, Regular, Resendable, hid, hsize]
  · simp [henc, hreg, Resendable, h2, h7, h8]

/-- The bytes of the sample registration in the first version, with an account id of its own. -/
def AgentRegister.sampleBytes (account_id : UInt64) : List UInt8 :=
  be (2 : UInt32) ++ be account_id ++ be (2 : UInt64) ++ be (3 : UInt64) ++ be (1000 : UInt64) ++
    [4, 0x0a, 0x14, 0x1e, 0x28] ++ be (5678 : UInt16) ++ [4, 0x09, 0x14, 0x03, 0x28] ++
    be (9912 : UInt16) ++ List.replicate 32 0

set_option maxRecDepth 10000 in
/-- The sample registration can be sent again. -/
theorem ControlRequest.resendable_sample :
    ControlRequest.SendsAgain Wire.crate (.agentRegister AgentRegister.sample) := by
  have hr : (ControlRequest.encoding Wire.crate).readFrom (AgentRegister.sampleBytes 1) =
      .ok (.agentRegister AgentRegister.sample, []) := rfl
  exact ((ControlRequest.resendable_iff Wire.crate_total hr).2
    ⟨by decide, by decide, by decide⟩).1

/-- The sample registration with the version bit as its account id. -/
def AgentRegister.sampleVersionBit : AgentRegister :=
  { AgentRegister.sample with account_id := encodingIncludesVersionBit }

set_option maxRecDepth 10000 in
/-- The sample registration with an account id that has the version bit is read, is not written
again, and its signature cannot be checked: the check panics, whatever the key. -/
theorem ControlRequest.not_resendable_account :
    (ControlRequest.encoding Wire.crate).readFrom
      (AgentRegister.sampleBytes encodingIncludesVersionBit) =
        .ok (.agentRegister AgentRegister.sampleVersionBit, []) ∧
    (ControlRequest.encoding Wire.crate).writeTo
      (.agentRegister AgentRegister.sampleVersionBit) Sink.vec =
        .error (.io ⟨.invalidInput, "account id too large for proto version 1"⟩) ∧
    ¬ControlRequest.SendsAgain Wire.crate (.agentRegister AgentRegister.sampleVersionBit) ∧
    ∀ hmac, AgentRegister.sampleVersionBit.verifySignature Wire.crate [] hmac =
      .error .unwrap := by
  have hw : (ControlRequest.encoding Wire.crate).writeTo
      (.agentRegister AgentRegister.sampleVersionBit) Sink.vec =
        .error (.io ⟨.invalidInput, "account id too large for proto version 1"⟩) := rfl
  refine ⟨rfl, hw, ?_, fun hmac => rfl⟩
  rintro ⟨n, bs, hs, -⟩
  cases hw.symm.trans hs.run_vec

end PlayitAgent
