import PlayitAgent.Proto.ControlResend

/-!
# What the signature of a registration covers

`AgentRegister::update_signature` signs everything that `write_to` writes before the signature.
Neither the signature that stood there nor the contents of the temporary buffer matter to that text,
so the registration verifies afterwards. The text determines the registration: the highest bit of
its first word tells the layouts apart, and in each layout words of a fixed width are followed by
two addresses, whose encoding must say where the first one ends.
-/

namespace PlayitAgent

/-- Every value is written as its code, and among the values with the property `P` no code is the
start of the code of another value. -/
structure MessageEncoding.SelfDelimiting {α : Type} (c : MessageEncoding α) (P : α → Prop)
    (code : α → List UInt8) : Prop where
  /-- A write that succeeds has appended the code. -/
  writes : ∀ a, Writes (c.writeTo a) fun _ bs => bs = code a
  /-- The front of a string tells which code it is. -/
  delimits : ∀ a b, P a → P b → ∀ x y, code a ++ x = code b ++ y → a = b

/-- An encoding that never fails, with one code for every value, is self-delimiting where it
round-trips. -/
theorem MessageEncoding.SelfDelimiting.of_roundTrip {α : Type} {c : MessageEncoding α}
    {P : α → Prop} {code : α → List UInt8}
    (hwrites : ∀ a, Writes (c.writeTo a) fun _ bs => bs = code a) (hsend : ∀ a, c.Sendable a)
    (hround : ∀ a, P a → c.RoundTrip a) : c.SelfDelimiting P code := by
  have hdecodes (a : α) (ha : P a) : Decodes c.readFrom a (code a) := by
    obtain ⟨n, bs, hemits⟩ := hsend a
    obtain ⟨bs', hpush, rfl⟩ := hwrites a _ _ _ hemits.run_vec
    obtain rfl : bs = code a := by simpa [Sink.vec, Sink.push] using hpush
    exact ReadsBack.decodes (hround a ha) hemits
  refine ⟨hwrites, fun a b ha hb x y hxy => ?_⟩
  have hread := hdecodes a ha x
  rw [hxy, hdecodes b hb y] at hread
  injection hread with hread
  injection hread with hba _
  exact hba.symm

namespace AgentRegister

/-! ## The signed text -/

section
variable {e : MessageEncodingCrate}

variable (e) in
/-- `AgentRegister::write_to` up to the signature. -/
def writeBody (m : AgentRegister) : WriteM ℕ := do
  let mut sum := 0
  sum := sum + (← writeHead e m)
  sum := sum + (← e.u64.writeTo m.agent_id)
  sum := sum + (← e.u64.writeTo m.agent_version)
  sum := sum + (← e.u64.writeTo m.timestamp)
  sum := sum + (← e.socketAddr.writeTo m.client_addr)
  sum := sum + (← e.socketAddr.writeTo m.tunnel_addr)
  return sum

/-- A registration is written as its body and its signature. -/
theorem writeTo_eq (m : AgentRegister) :
    (encoding e).writeTo m = do
      let sum ← writeBody e m
      writeAll m.signature.bytes
      return sum + m.signature.bytes.length := by
  simp only [encoding, writeBody, bind_assoc, pure_bind]

/-- The body does not depend on the signature. -/
theorem writeBody_signature (m : AgentRegister) (signature : Signature) :
    writeBody e { m with signature } = writeBody e m := rfl

/-- The head of a registration: its layout, and the words that come first. -/
def headText (m : AgentRegister) : List UInt8 :=
  if m.proto_version ≤ 1 then be m.account_id
  else be (m.proto_version ||| encodingIncludesVersionBit) ++ be m.account_id

/-- The text that is signed, given the codes of the addresses. -/
def signedText (code : SocketAddr → List UInt8) (m : AgentRegister) : List UInt8 :=
  m.headText ++ (be m.agent_id ++ (be m.agent_version ++ (be m.timestamp ++
    (code m.client_addr ++ code m.tunnel_addr))))

variable (h : Lawful.Integers e)
include h

/-- The head of a registration that was written. -/
theorem writes_writeHead (m : AgentRegister) :
    Writes (writeHead e m) fun _ bs => bs = m.headText ∧ m.Encodable := by
  unfold writeHead headText Encodable
  by_cases hv : m.proto_version ≤ 1
  · simp only [hv, if_true]
    cases hw : includesVersion m.account_id with
    | true => exact Writes.throw
    | false => exact (h.u64.writes m.account_id).mono fun _ bs hbs => ⟨hbs.2, rfl⟩
  · simp only [hv, if_false]
    cases hw : includesVersion m.proto_version with
    | true => exact Writes.throw
    | false =>
      refine (h.u64.writes _).bind fun _ bs hbs => ?_
      refine (h.u64.writes m.account_id).bind fun _ cs hcs => Writes.pure ⟨?_, rfl⟩
      rw [hbs.2, hcs.2, List.append_nil]

variable {P : SocketAddr → Prop} {code : SocketAddr → List UInt8}
  (hcode : e.socketAddr.SelfDelimiting P code)
include hcode

/-- The body of a registration that was written is its signed text. -/
theorem writes_writeBody (m : AgentRegister) :
    Writes (writeBody e m) fun _ bs => bs = m.signedText code ∧ m.Encodable := by
  unfold writeBody
  refine (writes_writeHead h m).bind fun _ b₁ h₁ => ?_
  refine (h.u64.writes m.agent_id).bind fun _ b₂ h₂ => ?_
  refine (h.u64.writes m.agent_version).bind fun _ b₃ h₃ => ?_
  refine (h.u64.writes m.timestamp).bind fun _ b₄ h₄ => ?_
  refine (hcode.writes m.client_addr).bind fun _ b₅ h₅ => ?_
  refine (hcode.writes m.tunnel_addr).bind fun _ b₆ h₆ => Writes.pure ⟨?_, h₁.2⟩
  rw [signedText, h₁.1, h₂.2, h₃.2, h₄.2, h₅, h₆, List.append_nil]

/-- A registration that can be written, under any signature, is signed over its text. -/
theorem writePlain_of_writeTo {m : AgentRegister} {n : ℕ} {out : Sink}
    (hm : (encoding e).writeTo m Sink.vec = .ok (n, out)) (signature : Signature)
    (temp_buffer : List UInt8) :
    writePlain e { m with signature } temp_buffer = .ok (m.signedText code) := by
  rw [writeTo_eq] at hm
  obtain ⟨sum, body, hbody, -⟩ := bind_eq_ok.1 hm
  obtain ⟨bs, rfl, rfl, -⟩ := writes_writeBody h hcode m _ _ _ hbody
  -- The same body, followed by the other signature.
  have hrun : (encoding e).writeTo { m with signature } Sink.vec =
      .ok (sum + signature.bytes.length, ⟨m.signedText code ++ signature.bytes, none⟩) := by
    rw [writeTo_eq, writeBody_signature]
    refine bind_eq_ok.2 ⟨sum, Sink.vec.push (m.signedText code), hbody, ?_⟩
    rfl
  unfold writePlain
  rw [show (⟨temp_buffer.take 0, none⟩ : Sink) = Sink.vec from rfl, hrun]
  simp
  rfl

/-- What `write_plain` leaves in the buffer is the signed text. -/
theorem writePlain_eq_ok {m : AgentRegister} {temp_buffer text : List UInt8}
    (hm : m.writePlain e temp_buffer = .ok text) : text = m.signedText code ∧ m.Encodable := by
  have hplain := hm
  unfold writePlain at hm
  rw [show (⟨temp_buffer.take 0, none⟩ : Sink) = Sink.vec from rfl] at hm
  split at hm
  · cases hm
  · cases hm
  · rename_i n out hrun
    have htext := writePlain_of_writeTo h hcode hrun m.signature temp_buffer
    rw [hplain] at htext
    rw [writeTo_eq] at hrun
    obtain ⟨sum, body, hbody, -⟩ := bind_eq_ok.1 hrun
    obtain ⟨bs, -, -, hencodable⟩ := writes_writeBody h hcode m _ _ _ hbody
    injection htext with htext
    exact ⟨htext, hencodable⟩

omit h hcode in
/-- The front of a word and anything else tells the word and the rest. -/
theorem be_append_inj {α : Type} [Word α] {a b : α} {x y : List UInt8}
    (hxy : be a ++ x = be b ++ y) : a = b ∧ x = y := by
  obtain ⟨hab, hrest⟩ := List.append_inj hxy (by rw [length_be, length_be])
  exact ⟨be_injective hab, hrest⟩

omit h hcode in
/-- The version that a head of the later layout starts with. -/
theorem proto_version_of_or {v w : UInt64} (hv : includesVersion v = false)
    (hw : includesVersion w = false)
    (heq : v ||| encodingIncludesVersionBit = w ||| encodingIncludesVersionBit) : v = w := by
  rw [← or_and_not_encodingIncludesVersionBit hv, heq, or_and_not_encodingIncludesVersionBit hw]

omit h hcode in
/-- A head and anything else tells the version, the account, and the rest. -/
theorem headText_append_inj {m m' : AgentRegister} (hm : m.Encodable) (hm' : m'.Encodable)
    (hv : 1 ≤ m.proto_version) (hv' : 1 ≤ m'.proto_version) {x y : List UInt8}
    (hxy : m.headText ++ x = m'.headText ++ y) :
    m.proto_version = m'.proto_version ∧ m.account_id = m'.account_id ∧ x = y := by
  unfold headText at hxy
  unfold Encodable at hm hm'
  by_cases h₁ : m.proto_version ≤ 1
  · by_cases h₂ : m'.proto_version ≤ 1
    · simp only [h₁, h₂, if_true] at hxy
      obtain ⟨haccount, hrest⟩ := be_append_inj hxy
      exact ⟨(UInt64.le_antisymm h₁ hv).trans (UInt64.le_antisymm h₂ hv').symm, haccount, hrest⟩
    · -- A word without the version bit against one with it.
      simp only [h₁, h₂, if_true, if_false, List.append_assoc] at hxy hm
      obtain ⟨haccount, -⟩ := be_append_inj hxy
      rw [haccount, includesVersion_or] at hm
      cases hm
  · by_cases h₂ : m'.proto_version ≤ 1
    · simp only [h₁, h₂, if_true, if_false, List.append_assoc] at hxy hm'
      obtain ⟨haccount, -⟩ := be_append_inj hxy
      rw [← haccount, includesVersion_or] at hm'
      cases hm'
    · simp only [h₁, h₂, if_false, List.append_assoc] at hxy hm hm'
      obtain ⟨hversion, hxy⟩ := be_append_inj hxy
      obtain ⟨haccount, hrest⟩ := be_append_inj hxy
      exact ⟨proto_version_of_or hm hm' hversion, haccount, hrest⟩

omit h in
/-- The signed text determines everything but the signature. -/
theorem signedText_inj {m m' : AgentRegister} (hm : m.Encodable) (hm' : m'.Encodable)
    (hv : 1 ≤ m.proto_version) (hv' : 1 ≤ m'.proto_version)
    (hP : P m.client_addr ∧ P m.tunnel_addr) (hP' : P m'.client_addr ∧ P m'.tunnel_addr)
    (htext : m.signedText code = m'.signedText code) :
    m' = { m with signature := m'.signature } := by
  unfold signedText at htext
  obtain ⟨h₁, h₂, htext⟩ := headText_append_inj hm hm' hv hv' htext
  obtain ⟨h₃, htext⟩ := be_append_inj htext
  obtain ⟨h₄, htext⟩ := be_append_inj htext
  obtain ⟨h₅, htext⟩ := be_append_inj htext
  have h₆ := hcode.delimits _ _ hP.1 hP'.1 _ _ htext
  rw [h₆] at htext
  have htunnel := List.append_cancel_left htext
  have h₇ := hcode.delimits _ _ hP.2 hP'.2 [] [] (by rw [htunnel])
  rw [h₁, h₂, h₃, h₄, h₅, h₆, h₇]

/-- A registration that can be written verifies once it was signed, whatever is in the temporary
buffers: its text is signed, and what is verified is the signature of that text. Two registrations
of which the same text is signed, in either layout, differ at most in their signatures. -/
theorem signature_binds :
    (∀ hmac : HmacSha256, (∀ data, hmac.verify data (hmac.sign data).bytes = true) →
      ∀ (m : AgentRegister) (n : ℕ) (out : Sink),
        (encoding e).writeTo m Sink.vec = .ok (n, out) →
          ∀ temp_buffer, ∃ m' temp_buffer', m.updateSignature e temp_buffer hmac =
              .ok (m', temp_buffer') ∧
            ∀ other_buffer, ∃ other_buffer', m'.verifySignature e other_buffer hmac =
              .ok (true, other_buffer')) ∧
    (∀ (hmac : HmacSha256) (m : AgentRegister) (n : ℕ) (out : Sink),
      (encoding e).writeTo m Sink.vec = .ok (n, out) → ∃ text, ∀ temp_buffer,
        m.writePlain e temp_buffer = .ok text ∧
        m.updateSignature e temp_buffer hmac = .ok ({ m with signature := hmac.sign text }, text) ∧
        m.verifySignature e temp_buffer hmac =
          .ok (hmac.verify text m.signature.bytes, text)) ∧
    ∀ (m m' : AgentRegister) (temp_buffer temp_buffer' text : List UInt8),
      1 ≤ m.proto_version → 1 ≤ m'.proto_version →
      P m.client_addr ∧ P m.tunnel_addr → P m'.client_addr ∧ P m'.tunnel_addr →
      m.writePlain e temp_buffer = .ok text → m'.writePlain e temp_buffer' = .ok text →
        m' = { m with signature := m'.signature } := by
  refine ⟨?_, ?_, ?_⟩
  · intro hmac hverify m n out hm temp_buffer
    have hplain (signature : Signature) (buffer : List UInt8) :=
      writePlain_of_writeTo h hcode hm signature buffer
    refine ⟨{ m with signature := hmac.sign (m.signedText code) }, m.signedText code, ?_, ?_⟩
    · rw [updateSignature, hplain m.signature temp_buffer]
      rfl
    · intro other_buffer
      refine ⟨m.signedText code, ?_⟩
      rw [verifySignature, hplain _ other_buffer, ok_bind, hverify]
      rfl
  · intro hmac m n out hm
    refine ⟨m.signedText code, fun temp_buffer => ?_⟩
    have hplain := writePlain_of_writeTo h hcode hm m.signature temp_buffer
    refine ⟨hplain, ?_, ?_⟩
    · rw [updateSignature, hplain]
      rfl
    · rw [verifySignature, hplain]
      rfl
  · intro m m' temp_buffer temp_buffer' text hv hv' hP hP' hplain hplain'
    obtain ⟨htext, hm⟩ := writePlain_eq_ok h hcode hplain
    obtain ⟨htext', hm'⟩ := writePlain_eq_ok h hcode hplain'
    exact signedText_inj hcode hm hm' hv hv' hP hP' (htext.symm.trans htext')

end

/-! ## An instance -/

/-- The bytes of an address in the instance: the family, the address, and the port. -/
def wireCode : SocketAddr → List UInt8
  | .v4 addr => be (4 : UInt8) ++ (be addr.ip ++ be addr.port)
  | .v6 addr => be (6 : UInt8) ++ (be addr.ip ++ be addr.port)

/-- The addresses of the instance are self-delimiting, where they carry neither flow information nor
a scope. -/
theorem wire_selfDelimiting :
    Wire.crate.socketAddr.SelfDelimiting SocketAddr.Plain wireCode := by
  refine .of_roundTrip ?_ Wire.crate_total.socketAddr_sendable Wire.crate_roundTrips.socketAddr
  intro a
  cases a with
  | v4 addr =>
    refine (writes_writeBE (4 : UInt8)).bind fun _ _ h₁ => ?_
    refine (writes_writeBE addr.ip).bind fun _ _ h₂ => ?_
    refine (writes_writeBE addr.port).bind fun _ _ h₃ => Writes.pure ?_
    rw [h₁, h₂, h₃, List.append_nil, wireCode]
  | v6 addr =>
    refine (writes_writeBE (6 : UInt8)).bind fun _ _ h₁ => ?_
    refine (writes_writeBE addr.ip).bind fun _ _ h₂ => ?_
    refine (writes_writeBE addr.port).bind fun _ _ h₃ => Writes.pure ?_
    rw [h₁, h₂, h₃, List.append_nil, wireCode]

/-- A key that signs with the front of the data. -/
def frontHmac : HmacSha256 where
  sign := Signature.ofBytes
  verify data sig := sig == (Signature.ofBytes data).bytes

/-- A registration in the second layout. -/
def sampleRegister : AgentRegister where
  proto_version := 2
  account_id := 7
  agent_id := 8
  agent_version := 9
  timestamp := 1000
  client_addr := .v4 ⟨0x0a141e28, 5000⟩
  tunnel_addr := .v4 ⟨0x09140328, 5525⟩
  signature := Signature.ofBytes []

/-- The registration verifies after it was signed; and none of the first layout, with the same
addresses, has the same signed text. -/
theorem signature_binds_sample :
    (∃ m' temp_buffer', sampleRegister.updateSignature Wire.crate [1, 2, 3] frontHmac =
        .ok (m', temp_buffer') ∧
      ∀ other_buffer, ∃ other_buffer', m'.verifySignature Wire.crate other_buffer frontHmac =
        .ok (true, other_buffer')) ∧
    ∀ text, sampleRegister.writePlain Wire.crate [] = .ok text →
      writePlain Wire.crate { sampleRegister with proto_version := 1 } [] ≠ .ok text := by
  have hbinds := signature_binds Wire.crate_integers wire_selfDelimiting
  constructor
  · have hm : sampleRegister.Encodable := by
      unfold Encodable
      decide
    obtain ⟨n, bs, hemits⟩ := AgentRegister.emits Wire.crate_total hm
    exact hbinds.1 frontHmac (fun data => by simp [frontHmac]) _ _ _ hemits.run_vec _
  · intro text hplain hplain'
    have heq := hbinds.2.2 sampleRegister { sampleRegister with proto_version := 1 } [] [] text
      (by decide) (by decide) ⟨trivial, trivial⟩ ⟨trivial, trivial⟩ hplain hplain'
    exact absurd (congrArg AgentRegister.proto_version heq) (by decide)

end AgentRegister

end PlayitAgent
