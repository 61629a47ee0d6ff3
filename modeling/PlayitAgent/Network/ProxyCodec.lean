import PlayitAgent.Network.ProxyProtocol

/-!
# What `parse_v2_udp` accepts

The writers of the second version put the signature, one byte for the family and the transport, and
a block with the length and the two ends. `parse_v2_udp` reads the block whole before it looks into
it, so that its `unwrap`s are over a slab of a known length. It is the inverse of `write_v2_udp`:
the bytes that it accepts as a header are the bytes of that header, and it leaves what follows.
-/

namespace PlayitAgent

namespace ProxyProtocolHeader

/-! ## What is written -/

/-- The byte for the family of the addresses and a stream. -/
def streamByte : ProxyProtocolHeader → UInt8
  | afInet .. => 0x11
  | afInet6 .. => 0x21

/-- The byte for the family of the addresses and datagrams. -/
def datagramByte : ProxyProtocolHeader → UInt8
  | afInet .. => 0x12
  | afInet6 .. => 0x22

/-- The block behind that byte: the length of the rest, and the two ends. -/
def block : ProxyProtocolHeader → List UInt8
  | afInet client_ip proxy_ip client_port proxy_port =>
    be (12 : UInt16) ++ (be client_ip ++ (be proxy_ip ++ (be client_port ++ be proxy_port)))
  | afInet6 client_ip proxy_ip client_port proxy_port =>
    be (36 : UInt16) ++ (be client_ip ++ (be proxy_ip ++ (be client_port ++ be proxy_port)))

/-- How long the header is on the wire. -/
def wireLength : ProxyProtocolHeader → ℕ
  | afInet .. => 28
  | afInet6 .. => 52

/-- The bytes of a header, given the byte for the family and the transport. -/
def wireBytes (header : ProxyProtocolHeader) (transport : UInt8) : List UInt8 :=
  proxyProtocolV2Header ++ ([transport] ++ header.block)

/-- The signature, the version, and the command take 13 bytes. -/
theorem length_proxyProtocolV2Header : proxyProtocolV2Header.length = 13 := rfl

/-- The block fills the rest of the wire length. -/
theorem length_block (header : ProxyProtocolHeader) :
    header.block.length + 14 = header.wireLength := by
  cases header with
  | afInet => simp [block, wireLength, Word.size]
  | afInet6 => simp [block, wireLength, Word.size]

/-- The wire length is the same for both transports. -/
theorem length_wireBytes (header : ProxyProtocolHeader) (transport : UInt8) :
    (header.wireBytes transport).length = header.wireLength := by
  have hblock := header.length_block
  simp only [wireBytes, List.length_append, length_proxyProtocolV2Header, List.length_singleton]
  omega

/-- The byte for the transport stands at index 13. -/
theorem getElem?_wireBytes_transport (header : ProxyProtocolHeader) (transport : UInt8) :
    (header.wireBytes transport)[13]? = some transport := by
  rw [wireBytes, List.getElem?_append_right (by rw [length_proxyProtocolV2Header])]
  simp [length_proxyProtocolV2Header]

/-- Every other byte does not depend on the transport. -/
theorem getElem?_wireBytes_of_ne (header : ProxyProtocolHeader) (transport transport' : UInt8)
    {i : ℕ} (hi : i ≠ 13) :
    (header.wireBytes transport)[i]? = (header.wireBytes transport')[i]? := by
  by_cases hlt : i < 13
  · have hsig : i < proxyProtocolV2Header.length := by rw [length_proxyProtocolV2Header]; omega
    rw [wireBytes, wireBytes, List.getElem?_append_left hsig, List.getElem?_append_left hsig]
  · have hsig : proxyProtocolV2Header.length ≤ i := by rw [length_proxyProtocolV2Header]; omega
    rw [wireBytes, wireBytes, List.getElem?_append_right hsig, List.getElem?_append_right hsig]
    -- Behind the signature, only the first byte is that of the transport.
    obtain ⟨k, hk⟩ : ∃ k, i - proxyProtocolV2Header.length = k + 1 :=
      ⟨i - 14, by rw [length_proxyProtocolV2Header]; omega⟩
    rw [hk]
    rfl

/-- A length and two ends are written one after the other. -/
theorem emits_ends {α : Type} [Word α] (len : UInt16) (client_ip proxy_ip : α)
    (client_port proxy_port : UInt16) :
    Emits (do
      writeBE len
      writeBE client_ip
      writeBE proxy_ip
      writeBE client_port
      writeBE proxy_port) ()
      (be len ++ (be client_ip ++ (be proxy_ip ++ (be client_port ++ be proxy_port)))) :=
  (emits_writeBE len).bind ((emits_writeBE client_ip).bind ((emits_writeBE proxy_ip).bind
    ((emits_writeBE client_port).bind (emits_writeBE proxy_port))))

/-- `write_v2_udp` writes the bytes of the header for datagrams. -/
theorem emits_writeV2Udp (header : ProxyProtocolHeader) :
    Emits header.writeV2Udp () (header.wireBytes header.datagramByte) := by
  unfold writeV2Udp wireBytes
  apply (Emits.writeAll proxyProtocolV2Header).bind
  cases header with
  | afInet => exact (Emits.writeAll _).bind (emits_ends _ _ _ _ _)
  | afInet6 => exact (Emits.writeAll _).bind (emits_ends _ _ _ _ _)

/-- `write_v2_tcp` writes the bytes of the header for a stream. -/
theorem emits_writeV2Tcp (header : ProxyProtocolHeader) :
    Emits header.writeV2Tcp () (header.wireBytes header.streamByte) := by
  unfold writeV2Tcp wireBytes
  apply (Emits.writeAll proxyProtocolV2Header).bind
  cases header with
  | afInet => exact (Emits.writeAll _).bind (emits_ends _ _ _ _ _)
  | afInet6 => exact (Emits.writeAll _).bind (emits_ends _ _ _ _ _)

/-! ## What the slabs hold -/

/-- The two ends as the two address families spell them: an address and a port of each end. -/
theorem decodes_ends {α : Type} [Word α] {γ : Type} (f : α → α → UInt16 → UInt16 → γ)
    (client_ip proxy_ip : α) (client_port proxy_port : UInt16) :
    Decodes (do
      let client_ip ← unwrap (readBE α)
      let proxy_ip ← unwrap (readBE α)
      let client_port ← unwrap (readBE UInt16)
      let proxy_port ← unwrap (readBE UInt16)
      return f client_ip proxy_ip client_port proxy_port)
      (f client_ip proxy_ip client_port proxy_port)
      (be client_ip ++ (be proxy_ip ++ (be client_port ++ be proxy_port))) :=
  (decodes_readBE client_ip).unwrap.bind ((decodes_readBE proxy_ip).unwrap.bind
    ((decodes_readBE client_port).unwrap.bind
      ((decodes_readBE proxy_port).unwrap.map (f client_ip proxy_ip client_port))))

/-- Bytes that are long enough are a length and two ends. -/
theorem exists_ends (α : Type) [Word α] {slab : List UInt8}
    (hlen : slab.length = 6 + 2 * Word.size α) :
    ∃ (len : UInt16) (client_ip proxy_ip : α) (client_port proxy_port : UInt16),
      slab = be len ++
        (be client_ip ++ (be proxy_ip ++ (be client_port ++ be proxy_port))) := by
  have hport : Word.size UInt16 = 2 := rfl
  -- Five words, one after the other, use up the slab.
  obtain ⟨len, t1, rfl, h1⟩ := exists_word UInt16 (t := slab) (by omega)
  obtain ⟨client_ip, t2, rfl, h2⟩ := exists_word α (t := t1) (by omega)
  obtain ⟨proxy_ip, t3, rfl, h3⟩ := exists_word α (t := t2) (by omega)
  obtain ⟨client_port, t4, rfl, h4⟩ := exists_word UInt16 (t := t3) (by omega)
  obtain ⟨proxy_port, rfl⟩ := exists_be (α := UInt16) (show t4.length = _ by omega)
  exact ⟨len, client_ip, proxy_ip, client_port, proxy_port, rfl⟩

/-- The readers of both slabs: the length is checked, and then the two ends are read. The `unwrap`s
do not fail, since the slab is as long as what is read from it. -/
theorem readSlab_ends {α : Type} [Word α] (expected len : UInt16)
    (f : α → α → UInt16 → UInt16 → ProxyProtocolHeader) (client_ip proxy_ip : α)
    (client_port proxy_port : UInt16) :
    readSlab (be len ++ (be client_ip ++ (be proxy_ip ++ (be client_port ++ be proxy_port)))) (do
        if (← unwrap (readBE UInt16)) ≠ expected then return none
        let client_ip ← unwrap (readBE α)
        let proxy_ip ← unwrap (readBE α)
        let client_port ← unwrap (readBE UInt16)
        let proxy_port ← unwrap (readBE UInt16)
        return some (f client_ip proxy_ip client_port proxy_port)) =
      pure (if len = expected then some (f client_ip proxy_ip client_port proxy_port)
        else none) := by
  have hread := (decodes_readBE len).unwrap
    (be client_ip ++ (be proxy_ip ++ (be client_port ++ be proxy_port)))
  have hends := decodes_ends (fun a b c d => some (f a b c d)) client_ip proxy_ip client_port
    proxy_port []
  rw [List.append_nil] at hends
  -- The length is compared before anything else is read.
  by_cases hexp : len = expected
  · rw [if_pos hexp]
    apply readSlab_eq
    refine bind_eq_ok.2 ⟨len, _, hread, ?_⟩
    rw [if_neg (not_not.2 hexp)]
    exact hends
  · rw [if_neg hexp]
    apply readSlab_eq
    refine bind_eq_ok.2 ⟨len, _, hread, ?_⟩
    rw [if_pos hexp]
    rfl

/-- What the slab for IPv4 gives, and that a header is given only for the block of that header. -/
theorem readSlabV4_spec {slab : List UInt8} (hlen : slab.length = 14) :
    ∃ o, readSlab slab readSlabV4 = pure o ∧
      ∀ header, o = some header → header.datagramByte = 0x12 ∧ slab = header.block := by
  obtain ⟨len, client_ip, proxy_ip, client_port, proxy_port, rfl⟩ := exists_ends Ipv4Addr hlen
  refine ⟨_, readSlab_ends 12 len afInet client_ip proxy_ip client_port proxy_port, ?_⟩
  intro header h
  split_ifs at h with h12
  · cases h
    exact ⟨rfl, by rw [h12]; rfl⟩

/-- What the slab for IPv6 gives, and that a header is given only for the block of that header. -/
theorem readSlabV6_spec {slab : List UInt8} (hlen : slab.length = 38) :
    ∃ o, readSlab slab readSlabV6 = pure o ∧
      ∀ header, o = some header → header.datagramByte = 0x22 ∧ slab = header.block := by
  obtain ⟨len, client_ip, proxy_ip, client_port, proxy_port, rfl⟩ := exists_ends Ipv6Addr hlen
  refine ⟨_, readSlab_ends 36 len afInet6 client_ip proxy_ip client_port proxy_port, ?_⟩
  intro header h
  split_ifs at h with h36
  · cases h
    exact ⟨rfl, by rw [h36]; rfl⟩

/-- The block of a header for IPv4 gives the header. -/
theorem readSlabV4_block (client_ip proxy_ip : Ipv4Addr) (client_port proxy_port : UInt16) :
    readSlab (afInet client_ip proxy_ip client_port proxy_port).block readSlabV4 =
      pure (some (afInet client_ip proxy_ip client_port proxy_port)) := by
  have hread := readSlab_ends 12 12 afInet client_ip proxy_ip client_port proxy_port
  rw [if_pos rfl] at hread
  exact hread

/-- The block of a header for IPv6 gives the header. -/
theorem readSlabV6_block (client_ip proxy_ip : Ipv6Addr) (client_port proxy_port : UInt16) :
    readSlab (afInet6 client_ip proxy_ip client_port proxy_port).block readSlabV6 =
      pure (some (afInet6 client_ip proxy_ip client_port proxy_port)) := by
  have hread := readSlab_ends 36 36 afInet6 client_ip proxy_ip client_port proxy_port
  rw [if_pos rfl] at hread
  exact hread

/-! ## What is parsed -/

/-- The slab is read whole, and then looked into. -/
theorem decodes_slab {slab : List UInt8} {n : ℕ} (hlen : slab.length = n)
    {r : ReadM (Option ProxyProtocolHeader)} {header : ProxyProtocolHeader}
    (hr : readSlab slab r = pure (some header)) :
    Decodes (do
      let some slab ← attemptRead (readExact n) | return none
      readSlab slab r) (some header) slab := by
  subst hlen
  intro rest
  refine bind_eq_ok.2 ⟨some slab, rest, (Decodes.readExact slab).attemptRead rest, ?_⟩
  simp only [hr]
  rfl

/-- `parse_v2_udp` on the bytes of a header. -/
theorem decodes_parseV2Udp (header : ProxyProtocolHeader) :
    Decodes parseV2Udp (some header) (header.wireBytes header.datagramByte) := by
  unfold parseV2Udp wireBytes
  apply (Decodes.readExact proxyProtocolV2Header).attemptRead.bind
  simp only [ne_eq, not_true, if_false]
  -- The signature is the expected one, and the byte behind it says how long the slab is.
  have hbyte := (decodes_readBE header.datagramByte).attemptRead
  rw [be_uint8] at hbyte
  apply hbyte.bind
  have hlen := header.length_block
  cases header with
  | afInet client_ip proxy_ip client_port proxy_port =>
    simp only [datagramByte, if_true]
    exact decodes_slab (Nat.add_right_cancel hlen) (readSlabV4_block _ _ _ _)
  | afInet6 client_ip proxy_ip client_port proxy_port =>
    simp only [datagramByte, if_true, show ¬((0x22 : UInt8) = 0x12) by decide, if_false]
    exact decodes_slab (Nat.add_right_cancel hlen) (readSlabV6_block _ _ _ _)

/-- The slab is read whole, and then looked into: what can be said of the result. -/
theorem consumes_slab {n : ℕ} {r : ReadM (Option ProxyProtocolHeader)} {transport : UInt8}
    (hr : ∀ slab : List UInt8, slab.length = n → ∃ o, readSlab slab r = pure o ∧
      ∀ header, o = some header → header.datagramByte = transport ∧ slab = header.block) :
    Consumes (do
      let some slab ← attemptRead (readExact n) | return none
      readSlab slab r) (fun o bs => ∀ header, o = some header →
        header.datagramByte = transport ∧ bs = header.block) := by
  refine (Consumes.readExact n).attemptRead.bind fun o bs hbs => ?_
  cases o with
  | none => exact Consumes.pure fun header h => nomatch h
  | some slab =>
    obtain ⟨rfl, hlen⟩ := hbs slab rfl
    obtain ⟨o, ho, hheader⟩ := hr bs hlen
    simp only [ho]
    refine Consumes.pure fun header h => ?_
    rw [List.append_nil]
    exact hheader header h

/-- The slab is read whole, and then looked into: there is a result. -/
theorem returns_slab {n : ℕ} {r : ReadM (Option ProxyProtocolHeader)}
    (hr : ∀ slab : List UInt8, slab.length = n → ∃ o, readSlab slab r = pure o) :
    Returns (do
      let some slab ← attemptRead (readExact n) | return none
      readSlab slab r) := by
  refine (Returns.attemptRead_readExact n).bind (Consumes.readExact n).attemptRead
    fun o bs hbs => ?_
  cases o with
  | none => exact Returns.pure none
  | some slab =>
    obtain ⟨rfl, hlen⟩ := hbs slab rfl
    obtain ⟨o, ho⟩ := hr bs hlen
    simp only [ho]
    exact Returns.pure o

/-- When `parse_v2_udp` gives a header, it has consumed the bytes of that header. -/
theorem consumes_parseV2Udp :
    Consumes parseV2Udp fun o bs => ∀ header, o = some header →
      bs = header.wireBytes header.datagramByte := by
  refine (Consumes.readExact proxyProtocolV2Header.length).attemptRead.bind fun o bs hbs => ?_
  cases o with
  | none => exact Consumes.pure fun header h => nomatch h
  | some signature =>
    obtain ⟨rfl, -⟩ := hbs signature rfl
    by_cases hsig : bs = proxyProtocolV2Header
    · simp only [hsig, ne_eq, not_true, if_false]
      refine (consumes_readBE UInt8).attemptRead.bind fun o cs hcs => ?_
      cases o with
      | none => exact Consumes.pure fun header h => nomatch h
      | some proto_type =>
        have hbyte : cs = [proto_type] := by rw [hcs proto_type rfl, be_uint8]
        simp only [hbyte]
        -- The two families have slabs of different lengths, and other bytes give nothing.
        split_ifs with h4 h6
        · refine (consumes_slab fun slab => readSlabV4_spec).mono fun o ds hds header h => ?_
          obtain ⟨htransport, hblock⟩ := hds header h
          rw [wireBytes, htransport, h4, hblock]
        · refine (consumes_slab fun slab => readSlabV6_spec).mono fun o ds hds header h => ?_
          obtain ⟨htransport, hblock⟩ := hds header h
          rw [wireBytes, htransport, h6, hblock]
        · exact Consumes.pure fun header h => nomatch h
    · simp only [hsig, ne_eq, not_false_eq_true, if_true]
      exact Consumes.pure fun header h => nomatch h

/-- `parse_v2_udp` returns on every byte string: none of its `unwrap`s fails. -/
theorem returns_parseV2Udp : Returns parseV2Udp := by
  refine (Returns.attemptRead_readExact _).bind (Consumes.readExact _).attemptRead
    fun o bs _ => ?_
  cases o with
  | none => exact Returns.pure none
  | some signature =>
    by_cases hsig : signature = proxyProtocolV2Header
    · simp only [hsig, ne_eq, not_true, if_false]
      refine (returns_attemptRead_readBE UInt8).bind (consumes_readBE UInt8).attemptRead
        fun o cs _ => ?_
      cases o with
      | none => exact Returns.pure none
      | some proto_type =>
        simp only
        -- A slab that was read is as long as its `unwrap`s need it.
        split_ifs with h4 h6
        · refine returns_slab fun slab hlen => ?_
          obtain ⟨o, ho, -⟩ := readSlabV4_spec hlen
          exact ⟨o, ho⟩
        · refine returns_slab fun slab hlen => ?_
          obtain ⟨o, ho, -⟩ := readSlabV6_spec hlen
          exact ⟨o, ho⟩
        · exact Returns.pure none
    · simp only [hsig, ne_eq, not_false_eq_true, if_true]
      exact Returns.pure none

/-- Both writers succeed into a buffer that grows. `parse_v2_udp` returns on every byte string, and
it gives a header exactly when the string begins with what `write_v2_udp` writes for it, which is 28
or 52 bytes long; then it has consumed exactly these. What `write_v2_tcp` writes has the same
length, and differs at index 13 only. -/
theorem proxy_v2_codec_exact (header : ProxyProtocolHeader) :
    ∃ udp tcp : List UInt8,
      header.writeV2Udp Sink.vec = .ok ((), ⟨udp, none⟩) ∧
      header.writeV2Tcp Sink.vec = .ok ((), ⟨tcp, none⟩) ∧
      udp.length = header.wireLength ∧ tcp.length = header.wireLength ∧
      (∀ b, ∃ o rest, parseV2Udp b = .ok (o, rest)) ∧
      (∀ b rest, parseV2Udp b = .ok (some header, rest) ↔ b = udp ++ rest) ∧
      (∀ i, i ≠ 13 ↔ tcp[i]? = udp[i]?) := by
  refine ⟨header.wireBytes header.datagramByte, header.wireBytes header.streamByte,
    header.emits_writeV2Udp.run_vec, header.emits_writeV2Tcp.run_vec,
    header.length_wireBytes _, header.length_wireBytes _, returns_parseV2Udp, ?_, ?_⟩
  · intro b rest
    constructor
    · intro h
      obtain ⟨bs, hb, hbs⟩ := consumes_parseV2Udp b (some header) rest h
      rw [hb, hbs header rfl]
    · rintro rfl
      exact header.decodes_parseV2Udp rest
  · intro i
    constructor
    · intro hi
      exact header.getElem?_wireBytes_of_ne _ _ hi
    · rintro h rfl
      rw [getElem?_wireBytes_transport, getElem?_wireBytes_transport] at h
      -- The two bytes differ for each family.
      cases header <;> simp [streamByte, datagramByte] at h

end ProxyProtocolHeader

end PlayitAgent
