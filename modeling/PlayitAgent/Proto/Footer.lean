import PlayitAgent.Proto.UdpFlow

/-!
# The footer codec is exact

`footer f` is the footer of the flow `f` as bytes. `writeTo_of_le` and `writeTo_of_lt` say that
`writeTo` puts exactly these bytes over the front of a slice, or leaves a shorter slice alone.

The decoder is evaluated once for each of the five layouts, on any words in the layout's places
(`fromTail_v4V1` to `fromTail_v6V2`). A tail that is long enough is always such a layout
(`exists_addrs4`, `exists_addrs6`, `exists_extWords`), so these evaluations settle the decoder on
every byte string: `fromTail_append_footer` reads a footer back, `fromTail_tail` says what an
accepted datagram ends in, and `fromTail_of_endsIn` that every such datagram is accepted.
-/

namespace PlayitAgent.UdpFlow

/-! ## Layouts -/

/-- The two ends of an IPv4 flow. -/
def addrs4 (src dst : SocketAddrV4) : List UInt8 :=
  be src.ip ++ (be dst.ip ++ (be src.port ++ be dst.port))

/-- The two ends of an IPv6 flow. -/
def addrs6 (src dst : Ipv6Addr × UInt16) : List UInt8 :=
  be src.1 ++ (be dst.1 ++ (be src.2 ++ be dst.2))

/-- The words of an extension, which need not be valid. -/
def extWords (client_server_id tunnel_id : UInt64) (port_offset : UInt16) : List UInt8 :=
  be client_server_id ++ (be tunnel_id ++ be port_offset)

/-- The bytes of an extension. -/
def extBytes (e : UdpFlowExtension) : List UInt8 :=
  extWords e.client_server_id.val e.tunnel_id.val e.port_offset

/-- The bytes of the fragment information, which ends in the packet id. -/
def fragBytes : Option FragmentInfo → List UInt8
  | none => be (0 : UInt16)
  | some f => be (if f.has_more then 1 else 0 : UInt8) ++ (be f.frag_offset ++ be f.packet_id.val)

/-- The footer of a flow. -/
def footer : UdpFlow → List UInt8
  | v4 src dst _ none => addrs4 src dst ++ be redirectFlow4FooterIdV1
  | v4 src dst frag (some e) =>
    addrs4 src dst ++ (extBytes e ++ (fragBytes frag ++ be redirectFlow4FooterIdV2))
  | v6 src dst none => addrs6 src dst ++ (be (0 : UInt32) ++ be redirectFlow6FooterIdV1)
  | v6 src dst (some e) => addrs6 src dst ++ (extBytes e ++ be redirectFlow6FooterIdV2)

/-- The ends of an IPv4 flow take twelve bytes. -/
@[simp]
theorem length_addrs4 (src dst : SocketAddrV4) : (addrs4 src dst).length = 12 := by
  simp [addrs4, Word.size]

/-- The ends of an IPv6 flow take thirty-six bytes. -/
@[simp]
theorem length_addrs6 (src dst : Ipv6Addr × UInt16) : (addrs6 src dst).length = 36 := by
  simp [addrs6, Word.size]

/-- An extension takes eighteen bytes. -/
@[simp]
theorem length_extWords (c t : UInt64) (o : UInt16) : (extWords c t o).length = 18 := by
  simp [extWords, Word.size]

/-- Twelve bytes are the ends of an IPv4 flow. -/
theorem exists_addrs4 {t : List UInt8} (h : t.length = 12) : ∃ src dst, t = addrs4 src dst := by
  obtain ⟨sip, t₁, e₁, h₁⟩ := exists_word UInt32 (t := t) (by rw [h]; decide)
  obtain ⟨dip, t₂, e₂, h₂⟩ := exists_word UInt32 (t := t₁) (by rw [h₁, h]; decide)
  obtain ⟨sp, t₃, e₃, h₃⟩ := exists_word UInt16 (t := t₂) (by rw [h₂, h₁, h]; decide)
  have h₄ : t₃.length = Word.size UInt16 := by rw [h₃, h₂, h₁, h]; rfl
  refine ⟨⟨sip, sp⟩, ⟨dip, Word.ofVal (beNat t₃)⟩, ?_⟩
  rw [addrs4, be_ofVal_beNat h₄, ← e₃, ← e₂, ← e₁]

/-- Thirty-six bytes are the ends of an IPv6 flow. -/
theorem exists_addrs6 {t : List UInt8} (h : t.length = 36) : ∃ src dst, t = addrs6 src dst := by
  have hsize : Word.size Ipv6Addr = 16 := rfl
  obtain ⟨sip, t₁, e₁, h₁⟩ := exists_word Ipv6Addr (t := t) (by omega)
  obtain ⟨dip, t₂, e₂, h₂⟩ := exists_word Ipv6Addr (t := t₁) (by omega)
  rw [h₁, h, hsize] at h₂
  obtain ⟨sp, t₃, e₃, h₃⟩ := exists_word UInt16 (t := t₂) (by rw [h₂]; decide)
  have h₄ : t₃.length = Word.size UInt16 := by rw [h₃, h₂]; rfl
  refine ⟨(sip, sp), (dip, Word.ofVal (beNat t₃)), ?_⟩
  rw [addrs6, be_ofVal_beNat h₄, ← e₃, ← e₂, ← e₁]

/-- Eighteen bytes are the words of an extension. -/
theorem exists_extWords {t : List UInt8} (h : t.length = 18) : ∃ c i o, t = extWords c i o := by
  obtain ⟨c, t₁, e₁, h₁⟩ := exists_word UInt64 (t := t) (by rw [h]; decide)
  obtain ⟨i, t₂, e₂, h₂⟩ := exists_word UInt64 (t := t₁) (by rw [h₁, h]; decide)
  have h₃ : t₂.length = Word.size UInt16 := by rw [h₂, h₁, h]; rfl
  refine ⟨c, i, Word.ofVal (beNat t₂), ?_⟩
  rw [extWords, be_ofVal_beNat h₃, ← e₂, ← e₁]

/-! ## The encoder -/

/-- The footer has the length that `footerLen` says. -/
theorem length_footer (f : UdpFlow) : f.footer.length = f.footerLen := by
  rcases f with ⟨src, dst, _ | frag, _ | e⟩ | ⟨src, dst, _ | e⟩ <;>
    simp [footer, footerLen, extBytes, fragBytes, ip4LenV1, ip4LenV2WithFrag, ip4LenV2WithoutFrag,
      ip6LenV1, ip6LenV2, extLen, Word.size]

/-- The writes of `write_to` emit the footer. -/
theorem emits_writeFields (f : UdpFlow) : Emits f.writeFields () f.footer := by
  -- One `unwrap (writeBE _)` after the other; the layouts only group what they write.
  have W : ∀ {α : Type} [Word α] (a : α), Emits (unwrap (writeBE a)) () (be a) :=
    fun a => (emits_writeBE a).unwrap
  rcases f with ⟨src, dst, _ | frag, _ | e⟩ | ⟨src, dst, _ | e⟩
  · simp only [footer, addrs4, List.append_assoc]
    exact (W _).bind ((W _).bind ((W _).bind ((W _).bind (W _))))
  · simp only [footer, addrs4, extBytes, extWords, fragBytes, List.append_assoc]
    exact (W _).bind ((W _).bind ((W _).bind ((W _).bind ((W _).bind ((W _).bind ((W _).bind
      ((W _).bind (W _))))))))
  · simp only [footer, addrs4, List.append_assoc]
    exact (W _).bind ((W _).bind ((W _).bind ((W _).bind (W _))))
  · simp only [footer, addrs4, extBytes, extWords, fragBytes, List.append_assoc]
    exact (W _).bind ((W _).bind ((W _).bind ((W _).bind ((W _).bind ((W _).bind ((W _).bind
      ((W _).bind ((W _).bind ((W _).bind (W _))))))))))
  · simp only [footer, addrs6, List.append_assoc]
    exact (W _).bind ((W _).bind ((W _).bind ((W _).bind ((W _).bind (W _)))))
  · simp only [footer, addrs6, extBytes, extWords, List.append_assoc]
    exact (W _).bind ((W _).bind ((W _).bind ((W _).bind ((W _).bind ((W _).bind ((W _).bind
      (W _)))))))

/-- On a slice that is long enough, `write_to` replaces the front of the slice by the footer and
touches nothing behind it. -/
theorem writeTo_of_le (f : UdpFlow) {slice : List UInt8} (h : f.footerLen ≤ slice.length) :
    f.writeTo slice = .ok (true, f.footer ++ slice.drop f.footerLen) := by
  have hlen := length_footer f
  rw [writeTo, if_neg (by omega), (emits_writeFields f).run_slice (by omega)]
  simp [hlen]

/-- A shorter slice is left as it is. -/
theorem writeTo_of_lt (f : UdpFlow) {slice : List UInt8} (h : slice.length < f.footerLen) :
    f.writeTo slice = .ok (false, slice) := by
  rw [writeTo, if_pos h]

/-! ## The decoder -/

/-- The last bytes of a string that ends in `t`. -/
theorem lastBytes_append {t : List UInt8} {n : ℕ} (h : t.length = n) (p : List UInt8) :
    lastBytes (p ++ t) n = .ok t := by
  subst h
  simp [lastBytes]

/-- `from_tail` on a datagram that ends in the word `id`, past the read of its last eight bytes. -/
theorem fromTail_append_be (p : List UInt8) (id : UInt64) :
    fromTail (p ++ be id) =
      if id = redirectFlow4FooterIdV1 then
        if p.length < 12 then .ok (.error none)
        else lastBytes (p ++ be id) ip4LenV1 >>= readV4V1.run'
      else if id = redirectFlow4FooterIdV2 then
        if p.length < 2 then .ok (.error none)
        else lastBytes (p ++ be id) 10 >>= fun t =>
          (unwrap (readBE UInt16)).run' t >>= fun packet_id =>
            if packet_id = 0 then
              if p.length < 32 then .ok (.error none)
              else lastBytes (p ++ be id) ip4LenV2WithoutFrag >>= (readV4V2 packet_id).run'
            else
              if p.length < 35 then .ok (.error none)
              else lastBytes (p ++ be id) ip4LenV2WithFrag >>= (readV4V2 packet_id).run'
      else if id = redirectFlow6FooterIdV1 then
        if p.length < 40 then .ok (.error none)
        else lastBytes (p ++ be id) ip6LenV1 >>= readV6V1.run'
      else if id = redirectFlow6FooterIdV2 then
        if p.length < 54 then .ok (.error none)
        else lastBytes (p ++ be id) ip6LenV2 >>= readV6V2.run'
      else .ok (.error (some id)) := by
  have hid : (unwrap (readBE UInt64)).run' (be id) = .ok id := by
    simpa using (decodes_readBE id).unwrap.run'_append []
  have hlen : (p ++ be id).length = p.length + 8 := by simp [Word.size]
  have h20 : (p ++ be id).length < ip4LenV1 ↔ p.length < 12 := by rw [hlen, ip4LenV1]; omega
  have h10 : (p ++ be id).length < 10 ↔ p.length < 2 := by rw [hlen]; omega
  have h40 : (p ++ be id).length < ip4LenV2WithoutFrag ↔ p.length < 32 := by
    rw [hlen, ip4LenV2WithoutFrag, extLen]; omega
  have h43 : (p ++ be id).length < ip4LenV2WithFrag ↔ p.length < 35 := by
    rw [hlen, ip4LenV2WithFrag, ip4LenV2WithoutFrag, extLen]; omega
  have h48 : (p ++ be id).length < ip6LenV1 ↔ p.length < 40 := by rw [hlen, ip6LenV1]; omega
  have h62 : (p ++ be id).length < ip6LenV2 ↔ p.length < 54 := by
    rw [hlen, ip6LenV2, ip6LenV1, extLen]; omega
  unfold fromTail
  rw [if_neg (by rw [hlen]; omega), lastBytes_append (t := be id) (by simp [Word.size]) p]
  simp only [h20, h10, h40, h43, h48, h62, ok_bind, hid]
  rfl

/-- `unwrap` of the read of a word. -/
theorem word {α : Type} [Word α] (a : α) : Decodes (unwrap (readBE α)) a (be a) :=
  (decodes_readBE a).unwrap

/-- The reads of an IPv4 footer without an extension. -/
theorem decodes_readV4V1 (src dst : SocketAddrV4) :
    Decodes readV4V1 (.ok (v4 src dst none none)) (addrs4 src dst) := by
  unfold readV4V1 addrs4
  exact (word _).bind ((word _).bind ((word _).bind ((word _).map _)))

/-- The reads of an IPv6 footer without an extension, which skip the flow label. -/
theorem decodes_readV6V1 (src dst : Ipv6Addr × UInt16) (label : UInt32) :
    Decodes readV6V1 (.ok (v6 src dst none)) (addrs6 src dst ++ be label) := by
  unfold readV6V1
  simp only [addrs6, List.append_assoc]
  exact (word _).bind ((word _).bind ((word _).bind ((word _).bind ((word label).map _))))

/-- The reads of an IPv4 footer with an extension and no fragment. -/
theorem decodes_readV4V2 (src dst : SocketAddrV4) (e : UdpFlowExtension) :
    Decodes (readV4V2 0) (.ok (v4 src dst none (some e))) (addrs4 src dst ++ extBytes e) := by
  unfold readV4V2
  simp only [addrs4, extBytes, extWords, List.append_assoc]
  refine (word _).bind ((word _).bind ((word _).bind ((word _).bind ((word _).bind ?_))))
  rw [NonZeroU64.new_val]
  refine (word _).bind ?_
  rw [NonZeroU64.new_val]
  exact (word _).map _

/-- The reads of an IPv4 footer with an extension and a fragment. -/
theorem decodes_readV4V2_frag (src dst : SocketAddrV4) (e : UdpFlowExtension)
    (packet_id : NonZeroU16) (frag_offset : UInt16) (has_more : UInt8) :
    Decodes (readV4V2 packet_id.val)
      (.ok (v4 src dst (some ⟨packet_id, frag_offset, has_more != 0⟩) (some e)))
      (addrs4 src dst ++ (extBytes e ++ (be has_more ++ be frag_offset))) := by
  unfold readV4V2
  simp only [addrs4, extBytes, extWords, List.append_assoc]
  refine (word _).bind ((word _).bind ((word _).bind ((word _).bind ((word _).bind ?_))))
  rw [NonZeroU64.new_val]
  refine (word _).bind ?_
  rw [NonZeroU64.new_val]
  refine (word _).bind ?_
  rw [NonZeroU16.new_val]
  exact (word _).bind ((word _).map _)

/-- The reads of an IPv6 footer with an extension. -/
theorem decodes_readV6V2 (src dst : Ipv6Addr × UInt16) (e : UdpFlowExtension) :
    Decodes readV6V2 (.ok (v6 src dst (some e))) (addrs6 src dst ++ extBytes e) := by
  unfold readV6V2
  simp only [addrs6, extBytes, extWords, List.append_assoc]
  refine (word _).bind ((word _).bind ((word _).bind ((word _).bind ((word _).bind ?_))))
  rw [NonZeroU64.new_val]
  refine (word _).bind ?_
  rw [NonZeroU64.new_val]
  exact (word _).map _

/-- A zero `client_server_id` or `tunnel_id` ends the reads of an IPv4 footer. -/
theorem readV4V2_zero (src dst : SocketAddrV4) {c t : UInt64} (o packet_id : UInt16)
    (h : c = 0 ∨ t = 0) (rest : List UInt8) :
    (readV4V2 packet_id).run' (addrs4 src dst ++ (extWords c t o ++ rest)) = .ok (.error none) := by
  by_cases hc : c = 0
  · have hd : Decodes (readV4V2 packet_id) (.error none) (addrs4 src dst ++ (be c ++ [])) := by
      unfold readV4V2
      simp only [addrs4, List.append_assoc]
      refine (word _).bind ((word _).bind ((word _).bind ((word _).bind ((word _).bind ?_))))
      rw [hc]
      exact Decodes.pure _
    simpa [extWords] using hd.run'_append (be t ++ (be o ++ rest))
  · have hd : Decodes (readV4V2 packet_id) (.error none)
        (addrs4 src dst ++ (be c ++ (be t ++ []))) := by
      unfold readV4V2
      simp only [addrs4, List.append_assoc]
      refine (word _).bind ((word _).bind ((word _).bind ((word _).bind ((word _).bind ?_))))
      rw [NonZeroU64.new, dif_neg hc]
      refine (word _).bind ?_
      rw [h.resolve_left hc]
      exact Decodes.pure _
    simpa [extWords] using hd.run'_append (be o ++ rest)

/-- A zero `client_server_id` or `tunnel_id` ends the reads of an IPv6 footer. -/
theorem readV6V2_zero (src dst : Ipv6Addr × UInt16) {c t : UInt64} (o : UInt16)
    (h : c = 0 ∨ t = 0) (rest : List UInt8) :
    readV6V2.run' (addrs6 src dst ++ (extWords c t o ++ rest)) = .ok (.error none) := by
  by_cases hc : c = 0
  · have hd : Decodes readV6V2 (.error none) (addrs6 src dst ++ (be c ++ [])) := by
      unfold readV6V2
      simp only [addrs6, List.append_assoc]
      refine (word _).bind ((word _).bind ((word _).bind ((word _).bind ((word _).bind ?_))))
      rw [hc]
      exact Decodes.pure _
    simpa [extWords] using hd.run'_append (be t ++ (be o ++ rest))
  · have hd : Decodes readV6V2 (.error none) (addrs6 src dst ++ (be c ++ (be t ++ []))) := by
      unfold readV6V2
      simp only [addrs6, List.append_assoc]
      refine (word _).bind ((word _).bind ((word _).bind ((word _).bind ((word _).bind ?_))))
      rw [NonZeroU64.new, dif_neg hc]
      refine (word _).bind ?_
      rw [h.resolve_left hc]
      exact Decodes.pure _
    simpa [extWords] using hd.run'_append (be o ++ rest)

/-! ### One evaluation for each layout -/

/-- A datagram that ends in an IPv4 footer without an extension. -/
theorem fromTail_v4V1 (p : List UInt8) (src dst : SocketAddrV4) :
    fromTail (p ++ (addrs4 src dst ++ be redirectFlow4FooterIdV1)) =
      .ok (.ok (v4 src dst none none)) := by
  rw [← List.append_assoc, fromTail_append_be, if_pos rfl, if_neg (by simp), List.append_assoc,
    lastBytes_append (by simp [ip4LenV1, Word.size]), ok_bind]
  exact (decodes_readV4V1 src dst).run'_append _

/-- A datagram that ends in an IPv6 footer without an extension, whatever its flow label. -/
theorem fromTail_v6V1 (p : List UInt8) (src dst : Ipv6Addr × UInt16) (label : UInt32) :
    fromTail (p ++ (addrs6 src dst ++ (be label ++ be redirectFlow6FooterIdV1))) =
      .ok (.ok (v6 src dst none)) := by
  have hlen : (p ++ (addrs6 src dst ++ be label)).length = p.length + 40 := by simp [Word.size]
  rw [← List.append_assoc (addrs6 src dst), ← List.append_assoc, fromTail_append_be,
    if_neg (by decide), if_neg (by decide), if_pos rfl, if_neg (by omega), List.append_assoc,
    lastBytes_append (by simp [ip6LenV1, Word.size]), ok_bind]
  exact (decodes_readV6V1 src dst label).run'_append _

/-- A datagram that ends in the IPv6 layout with an extension, up to the reads of its fields. -/
theorem fromTail_v6V2 (p : List UInt8) (src dst : Ipv6Addr × UInt16) (c t : UInt64) (o : UInt16) :
    fromTail (p ++ (addrs6 src dst ++ (extWords c t o ++ be redirectFlow6FooterIdV2))) =
      readV6V2.run' (addrs6 src dst ++ (extWords c t o ++ be redirectFlow6FooterIdV2)) := by
  have hlen : (p ++ (addrs6 src dst ++ extWords c t o)).length = p.length + 54 := by simp
  rw [← List.append_assoc (addrs6 src dst), ← List.append_assoc, fromTail_append_be,
    if_neg (by decide), if_neg (by decide), if_neg (by decide), if_pos rfl, if_neg (by omega),
    List.append_assoc, lastBytes_append (by simp [ip6LenV2, ip6LenV1, extLen, Word.size]), ok_bind]

/-- `from_tail` on a datagram that ends in a packet id and the id of an IPv4 footer with an
extension, past the read of the packet id. -/
theorem fromTail_packetId (q : List UInt8) (packet_id : UInt16) :
    fromTail (q ++ (be packet_id ++ be redirectFlow4FooterIdV2)) =
      if packet_id = 0 then
        if q.length < 30 then .ok (.error none)
        else lastBytes (q ++ (be packet_id ++ be redirectFlow4FooterIdV2)) ip4LenV2WithoutFrag >>=
          (readV4V2 packet_id).run'
      else
        if q.length < 33 then .ok (.error none)
        else lastBytes (q ++ (be packet_id ++ be redirectFlow4FooterIdV2)) ip4LenV2WithFrag >>=
          (readV4V2 packet_id).run' := by
  have hpid : (unwrap (readBE UInt16)).run' (be packet_id ++ be redirectFlow4FooterIdV2) =
      .ok packet_id := (word packet_id).run'_append _
  have hlen : (q ++ be packet_id).length = q.length + 2 := by simp [Word.size]
  have h32 : (q ++ be packet_id).length < 32 ↔ q.length < 30 := by omega
  have h35 : (q ++ be packet_id).length < 35 ↔ q.length < 33 := by omega
  rw [← List.append_assoc, fromTail_append_be, if_neg (by decide), if_pos rfl, if_neg (by omega)]
  simp only [List.append_assoc, h32, h35]
  rw [lastBytes_append (by simp [Word.size]), ok_bind, hpid, ok_bind]

/-- A datagram that ends in the IPv4 layout with an extension and no fragment, up to the reads of
its fields. -/
theorem fromTail_v4V2 (p : List UInt8) (src dst : SocketAddrV4) (c t : UInt64) (o : UInt16) :
    fromTail (p ++ (addrs4 src dst ++ (extWords c t o ++ (be (0 : UInt16) ++
        be redirectFlow4FooterIdV2)))) =
      (readV4V2 0).run' (addrs4 src dst ++ (extWords c t o ++ (be (0 : UInt16) ++
        be redirectFlow4FooterIdV2))) := by
  have hlen : (p ++ (addrs4 src dst ++ extWords c t o)).length = p.length + 30 := by simp
  rw [← List.append_assoc (addrs4 src dst), ← List.append_assoc, fromTail_packetId, if_pos rfl,
    if_neg (by omega), List.append_assoc,
    lastBytes_append (by simp [ip4LenV2WithoutFrag, extLen, Word.size]), ok_bind]

/-- A datagram that ends in the IPv4 layout with an extension and a fragment, up to the reads of
its fields. -/
theorem fromTail_v4V2_frag (p : List UInt8) (src dst : SocketAddrV4) (c t : UInt64) (o : UInt16)
    (m : UInt8) (fo : UInt16) {packet_id : UInt16} (hp : packet_id ≠ 0) :
    fromTail (p ++ (addrs4 src dst ++ (extWords c t o ++ (be m ++ (be fo ++ (be packet_id ++
        be redirectFlow4FooterIdV2)))))) =
      (readV4V2 packet_id).run' (addrs4 src dst ++ (extWords c t o ++ (be m ++ (be fo ++
        (be packet_id ++ be redirectFlow4FooterIdV2))))) := by
  have hx : addrs4 src dst ++ (extWords c t o ++ (be m ++ (be fo ++ (be packet_id ++
      be redirectFlow4FooterIdV2)))) = (addrs4 src dst ++ (extWords c t o ++ (be m ++ be fo))) ++
        (be packet_id ++ be redirectFlow4FooterIdV2) := by simp
  have hlen :
      (p ++ (addrs4 src dst ++ (extWords c t o ++ (be m ++ be fo)))).length = p.length + 33 := by
    simp [Word.size]
  rw [hx, ← List.append_assoc, fromTail_packetId, if_neg hp, if_neg (by omega), List.append_assoc,
    lastBytes_append (by simp [ip4LenV2WithFrag, ip4LenV2WithoutFrag, extLen, Word.size]), ok_bind]

/-- A flow that an IPv4 footer cannot carry: a fragment without an extension. -/
def Unencodable : UdpFlow → Prop
  | v4 _ _ (some _) none => True
  | _ => False

/-- A footer is read back as the flow it was written for, whatever stands before it. -/
theorem fromTail_append_footer (p : List UInt8) {f : UdpFlow} (h : ¬f.Unencodable) :
    fromTail (p ++ f.footer) = .ok (.ok f) := by
  rcases f with ⟨src, dst, _ | frag, _ | e⟩ | ⟨src, dst, _ | e⟩
  · exact fromTail_v4V1 p src dst
  · rw [footer, extBytes, fragBytes, fromTail_v4V2, ← List.append_assoc]
    exact (decodes_readV4V2 src dst e).run'_append _
  · exact absurd trivial h
  · rw [footer, extBytes, fragBytes, List.append_assoc, List.append_assoc,
      fromTail_v4V2_frag p src dst _ _ _ _ _ frag.packet_id.ne_zero]
    have hd := decodes_readV4V2_frag src dst e frag.packet_id frag.frag_offset
      (if frag.has_more then 1 else 0)
    have hm : ((if frag.has_more then 1 else 0 : UInt8) != 0) = frag.has_more := by
      cases frag.has_more <;> decide
    rw [hm] at hd
    simpa [extBytes] using hd.run'_append (be frag.packet_id.val ++ be redirectFlow4FooterIdV2)
  · exact fromTail_v6V1 p src dst 0
  · rw [footer, extBytes, fromTail_v6V2, ← List.append_assoc]
    exact (decodes_readV6V2 src dst e).run'_append _

/-! ### Every byte string -/

/-- What `write_to` makes of a footer that `from_tail` accepts: the byte that says whether more
fragments follow becomes zero or one, and the unused flow label of an IPv6 footer becomes zero. -/
def normalise (f : UdpFlow) (t : List UInt8) : List UInt8 :=
  match f with
  | v4 _ _ (some _) (some _) => t.set 30 (if t.getD 30 0 = 0 then 0 else 1)
  | v6 _ _ none => t.take 36 ++ ([0, 0, 0, 0] ++ t.drop 40)
  | _ => t

/-- The string ends in what `write_to` makes of the flow, up to `normalise`. -/
def EndsIn (b : List UInt8) (f : UdpFlow) : Prop :=
  ¬f.Unencodable ∧ f.footerLen ≤ b.length ∧
    ∀ slice : List UInt8, slice.length = f.footerLen →
      f.writeTo slice = .ok (true, f.normalise (b.drop (b.length - f.footerLen)))

/-- The ids that end a footer. -/
def footerIds : List UInt64 :=
  [redirectFlow4FooterIdV1, redirectFlow4FooterIdV2, redirectFlow6FooterIdV1,
    redirectFlow6FooterIdV2]

/-- What `from_tail` returns on a datagram, and what the datagram then ends in. -/
inductive Tail (b : List UInt8) : Except (Option UInt64) UdpFlow → Prop
  /-- There is no room for an id. -/
  | short (h : b.length < 8) : Tail b (.error none)
  /-- The last eight bytes are no footer's. -/
  | unknown (p : List UInt8) (id : UInt64) (hb : b = p ++ be id) (h : id ∉ footerIds) :
    Tail b (.error (some id))
  /-- The footer is cut off or names no client or no tunnel. -/
  | malformed (p : List UInt8) (id : UInt64) (hb : b = p ++ be id) (h : id ∈ footerIds) :
    Tail b (.error none)
  /-- The datagram ends in a footer. -/
  | flow (p t q : List UInt8) (id : UInt64) (f : UdpFlow) (hb : b = p ++ t) (ht : t = q ++ be id)
    (h : id ∈ footerIds) (hlen : t.length = f.footerLen) (hf : f.footer = f.normalise t) :
    Tail b (.ok f)

/-- A string that is long enough ends in a string of a given length. -/
theorem exists_tail {b : List UInt8} {n : ℕ} (h : n ≤ b.length) :
    ∃ p t, b = p ++ t ∧ t.length = n :=
  ⟨b.take (b.length - n), b.drop (b.length - n), by simp, by simp; omega⟩

/-- The words of an extension are valid, or one of its ids is zero. -/
theorem extWords_cases (c t : UInt64) (o : UInt16) :
    (c = 0 ∨ t = 0) ∨ ∃ e, extWords c t o = extBytes e := by
  by_cases hc : c = 0
  · exact .inl (.inl hc)
  · by_cases ht : t = 0
    · exact .inl (.inr ht)
    · exact .inr ⟨⟨⟨c, hc⟩, ⟨t, ht⟩, o⟩, rfl⟩

/-- An IPv4 id without an extension. -/
theorem tail_v4V1 (p : List UInt8) :
    ∃ r, fromTail (p ++ be redirectFlow4FooterIdV1) = .ok r ∧
      Tail (p ++ be redirectFlow4FooterIdV1) r := by
  by_cases hp : p.length < 12
  · refine ⟨_, ?_, .malformed p _ rfl (by decide)⟩
    rw [fromTail_append_be, if_pos rfl, if_pos hp]
  · obtain ⟨p', a, rfl, ha⟩ := exists_tail (b := p) (n := 12) (by omega)
    obtain ⟨src, dst, rfl⟩ := exists_addrs4 ha
    rw [List.append_assoc]
    refine ⟨_, fromTail_v4V1 p' src dst, .flow p' _ _ _ _ rfl rfl (by decide) ?_ rfl⟩
    exact length_footer (v4 src dst none none)

/-- An IPv6 id without an extension. -/
theorem tail_v6V1 (p : List UInt8) :
    ∃ r, fromTail (p ++ be redirectFlow6FooterIdV1) = .ok r ∧
      Tail (p ++ be redirectFlow6FooterIdV1) r := by
  by_cases hp : p.length < 40
  · refine ⟨_, ?_, .malformed p _ rfl (by decide)⟩
    rw [fromTail_append_be, if_neg (by decide), if_neg (by decide), if_pos rfl, if_pos hp]
  · obtain ⟨p₁, l, rfl, hl⟩ := exists_tail (b := p) (n := 4) (by omega)
    obtain ⟨p₂, a, rfl, ha⟩ := exists_tail (b := p₁) (n := 36) (by simp at hp; omega)
    obtain ⟨src, dst, haddrs⟩ := exists_addrs6 ha
    rw [haddrs]
    obtain ⟨label, rfl⟩ := exists_be (α := UInt32) hl
    rw [List.append_assoc, List.append_assoc]
    refine ⟨_, fromTail_v6V1 p₂ src dst label, .flow p₂ _ (addrs6 src dst ++ be label)
      redirectFlow6FooterIdV1 _ rfl (by simp) (by decide) ?_ ?_⟩
    · simp [footerLen, ip6LenV1, Word.size]
    · -- The label is the four bytes from byte 36 on.
      have h40 : (addrs6 src dst ++ be label).length = 40 := by simp [Word.size]
      simp only [footer, normalise]
      rw [List.take_left' (length_addrs6 src dst), ← List.append_assoc _ (be label),
        List.drop_left' h40]
      rfl

/-- An IPv6 id with an extension. -/
theorem tail_v6V2 (p : List UInt8) :
    ∃ r, fromTail (p ++ be redirectFlow6FooterIdV2) = .ok r ∧
      Tail (p ++ be redirectFlow6FooterIdV2) r := by
  by_cases hp : p.length < 54
  · refine ⟨_, ?_, .malformed p _ rfl (by decide)⟩
    rw [fromTail_append_be, if_neg (by decide), if_neg (by decide), if_neg (by decide), if_pos rfl,
      if_pos hp]
  · obtain ⟨p₁, x, rfl, hx⟩ := exists_tail (b := p) (n := 18) (by omega)
    obtain ⟨p₂, a, rfl, ha⟩ := exists_tail (b := p₁) (n := 36) (by simp at hp; omega)
    obtain ⟨src, dst, haddrs⟩ := exists_addrs6 ha
    rw [haddrs]
    obtain ⟨c, t, o, rfl⟩ := exists_extWords hx
    rcases extWords_cases c t o with hz | ⟨e, he⟩
    · refine ⟨_, ?_, .malformed _ _ rfl (by decide)⟩
      rw [List.append_assoc, List.append_assoc, fromTail_v6V2, readV6V2_zero _ _ _ hz]
    · rw [List.append_assoc, List.append_assoc, he]
      refine ⟨_, fromTail_append_footer p₂ (f := v6 src dst (some e)) id, .flow p₂ _
        (addrs6 src dst ++ extBytes e) redirectFlow6FooterIdV2 _ rfl (by simp) (by decide) ?_ rfl⟩
      exact length_footer (v6 src dst (some e))

/-- An IPv4 id with an extension. -/
theorem tail_v4V2 (p : List UInt8) :
    ∃ r, fromTail (p ++ be redirectFlow4FooterIdV2) = .ok r ∧
      Tail (p ++ be redirectFlow4FooterIdV2) r := by
  by_cases hp : p.length < 2
  · refine ⟨_, ?_, .malformed p _ rfl (by decide)⟩
    rw [fromTail_append_be, if_neg (by decide), if_pos rfl, if_pos hp]
  obtain ⟨q, i, rfl, hi⟩ := exists_tail (b := p) (n := 2) (by omega)
  obtain ⟨packet_id, rfl⟩ := exists_be (α := UInt16) hi
  by_cases h0 : packet_id = 0
  · subst h0
    by_cases hq : q.length < 30
    · refine ⟨_, ?_, .malformed _ _ rfl (by decide)⟩
      rw [List.append_assoc, fromTail_packetId, if_pos rfl, if_pos hq]
    obtain ⟨p₁, x, rfl, hx⟩ := exists_tail (b := q) (n := 18) (by omega)
    obtain ⟨p₂, a, rfl, ha⟩ := exists_tail (b := p₁) (n := 12) (by simp at hq; omega)
    obtain ⟨src, dst, rfl⟩ := exists_addrs4 ha
    obtain ⟨c, t, o, rfl⟩ := exists_extWords hx
    rcases extWords_cases c t o with hz | ⟨e, he⟩
    · refine ⟨_, ?_, .malformed _ _ rfl (by decide)⟩
      rw [List.append_assoc, List.append_assoc, List.append_assoc, fromTail_v4V2,
        readV4V2_zero _ _ _ _ hz]
    · rw [List.append_assoc, List.append_assoc, List.append_assoc, he]
      refine ⟨_, fromTail_append_footer p₂ (f := v4 src dst none (some e)) id, .flow p₂ _
        (addrs4 src dst ++ (extBytes e ++ be (0 : UInt16))) redirectFlow4FooterIdV2 _ rfl (by simp)
        (by decide) ?_ rfl⟩
      exact length_footer (v4 src dst none (some e))
  · by_cases hq : q.length < 33
    · refine ⟨_, ?_, .malformed _ _ rfl (by decide)⟩
      rw [List.append_assoc, fromTail_packetId, if_neg h0, if_pos hq]
    obtain ⟨p₁, fo, rfl, hfo⟩ := exists_tail (b := q) (n := 2) (by omega)
    obtain ⟨frag_offset, rfl⟩ := exists_be (α := UInt16) hfo
    obtain ⟨p₂, m, rfl, hm⟩ := exists_tail (b := p₁) (n := 1)
      (by simp [Word.size] at hq; omega)
    obtain ⟨has_more, rfl⟩ := exists_be (α := UInt8) hm
    obtain ⟨p₃, x, rfl, hx⟩ := exists_tail (b := p₂) (n := 18)
      (by simp [Word.size] at hq; omega)
    obtain ⟨p₄, a, rfl, ha⟩ := exists_tail (b := p₃) (n := 12)
      (by simp [Word.size] at hq; omega)
    obtain ⟨src, dst, rfl⟩ := exists_addrs4 ha
    obtain ⟨c, t, o, rfl⟩ := exists_extWords hx
    simp only [List.append_assoc]
    rcases extWords_cases c t o with hz | ⟨e, he⟩
    · refine ⟨_, ?_, .malformed (p₄ ++ (addrs4 src dst ++ (extWords c t o ++ (be has_more ++
        (be frag_offset ++ be packet_id))))) redirectFlow4FooterIdV2 (by simp) (by decide)⟩
      rw [fromTail_v4V2_frag _ _ _ _ _ _ _ _ h0, readV4V2_zero _ _ _ _ hz]
    · rw [fromTail_v4V2_frag _ _ _ _ _ _ _ _ h0, he]
      have hd := decodes_readV4V2_frag src dst e ⟨packet_id, h0⟩ frag_offset has_more
      refine ⟨_, by simpa using hd.run'_append _, .flow p₄ _ (addrs4 src dst ++ (extBytes e ++
        (be has_more ++ (be frag_offset ++ be packet_id)))) redirectFlow4FooterIdV2 _ rfl (by simp)
        (by decide) ?_ ?_⟩
      · simp [footerLen, ip4LenV2WithFrag, ip4LenV2WithoutFrag, extLen, extBytes, Word.size]
      · -- The byte that is normalised is byte 30, behind the ends and the extension.
        have h30 : (addrs4 src dst ++ extBytes e).length = 30 := by simp [extBytes]
        simp only [footer, fragBytes, normalise, be_uint8]
        rw [← List.append_assoc (addrs4 src dst), ← List.append_assoc (addrs4 src dst)]
        generalize addrs4 src dst ++ extBytes e = x at h30
        rw [List.set_append_right _ _ (by omega), h30]
        simp [h30]

/-- `from_tail` returns on every byte string, and its result says what the string ends in. -/
theorem fromTail_tail (b : List UInt8) : ∃ r, fromTail b = .ok r ∧ Tail b r := by
  by_cases h8 : b.length < 8
  · refine ⟨_, ?_, .short h8⟩
    rw [fromTail, if_pos h8]
    rfl
  · obtain ⟨p, i, rfl, hi⟩ := exists_tail (b := b) (n := 8) (by omega)
    obtain ⟨id, rfl⟩ := exists_be (α := UInt64) hi
    by_cases h1 : id = redirectFlow4FooterIdV1
    · exact h1 ▸ tail_v4V1 p
    by_cases h2 : id = redirectFlow4FooterIdV2
    · exact h2 ▸ tail_v4V2 p
    by_cases h3 : id = redirectFlow6FooterIdV1
    · exact h3 ▸ tail_v6V1 p
    by_cases h4 : id = redirectFlow6FooterIdV2
    · exact h4 ▸ tail_v6V2 p
    refine ⟨_, ?_, .unknown p id rfl (by simp [footerIds, h1, h2, h3, h4])⟩
    rw [fromTail_append_be, if_neg h1, if_neg h2, if_neg h3, if_neg h4]

/-- A slice of the length of its footer gets the footer of a flow. -/
theorem writeTo_of_length_eq (f : UdpFlow) {slice : List UInt8} (h : slice.length = f.footerLen) :
    f.writeTo slice = .ok (true, f.footer) := by
  rw [writeTo_of_le f h.ge, ← h, List.drop_length, List.append_nil]

/-- A string ends in the footer of a flow, up to `normalise`. -/
theorem endsIn_iff {b : List UInt8} {f : UdpFlow} :
    EndsIn b f ↔ ¬f.Unencodable ∧ ∃ p t, b = p ++ t ∧ t.length = f.footerLen ∧
      f.footer = f.normalise t := by
  refine and_congr_right fun _ => ⟨fun ⟨hle, hwrites⟩ => ?_, ?_⟩
  · refine ⟨b.take (b.length - f.footerLen), b.drop (b.length - f.footerLen), by simp,
      by rw [List.length_drop]; omega, ?_⟩
    have hslice := hwrites (List.replicate f.footerLen 0) List.length_replicate
    rw [writeTo_of_length_eq f List.length_replicate] at hslice
    exact (Prod.mk.inj (Except.ok.inj hslice)).2
  · rintro ⟨p, t, rfl, hlen, hfooter⟩
    have htail : (p ++ t).drop ((p ++ t).length - f.footerLen) = t := by
      rw [← hlen]
      simp
    refine ⟨by rw [List.length_append]; omega, fun slice hslice => ?_⟩
    rw [writeTo_of_length_eq f hslice, htail, hfooter]

/-- A flow with a fragment is read back whatever byte says that more fragments follow. -/
theorem fromTail_frag (p t : List UInt8) (src dst : SocketAddrV4) (frag : FragmentInfo)
    (e : UdpFlowExtension) (hlen : t.length = 43)
    (h : (v4 src dst (some frag) (some e)).footer =
      (v4 src dst (some frag) (some e)).normalise t) :
    fromTail (p ++ t) = .ok (.ok (v4 src dst (some frag) (some e))) := by
  have h30 : (addrs4 src dst ++ extBytes e).length = 30 := by simp [extBytes]
  obtain ⟨x, m, y, rfl, hx⟩ : ∃ x m y, t = x ++ m :: y ∧ x.length = 30 := by
    refine ⟨t.take 30, t[30], t.drop 31, ?_, by rw [List.length_take]; omega⟩
    rw [List.getElem_cons_drop, List.take_append_drop]
  have hget : (x ++ m :: y).getD 30 0 = m := by
    rw [List.getD_eq_getElem?_getD, List.getElem?_append_right hx.le, hx]
    rfl
  -- Only the byte behind the ends and the extension is not that of the footer.
  simp only [footer, fragBytes, normalise, be_uint8, hget] at h
  rw [← List.append_assoc, List.set_append_right _ _ hx.le, hx] at h
  obtain ⟨rfl, hrest⟩ := List.append_inj h (by rw [h30, hx])
  simp only [Nat.sub_self, List.set_cons_zero, List.cons_append, List.nil_append,
    List.cons.injEq] at hrest
  obtain ⟨hmore, rfl⟩ := hrest
  have hm : (m != 0) = frag.has_more := by
    by_cases hzero : m = 0
    · rw [if_pos hzero] at hmore
      rw [hzero]
      cases hhas : frag.has_more with
      | true => exact absurd (hhas ▸ hmore) (by decide)
      | false => rfl
    · rw [if_neg hzero] at hmore
      rw [bne_iff_ne.2 hzero]
      cases hhas : frag.has_more with
      | true => rfl
      | false => exact absurd (hhas ▸ hmore) (by decide)
  have hlayout : addrs4 src dst ++ extBytes e ++ m :: (be frag.frag_offset ++
      be frag.packet_id.val ++ be redirectFlow4FooterIdV2) = addrs4 src dst ++ (extBytes e ++
        (be m ++ (be frag.frag_offset ++ (be frag.packet_id.val ++
          be redirectFlow4FooterIdV2)))) := by
    simp [be_uint8]
  have hd := decodes_readV4V2_frag src dst e frag.packet_id frag.frag_offset m
  rw [hm] at hd
  rw [hlayout, extBytes, fromTail_v4V2_frag _ _ _ _ _ _ _ _ frag.packet_id.ne_zero]
  simpa [extBytes] using hd.run'_append (be frag.packet_id.val ++ be redirectFlow4FooterIdV2)

/-- A datagram that ends in the footer of a flow, up to `normalise`, is accepted as that flow. -/
theorem fromTail_of_endsIn {b : List UInt8} {f : UdpFlow} (h : EndsIn b f) :
    fromTail b = .ok (.ok f) := by
  obtain ⟨hf, p, t, rfl, hlen, hfooter⟩ := endsIn_iff.1 h
  have hplain (hsame : f.normalise t = t) : fromTail (p ++ t) = .ok (.ok f) := by
    rw [← hfooter.trans hsame]
    exact fromTail_append_footer p hf
  rcases f with ⟨src, dst, _ | frag, _ | e⟩ | ⟨src, dst, _ | e⟩
  · exact hplain rfl
  · exact hplain rfl
  · exact absurd trivial hf
  · exact fromTail_frag p t src dst frag e hlen hfooter
  · -- The flow label may be anything.
    have h48 : t.length = 48 := hlen
    obtain ⟨x, l, y, rfl, hx, hl⟩ : ∃ x l y, t = x ++ (l ++ y) ∧ x.length = 36 ∧ l.length = 4 :=
      ⟨t.take 36, (t.drop 36).take 4, (t.drop 36).drop 4,
        by rw [List.take_append_drop, List.take_append_drop], by simp; omega, by simp; omega⟩
    have h40 : (x ++ l).length = 40 := by simp [hx, hl]
    simp only [footer, normalise] at hfooter
    rw [List.take_left' hx, ← List.append_assoc x l, List.drop_left' h40] at hfooter
    obtain ⟨rfl, hrest⟩ := List.append_inj hfooter (by rw [length_addrs6, hx])
    obtain ⟨-, rfl⟩ := List.append_inj hrest rfl
    obtain ⟨label, rfl⟩ := exists_be (α := UInt32) hl
    exact fromTail_v6V1 p src dst label
  · exact hplain rfl

/-- A string that is accepted as a flow ends in its footer, up to `normalise`. -/
theorem endsIn_of_fromTail {b : List UInt8} {f : UdpFlow} (h : fromTail b = .ok (.ok f)) :
    EndsIn b f := by
  obtain ⟨r, hr, htail⟩ := fromTail_tail b
  obtain rfl : r = .ok f := Except.ok.inj (hr.symm.trans h)
  cases htail with
  | flow p t q id f hb _ _ hlen hfooter =>
    refine endsIn_iff.2 ⟨fun hun => ?_, p, t, hb, hlen, hfooter⟩
    -- A fragment without an extension has the footer of a flow without a fragment.
    rcases f with ⟨src, dst, _ | frag, _ | e⟩ | ⟨src, dst, _ | e⟩
    · exact hun
    · exact hun
    · have hread := fromTail_append_footer p (f := v4 src dst none none) fun hnone => hnone
      have hsame : p ++ (v4 src dst none none).footer = b := by
        rw [hb]
        exact congrArg (p ++ ·) hfooter
      rw [hsame, h] at hread
      cases hread
    · exact hun
    · exact hun
    · exact hun

/-- The last eight bytes of a string that ends in a word. -/
theorem drop_length_sub_be (p : List UInt8) (id : UInt64) :
    (p ++ be id).drop ((p ++ be id).length - 8) = be id := by
  simp [Word.size]

/-- `from_tail` rejects a datagram for its id exactly when the last eight bytes are an id that ends
no footer. -/
theorem Tail.error_some_iff {b : List UInt8} {r : Except (Option UInt64) UdpFlow} (h : Tail b r)
    (id : UInt64) :
    r = .error (some id) ↔
      8 ≤ b.length ∧ b.drop (b.length - 8) = be id ∧ id ∉ footerIds := by
  cases h with
  | short h =>
    constructor
    · intro h'
      cases h'
    · rintro ⟨h8, -⟩
      omega
  | unknown p id' hb hid =>
    subst hb
    rw [drop_length_sub_be]
    constructor
    · rintro ⟨⟩
      exact ⟨by simp [Word.size], rfl, hid⟩
    · rintro ⟨-, h, -⟩
      rw [be_injective h]
  | malformed p id' hb hid =>
    subst hb
    rw [drop_length_sub_be]
    constructor
    · rintro ⟨⟩
    · rintro ⟨-, h, h'⟩
      exact absurd (be_injective h ▸ hid) h'
  | flow p t q id' f hb ht hid =>
    subst hb ht
    rw [← List.append_assoc, drop_length_sub_be]
    constructor
    · rintro ⟨⟩
    · rintro ⟨-, h, h'⟩
      exact absurd (be_injective h ▸ hid) h'

end PlayitAgent.UdpFlow
