import PlayitAgent.Network.OriginLookup

/-!
# What the table of origins holds

`update` writes each resource under one key or two, so the table holds the last resource of each
tunnel and protocol. A port of the tunnel leads to one local address, which no other port leads to.
-/

namespace PlayitAgent

/-- The protocol covers TCP, or it covers UDP. -/
def PortProto.covers : PortProto → Bool → Bool
  | .both, _ => true
  | .tcp, is_tcp => is_tcp
  | .udp, is_tcp => !is_tcp

/-- The resource is one of the tunnel, for the protocol. -/
def OriginResource.answers (tunnel_id : UInt64) (is_tcp : Bool) (res : OriginResource) : Bool :=
  decide (res.tunnel_id = tunnel_id) && res.proto.covers is_tcp

/-! ## The table -/

namespace OriginLookup

/-- One turn of the loop of `update` writes the resource under the keys that it answers. -/
theorem insertResource_apply (next : OriginKey → Option OriginResource) (res : OriginResource)
    (tunnel_id : UInt64) (is_tcp : Bool) :
    insertResource next res ⟨tunnel_id, is_tcp⟩ =
      if res.answers tunnel_id is_tcp then some res else next ⟨tunnel_id, is_tcp⟩ := by
  unfold insertResource OriginResource.answers
  by_cases hid : res.tunnel_id = tunnel_id
  · subst hid
    cases res.proto <;> cases is_tcp <;> simp [PortProto.covers]
  · have hne (tcp : Bool) : (⟨tunnel_id, is_tcp⟩ : OriginKey) ≠ ⟨res.tunnel_id, tcp⟩ := by
      intro heq
      exact hid (congrArg OriginKey.tunnel_id heq).symm
    cases res.proto <;> simp [hid, Function.update_of_ne (hne _)]

/-- The loop of `update` leaves the last resource that answers, or what was there before. -/
theorem foldl_insertResource (resources : List OriginResource)
    (next : OriginKey → Option OriginResource) (tunnel_id : UInt64) (is_tcp : Bool) :
    resources.foldl insertResource next ⟨tunnel_id, is_tcp⟩ =
      (resources.filter (·.answers tunnel_id is_tcp)).getLast?.or (next ⟨tunnel_id, is_tcp⟩) := by
  induction resources generalizing next with
  | nil => rfl
  | cons res rest ih =>
    rw [List.foldl_cons, ih, insertResource_apply]
    cases hres : res.answers tunnel_id is_tcp with
    | false => simp [hres]
    | true =>
      rw [List.filter_cons_of_pos (by simpa using hres), List.getLast?_cons]
      cases (rest.filter (·.answers tunnel_id is_tcp)).getLast? <;> rfl

/-- After `update`, a lookup finds the last resource of the tunnel that covers the protocol. -/
theorem lookup_update (table : OriginLookup) (resources : List OriginResource) (tunnel_id : UInt64)
    (is_tcp : Bool) :
    (table.update resources).lookup tunnel_id is_tcp =
      (resources.filter (·.answers tunnel_id is_tcp)).getLast? := by
  have hloop := foldl_insertResource resources (fun _ => none) tunnel_id is_tcp
  rw [Option.or_none] at hloop
  exact hloop

end OriginLookup

/-! ## Local addresses -/

namespace OriginResource

variable {lookup_host : LookupHost} {origin : OriginResource} {ip : IpAddr}

/-- Addresses with one IP address differ in their ports. -/
theorem socketAddr_new_inj {port port' : UInt16}
    (h : SocketAddr.new ip port = SocketAddr.new ip port') : port = port' := by
  cases ip with
  | v4 ip =>
    injection h with h
    exact congrArg SocketAddrV4.port h
  | v6 ip =>
    injection h with h
    exact congrArg SocketAddrV6.port h

/-- An origin with a port leads to the port as far from it as was asked for, within its ports and
within those that there are. -/
theorem resolveLocal_port {port : UInt16} (hcount : 0 < origin.port_count)
    (htarget : origin.target = .port (.ipAddress ip) port) (offset : UInt16) :
    origin.resolveLocal lookup_host offset =
      if offset < origin.port_count ∧ port.toNat + offset.toNat ≤ 65535 then
        some (SocketAddr.new ip (port + offset))
      else none := by
  have hne : origin.port_count ≠ 0 := by
    rintro h
    rw [h] at hcount
    exact absurd hcount (by decide)
  unfold resolveLocal checkedAdd
  rw [htarget]
  by_cases hoffset : offset < origin.port_count
  · have hle : ¬origin.port_count ≤ offset := UInt16.not_le.2 hoffset
    by_cases hport : port.toNat + offset.toNat ≤ 65535
    · have hlt : port.toNat + offset.toNat < 65536 := by omega
      simp [hne, hle, hoffset, hport, hlt, OriginIp.resolve]
    · have hlt : ¬port.toNat + offset.toNat < 65536 := by omega
      simp [hne, hle, hport, hlt]
  · have hle : origin.port_count ≤ offset := UInt16.not_lt.1 hoffset
    simp [hne, hle, hoffset]

/-- An origin with HTTP and HTTPS leads to the two ports. -/
theorem resolveLocal_https {http_port https_port : UInt16}
    (htarget : origin.target = .https (.ipAddress ip) http_port https_port) (offset : UInt16) :
    (origin.resolveLocal lookup_host offset).isSome ↔ offset = 0 ∨ offset = 1 := by
  unfold resolveLocal
  rw [htarget]
  by_cases h₀ : offset = 0
  · simp [h₀, OriginIp.resolve]
  · by_cases h₁ : offset = 1
    · simp [h₁, OriginIp.resolve]
    · simp [h₀, h₁]

end OriginResource

/-- Whatever the table held before, `update` leaves the last resource of each tunnel and protocol;
and an origin with an IP address leads to one local address for each of its ports, and to none for
any other. -/
theorem origin_table_exact (lookup_host : LookupHost) (table : OriginLookup)
    (resources : List OriginResource) :
    (∀ tunnel_id is_tcp, (table.update resources).lookup tunnel_id is_tcp =
      (resources.filter (·.answers tunnel_id is_tcp)).getLast?) ∧
    ∀ (origin : OriginResource) (ip : IpAddr), 0 < origin.port_count →
      (∀ http_port https_port, origin.target = .https (.ipAddress ip) http_port https_port →
        ∀ offset, (origin.resolveLocal lookup_host offset).isSome ↔ offset = 0 ∨ offset = 1) ∧
      ∀ port, origin.target = .port (.ipAddress ip) port →
        (∀ offset, (origin.resolveLocal lookup_host offset).isSome ↔
          offset < origin.port_count ∧ port.toNat + offset.toNat ≤ 65535) ∧
        (∀ offset addr, origin.resolveLocal lookup_host offset = some addr →
          ∃ local_port : UInt16, local_port.toNat = port.toNat + offset.toNat ∧
            addr = SocketAddr.new ip local_port) ∧
        ∀ offset offset' addr, origin.resolveLocal lookup_host offset = some addr →
          origin.resolveLocal lookup_host offset' = some addr → offset = offset' := by
  refine ⟨table.lookup_update resources, fun origin ip hcount => ⟨?_, ?_⟩⟩
  · intro http_port https_port htarget offset
    exact OriginResource.resolveLocal_https htarget offset
  · intro port htarget
    have hresolve := @OriginResource.resolveLocal_port lookup_host _ _ _ hcount htarget
    -- An address that was found is that of a port in range.
    have hfound {offset : UInt16} {addr : SocketAddr}
        (h : origin.resolveLocal lookup_host offset = some addr) :
        port.toNat + offset.toNat ≤ 65535 ∧ addr = SocketAddr.new ip (port + offset) := by
      rw [hresolve] at h
      split at h
      · next hrange => exact ⟨hrange.2, (Option.some.inj h).symm⟩
      · cases h
    refine ⟨fun offset => ?_, fun offset addr h => ?_, fun offset offset' addr h h' => ?_⟩
    · rw [hresolve]
      split
      · next hrange => exact iff_of_true rfl hrange
      · next hrange => exact iff_of_false Bool.false_ne_true hrange
    · obtain ⟨hrange, haddr⟩ := hfound h
      refine ⟨port + offset, ?_, haddr⟩
      rw [UInt16.toNat_add, Nat.mod_eq_of_lt (by omega)]
    · obtain ⟨-, haddr⟩ := hfound h
      obtain ⟨-, haddr'⟩ := hfound h'
      have hport := OriginResource.socketAddr_new_inj (haddr.symm.trans haddr')
      exact (UInt16.add_right_inj port).1 hport

/-- A tunnel for both protocols whose UDP part is replaced by a later resource. -/
theorem origin_table_exact_sample :
    let both : OriginResource :=
      ⟨7, .both, .port (.ipAddress (.v4 2130706433)) 25565, 2, none⟩
    let udp : OriginResource := ⟨7, .udp, .port (.ipAddress (.v4 2130706433)) 65535, 2, none⟩
    let table := OriginLookup.update ⟨fun _ => some udp⟩ [both, udp]
    table.lookup 7 true = some both ∧ table.lookup 7 false = some udp ∧
      (udp.resolveLocal (fun _ _ => none) 0).isSome ∧
      ¬(udp.resolveLocal (fun _ _ => none) 1).isSome := by
  intro both udp table
  have hexact := origin_table_exact (fun _ _ => none) ⟨fun _ => some udp⟩ [both, udp]
  have hports := ((hexact.2 udp _ (by decide)).2 65535 rfl).1
  refine ⟨?_, ?_, (hports 0).2 (by decide), fun h => ?_⟩
  · rw [hexact.1]
    decide
  · rw [hexact.1]
    decide
  · exact absurd ((hports 1).1 h).2 (by decide)

end PlayitAgent
