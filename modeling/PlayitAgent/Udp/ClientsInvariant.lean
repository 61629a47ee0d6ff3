import PlayitAgent.Udp.Clients

/-!
# The clients stay consistent

The table of clients has two indexes and a counter: the slab with the clients, the lookup from keys
to slots, and the published number of active flows. `UdpClients.Valid` says that they agree and what
each client looks like. Every call keeps it, so it holds in every reachable state, and the panics
that rely on it do not happen.
-/

namespace PlayitAgent

/-! ## What a valid client is -/

/-- The port of a flow's source. -/
def UdpFlow.srcPort : UdpFlow → UInt16
  | .v4 src _ _ _ => src.port
  | .v6 src _ _ => src.2

/-- The port of a flow's destination. -/
def UdpFlow.dstPort : UdpFlow → UInt16
  | .v4 _ dst _ _ => dst.port
  | .v6 _ dst _ => dst.2

/-- What holds of the client in a slot. -/
structure Client.Valid (slot : ℕ) (client : Client) : Prop where
  /-- The lower half of the id is the slot. -/
  slot_eq : unpackSlot client.id = slot
  /-- The flow has an extension, for the first port of the tunnel. -/
  extension : ∃ ext, client.flow.extension = some ext ∧ ext.port_offset = 0
  /-- The port of the client is a port. -/
  port_le : client.flow.srcPort.toNat + client.port_offset.toNat ≤ 65535

/-! ## Ids and flows -/

/-- The id of a client as a number: the generation above the slot. -/
theorem toNat_packClientId (slot generation : UInt32) :
    (packClientId slot generation).toNat = generation.toNat * 2 ^ 32 + slot.toNat := by
  have hg := generation.toNat_lt
  have hs := slot.toNat_lt
  have hshift : (generation.toUInt64 <<< 32).toNat = generation.toNat * 2 ^ 32 := by
    rw [UInt64.toNat_shiftLeft]
    simp only [UInt32.toNat_toUInt64, UInt64.reduceToNat, Nat.reduceMod, Nat.shiftLeft_eq]
    exact Nat.mod_eq_of_lt (by omega)
  rw [packClientId, UInt64.toNat_or, hshift, UInt32.toNat_toUInt64, ← Nat.shiftLeft_eq,
    ← Nat.shiftLeft_add_eq_or_of_lt hs, Nat.shiftLeft_eq]

/-- The slot is unpacked from the id. -/
theorem unpackSlot_packClientId (slot generation : UInt32) :
    unpackSlot (packClientId slot generation) = slot.toNat := by
  have hs := slot.toNat_lt
  rw [unpackSlot, UInt64.toNat_toUInt32, toNat_packClientId]
  omega

/-- The generation is determined by the id. -/
theorem generation_eq_of_packClientId_eq {s s' g g' : UInt32}
    (h : packClientId s g = packClientId s' g') : g = g' := by
  have hnat := congrArg UInt64.toNat h
  rw [toNat_packClientId, toNat_packClientId] at hnat
  have hs := s.toNat_lt
  have hs' := s'.toNat_lt
  rw [← UInt32.toNat_inj]
  omega

/-- A port minus an offset that it is not below, and the offset. -/
theorem toNat_sub_add_toNat {port off : UInt16} (h : off ≤ port) :
    (port - off).toNat + off.toNat = port.toNat := by
  have := UInt16.le_iff_toNat_le.1 h
  rw [UInt16.toNat_sub_of_le _ _ h]
  omega

/-- When the port of the destination is not below the offset, the flow of a client is made, and the
flow of an answer leads back to where the packet came from. -/
theorem clientFlow_of_le {flow : UdpFlow} {ext : UdpFlowExtension} {off : UInt16}
    (hext : flow.extension = some ext) (h : off ≤ flow.dstPort) :
    ∃ flow', clientFlow flow off = .ok flow' ∧
      flow'.extension = some { ext with port_offset := 0 } ∧
      flow'.srcPort.toNat + off.toNat = flow.dstPort.toNat ∧ flow'.frag = flow.frag ∧
      replyFlow flow' off =
        .ok (flow.flip.setExtension (some { ext with port_offset := off })) := by
  cases flow with
  | v4 src dst frag extension =>
    obtain rfl : extension = some ext := hext
    have hsum : (dst.port - off).toNat + off.toNat = dst.port.toNat := toNat_sub_add_toNat h
    have hlt := dst.port.toNat_lt
    refine ⟨.v4 ⟨dst.ip, dst.port - off⟩ src frag (some { ext with port_offset := 0 }), ?_, rfl,
      hsum, rfl, ?_⟩
    · by_cases hoff : off = 0
      · simp [clientFlow, UdpFlow.flip, hoff]
        rfl
      · have hle : off ≤ dst.port := h
        simp [clientFlow, UdpFlow.flip, hoff, hle]
        rfl
    · have hfit : (dst.port - off).toNat + off.toNat < 2 ^ 16 := by omega
      simp only [replyFlow, hfit, if_true, UdpFlow.flip, UdpFlow.setExtension,
        UInt16.sub_add_cancel]
      rfl
  | v6 src dst extension =>
    obtain rfl : extension = some ext := hext
    have hsum : (dst.2 - off).toNat + off.toNat = dst.2.toNat := toNat_sub_add_toNat h
    have hlt := dst.2.toNat_lt
    refine ⟨.v6 (dst.1, dst.2 - off) src (some { ext with port_offset := 0 }), ?_, rfl, hsum, rfl,
      ?_⟩
    · by_cases hoff : off = 0
      · simp [clientFlow, UdpFlow.flip, hoff]
        rfl
      · have hle : off ≤ dst.2 := h
        simp [clientFlow, UdpFlow.flip, hoff, hle]
        rfl
    · have hfit : (dst.2 - off).toNat + off.toNat < 2 ^ 16 := by omega
      simp only [replyFlow, hfit, if_true, UdpFlow.flip, UdpFlow.setExtension,
        UInt16.sub_add_cancel]
      rfl

/-- When the port of the destination is below the offset, the assertion fails. -/
theorem clientFlow_of_not_le {flow : UdpFlow} {ext : UdpFlowExtension} {off : UInt16}
    (hext : flow.extension = some ext) (h : ¬off ≤ flow.dstPort) :
    clientFlow flow off = .error .assertion := by
  have hoff : off ≠ 0 := by
    rintro rfl
    exact h (UInt16.zero_le)
  cases flow with
  | v4 src dst frag extension =>
    obtain rfl : extension = some ext := hext
    have hle : ¬off ≤ dst.port := h
    simp [clientFlow, UdpFlow.flip, hoff, hle]
    rfl
  | v6 src dst extension =>
    obtain rfl : extension = some ext := hext
    have hle : ¬off ≤ dst.2 := h
    simp [clientFlow, UdpFlow.flip, hoff, hle]
    rfl

/-- What the flow of a client is, when it is made: it has the extension of the packet, at the offset
zero, the port minus the offset, and the fragment information. The flow of an answer leads back to
where the packet came from. -/
theorem clientFlow_eq_ok {flow flow' : UdpFlow} {ext : UdpFlowExtension} {off : UInt16}
    (hext : flow.extension = some ext) (h : clientFlow flow off = .ok flow') :
    flow'.extension = some { ext with port_offset := 0 } ∧
      flow'.srcPort.toNat + off.toNat = flow.dstPort.toNat ∧ flow'.frag = flow.frag ∧
      replyFlow flow' off =
        .ok (flow.flip.setExtension (some { ext with port_offset := off })) := by
  -- The assertion has held, since the flow was made.
  have hle : off ≤ flow.dstPort := by
    by_contra hle
    rw [clientFlow_of_not_le hext hle] at h
    cases h
  obtain ⟨flow₀, hflow₀, hfacts⟩ := clientFlow_of_le hext hle
  obtain rfl : flow₀ = flow' := Except.ok.inj (hflow₀.symm.trans h)
  exact hfacts

/-- The flow of a valid client's answer is made. -/
theorem Client.Valid.replyFlow_eq_ok {slot : ℕ} {client : Client} (h : client.Valid slot) :
    ∃ flow, replyFlow client.flow client.port_offset = .ok flow := by
  obtain ⟨ext, hext, -⟩ := h.extension
  have hle := h.port_le
  cases hflow : client.flow with
  | v4 src dst frag extension =>
    rw [hflow] at hext hle
    obtain rfl : extension = some ext := hext
    have hlt : src.port.toNat + client.port_offset.toNat < 2 ^ 16 := by
      simp only [UdpFlow.srcPort] at hle
      omega
    exact ⟨_, by simp only [replyFlow, hlt, if_true]; rfl⟩
  | v6 src dst extension =>
    rw [hflow] at hext hle
    obtain rfl : extension = some ext := hext
    have hlt : src.2.toNat + client.port_offset.toNat < 2 ^ 16 := by
      simp only [UdpFlow.srcPort] at hle
      omega
    exact ⟨_, by simp only [replyFlow, hlt, if_true]; rfl⟩

section
variable {σ : Type} [Slab σ Client]

/-- The lookup and the slab agree, and the clients are valid. -/
structure Indexed (lookup : UdpClientKey → Option ℕ) (clients : σ) : Prop where
  /-- The lookup has the slot of a key exactly when a client with that key is in the slot. -/
  lookup_iff : ∀ key slot, lookup key = some slot ↔
    ∃ client, Slab.get clients slot = some client ∧ client.key = key
  /-- Every client is valid in its slot. -/
  client : ∀ slot client, Slab.get clients slot = some client → client.Valid slot
  /-- There are no more clients than sockets. -/
  len_le : Slab.len clients ≤ maxSockets
  /-- No more slots than sockets have ever been given out. -/
  slots_le : Slab.slots clients ≤ maxSockets

/-- The two indexes and the counter agree, and the clients are valid. -/
structure UdpClients.Valid (c : UdpClients σ) : Prop where
  /-- The lookup and the slab agree, and the clients are valid. -/
  indexed : Indexed c.virtual_client_lookup c.virtual_clients
  /-- The published number of active flows is the number of clients. -/
  active_udp : c.stats.active_udp.toNat = Slab.len c.virtual_clients

namespace Indexed

variable {lookup : UdpClientKey → Option ℕ} {clients : σ} {slot : ℕ} {client client' : Client}

/-- A key is looked up to at most one slot, so a client is found under its key. -/
theorem lookup_key (h : Indexed lookup clients) (hget : Slab.get clients slot = some client) :
    lookup client.key = some slot :=
  (h.lookup_iff _ _).2 ⟨client, hget, rfl⟩

/-- A client may be replaced by another one with its key. -/
theorem set (h : Indexed lookup clients) (hget : Slab.get clients slot = some client)
    (hkey : client'.key = client.key) (hv : client'.Valid slot) :
    Indexed lookup (Slab.set clients slot client') := by
  have hsome : (Slab.get clients slot).isSome := Option.isSome_of_eq_some hget
  have hset := fun j => Slab.get_set clients slot client' j hsome
  refine ⟨fun key j => ?_, fun j other hj => ?_, ?_, ?_⟩
  · rw [h.lookup_iff, hset]
    by_cases hj : j = slot
    · subst hj
      simp [hget, hkey]
    · simp [hj]
  · rw [hset] at hj
    split at hj
    · cases hj
      subst_vars
      exact hv
    · exact h.client j other hj
  · rw [Slab.len_set client' hsome]
    exact h.len_le
  · rw [Slab.slots_set]
    exact h.slots_le

/-- A client may be removed, together with its key. -/
theorem remove (h : Indexed lookup clients) (hget : Slab.get clients slot = some client) :
    Indexed (Function.update lookup client.key none) (Slab.remove clients slot) := by
  have hsome : (Slab.get clients slot).isSome := Option.isSome_of_eq_some hget
  have hremove := fun j => Slab.get_remove clients slot j hsome
  have hkey := h.lookup_key hget
  refine ⟨fun key j => ?_, fun j other hj => ?_, ?_, ?_⟩
  · rw [hremove]
    by_cases hk : key = client.key
    · -- The key had one slot, and that is free now.
      subst hk
      simp only [Function.update_self, reduceCtorEq, false_iff, not_exists, not_and]
      intro other hother hk
      split at hother
      · cases hother
      · have := h.lookup_key hother
        rw [hk, hkey] at this
        cases this
        contradiction
    · rw [Function.update_of_ne hk, h.lookup_iff]
      by_cases hj : j = slot
      · subst hj
        simp only [hget, Option.some.injEq, if_true, reduceCtorEq, false_and, exists_false,
          iff_false, not_exists, not_and]
        rintro other rfl hk'
        exact hk hk'.symm
      · simp [hj]
  · rw [hremove] at hj
    split at hj
    · cases hj
    · exact h.client j other hj
  · have := Slab.len_remove hsome
    have := h.len_le
    omega
  · rw [Slab.slots_remove]
    exact h.slots_le

/-- While there are fewer clients than sockets, the vacant slot is below their number. -/
theorem vacantKey_lt (h : Indexed lookup clients) (hlen : Slab.len clients < maxSockets) :
    Slab.vacantKey clients < maxSockets := by
  have hle := Slab.vacantKey_le clients
  have hslots := h.slots_le
  have heq := Slab.len_of_vacantKey_eq clients
  omega

/-- A client with a new key may be put into the vacant slot. -/
theorem insert (h : Indexed lookup clients) (hkey : lookup client.key = none)
    (hv : client.Valid (Slab.vacantKey clients)) (hlen : Slab.len clients < maxSockets) :
    Indexed (Function.update lookup client.key (some (Slab.vacantKey clients)))
      (Slab.insert clients client) := by
  refine ⟨fun key j => ?_, fun j other hj => ?_, ?_, ?_⟩
  · rw [Slab.get_insert]
    by_cases hk : key = client.key
    · subst hk
      rw [Function.update_self]
      constructor
      · intro hj
        obtain rfl : Slab.vacantKey clients = j := by simpa using hj
        exact ⟨client, by simp, rfl⟩
      · rintro ⟨other, hother, hk⟩
        split at hother
        · simp_all
        · -- Another client with the key would be in the lookup.
          have := h.lookup_key hother
          rw [hk, hkey] at this
          cases this
    · rw [Function.update_of_ne hk, h.lookup_iff]
      by_cases hj : j = Slab.vacantKey clients
      · subst hj
        simp only [Slab.get_vacantKey, reduceCtorEq, false_and, exists_false, if_true,
          Option.some.injEq, false_iff, not_exists, not_and]
        rintro other rfl hk'
        exact hk hk'.symm
      · simp [hj]
  · rw [Slab.get_insert] at hj
    split at hj
    · cases hj
      subst_vars
      exact hv
    · exact h.client j other hj
  · rw [Slab.len_insert]
    exact hlen
  · have := h.vacantKey_lt hlen
    have := h.slots_le
    rw [Slab.slots_insert]
    omega

/-- Publishing the number of clients makes the counter agree. -/
theorem setUdp {c : UdpClients σ} (h : Indexed c.virtual_client_lookup c.virtual_clients) :
    c.setUdp.Valid := by
  refine ⟨h, ?_⟩
  have := h.len_le
  simp only [UdpClients.setUdp, UInt32.toNat_ofNat']
  exact Nat.mod_eq_of_lt (by unfold maxSockets at this; omega)

end Indexed

/-! ## What a packet from the tunnel does -/

/-- While the task has not ended, its handle stays as it is. -/
theorem UdpReceiver.isClosed_eq_false {receiver receiver' : UdpReceiver} {ended : Bool}
    (h : receiver.isClosed ended = (false, receiver')) : receiver' = receiver := by
  unfold isClosed at h
  split at h
  · cases h
  · split at h
    · cases h
    · split at h
      · cases h
      · cases h
        rfl

/-- A valid client stays valid with another receiver. -/
theorem Client.Valid.setReceiver {slot : ℕ} {client : Client} (h : client.Valid slot)
    (receiver : UdpReceiver) : Client.Valid slot { client with receiver } :=
  ⟨h.slot_eq, h.extension, h.port_le⟩

namespace UdpClients

variable {c c' : UdpClients σ} {key : UdpClientKey} {ended : Bool}

/-- The clients with another one in a slot. -/
def setClient (c : UdpClients σ) (slot : ℕ) (client : Client) : UdpClients σ :=
  { c with virtual_clients := Slab.set c.virtual_clients slot client }

/-- What looking for the client of a key comes to: a client that can be reused; none; or one whose
task has ended, and which is dropped. -/
inductive Found (c : UdpClients σ) (key : UdpClientKey) (ended : Bool) :
    Option ℕ × UdpClients σ × List Effect → Prop
  | live {slot : ℕ} {client : Client} (hlookup : c.virtual_client_lookup key = some slot)
      (hget : Slab.get c.virtual_clients slot = some client)
      (hopen : (client.receiver.isClosed ended).1 = false) :
      Found c key ended (some slot, c.setClient slot client, [])
  | absent (hlookup : c.virtual_client_lookup key = none) : Found c key ended (none, c, [])
  | dead {slot : ℕ} {client : Client} (hlookup : c.virtual_client_lookup key = some slot)
      (hget : Slab.get c.virtual_clients slot = some client)
      (hclosed : (client.receiver.isClosed ended).1 = true) :
      Found c key ended (none, (c.setClient slot { client with
        receiver := (client.receiver.isClosed ended).2 }).discard key slot, [.removed slot])

/-- `findClient` comes to one of these. -/
theorem found_findClient (h : Indexed c.virtual_client_lookup c.virtual_clients)
    (key : UdpClientKey) (ended : Bool) : Found c key ended (c.findClient key ended) := by
  unfold findClient
  cases hlookup : c.virtual_client_lookup key with
  | none => exact Found.absent hlookup
  | some slot =>
    obtain ⟨client, hget, -⟩ := (h.lookup_iff key slot).1 hlookup
    cases hclosed : client.receiver.isClosed ended with
    | mk closed receiver =>
      simp only [pollReceiver, hget, hclosed]
      cases closed with
      | true =>
        have hdead : (client.receiver.isClosed ended).1 = true := by rw [hclosed]
        have hfound := Found.dead hlookup hget hdead
        rw [hclosed] at hfound
        exact hfound
      | false =>
        have hlive : (client.receiver.isClosed ended).1 = false := by rw [hclosed]
        have hfound := Found.live hlookup hget hlive
        rw [UdpReceiver.isClosed_eq_false hclosed]
        exact hfound

/-- The state that a client is opened in: the key is not in it, and the slot of a client that was
dropped is free. -/
theorem Found.none_valid {removed : List Effect} (h : c.Valid)
    (hfound : Found c key ended (none, c', removed)) :
    c'.Valid ∧ c'.virtual_client_lookup key = none := by
  cases hfound with
  | absent hlookup => exact ⟨h, hlookup⟩
  | @dead slot client hlookup hget hclosed =>
    -- The client with its polled receiver is removed with its key.
    obtain ⟨client₀, hget₀, rfl⟩ := (h.indexed.lookup_iff key slot).1 hlookup
    obtain rfl : client₀ = client := Option.some.inj (hget₀.symm.trans hget)
    have hset : Indexed c.virtual_client_lookup (Slab.set c.virtual_clients slot { client₀ with
        receiver := (client₀.receiver.isClosed ended).2 }) :=
      h.indexed.set hget rfl ((h.indexed.client slot _ hget).setReceiver _)
    have hgetset := Slab.get_set_self hget { client₀ with
      receiver := (client₀.receiver.isClosed ended).2 }
    have hremove := hset.remove hgetset
    refine ⟨?_, by simp [discard, UdpClients.setUdp]⟩
    have hsome' := congrArg Option.isSome hgetset
    simp only [discard, setClient, hsome', Option.isSome_some, if_true]
    exact Indexed.setUdp (c := { c with
      virtual_client_lookup := Function.update c.virtual_client_lookup client₀.key none
      virtual_clients := Slab.remove (Slab.set c.virtual_clients slot { client₀ with
        receiver := (client₀.receiver.isClosed ended).2 }) slot }) hremove

/-- The client that a packet opens. -/
def opened (now_ms : UInt64) (c : UdpClients σ) (key : UdpClientKey) (socket : Socket)
    (target_addr : SocketAddr) (port_offset : UInt16) (flow : UdpFlow) : Client :=
  let id := packClientId (UInt32.ofNat (Slab.vacantKey c.virtual_clients)) c.next_client_generation
  { id, key, socket, target_addr, port_offset, flow, receiver := UdpReceiver.create id,
    from_tunnel_ts := now_ms, from_origin_ts := now_ms }

/-- The clients with one more, in the vacant slot and under its key. -/
def insertClient (c : UdpClients σ) (client : Client) : UdpClients σ :=
  setUdp { c with
    virtual_client_lookup :=
      Function.update c.virtual_client_lookup client.key (some (Slab.vacantKey c.virtual_clients))
    virtual_clients := Slab.insert c.virtual_clients client
    next_client_generation := c.next_client_generation + 1 }

/-- The limiter, the origin, and the operating system let a client be opened. -/
def MayOpen (io : TunneledIo) (c : UdpClients σ) (ext : UdpFlowExtension)
    (origin : OriginResource) (key : UdpClientKey) : Prop :=
  io.limiter = true ∧ ∃ target_addr socket,
    origin.resolveLocal io.lookup_host ext.port_offset = some target_addr ∧
    key.createSocket io (Slab.len c.virtual_clients)
      (target_addr.isV4Loopback && origin.proxy_protocol.isNone) target_addr = .ok socket

/-- The packet of a flow opens a client: its tunnel has an origin, no client can be reused for it,
and nothing stands against a new one. -/
def Opens (io : TunneledIo) (c : UdpClients σ) (flow : UdpFlow) (ext : UdpFlowExtension) : Prop :=
  flow.extension = some ext ∧
  (c.findClient ⟨flow.src, ext.tunnel_id.val⟩ io.ended).1 = none ∧
  ∃ origin, io.lookup.lookup ext.tunnel_id.val false = some origin ∧
    MayOpen io (c.findClient ⟨flow.src, ext.tunnel_id.val⟩ io.ended).2.1 ext origin
      ⟨flow.src, ext.tunnel_id.val⟩

/-- What handling a packet comes to when it returns: the packet belongs to no tunnel; a client
forwards it; no client is opened for it; or a client is opened and forwards it. -/
inductive Handled (io : TunneledIo) (c : UdpClients σ) (now_ms : UInt64) (flow : UdpFlow)
    (packet : Packet) : UdpClients σ → List Effect → Prop
  | ignored (hnone : ∀ ext, flow.extension = some ext →
      io.lookup.lookup ext.tunnel_id.val false = none) : Handled io c now_ms flow packet c []
  | reused {ext : UdpFlowExtension} {origin : OriginResource} {slot : ℕ} {client : Client}
      (hext : flow.extension = some ext)
      (horigin : io.lookup.lookup ext.tunnel_id.val false = some origin)
      (hlookup : c.virtual_client_lookup ⟨flow.src, ext.tunnel_id.val⟩ = some slot)
      (hget : Slab.get c.virtual_clients slot = some client)
      (hopen : (client.receiver.isClosed io.ended).1 = false) :
      Handled io c now_ms flow packet
        { (c.setClient slot client).setClient slot { client with
            from_tunnel_ts := now_ms
            flow := client.flow.updateClientServerId ext.client_server_id } with
          stats := { c.stats with bytes_in := c.stats.bytes_in + UInt64.ofNat packet.len } }
        [.reused slot, .sent client.socket packet.asRef client.target_addr]
  | refused {ext : UdpFlowExtension} {c' : UdpClients σ} {removed effects : List Effect}
      (hext : flow.extension = some ext)
      (hfound : Found c ⟨flow.src, ext.tunnel_id.val⟩ io.ended (none, c', removed))
      (heffects : effects = [] ∨ effects = [.newClientRatelimit]) :
      Handled io c now_ms flow packet c' (removed ++ effects)
  | opened {ext : UdpFlowExtension} {origin : OriginResource} {c' : UdpClients σ}
      {removed header : List Effect} {target_addr : SocketAddr} {socket : Socket} {flow' : UdpFlow}
      (hext : flow.extension = some ext)
      (horigin : io.lookup.lookup ext.tunnel_id.val false = some origin)
      (hopens : Opens io c flow ext)
      (hfound : Found c ⟨flow.src, ext.tunnel_id.val⟩ io.ended (none, c', removed))
      (htarget : origin.resolveLocal io.lookup_host ext.port_offset = some target_addr)
      (hlen : Slab.len c'.virtual_clients < maxSockets)
      (hslot : Slab.vacantKey c'.virtual_clients < 2 ^ 32)
      (hflow : clientFlow flow ext.port_offset = .ok flow')
      (hheader : proxyHeader origin.proxy_protocol flow socket target_addr = .ok header) :
      Handled io c now_ms flow packet
        (c'.insertClient (UdpClients.opened now_ms c' ⟨flow.src, ext.tunnel_id.val⟩ socket
          target_addr ext.port_offset flow'))
        (removed ++ (.created (Slab.vacantKey c'.virtual_clients) (packClientId
            (UInt32.ofNat (Slab.vacantKey c'.virtual_clients)) c'.next_client_generation) ::
          (header ++ [.sent socket packet.asRef target_addr])))

/-- The header of the PROXY protocol is always written. -/
theorem proxyHeader_eq_ok (proxy_protocol : Option ProxyProtocol) (flow : UdpFlow)
    (socket : Socket) (target_addr : SocketAddr) :
    ∃ header, proxyHeader proxy_protocol flow socket target_addr = .ok header := by
  unfold proxyHeader
  split
  · exact ⟨_, rfl⟩
  · exact ⟨_, rfl⟩
  · obtain ⟨_, bs, hs⟩ := ProxyProtocolHeader.succeeds_writeV2Udp (.fromUdpFlow flow)
    rw [hs.run_vec]
    exact ⟨_, rfl⟩

/-- A client that may not be opened is refused, whatever the packet is. -/
theorem openClient_of_not_mayOpen {io : TunneledIo} {ext : UdpFlowExtension}
    {origin : OriginResource} (h : ¬MayOpen io c ext origin key) :
    ∃ effects, (effects = [] ∨ effects = [.newClientRatelimit]) ∧ ∀ now_ms flow packet,
      c.openClient io now_ms flow ext origin key packet = .ok (c, effects) := by
  unfold openClient
  cases hlimiter : io.limiter with
  | false => exact ⟨_, .inr rfl, fun _ _ _ => rfl⟩
  | true =>
    cases htarget : origin.resolveLocal io.lookup_host ext.port_offset with
    | none => exact ⟨_, .inl rfl, fun _ _ _ => rfl⟩
    | some target_addr =>
      cases hsocket : key.createSocket io (Slab.len c.virtual_clients)
          (target_addr.isV4Loopback && origin.proxy_protocol.isNone) target_addr with
      | error error =>
        refine ⟨[], .inl rfl, fun _ _ _ => ?_⟩
        simp only [hsocket]
        rfl
      | ok socket => exact absurd ⟨hlimiter, target_addr, socket, htarget, hsocket⟩ h

/-- A process that gets a socket has fewer than the operating system allows. -/
theorem UdpClientKey.lt_of_createSocket {io : TunneledIo} {clients : ℕ} {special_lan : Bool}
    {target_addr : SocketAddr} {socket : Socket}
    (h : key.createSocket io clients special_lan target_addr = .ok socket) :
    clients < maxSockets := by
  by_contra hlimit
  have hbind (addr : SocketAddr) : io.bind clients addr ≠ .ok socket := by
    obtain ⟨error, herror⟩ := io.limited clients addr (Nat.le_of_not_lt hlimit)
    rw [herror]
    exact fun heq => by cases heq
  obtain ⟨addr, hbound⟩ := bound_of_udpSocket h
  exact hbind addr hbound

/-- A client that may be opened is opened, once its flow is made. -/
theorem openClient_of_mayOpen {io : TunneledIo} {ext : UdpFlowExtension} {origin : OriginResource}
    (h : Indexed c.virtual_client_lookup c.virtual_clients) (hmay : MayOpen io c ext origin key) :
    ∃ target_addr socket,
      origin.resolveLocal io.lookup_host ext.port_offset = some target_addr ∧
      Slab.len c.virtual_clients < maxSockets ∧ Slab.vacantKey c.virtual_clients < 2 ^ 32 ∧
      ∀ now_ms flow packet, ∃ header,
        proxyHeader origin.proxy_protocol flow socket target_addr = .ok header ∧
        c.openClient io now_ms flow ext origin key packet = do
          let flow' ← clientFlow flow ext.port_offset
          return (c.insertClient (c.opened now_ms key socket target_addr ext.port_offset flow'),
            .created (Slab.vacantKey c.virtual_clients) (packClientId
              (UInt32.ofNat (Slab.vacantKey c.virtual_clients)) c.next_client_generation) ::
                (header ++ [.sent socket packet.asRef target_addr])) := by
  obtain ⟨hlimiter, target_addr, socket, htarget, hsocket⟩ := hmay
  -- A socket is only given while there are fewer clients than sockets, so the slot is small.
  have hlen := UdpClientKey.lt_of_createSocket hsocket
  have hslot : Slab.vacantKey c.virtual_clients < 2 ^ 32 := by
    have hlt := h.vacantKey_lt hlen
    unfold maxSockets at hlt
    omega
  refine ⟨target_addr, socket, htarget, hlen, hslot, fun now_ms flow packet => ?_⟩
  obtain ⟨header, hheader⟩ := proxyHeader_eq_ok origin.proxy_protocol flow socket target_addr
  refine ⟨header, hheader, ?_⟩
  unfold openClient
  simp only [hlimiter, Bool.not_true, Bool.false_eq_true, if_false, htarget, hsocket, hslot,
    not_true, hheader, ok_bind]
  rfl

/-- What opening a client comes to when it returns: it is refused, or there is one more client. -/
theorem openClient_eq_ok {io : TunneledIo} {now_ms : UInt64} {flow : UdpFlow}
    {ext : UdpFlowExtension} {origin : OriginResource} {packet : Packet} {effects : List Effect}
    (h : Indexed c.virtual_client_lookup c.virtual_clients)
    (hok : c.openClient io now_ms flow ext origin key packet = .ok (c', effects)) :
    (c' = c ∧ (effects = [] ∨ effects = [.newClientRatelimit])) ∨
    ∃ target_addr socket flow' header, MayOpen io c ext origin key ∧
      origin.resolveLocal io.lookup_host ext.port_offset = some target_addr ∧
      Slab.len c.virtual_clients < maxSockets ∧ Slab.vacantKey c.virtual_clients < 2 ^ 32 ∧
      clientFlow flow ext.port_offset = .ok flow' ∧
      proxyHeader origin.proxy_protocol flow socket target_addr = .ok header ∧
      c' = c.insertClient (c.opened now_ms key socket target_addr ext.port_offset flow') ∧
      effects = .created (Slab.vacantKey c.virtual_clients) (packClientId
        (UInt32.ofNat (Slab.vacantKey c.virtual_clients)) c.next_client_generation) ::
          (header ++ [.sent socket packet.asRef target_addr]) := by
  by_cases hmay : MayOpen io c ext origin key
  · obtain ⟨target_addr, socket, htarget, hlen, hslot, hopen⟩ := openClient_of_mayOpen h hmay
    obtain ⟨header, hheader, heq⟩ := hopen now_ms flow packet
    rw [heq] at hok
    obtain ⟨flow', hflow, hret⟩ := except_bind_eq_ok.1 hok
    cases hret
    exact .inr ⟨target_addr, socket, flow', header, hmay, htarget, hlen, hslot, hflow, hheader, rfl,
      rfl⟩
  · obtain ⟨refusal, hrefusal, hrefused⟩ := openClient_of_not_mayOpen hmay
    rw [hrefused] at hok
    cases hok
    exact .inl ⟨rfl, hrefusal⟩

/-- Handling a packet comes to one of these. -/
theorem handled_of_eq_ok {io : TunneledIo} {now_ms : UInt64} {flow : UdpFlow} {packet : Packet}
    {effects : List Effect} (h : c.Valid)
    (hok : c.handleTunneledPacket io now_ms flow packet = .ok (c', effects)) :
    Handled io c now_ms flow packet c' effects := by
  unfold handleTunneledPacket at hok
  cases hext : flow.extension with
  | none =>
    rw [hext] at hok
    cases hok
    exact Handled.ignored (by simp [hext])
  | some ext =>
    simp only [hext] at hok
    cases horigin : io.lookup.lookup ext.tunnel_id.val false with
    | none =>
      rw [horigin] at hok
      cases hok
      exact Handled.ignored (by simp [hext, horigin])
    | some origin =>
      simp only [horigin] at hok
      have hfound := found_findClient h.indexed ⟨flow.src, ext.tunnel_id.val⟩ io.ended
      rcases hr : c.findClient ⟨flow.src, ext.tunnel_id.val⟩ io.ended with ⟨found, c₁, removed⟩
      rw [hr] at hok hfound
      cases found with
      | some slot =>
        cases hfound with
        | @live slot client hlookup hget hopen =>
          simp only [reuse, setClient, Slab.get_set_self hget] at hok
          cases hok
          exact Handled.reused hext horigin hlookup hget hopen
      | none =>
        simp only at hok
        cases hopen : c₁.openClient io now_ms flow ext origin ⟨flow.src, ext.tunnel_id.val⟩
            packet with
        | error p =>
          rw [hopen] at hok
          cases hok
        | ok r =>
          obtain ⟨c₂, opened⟩ := r
          rw [hopen] at hok
          cases hok
          rcases openClient_eq_ok (hfound.none_valid h).1.indexed hopen with ⟨rfl, heffects⟩ |
            ⟨target_addr, socket, flow', header, hmay, htarget, hlen, hslot, hflow, hheader, rfl,
              rfl⟩
          · exact Handled.refused hext hfound heffects
          · have hopens : Opens io c flow ext :=
              ⟨hext, by rw [hr], origin, horigin, by rw [hr]; exact hmay⟩
            exact Handled.opened hext horigin hopens hfound htarget hlen hslot hflow hheader

/-- The ids of clients fit their slots. -/
theorem toNat_ofNat_vacantKey {clients : σ} (h : Slab.vacantKey clients < 2 ^ 32) :
    (UInt32.ofNat (Slab.vacantKey clients)).toNat = Slab.vacantKey clients :=
  UInt32.toNat_ofNat_of_lt' h

/-- Handling a packet keeps the clients valid. -/
theorem Handled.valid {io : TunneledIo} {now_ms : UInt64} {flow : UdpFlow} {packet : Packet}
    {effects : List Effect} (h : c.Valid) (hh : Handled io c now_ms flow packet c' effects) :
    c'.Valid := by
  cases hh with
  | ignored hnone => exact h
  | @reused ext origin slot client hext horigin hlookup hget hopen =>
    have hv := h.indexed.client slot client hget
    have hget₁ := Slab.get_set_self hget client
    -- The new flow has the old ports and the old offset.
    have hv' : Client.Valid slot { client with
        from_tunnel_ts := now_ms
        flow := client.flow.updateClientServerId ext.client_server_id } := by
      obtain ⟨ext', hext', hoff⟩ := hv.extension
      refine ⟨hv.slot_eq, ⟨{ ext' with client_server_id := ext.client_server_id }, ?_, hoff⟩, ?_⟩
      · cases hflow : client.flow <;> simp_all [UdpFlow.updateClientServerId,
          UdpFlow.setExtension, UdpFlow.extension]
      · have hport := hv.port_le
        cases hflow : client.flow <;> simp_all [UdpFlow.updateClientServerId,
          UdpFlow.setExtension, UdpFlow.srcPort]
    refine ⟨(h.indexed.set hget rfl hv).set hget₁ rfl hv', ?_⟩
    have hlen : Slab.len (Slab.set (Slab.set c.virtual_clients slot client) slot { client with
        from_tunnel_ts := now_ms
        flow := client.flow.updateClientServerId ext.client_server_id }) =
        Slab.len c.virtual_clients := by
      rw [Slab.len_set _ (Option.isSome_of_eq_some hget₁),
        Slab.len_set _ (Option.isSome_of_eq_some hget)]
    exact h.active_udp.trans hlen.symm
  | refused hext hfound heffects => exact (hfound.none_valid h).1
  | @opened ext origin c₁ removed header target_addr socket flow' hext horigin hopens hfound htarget
      hlen hslot hflow hheader =>
    obtain ⟨h₁, hnone⟩ := hfound.none_valid h
    obtain ⟨hext', hport, -, -⟩ := clientFlow_eq_ok hext hflow
    have hv : Client.Valid (Slab.vacantKey c₁.virtual_clients) (UdpClients.opened now_ms c₁
        ⟨flow.src, ext.tunnel_id.val⟩ socket target_addr ext.port_offset flow') := by
      have hlt := flow.dstPort.toNat_lt
      refine ⟨?_, ⟨_, hext', rfl⟩, ?_⟩
      · exact (unpackSlot_packClientId _ _).trans (toNat_ofNat_vacantKey hslot)
      · simp only [UdpClients.opened]
        omega
    exact (h₁.indexed.insert hnone hv hlen).setUdp

/-! ## Packets from the origins and old clients -/

/-- Dispatching a packet returns. -/
theorem dispatchOriginPacket_eq_ok (h : c.Valid) (now_ms : UInt64) (packet : UdpReceivedPacket) :
    ∃ c' outcome, c.dispatchOriginPacket now_ms packet = .ok (c', outcome) := by
  unfold dispatchOriginPacket
  cases hget : Slab.get c.virtual_clients (unpackSlot packet.rx_id) with
  | none => exact ⟨c, _, rfl⟩
  | some client =>
    obtain ⟨flow, hflow⟩ := (h.indexed.client _ _ hget).replyFlow_eq_ok
    simp only [hflow]
    by_cases hid : client.id = packet.rx_id
    · by_cases haddr : packet.source = client.target_addr
      · simp only [hid, haddr, ne_eq, not_true, if_false]
        exact ⟨_, _, rfl⟩
      · simp only [hid, haddr, ne_eq, not_true, not_false_eq_true, if_true, if_false]
        exact ⟨_, _, rfl⟩
    · simp only [hid, ne_eq, not_false_eq_true, if_true]
      exact ⟨_, _, rfl⟩

/-- What dispatching a packet comes to when it returns: it is rejected and nothing changes, or it is
a reply of the client in its slot, which is marked as active. -/
theorem dispatchOriginPacket_cases {now_ms : UInt64} {packet : UdpReceivedPacket}
    {outcome : Dispatched}
    (hok : c.dispatchOriginPacket now_ms packet = .ok (c', outcome)) :
    (c' = c ∧ ∀ flow packet, outcome ≠ .reply flow packet) ∨
    ∃ client flow, Slab.get c.virtual_clients (unpackSlot packet.rx_id) = some client ∧
      client.id = packet.rx_id ∧ packet.source = client.target_addr ∧
      replyFlow client.flow client.port_offset = .ok flow ∧
      outcome = .reply flow packet.packet ∧
      c' = { c.setClient (unpackSlot packet.rx_id) { client with from_origin_ts := now_ms } with
        stats := { c.stats with
          bytes_out := c.stats.bytes_out + UInt64.ofNat packet.packet.len } } := by
  unfold dispatchOriginPacket at hok
  cases hget : Slab.get c.virtual_clients (unpackSlot packet.rx_id) with
  | none =>
    rw [hget] at hok
    cases hok
    exact .inl ⟨rfl, by simp⟩
  | some client =>
    simp only [hget] at hok
    by_cases hid : client.id = packet.rx_id
    · by_cases haddr : packet.source = client.target_addr
      · rw [if_neg (not_not.2 hid), if_neg (not_not.2 haddr)] at hok
        cases hflow : replyFlow client.flow client.port_offset with
        | error p =>
          rw [hflow] at hok
          cases hok
        | ok flow =>
          rw [hflow] at hok
          cases hok
          exact .inr ⟨client, flow, rfl, hid, haddr, hflow, rfl, rfl⟩
      · simp only [hid, haddr, ne_eq, not_true, not_false_eq_true, if_true, if_false] at hok
        cases hok
        exact .inl ⟨rfl, by simp⟩
    · simp only [hid, ne_eq, not_false_eq_true, if_true] at hok
      cases hok
      exact .inl ⟨rfl, by simp⟩

/-- Dispatching a packet keeps the clients valid. -/
theorem dispatchOriginPacket_valid {now_ms : UInt64} {packet : UdpReceivedPacket}
    {outcome : Dispatched} (h : c.Valid)
    (hok : c.dispatchOriginPacket now_ms packet = .ok (c', outcome)) : c'.Valid := by
  rcases dispatchOriginPacket_cases hok with ⟨rfl, -⟩ | ⟨client, flow, hget, -, -, -, -, rfl⟩
  · exact h
  · have hv := h.indexed.client _ _ hget
    have hlen := Slab.len_set { client with from_origin_ts := now_ms }
      (Option.isSome_of_eq_some hget)
    have hv' : Client.Valid (unpackSlot packet.rx_id) { client with from_origin_ts := now_ms } :=
      ⟨hv.slot_eq, hv.extension, hv.port_le⟩
    exact ⟨h.indexed.set hget rfl hv', h.active_udp.trans hlen.symm⟩

end UdpClients

/-- A client without the state of its receiver. -/
def Client.forgetReceiver (client : Client) : Client :=
  { client with receiver := UdpReceiver.create client.id }

namespace UdpClients

variable {c c' : UdpClients σ}

/-- Between two states only receivers have been polled and clients in some slots removed. -/
structure Frame (c c' : UdpClients σ) (slots : List ℕ) : Prop where
  /-- The lookup and the slab still agree. -/
  indexed : Indexed c'.virtual_client_lookup c'.virtual_clients
  /-- The clients in other slots are the same, up to their receivers. -/
  get_eq : ∀ k, (Slab.get c'.virtual_clients k).map Client.forgetReceiver =
    if k ∈ slots then none else (Slab.get c.virtual_clients k).map Client.forgetReceiver
  /-- No client was opened. -/
  generation_eq : c'.next_client_generation = c.next_client_generation
  /-- The statistics are the same. -/
  stats_eq : c'.stats = c.stats

/-- Frames compose. -/
theorem Frame.trans {c₁ c₂ c₃ : UdpClients σ} {slots slots' : List ℕ} (h₁ : Frame c₁ c₂ slots)
    (h₂ : Frame c₂ c₃ slots') : Frame c₁ c₃ (slots ++ slots') := by
  refine ⟨h₂.indexed, fun k => ?_, h₂.generation_eq.trans h₁.generation_eq,
    h₂.stats_eq.trans h₁.stats_eq⟩
  rw [h₂.get_eq, h₁.get_eq]
  by_cases h₁ : k ∈ slots <;> by_cases h₂ : k ∈ slots' <;> simp [h₁, h₂]

/-- The same slots have a client, apart from those that were removed. -/
theorem Frame.isSome_iff {slots : List ℕ} (h : Frame c c' slots) (k : ℕ) :
    (Slab.get c'.virtual_clients k).isSome ↔
      k ∉ slots ∧ (Slab.get c.virtual_clients k).isSome := by
  have hsome := congrArg Option.isSome (h.get_eq k)
  rw [Option.isSome_map] at hsome
  rw [hsome]
  by_cases hk : k ∈ slots <;> simp [hk]

/-- Polling a receiver changes nothing else. -/
theorem frame_pollReceiver (h : Indexed c.virtual_client_lookup c.virtual_clients) (slot : ℕ)
    (ended : Bool) : Frame c (c.pollReceiver slot ended).2 [] := by
  unfold pollReceiver
  cases hget : Slab.get c.virtual_clients slot with
  | none => exact ⟨h, by simp, rfl, rfl⟩
  | some client =>
    have hsome : (Slab.get c.virtual_clients slot).isSome := Option.isSome_of_eq_some hget
    refine ⟨h.set hget rfl ((h.client slot client hget).setReceiver _), fun k => ?_, rfl, rfl⟩
    simp only [List.not_mem_nil, if_false]
    rw [Slab.get_set _ _ _ _ hsome]
    by_cases hk : k = slot
    · subst hk
      simp [hget, Client.forgetReceiver]
    · simp [hk]

/-- The first loop polls the receivers and collects some of the slots. -/
theorem foldl_pollOld (io : ClearIo) (now_ms : UInt64) (slots : List ℕ)
    (acc : UdpClients σ × List ℕ)
    (h : Indexed acc.1.virtual_client_lookup acc.1.virtual_clients) :
    Frame acc.1 (slots.foldl (pollOld io now_ms) acc).1 [] ∧
      ∃ old, (slots.foldl (pollOld io now_ms) acc).2 = acc.2 ++ old ∧ old.Sublist slots := by
  induction slots generalizing acc with
  | nil => exact ⟨⟨h, by simp, rfl, rfl⟩, [], by simp, List.Sublist.refl _⟩
  | cons slot slots ih =>
    -- One turn polls one receiver and collects its slot or not.
    have hturn : Frame acc.1 (pollOld io now_ms acc slot).1 [] ∧
        ∃ old, (pollOld io now_ms acc slot).2 = acc.2 ++ old ∧ old.Sublist [slot] := by
      have hpoll := frame_pollReceiver h slot (io.ended slot)
      unfold pollOld
      cases hget : Slab.get acc.1.virtual_clients slot with
      | none => exact ⟨⟨h, by simp, rfl, rfl⟩, [], by simp, List.nil_sublist _⟩
      | some client =>
        refine ⟨hpoll, ?_⟩
        simp only
        split
        · exact ⟨[slot], rfl, List.Sublist.refl _⟩
        · exact ⟨[], by simp, List.nil_sublist _⟩
    obtain ⟨hframe, old, hold, hsub⟩ := hturn
    obtain ⟨hframe', old', hold', hsub'⟩ := ih (pollOld io now_ms acc slot) hframe.indexed
    rw [List.foldl_cons]
    refine ⟨hframe.trans hframe', old ++ old', ?_, hsub.append hsub'⟩
    rw [hold', hold, List.append_assoc]

/-- One turn of the second loop shuts the task down and removes the client. -/
theorem removeOld_eq (io : ClearIo) (h : Indexed c.virtual_client_lookup c.virtual_clients)
    {slot : ℕ} {client : Client} (hget : Slab.get c.virtual_clients slot = some client) :
    removeOld io c slot = do
      client.receiver.shutdown (io.timedout slot)
      return { c with
        virtual_client_lookup := Function.update c.virtual_client_lookup client.key none
        virtual_clients := Slab.remove c.virtual_clients slot } := by
  simp only [removeOld, hget, h.lookup_key hget, ne_eq, not_true, if_false]

/-- The only panics of a shutdown are those of awaiting a channel that was given up, and of a task
that does not end in time. -/
theorem shutdown_eq_error {receiver : UdpReceiver} {timedout : Bool} {p : Panic}
    (h : receiver.shutdown timedout = .error p) : p = .polledAfterCompletion ∨ p = .explicit := by
  unfold UdpReceiver.shutdown at h
  split at h
  · cases h
    exact .inl rfl
  · split at h
    · cases h
      exact .inr rfl
    · cases h

/-- The second loop removes the clients in the slots, or a shutdown panics. -/
theorem foldlM_removeOld (io : ClearIo) (slots : List ℕ)
    (h : Indexed c.virtual_client_lookup c.virtual_clients) (hnodup : slots.Nodup)
    (hsome : ∀ k ∈ slots, (Slab.get c.virtual_clients k).isSome) :
    match slots.foldlM (removeOld io) c with
    | .ok c' => Frame c c' slots
    | .error p => p = .polledAfterCompletion ∨ p = .explicit := by
  induction slots generalizing c with
  | nil => exact ⟨h, by simp, rfl, rfl⟩
  | cons slot slots ih =>
    obtain ⟨client, hget⟩ := Option.isSome_iff_exists.1 (hsome slot (List.mem_cons_self))
    obtain ⟨hnot, hnodup'⟩ := List.nodup_cons.1 hnodup
    rw [List.foldlM_cons, removeOld_eq io h hget]
    cases hdown : client.receiver.shutdown (io.timedout slot) with
    | error p => exact shutdown_eq_error hdown
    | ok u =>
      -- What is left is the loop over the other slots, without this client.
      have hsome' : (Slab.get c.virtual_clients slot).isSome := Option.isSome_of_eq_some hget
      have hremove := fun j => Slab.get_remove c.virtual_clients slot j hsome'
      have hframe : Frame c { c with
          virtual_client_lookup := Function.update c.virtual_client_lookup client.key none
          virtual_clients := Slab.remove c.virtual_clients slot } [slot] := by
        refine ⟨h.remove hget, fun k => ?_, rfl, rfl⟩
        rw [hremove]
        by_cases hk : k = slot <;> simp [hk]
      have hrest : ∀ k ∈ slots, (Slab.get (Slab.remove c.virtual_clients slot) k).isSome := by
        intro k hk
        have hne : k ≠ slot := fun heq => hnot (heq ▸ hk)
        rw [hremove, if_neg hne]
        exact hsome k (List.mem_cons_of_mem _ hk)
      have hloop := ih hframe.indexed hnodup' hrest
      simp only [ok_bind, pure, Except.pure]
      split at hloop
      · exact hframe.trans hloop
      · exact hloop

/-- What clearing old clients comes to: some of them are removed, or a shutdown panics. -/
theorem clearOld_cases (h : c.Valid) (io : ClearIo) (now_ms : UInt64) :
    match c.clearOld io now_ms with
    | .ok (c', effects) => c'.Valid ∧ ∃ slots, effects = slots.map .removed ∧
        ∃ c₁, Frame c c₁ slots ∧ c' = c₁.setUdp
    | .error p => p = .polledAfterCompletion ∨ p = .explicit := by
  obtain ⟨hframe, old, hold, hsub⟩ :=
    foldl_pollOld io now_ms (Slab.keys c.virtual_clients) (c, []) h.indexed
  rw [List.nil_append] at hold
  unfold clearOld
  simp only [hold]
  set polled := ((Slab.keys c.virtual_clients).foldl (pollOld io now_ms) (c, [])).1
  set slots := (old.mergeSort (· ≤ ·)).reverse with hslots
  -- The slots to remove are slots with a client, each once.
  have hmem : ∀ k, k ∈ slots ↔ k ∈ old := by simp [hslots]
  have hnodup : slots.Nodup := by
    rw [hslots, List.nodup_reverse, (List.mergeSort_perm old _).nodup_iff]
    exact hsub.nodup (Slab.nodup_keys _)
  have hsome : ∀ k ∈ slots, (Slab.get polled.virtual_clients k).isSome := by
    intro k hk
    rw [hframe.isSome_iff]
    exact ⟨by simp, (Slab.mem_keys _ _).1 (hsub.subset ((hmem k).1 hk))⟩
  have hloop := foldlM_removeOld io slots hframe.indexed hnodup hsome
  cases hfold : slots.foldlM (removeOld io) polled with
  | error p =>
    rw [hfold] at hloop
    exact hloop
  | ok c₁ =>
    rw [hfold] at hloop
    have hall := hframe.trans hloop
    rw [List.nil_append] at hall
    exact ⟨hall.indexed.setUdp, slots, rfl, c₁, hall, rfl⟩

/-! ## Reachable states -/

/-- Every call keeps the clients valid. -/
theorem step_valid {call : Call} {returned : Returned} (h : c.Valid)
    (hstep : c.step call = .ok (c', returned)) : c'.Valid := by
  cases call with
  | handleTunneledPacket io now_ms flow packet =>
    obtain ⟨⟨c₁, effects⟩, hcall, hret⟩ := except_bind_eq_ok.1 hstep
    cases hret
    exact (handled_of_eq_ok h hcall).valid h
  | dispatchOriginPacket now_ms packet =>
    obtain ⟨⟨c₁, outcome⟩, hcall, hret⟩ := except_bind_eq_ok.1 hstep
    cases hret
    exact dispatchOriginPacket_valid h hcall
  | clearOld io now_ms =>
    obtain ⟨⟨c₁, effects⟩, hcall, hret⟩ := except_bind_eq_ok.1 hstep
    cases hret
    have hcases := clearOld_cases h io now_ms
    rw [hcall] at hcases
    exact hcases.1

/-- At first there are no clients. -/
theorem new_valid : (new : UdpClients σ).Valid := by
  have hempty : ∀ k, Slab.get (Slab.empty : σ) k = none := Slab.get_empty
  have hlen : Slab.len (Slab.empty : σ) = 0 := by
    rw [Slab.len_eq, List.length_eq_zero_iff, List.eq_nil_iff_forall_not_mem]
    intro k
    rw [Slab.mem_keys, hempty]
    simp
  refine ⟨⟨fun key slot => ?_, fun slot client hget => ?_, ?_, ?_⟩, ?_⟩
  · simp [new, hempty]
  · simp [new, hempty] at hget
  · simp [new, hlen]
  · simp [new, Slab.slots_empty]
  · simp [new, hlen]

/-- In every reachable state the clients are valid. -/
theorem valid_of_reachable (h : Reachable step new c) : c.Valid :=
  h.invariant new_valid fun _ _ _ _ hv hstep => step_valid hv hstep

/-- In every state that calls which return lead to, the lookup and the slab are inverse to each
other, the clients are valid, and the published number of active flows is right. Hence dispatching a
packet does not panic, and clearing old clients only where a task's shutdown does. -/
theorem reachable_invariant (h : Reachable step new c) :
    c.Valid ∧
    (∀ now_ms packet, ∃ c' outcome, c.dispatchOriginPacket now_ms packet = .ok (c', outcome)) ∧
    ∀ io now_ms p, c.clearOld io now_ms = .error p →
      p = .polledAfterCompletion ∨ p = .explicit := by
  have hv := valid_of_reachable h
  refine ⟨hv, dispatchOriginPacket_eq_ok hv, fun io now_ms p herror => ?_⟩
  have hcases := clearOld_cases hv io now_ms
  rw [herror] at hcases
  exact hcases

end UdpClients

end

/-! ## A sample

A tunnel with two ports to two ports of the local host, and a player's packets to it. -/

namespace Sample

/-- The origin of the tunnel. -/
def origin : OriginResource where
  tunnel_id := 7
  proto := .udp
  target := .port (.ipAddress (.v4 0x7f000001)) 25565
  port_count := 2
  proxy_protocol := none

/-- Everything is granted, and no task has ended. -/
def io : TunneledIo where
  lookup := OriginLookup.update ⟨fun _ => none⟩ [origin]
  lookup_host _ _ := none
  ended := false
  limiter := true
  bind sockets _ :=
    if sockets < maxSockets then .ok 5 else .error ⟨.other, "Too many open files (os error 24)"⟩
  limited _ _ hlimit := ⟨_, if_neg (Nat.not_lt.2 hlimit)⟩

/-- The flow from a player to a port of the tunnel server, which is the port of the tunnel at an
offset. -/
def flow (port port_offset : UInt16) (frag : Option FragmentInfo) : UdpFlow :=
  .v4 ⟨0x0a141e28, 5000⟩ ⟨0x09140328, port⟩ frag
    (some ⟨⟨1, by decide⟩, ⟨7, by decide⟩, port_offset⟩)

/-- A packet with one byte. -/
def packet : Packet where
  buffer := List.replicate packetLen 1
  len := 1
  length_buffer := List.length_replicate
  len_le := by decide

/-- The player's packet to a port. -/
def call (port port_offset : UInt16) : UdpClients.Call :=
  .handleTunneledPacket io 1000 (flow port port_offset none) packet

/-- The clients after a call. -/
def after (c : UdpClients (SlabVec Client)) (call : UdpClients.Call) :
    UdpClients (SlabVec Client) :=
  match c.step call with
  | .ok (c', _) => c'
  | .error _ => c

end Sample

set_option maxRecDepth 10000 in
/-- After a packet to the second port of the tunnel there is one client, and the state is valid. -/
theorem UdpClients.reachable_invariant_sample :
    (Sample.after new (Sample.call 30001 1)).Valid ∧
      Slab.len (Sample.after new (Sample.call 30001 1)).virtual_clients = 1 := by
  have hstep : (new : UdpClients (SlabVec Client)).step (Sample.call 30001 1) =
      .ok (Sample.after new (Sample.call 30001 1), .handled [.created 0 (packClientId 0 1),
        .sent 5 [1] (.v4 ⟨0x7f000001, 25566⟩)]) := rfl
  exact ⟨(reachable_invariant ⟨_, Run.nil.snoc hstep⟩).1, rfl⟩

end PlayitAgent
