import PlayitAgent.Udp.ClientsInvariant

/-!
# What a call does to the slots

The calls on the clients, as transitions of the slab seen slot by slot: some clients are removed,
one client is changed, or one client is opened in a free slot. `Stepped` lists the transitions with
what each call returns, and every property of the runs is an analysis of its cases.
-/

namespace PlayitAgent

namespace UdpClients

variable {σ : Type} [Slab σ Client] {c c' : UdpClients σ}

/-! ## Changes of the slab -/

/-- The clients in some slots are removed. The others are the same, up to their receivers. -/
structure Removes (c c' : UdpClients σ) (slots : List ℕ) : Prop where
  /-- The clients that are left. -/
  get_eq : ∀ k, (Slab.get c'.virtual_clients k).map Client.forgetReceiver =
    if k ∈ slots then none else (Slab.get c.virtual_clients k).map Client.forgetReceiver
  /-- No client was opened. -/
  generation_eq : c'.next_client_generation = c.next_client_generation

/-- The client in a slot is replaced. -/
structure Sets (c c' : UdpClients σ) (slot : ℕ) (client : Client) : Prop where
  /-- The other clients are the same. -/
  get_eq : ∀ k, Slab.get c'.virtual_clients k =
    if k = slot then some client else Slab.get c.virtual_clients k
  /-- No client was opened. -/
  generation_eq : c'.next_client_generation = c.next_client_generation

/-- A client is put into the vacant slot. -/
structure Inserts (c c' : UdpClients σ) (client : Client) : Prop where
  /-- The other clients are the same. -/
  get_eq : ∀ k, Slab.get c'.virtual_clients k =
    if k = Slab.vacantKey c.virtual_clients then some client else Slab.get c.virtual_clients k
  /-- One client was opened. -/
  generation_eq : c'.next_client_generation = c.next_client_generation + 1

/-- Nothing is removed. -/
theorem Removes.refl (c : UdpClients σ) : Removes c c [] :=
  ⟨fun k => by simp, rfl⟩

/-- A client that is left was there before, up to its receiver, and its slot is not one of those
that were freed. -/
theorem Removes.get_eq_some {slots : List ℕ} {k : ℕ} {client : Client} (h : Removes c c' slots)
    (hget : Slab.get c'.virtual_clients k = some client) :
    k ∉ slots ∧ ∃ client₀, Slab.get c.virtual_clients k = some client₀ ∧
      client₀.forgetReceiver = client.forgetReceiver := by
  have hk := h.get_eq k
  rw [hget, Option.map_some] at hk
  split at hk
  · cases hk
  · next hmem => exact ⟨hmem, Option.map_eq_some_iff.1 hk.symm⟩

/-- Assigning to a slot that has a client replaces it. -/
theorem sets_setClient {slot : ℕ} {client : Client} (client' : Client)
    (hget : Slab.get c.virtual_clients slot = some client) :
    Sets c (c.setClient slot client') slot client' :=
  ⟨fun k => Slab.get_set _ _ _ k (Option.isSome_of_eq_some hget), rfl⟩

/-- Looking for a client that cannot be reused removes at most one client. -/
theorem Found.removes {key : UdpClientKey} {ended : Bool} {removed : List Effect}
    (h : Found c key ended (none, c', removed)) :
    ∃ slots, removed = slots.map .removed ∧ Removes c c' slots := by
  cases h with
  | absent hlookup => exact ⟨[], rfl, Removes.refl c⟩
  | @dead slot client hlookup hget hclosed =>
    have hset := sets_setClient { client with receiver := (client.receiver.isClosed ended).2 } hget
    have hsome := hset.get_eq slot
    rw [if_pos rfl] at hsome
    refine ⟨[slot], rfl, fun k => ?_, rfl⟩
    simp only [discard, setUdp, hsome, Option.isSome_some, if_true]
    rw [Slab.get_remove _ _ _ (Option.isSome_of_eq_some hsome), hset.get_eq]
    by_cases hk : k = slot <;> simp [hk]

/-! ## Transitions -/

/-- The packet of a flow is forwarded by a client: its tunnel has an origin, and the client stands
under its key, in a slot, with a task that has not ended. -/
structure Reuses (io : TunneledIo) (c : UdpClients σ) (flow : UdpFlow) (ext : UdpFlowExtension)
    (origin : OriginResource) (slot : ℕ) (client : Client) : Prop where
  extension_eq : flow.extension = some ext
  origin_eq : io.lookup.lookup ext.tunnel_id.val false = some origin
  lookup_eq : c.virtual_client_lookup ⟨flow.src, ext.tunnel_id.val⟩ = some slot
  get_eq : Slab.get c.virtual_clients slot = some client
  not_closed : (client.receiver.isClosed io.ended).1 = false

/-- There is one client at most that forwards a packet. -/
theorem Reuses.unique {io : TunneledIo} {flow : UdpFlow} {ext ext' : UdpFlowExtension}
    {origin origin' : OriginResource} {slot slot' : ℕ} {client client' : Client}
    (h : Reuses io c flow ext origin slot client)
    (h' : Reuses io c flow ext' origin' slot' client') :
    ext = ext' ∧ origin = origin' ∧ slot = slot' ∧ client = client' := by
  obtain rfl : ext = ext' := Option.some.inj (h.extension_eq.symm.trans h'.extension_eq)
  obtain rfl : slot = slot' := Option.some.inj (h.lookup_eq.symm.trans h'.lookup_eq)
  exact ⟨rfl, Option.some.inj (h.origin_eq.symm.trans h'.origin_eq), rfl,
    Option.some.inj (h.get_eq.symm.trans h'.get_eq)⟩

/-- When no client is found, none forwards the packet. -/
theorem Found.not_reuses {io : TunneledIo} {flow : UdpFlow} {ext : UdpFlowExtension}
    {removed : List Effect} (hext : flow.extension = some ext)
    (h : Found c ⟨flow.src, ext.tunnel_id.val⟩ io.ended (none, c', removed)) :
    ∀ ext origin slot client, ¬Reuses io c flow ext origin slot client := by
  intro ext' origin slot client hr
  obtain rfl : ext = ext' := Option.some.inj (hext.symm.trans hr.extension_eq)
  have hlookup := hr.lookup_eq
  cases h with
  | absent hnone =>
    rw [hnone] at hlookup
    cases hlookup
  | @dead slot' client' hlookup' hget' hclosed =>
    obtain rfl : slot' = slot := Option.some.inj (hlookup'.symm.trans hlookup)
    obtain rfl : client' = client := Option.some.inj (hget'.symm.trans hr.get_eq)
    rw [hr.not_closed] at hclosed
    cases hclosed

/-- What a call that returned did to the clients and what it returned. -/
inductive Stepped (c c' : UdpClients σ) : Call → Returned → Prop
  /-- A packet from the tunnel is not forwarded. -/
  | dropped {io : TunneledIo} {now_ms : UInt64} {flow : UdpFlow} {packet : Packet}
      {slots : List ℕ} {rest : List Effect}
      (hnone : ∀ ext origin slot client, ¬Reuses io c flow ext origin slot client)
      (hremoves : Removes c c' slots)
      (hrest : rest = [] ∨ rest = [.newClientRatelimit]) :
      Stepped c c' (.handleTunneledPacket io now_ms flow packet)
        (.handled (slots.map .removed ++ rest))
  /-- A packet from the tunnel is forwarded by the client that it belongs to. -/
  | reused {io : TunneledIo} {now_ms : UInt64} {flow : UdpFlow} {packet : Packet}
      {ext : UdpFlowExtension} {origin : OriginResource} {slot : ℕ} {client : Client}
      (hreuses : Reuses io c flow ext origin slot client)
      (hsets : Sets c c' slot { client with
        from_tunnel_ts := now_ms
        flow := client.flow.updateClientServerId ext.client_server_id }) :
      Stepped c c' (.handleTunneledPacket io now_ms flow packet)
        (.handled [.reused slot, .sent client.socket packet.asRef client.target_addr])
  /-- A packet from the tunnel opens a client. -/
  | opened {io : TunneledIo} {now_ms : UInt64} {flow : UdpFlow} {packet : Packet}
      {ext : UdpFlowExtension} {origin : OriginResource} {c₁ : UdpClients σ} {slots : List ℕ}
      {header : List Effect} {target_addr : SocketAddr} {socket : Socket} {flow' : UdpFlow}
      (hext : flow.extension = some ext)
      (horigin : io.lookup.lookup ext.tunnel_id.val false = some origin)
      (hopens : Opens io c flow ext)
      (hnone : ∀ ext origin slot client, ¬Reuses io c flow ext origin slot client)
      (hremoves : Removes c c₁ slots)
      (htarget : origin.resolveLocal io.lookup_host ext.port_offset = some target_addr)
      (hslot : Slab.vacantKey c₁.virtual_clients < 2 ^ 32)
      (hflow : clientFlow flow ext.port_offset = .ok flow')
      (hheader : proxyHeader origin.proxy_protocol flow socket target_addr = .ok header)
      (hinserts : Inserts c₁ c' (UdpClients.opened now_ms c₁ ⟨flow.src, ext.tunnel_id.val⟩ socket
        target_addr ext.port_offset flow')) :
      Stepped c c' (.handleTunneledPacket io now_ms flow packet)
        (.handled (slots.map .removed ++ (.created (Slab.vacantKey c₁.virtual_clients)
          (packClientId (UInt32.ofNat (Slab.vacantKey c₁.virtual_clients))
            c₁.next_client_generation) :: (header ++ [.sent socket packet.asRef target_addr]))))
  /-- A packet from the origin's side is rejected. -/
  | rejected {now_ms : UInt64} {packet : UdpReceivedPacket} {outcome : Dispatched}
      (heq : c' = c) (hreject : ∀ flow packet, outcome ≠ .reply flow packet) :
      Stepped c c' (.dispatchOriginPacket now_ms packet) (.dispatched outcome)
  /-- A packet from the origin's side is a reply of its client. -/
  | replied {now_ms : UInt64} {packet : UdpReceivedPacket} {client : Client} {flow : UdpFlow}
      (hget : Slab.get c.virtual_clients (unpackSlot packet.rx_id) = some client)
      (hid : client.id = packet.rx_id) (hsource : packet.source = client.target_addr)
      (hflow : replyFlow client.flow client.port_offset = .ok flow)
      (hsets : Sets c c' (unpackSlot packet.rx_id) { client with from_origin_ts := now_ms }) :
      Stepped c c' (.dispatchOriginPacket now_ms packet)
        (.dispatched (.reply flow packet.packet))
  /-- Old clients are removed. -/
  | cleared {io : ClearIo} {now_ms : UInt64} {slots : List ℕ} (hremoves : Removes c c' slots) :
      Stepped c c' (.clearOld io now_ms) (.cleared (slots.map .removed))

/-- Handling a packet is one of the first three transitions. -/
theorem Handled.stepped {io : TunneledIo} {now_ms : UInt64} {flow : UdpFlow} {packet : Packet}
    {effects : List Effect} (h : Handled io c now_ms flow packet c' effects) :
    Stepped c c' (.handleTunneledPacket io now_ms flow packet) (.handled effects) := by
  cases h with
  | ignored hnone =>
    refine Stepped.dropped (fun ext origin slot client hr => ?_) (Removes.refl c) (.inl rfl)
    have horigin := hr.origin_eq
    rw [hnone ext hr.extension_eq] at horigin
    cases horigin
  | @reused ext origin slot client hext horigin hlookup hget hopen =>
    -- The client is written twice, first with its polled receiver.
    have hfirst := sets_setClient client hget
    have hsecond := sets_setClient { client with
      from_tunnel_ts := now_ms
      flow := client.flow.updateClientServerId ext.client_server_id }
      ((hfirst.get_eq slot).trans (if_pos rfl))
    refine Stepped.reused ⟨hext, horigin, hlookup, hget, hopen⟩ ⟨fun k => ?_, rfl⟩
    refine (hsecond.get_eq k).trans ?_
    rw [hfirst.get_eq]
    by_cases hk : k = slot <;> simp [hk]
  | refused hext hfound heffects =>
    obtain ⟨slots, rfl, hremoves⟩ := hfound.removes
    exact Stepped.dropped (hfound.not_reuses hext) hremoves heffects
  | opened hext horigin hopens hfound htarget hlen hslot hflow hheader =>
    obtain ⟨slots, rfl, hremoves⟩ := hfound.removes
    exact Stepped.opened hext horigin hopens (hfound.not_reuses hext) hremoves htarget hslot hflow
      hheader ⟨fun k => Slab.get_insert _ _ k, rfl⟩

/-- A call that returns makes one of the transitions. -/
theorem stepped_of_eq_ok {call : Call} {returned : Returned} (h : c.Valid)
    (hstep : c.step call = .ok (c', returned)) : Stepped c c' call returned := by
  cases call with
  | handleTunneledPacket io now_ms flow packet =>
    obtain ⟨⟨c₁, effects⟩, hcall, hret⟩ := except_bind_eq_ok.1 hstep
    cases hret
    exact (handled_of_eq_ok h hcall).stepped
  | dispatchOriginPacket now_ms packet =>
    obtain ⟨⟨c₁, outcome⟩, hcall, hret⟩ := except_bind_eq_ok.1 hstep
    cases hret
    rcases dispatchOriginPacket_cases hcall with ⟨rfl, hreject⟩ |
      ⟨client, flow, hget, hid, hsource, hflow, rfl, rfl⟩
    · exact Stepped.rejected rfl hreject
    · exact Stepped.replied hget hid hsource hflow
        ⟨(sets_setClient { client with from_origin_ts := now_ms } hget).get_eq, rfl⟩
  | clearOld io now_ms =>
    obtain ⟨⟨c₁, effects⟩, hcall, hret⟩ := except_bind_eq_ok.1 hstep
    cases hret
    have hcases := clearOld_cases h io now_ms
    rw [hcall] at hcases
    obtain ⟨-, slots, rfl, c₂, hframe, rfl⟩ := hcases
    exact Stepped.cleared ⟨hframe.get_eq, hframe.generation_eq⟩

/-! ## Clients across transitions -/

/-- A client goes on as another one: its receiver, its times and the client id of its flow may
change. -/
structure Continues (client client' : Client) : Prop where
  /-- The key is the same. -/
  key_eq : client'.key = client.key
  /-- The address of the origin is the same. -/
  target_addr_eq : client'.target_addr = client.target_addr
  /-- The offset is the same. -/
  port_offset_eq : client'.port_offset = client.port_offset
  /-- The fragment information of the flow is the same. -/
  frag_eq : client'.flow.frag = client.flow.frag

/-- A client goes on with another receiver. -/
theorem continues_of_forgetReceiver {client client' : Client}
    (h : client.forgetReceiver = client'.forgetReceiver) : Continues client client' :=
  ⟨(congrArg Client.key h).symm, (congrArg Client.target_addr h).symm,
    (congrArg Client.port_offset h).symm, (congrArg (UdpFlow.frag ∘ Client.flow) h).symm⟩

/-- The fragment information does not depend on the client id. -/
theorem frag_updateClientServerId (flow : UdpFlow) (client_server_id : NonZeroU64) :
    (flow.updateClientServerId client_server_id).frag = flow.frag := by
  cases flow <;> rfl

/-- A client after a transition is one from before it that goes on in its slot, or it was opened. -/
theorem Stepped.get_cases {call : Call} {returned : Returned} (h : Stepped c c' call returned)
    {k : ℕ} {client' : Client} (hget' : Slab.get c'.virtual_clients k = some client') :
    (∃ client, Slab.get c.virtual_clients k = some client ∧ Continues client client') ∨
    ∃ io now_ms flow packet ext origin,
      call = .handleTunneledPacket io now_ms flow packet ∧ Opens io c flow ext ∧
      flow.extension = some ext ∧
      io.lookup.lookup ext.tunnel_id.val false = some origin ∧
      client'.key = ⟨flow.src, ext.tunnel_id.val⟩ ∧ client'.port_offset = ext.port_offset ∧
      origin.resolveLocal io.lookup_host ext.port_offset = some client'.target_addr ∧
      clientFlow flow ext.port_offset = .ok client'.flow := by
  cases h with
  | dropped hnone hremoves hrest =>
    obtain ⟨-, client, hget, hforget⟩ := hremoves.get_eq_some hget'
    exact .inl ⟨client, hget, continues_of_forgetReceiver hforget⟩
  | @reused io now_ms flow packet ext origin slot client hreuses hsets =>
    rw [hsets.get_eq] at hget'
    split at hget'
    · next hk =>
      cases hget'
      exact .inl ⟨client, hk ▸ hreuses.get_eq, rfl, rfl, rfl, frag_updateClientServerId _ _⟩
    · exact .inl ⟨client', hget', rfl, rfl, rfl, rfl⟩
  | @opened io now_ms flow packet ext origin c₁ slots header target_addr socket flow' hext horigin
      hopens hnone hremoves htarget hslot hflow hheader hinserts =>
    rw [hinserts.get_eq] at hget'
    split at hget'
    · cases hget'
      exact .inr ⟨io, now_ms, flow, packet, ext, origin, rfl, hopens, hext, horigin, rfl, rfl,
        htarget, hflow⟩
    · obtain ⟨-, client, hget, hforget⟩ := hremoves.get_eq_some hget'
      exact .inl ⟨client, hget, continues_of_forgetReceiver hforget⟩
  | rejected heq hreject => exact .inl ⟨client', heq ▸ hget', rfl, rfl, rfl, rfl⟩
  | @replied now_ms packet client flow hget hid hsource hflow hsets =>
    rw [hsets.get_eq] at hget'
    split at hget'
    · next hk =>
      cases hget'
      exact .inl ⟨client, hk ▸ hget, rfl, rfl, rfl, rfl⟩
    · exact .inl ⟨client', hget', rfl, rfl, rfl, rfl⟩
  | cleared hremoves =>
    obtain ⟨-, client, hget, hforget⟩ := hremoves.get_eq_some hget'
    exact .inl ⟨client, hget, continues_of_forgetReceiver hforget⟩

end UdpClients

end PlayitAgent
