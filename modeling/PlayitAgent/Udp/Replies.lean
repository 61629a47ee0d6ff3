import PlayitAgent.Udp.Tunneled

/-!
# Replies

What `dispatch_origin_packet` returns, over whole runs. Packets from the origin's side wait in a
channel while clients are removed and slots are used again, so the slot in a packet's id may belong
to another client by the time the packet is dispatched. `History` follows the clients of a run from
what its calls did: a reply goes out on the flow of the client whose task received it, and with the
client id of the last packet that was forwarded for that client.

The flow of a client is the flow of the packet that opened it, with its fragment information, and
that comes back in every reply.
-/

namespace PlayitAgent

/-! ## Flows -/

namespace UdpFlow

/-- The last client id counts. -/
theorem updateClientServerId_updateClientServerId (flow : UdpFlow) (first second : NonZeroU64) :
    (flow.updateClientServerId first).updateClientServerId second =
      flow.updateClientServerId second := by
  cases flow with
  | v4 src dst frag extension => cases extension <;> rfl
  | v6 src dst extension => cases extension <;> rfl

/-- A flow already has its client id. -/
theorem updateClientServerId_self {flow : UdpFlow} {ext : UdpFlowExtension}
    (h : flow.extension = some ext) : flow.updateClientServerId ext.client_server_id = flow := by
  cases flow with
  | v4 src dst frag extension =>
    obtain rfl : extension = some ext := h
    rfl
  | v6 src dst extension =>
    obtain rfl : extension = some ext := h
    rfl

end UdpFlow

/-- The flow of an answer has the client id of the client's flow. -/
theorem replyFlow_updateClientServerId {flow reply : UdpFlow} {port_offset : UInt16}
    (h : replyFlow flow port_offset = .ok reply) (client_server_id : NonZeroU64) :
    replyFlow (flow.updateClientServerId client_server_id) port_offset =
      .ok (reply.updateClientServerId client_server_id) := by
  unfold replyFlow at h
  split at h
  · split at h
    · next hfit =>
      cases h
      simp only [UdpFlow.updateClientServerId, UdpFlow.setExtension, UdpFlow.extension,
        Option.map_some, replyFlow, hfit, if_true]
      rfl
    · cases h
  · split at h
    · next hfit =>
      cases h
      simp only [UdpFlow.updateClientServerId, UdpFlow.setExtension, UdpFlow.extension,
        Option.map_some, replyFlow, hfit, if_true]
      rfl
    · cases h
  · cases h

/-- The port of a client is its first packet's port minus the offset, and the port of its answers is
that port plus the offset: the answers go back from where the first packet went to. -/
theorem replyFlow_of_clientFlow {flow flow' : UdpFlow} {ext : UdpFlowExtension}
    (hext : flow.extension = some ext) (h : clientFlow flow ext.port_offset = .ok flow') :
    replyFlow flow' ext.port_offset = .ok flow.flip := by
  obtain ⟨-, -, -, hreply⟩ := clientFlow_eq_ok hext h
  rw [hreply]
  cases flow with
  | v4 src dst frag extension =>
    obtain rfl : extension = some ext := hext
    rfl
  | v6 src dst extension =>
    obtain rfl : extension = some ext := hext
    rfl

/-- The flow of a client has the client id of the packet that opened it. -/
theorem updateClientServerId_clientFlow {flow flow' : UdpFlow} {ext : UdpFlowExtension}
    {port_offset : UInt16} (hext : flow.extension = some ext)
    (h : clientFlow flow port_offset = .ok flow') :
    flow'.updateClientServerId ext.client_server_id = flow' := by
  obtain ⟨hext', -⟩ := clientFlow_eq_ok hext h
  have hself := UdpFlow.updateClientServerId_self hext'
  exact hself

namespace UdpClients

/-! ## The history of a run -/

/-- A client that was opened: the id that its task was started with, and the flow of the packet that
opened it. -/
structure Birth where
  id : UInt64
  flow : UdpFlow

/-- What a run has done to the clients. Clients are counted in the order in which they were
opened. -/
structure History where
  /-- The clients that were opened. -/
  births : List Birth
  /-- The client in each slot. -/
  owner : ℕ → Option ℕ
  /-- The flow of the last packet that was forwarded for each client. -/
  last : ℕ → Option UdpFlow

namespace History

/-- Nothing has happened. -/
def empty : History := ⟨[], fun _ => none, fun _ => none⟩

/-- The client in a slot was removed. -/
def remove (h : History) (slot : ℕ) : History :=
  { h with owner := Function.update h.owner slot none }

/-- The packet of a flow was forwarded by the client in a slot. -/
def forward (h : History) (flow : UdpFlow) (slot : ℕ) : History :=
  match h.owner slot with
  | some i => { h with last := Function.update h.last i (some flow) }
  | none => h

/-- The packet of a flow opened a client in a slot, and its task was started with an id. -/
def create (h : History) (flow : UdpFlow) (slot : ℕ) (id : UInt64) : History where
  births := h.births ++ [⟨id, flow⟩]
  owner := Function.update h.owner slot (some h.births.length)
  last := Function.update h.last h.births.length (some flow)

/-- One effect of handling the packet of a flow. -/
def effect (flow : UdpFlow) (h : History) : Effect → History
  | .removed slot => h.remove slot
  | .reused slot => h.forward flow slot
  | .created slot id => h.create flow slot id
  | _ => h

/-- One effect of clearing old clients. -/
def clear (h : History) : Effect → History
  | .removed slot => h.remove slot
  | _ => h

/-- One call. -/
def record (h : History) : Call × Returned → History
  | (.handleTunneledPacket _ _ flow _, .handled effects) => effects.foldl (effect flow) h
  | (_, .cleared effects) => effects.foldl clear h
  | _ => h

end History

/-- The history of a run, from its trace. -/
def history (trace : List (Call × Returned)) : History := trace.foldl History.record History.empty

namespace History

variable {h h' : History}

/-- The history without the clients in some slots. -/
def removeAll (h : History) (slots : List ℕ) : History :=
  { h with owner := fun k => if k ∈ slots then none else h.owner k }

/-- Slots are freed one after the other. -/
theorem foldl_remove (h : History) (slots : List ℕ) : slots.foldl remove h = h.removeAll slots := by
  induction slots generalizing h with
  | nil => simp [removeAll]
  | cons slot slots ih =>
    rw [List.foldl_cons, ih]
    simp only [removeAll, remove, mk.injEq, true_and, and_true]
    funext k
    by_cases hk : k = slot <;> simp [hk]

/-- The header of the PROXY protocol is not a part of the history. -/
theorem foldl_effect_header {proxy_protocol : Option ProxyProtocol} {flow : UdpFlow}
    {socket : Socket} {target_addr : SocketAddr} {header : List Effect}
    (hheader : proxyHeader proxy_protocol flow socket target_addr = .ok header) :
    header.foldl (effect flow) h = h := by
  unfold proxyHeader at hheader
  split at hheader
  · cases hheader
    rfl
  · cases hheader
    rfl
  · split at hheader
    · cases hheader
      rfl
    · cases hheader

/-- The client in a slot is a client of the history: it has the id and the offset that it was opened
with, and the flow that it was opened with but for the client id of its last packet. -/
structure Owns (h : History) (slot : ℕ) (client : Client) (i : ℕ) (birth : Birth)
    (ext : UdpFlowExtension) (last_ext : UdpFlowExtension) : Prop where
  owner_eq : h.owner slot = some i
  birth_eq : h.births[i]? = some birth
  id_eq : client.id = birth.id
  slot_eq : unpackSlot birth.id = slot
  extension_eq : birth.flow.extension = some ext
  port_offset_eq : client.port_offset = ext.port_offset
  last_eq : ∃ last, h.last i = some last ∧ last.extension = some last_ext
  flow_eq : ∃ flow', clientFlow birth.flow ext.port_offset = .ok flow' ∧
    client.flow = flow'.updateClientServerId last_ext.client_server_id

/-- The history is about these clients. -/
structure Tracks {σ : Type} [Slab σ Client] (h : History) (c : UdpClients σ) : Prop where
  /-- One generation has been used for each client that was opened. -/
  generation_eq : c.next_client_generation = UInt32.ofNat (h.births.length + 1)
  /-- The ids hold the generations. -/
  birth_id : ∀ i birth, h.births[i]? = some birth →
    ∃ slot, birth.id = packClientId slot (UInt32.ofNat (i + 1))
  /-- The clients in the slots are clients of the history. -/
  client : ∀ slot client, Slab.get c.virtual_clients slot = some client →
    ∃ i birth ext last_ext, Owns h slot client i birth ext last_ext

/-- The clients of the history that are in slots are in their own slots, so a client is in one slot
at most. -/
theorem Owns.slot_unique {slot slot' i : ℕ} {client client' : Client} {birth birth' : Birth}
    {ext ext' last_ext last_ext' : UdpFlowExtension}
    (ho : Owns h slot client i birth ext last_ext)
    (ho' : Owns h slot' client' i birth' ext' last_ext') : slot = slot' := by
  obtain rfl : birth = birth' := Option.some.inj (ho.birth_eq.symm.trans ho'.birth_eq)
  exact ho.slot_eq.symm.trans ho'.slot_eq

/-- The client may have another receiver and other times. -/
theorem Owns.congr {slot i : ℕ} {client client' : Client} {birth : Birth}
    {ext last_ext : UdpFlowExtension} (ho : Owns h slot client i birth ext last_ext)
    (hid : client'.id = client.id) (hoff : client'.port_offset = client.port_offset)
    (hflow : client'.flow = client.flow) : Owns h slot client' i birth ext last_ext := by
  refine { ho with
    id_eq := hid.trans ho.id_eq
    port_offset_eq := hoff.trans ho.port_offset_eq
    flow_eq := ?_ }
  rw [hflow]
  exact ho.flow_eq

/-- The history may go on with other clients. -/
theorem Owns.mono {slot i : ℕ} {client : Client} {birth : Birth} {ext last_ext : UdpFlowExtension}
    (ho : Owns h slot client i birth ext last_ext) (howner : h'.owner slot = h.owner slot)
    (hbirths : h.births <+: h'.births) (hlast : h'.last i = h.last i) :
    Owns h' slot client i birth ext last_ext := by
  refine { ho with
    owner_eq := howner.trans ho.owner_eq
    birth_eq := ?_
    last_eq := ?_ }
  · obtain ⟨more, hmore⟩ := hbirths
    rw [← hmore, List.getElem?_append_left (List.getElem?_eq_some_iff.1 ho.birth_eq).1]
    exact ho.birth_eq
  · rw [hlast]
    exact ho.last_eq

section
variable {σ : Type} [Slab σ Client] {c c' : UdpClients σ}

/-- Clients are removed from the slots and from the history. -/
theorem Tracks.removes {slots : List ℕ} (ht : Tracks h c) (hr : Removes c c' slots) :
    Tracks (h.removeAll slots) c' := by
  refine ⟨hr.generation_eq.trans ht.generation_eq, ht.birth_id, fun slot client' hget' => ?_⟩
  obtain ⟨hslot, client, hget, hforget⟩ := hr.get_eq_some hget'
  obtain ⟨i, birth, ext, last_ext, ho⟩ := ht.client slot client hget
  refine ⟨i, birth, ext, last_ext, (ho.congr ?_ ?_ ?_).mono ?_ (List.prefix_refl _) rfl⟩
  · exact (congrArg Client.id hforget).symm
  · exact (congrArg Client.port_offset hforget).symm
  · exact (congrArg Client.flow hforget).symm
  · simp [removeAll, hslot]

/-- A client forwards a packet, and its flow gets the packet's client id. -/
theorem Tracks.forward {flow : UdpFlow} {ext : UdpFlowExtension} {slot : ℕ} {client : Client}
    {now_ms : UInt64} (ht : Tracks h c) (hext : flow.extension = some ext)
    (hget : Slab.get c.virtual_clients slot = some client)
    (hsets : Sets c c' slot { client with
      from_tunnel_ts := now_ms
      flow := client.flow.updateClientServerId ext.client_server_id }) :
    Tracks (h.forward flow slot) c' := by
  obtain ⟨i, birth, birth_ext, last_ext, ho⟩ := ht.client slot client hget
  have hforward : h.forward flow slot =
      { h with last := Function.update h.last i (some flow) } := by
    simp [History.forward, ho.owner_eq]
  rw [hforward]
  refine ⟨hsets.generation_eq.trans ht.generation_eq, ht.birth_id, fun k client' hget' => ?_⟩
  rw [hsets.get_eq] at hget'
  by_cases hk : k = slot
  · -- The client itself: its packet is the last one now.
    subst hk
    rw [if_pos rfl] at hget'
    cases hget'
    obtain ⟨flow', hflow', hclient⟩ := ho.flow_eq
    refine ⟨i, birth, birth_ext, ext, { ho with last_eq := ?_, flow_eq := ?_ }⟩
    · exact ⟨flow, by simp, hext⟩
    · refine ⟨flow', hflow', ?_⟩
      simp only [hclient, UdpFlow.updateClientServerId_updateClientServerId]
  · -- Another client, which has another place in the history.
    rw [if_neg hk] at hget'
    obtain ⟨j, birth', ext', last_ext', ho'⟩ := ht.client k client' hget'
    have hij : j ≠ i := by
      rintro rfl
      exact hk (ho'.slot_unique ho)
    exact ⟨j, birth', ext', last_ext', ho'.mono rfl (List.prefix_refl _) (by simp [hij])⟩

/-- A client is opened in the vacant slot, with the next generation. -/
theorem Tracks.create {flow flow' : UdpFlow} {ext : UdpFlowExtension} {key : UdpClientKey}
    {now_ms : UInt64} {socket : Socket} {target_addr : SocketAddr} (ht : Tracks h c)
    (hslot : Slab.vacantKey c.virtual_clients < 2 ^ 32) (hext : flow.extension = some ext)
    (hflow : clientFlow flow ext.port_offset = .ok flow')
    (hinserts : Inserts c c' (UdpClients.opened now_ms c key socket target_addr ext.port_offset
      flow')) :
    Tracks (h.create flow (Slab.vacantKey c.virtual_clients) (packClientId
      (UInt32.ofNat (Slab.vacantKey c.virtual_clients)) c.next_client_generation)) c' := by
  refine ⟨?_, fun i birth hbirth => ?_, fun k client' hget' => ?_⟩
  · rw [hinserts.generation_eq, ht.generation_eq]
    simp [History.create, UInt32.ofNat_add]
  · simp only [History.create, List.getElem?_append] at hbirth
    split at hbirth
    · exact ht.birth_id i birth hbirth
    · next hi =>
      -- The new client, with the generation that was next.
      have hlen : i - h.births.length < 1 := (List.getElem?_eq_some_iff.1 hbirth).1
      obtain rfl : i = h.births.length := by omega
      simp only [Nat.sub_self, List.getElem?_cons_zero, Option.some.injEq] at hbirth
      exact ⟨_, by rw [← hbirth, ht.generation_eq]⟩
  · rw [hinserts.get_eq] at hget'
    by_cases hk : k = Slab.vacantKey c.virtual_clients
    · subst hk
      rw [if_pos rfl] at hget'
      cases hget'
      refine ⟨h.births.length, ⟨_, flow⟩, ext, ext, ?_, ?_, rfl, ?_, hext, rfl, ?_, flow', hflow,
        ?_⟩
      · simp [History.create]
      · simp [History.create, UdpClients.opened]
      · exact (unpackSlot_packClientId _ _).trans (toNat_ofNat_vacantKey hslot)
      · exact ⟨flow, by simp [History.create], hext⟩
      · exact (updateClientServerId_clientFlow hext hflow).symm
    · -- The others have earlier places in the history.
      rw [if_neg hk] at hget'
      obtain ⟨j, birth', ext', last_ext', ho'⟩ := ht.client k client' hget'
      have hj : j ≠ h.births.length := (List.getElem?_eq_some_iff.1 ho'.birth_eq).1.ne
      exact ⟨j, birth', ext', last_ext', ho'.mono (by simp [History.create, hk])
        (List.prefix_append _ _) (by simp [History.create, hj])⟩

/-- A transition and its record. -/
theorem Tracks.stepped {call : Call} {returned : Returned} (ht : Tracks h c)
    (hstep : Stepped c c' call returned) : Tracks (h.record (call, returned)) c' := by
  cases hstep with
  | @dropped io now_ms flow packet slots rest hnone hremoves hrest =>
    have hrecord : (slots.map Effect.removed ++ rest).foldl (effect flow) h =
        h.removeAll slots := by
      rw [List.foldl_append, List.foldl_map]
      rcases hrest with rfl | rfl <;> exact foldl_remove h slots
    simp only [record, hrecord]
    exact ht.removes hremoves
  | @reused io now_ms flow packet ext origin slot client hreuses hsets =>
    exact ht.forward hreuses.extension_eq hreuses.get_eq hsets
  | @opened io now_ms flow packet ext origin c₁ slots header target_addr socket flow' hext horigin
      hopens hnone hremoves htarget hslot hflow hheader hinserts =>
    have hremoved : (slots.map Effect.removed).foldl (effect flow) h = h.removeAll slots := by
      rw [List.foldl_map]
      exact foldl_remove h slots
    simp only [record, List.foldl_append, List.foldl_cons, List.foldl_nil, hremoved,
      foldl_effect_header hheader]
    exact (ht.removes hremoves).create hslot hext hflow hinserts
  | rejected heq hreject =>
    subst heq
    exact ht
  | @replied now_ms packet client flow hget hid hsource hflow hsets =>
    refine ⟨hsets.generation_eq.trans ht.generation_eq, ht.birth_id, fun k client' hget' => ?_⟩
    rw [hsets.get_eq] at hget'
    split at hget'
    · next hk =>
      subst hk
      cases hget'
      obtain ⟨i, birth, ext, last_ext, ho⟩ := ht.client _ client hget
      exact ⟨i, birth, ext, last_ext, ho.congr rfl rfl rfl⟩
    · exact ht.client k client' hget'
  | @cleared io now_ms slots hremoves =>
    have hrecord : (slots.map Effect.removed).foldl clear h = h.removeAll slots := by
      rw [List.foldl_map]
      exact foldl_remove h slots
    simp only [record, hrecord]
    exact ht.removes hremoves

/-- Fewer than `2 ^ 32` clients have different ids. -/
theorem Tracks.id_injective (ht : Tracks h c) (hlen : h.births.length < 2 ^ 32) {i j : ℕ}
    {birth birth' : Birth} (hi : h.births[i]? = some birth) (hj : h.births[j]? = some birth')
    (hid : birth.id = birth'.id) : i = j := by
  obtain ⟨slot, hslot⟩ := ht.birth_id i birth hi
  obtain ⟨slot', hslot'⟩ := ht.birth_id j birth' hj
  rw [hslot, hslot'] at hid
  have hgen := congrArg UInt32.toNat (generation_eq_of_packClientId_eq hid)
  have hilt : i < h.births.length := (List.getElem?_eq_some_iff.1 hi).1
  have hjlt : j < h.births.length := (List.getElem?_eq_some_iff.1 hj).1
  rw [UInt32.toNat_ofNat', UInt32.toNat_ofNat', Nat.mod_eq_of_lt (by omega),
    Nat.mod_eq_of_lt (by omega)] at hgen
  omega

end

end History

section
variable {σ : Type} [Slab σ Client] {c c' : UdpClients σ}

/-- A reply of a client of the history has the flow that opened it, in the other direction, with the
client id of its last packet. -/
theorem History.Owns.reply_flow {h : History} {slot i : ℕ} {client : Client} {birth : Birth}
    {ext last_ext : UdpFlowExtension} (ho : h.Owns slot client i birth ext last_ext)
    {flow : UdpFlow} (hflow : replyFlow client.flow client.port_offset = .ok flow) :
    flow = birth.flow.flip.updateClientServerId last_ext.client_server_id := by
  -- The offset is taken from the port and added again.
  obtain ⟨flow', hflow', hclient⟩ := ho.flow_eq
  have hback := replyFlow_updateClientServerId
    (replyFlow_of_clientFlow ho.extension_eq hflow') last_ext.client_server_id
  rw [hclient, ho.port_offset_eq, hback] at hflow
  exact (Except.ok.inj hflow).symm

/-- The history of a run is about the clients that the run leads to. -/
theorem tracks_history {trace : List (Call × Returned)} (h : Run step new trace c) :
    History.Tracks (history trace) c := by
  induction h with
  | nil =>
    refine ⟨rfl, fun i birth hbirth => ?_, fun slot client hget => ?_⟩
    · simp [history, History.empty] at hbirth
    · simp [new, Slab.get_empty] at hget
  | @snoc trace c c' call returned hrun hstep ih =>
    have hv := valid_of_reachable ⟨trace, hrun⟩
    rw [history, List.foldl_append]
    exact ih.stepped (stepped_of_eq_ok hv hstep)

/-- After a run that opened fewer than `2 ^ 32` clients, let the task of one of them have received a
packet, at any time. If dispatching the packet gives a reply, the slot still holds that client, the
packet came from its origin, and it is unchanged. The reply's flow is the flow that opened the
client, in the other direction, with the client id of the last packet that was forwarded for it. -/
theorem reply_of_birth {trace : List (Call × Returned)} (h : Run step new trace c)
    (hlen : (history trace).births.length < 2 ^ 32) {i : ℕ} {birth : Birth}
    (hbirth : (history trace).births[i]? = some birth) {now_ms : UInt64} {packet packet' : Packet}
    {source : SocketAddr} {flow : UdpFlow}
    (hok : c.dispatchOriginPacket now_ms (UdpReceiver.received birth.id packet source) =
      .ok (c', .reply flow packet')) :
    ∃ client last last_ext,
      Slab.get c.virtual_clients (unpackSlot birth.id) = some client ∧ client.id = birth.id ∧
      (history trace).owner (unpackSlot birth.id) = some i ∧
      source = client.target_addr ∧ packet' = packet ∧
      (history trace).last i = some last ∧ last.extension = some last_ext ∧
      flow = birth.flow.flip.updateClientServerId last_ext.client_server_id := by
  have ht := tracks_history h
  rcases dispatchOriginPacket_cases hok with ⟨-, hreject⟩ |
    ⟨client, flow₀, hget, hid, hsource, hflow, hreply, -⟩
  · exact absurd rfl (hreject flow packet')
  · cases hreply
    -- The client in the slot has a place in the history, and by its id it is this one.
    obtain ⟨j, birth', ext, last_ext, ho⟩ := ht.client _ client hget
    obtain rfl : i = j := ht.id_injective hlen hbirth ho.birth_eq (hid.symm.trans ho.id_eq)
    obtain rfl : birth = birth' := Option.some.inj (hbirth.symm.trans ho.birth_eq)
    obtain ⟨last, hlast, hlast_ext⟩ := ho.last_eq
    refine ⟨client, last, last_ext, hget, hid, ho.owner_eq, hsource, rfl, hlast, hlast_ext, ?_⟩
    exact ho.reply_flow hflow

end

end UdpClients

namespace Sample

/-- The first client of the sample. -/
def opened : UdpClients (SlabVec Client) := after .new (call 30001 1)

/-- No task has ended, and each ends when it is told to. -/
def clearIo : UdpClients.ClearIo := ⟨fun _ => false, fun _ => false⟩

/-- The clients after the first one was idle for too long. -/
def evicted : UdpClients (SlabVec Client) :=
  { opened with
    virtual_client_lookup := Function.update opened.virtual_client_lookup
      ⟨.v4 ⟨0x0a141e28, 5000⟩, 7⟩ none
    virtual_clients := Slab.remove opened.virtual_clients 0 }.setUdp

/-- The player is back, and gets a client in the same slot. -/
def reopened : UdpClients (SlabVec Client) := after evicted (call 30001 1)

/-- What opening a client does. -/
def opening (id : UInt64) : UdpClients.Returned :=
  .handled [.created 0 id, .sent 5 [1] (.v4 ⟨0x7f000001, 25566⟩)]

/-- A client was opened, and was evicted, and another one was opened in its slot. -/
def reuse : List (UdpClients.Call × UdpClients.Returned) :=
  [(call 30001 1, opening (packClientId 0 1)), (.clearOld clearIo 200000, .cleared [.removed 0]),
    (call 30001 1, opening (packClientId 0 2))]

end Sample

namespace UdpClients

set_option maxRecDepth 10000 in
/-- `clear_old` evicts the sample's client. -/
theorem clearOld_opened :
    Sample.opened.step (.clearOld Sample.clearIo 200000) =
      .ok (Sample.evicted, .cleared [.removed 0]) := by
  have hpoll : (Slab.keys Sample.opened.virtual_clients).foldl (pollOld Sample.clearIo 200000)
      (Sample.opened, []) = (Sample.opened, [0]) := rfl
  have hremove : removeOld Sample.clearIo Sample.opened 0 = .ok { Sample.opened with
      virtual_client_lookup := Function.update Sample.opened.virtual_client_lookup
        ⟨.v4 ⟨0x0a141e28, 5000⟩, 7⟩ none
      virtual_clients := Slab.remove Sample.opened.virtual_clients 0 } := rfl
  rw [step, clearOld, hpoll]
  simp only [List.mergeSort_singleton, List.reverse_singleton, List.foldlM_cons, hremove, ok_bind]
  rfl

set_option maxRecDepth 10000 in
/-- A run that reuses a slot. -/
theorem run_reuse : Run step new Sample.reuse Sample.reopened := by
  have hopen : (new : UdpClients (SlabVec Client)).step (Sample.call 30001 1) =
      .ok (Sample.opened, Sample.opening (packClientId 0 1)) := rfl
  have hreopen : Sample.evicted.step (Sample.call 30001 1) =
      .ok (Sample.reopened, Sample.opening (packClientId 0 2)) := rfl
  exact ((Run.nil.snoc hopen).snoc clearOld_opened).snoc hreopen

set_option maxRecDepth 10000 in
/-- The origin answers the sample's player from the second port. What the task of the client that
was evicted has received is dropped; the reply of the client that has its slot now goes out from the
port that the player sent to. -/
theorem reply_of_birth_sample :
    Sample.reopened.dispatchOriginPacket 2000
        (UdpReceiver.received (packClientId 0 1) Sample.packet (.v4 ⟨0x7f000001, 25566⟩)) =
      .ok (Sample.reopened, .originRejectBadId) ∧
    ∃ c', Sample.reopened.dispatchOriginPacket 2000
        (UdpReceiver.received (packClientId 0 2) Sample.packet (.v4 ⟨0x7f000001, 25566⟩)) =
      .ok (c', .reply (Sample.flow 30001 1 none).flip Sample.packet) ∧
    (history Sample.reuse).owner 0 = some 1 ∧
    ∃ client, Slab.get Sample.reopened.virtual_clients 0 = some client ∧
      client.id = packClientId 0 2 := by
  have hbirth : (history Sample.reuse).births[1]? =
      some ⟨packClientId 0 2, Sample.flow 30001 1 none⟩ := rfl
  have hok : Sample.reopened.dispatchOriginPacket 2000
      (UdpReceiver.received (packClientId 0 2) Sample.packet (.v4 ⟨0x7f000001, 25566⟩)) =
      .ok (Sample.after Sample.reopened (.dispatchOriginPacket 2000
        (UdpReceiver.received (packClientId 0 2) Sample.packet (.v4 ⟨0x7f000001, 25566⟩))),
        .reply (Sample.flow 30001 1 none).flip Sample.packet) := rfl
  obtain ⟨client, _, _, hget, hid, howner, -⟩ := reply_of_birth run_reuse (by decide) hbirth hok
  exact ⟨rfl, _, hok, howner, client, hget, hid⟩

/-! ## Fragments -/

end UdpClients

namespace UdpFlow

/-- The flow without its fragment information. -/
def eraseFrag : UdpFlow → UdpFlow
  | v4 src dst _ extension => v4 src dst none extension
  | v6 src dst extension => v6 src dst extension

variable {flow flow' : UdpFlow}

/-- The rest of a flow has the extension. -/
theorem extension_eraseFrag (flow : UdpFlow) : flow.eraseFrag.extension = flow.extension := by
  cases flow <;> rfl

/-- The rest of a flow has the source. -/
theorem src_eraseFrag (flow : UdpFlow) : flow.eraseFrag.src = flow.src := by
  cases flow <;> rfl

/-- A flow without fragment information is all there is. -/
theorem eraseFrag_of_frag_eq_none (h : flow.frag = none) : flow.eraseFrag = flow := by
  cases flow with
  | v4 src dst frag extension =>
    obtain rfl : frag = none := h
    rfl
  | v6 src dst extension => rfl

end UdpFlow

namespace UdpClients

/-- The call without the fragment information of its flow. -/
def Call.eraseFrag : Call → Call
  | .handleTunneledPacket io now_ms flow packet =>
    .handleTunneledPacket io now_ms flow.eraseFrag packet
  | call => call

section
variable {σ : Type} [Slab σ Client] {c c' : UdpClients σ}

/-- A packet that opens a client is not a fragment. -/
def OpensWhole (c : UdpClients σ) : Call → Prop
  | .handleTunneledPacket io _ flow _ => ∀ ext, Opens io c flow ext → flow.frag = none
  | _ => True

/-- No client has a flow with fragment information. -/
def Whole (c : UdpClients σ) : Prop :=
  ∀ slot client, Slab.get c.virtual_clients slot = some client → client.flow.frag = none

/-- Handling a packet that opens no client does not depend on the fragment information. -/
theorem handleTunneledPacket_eraseFrag {io : TunneledIo} {flow : UdpFlow}
    (h : ∀ ext, ¬Opens io c flow ext) (now_ms : UInt64) (packet : Packet) :
    c.handleTunneledPacket io now_ms flow.eraseFrag packet =
      c.handleTunneledPacket io now_ms flow packet := by
  unfold handleTunneledPacket
  rw [UdpFlow.extension_eraseFrag, UdpFlow.src_eraseFrag]
  cases hext : flow.extension with
  | none => rfl
  | some ext =>
    cases horigin : io.lookup.lookup ext.tunnel_id.val false with
    | none => simp only [horigin]
    | some origin =>
      rcases hr : c.findClient ⟨flow.src, ext.tunnel_id.val⟩ io.ended with ⟨found, c₁, removed⟩
      cases found with
      | some slot => simp only [horigin, hr]
      | none =>
        -- The client is refused before its flow is looked at.
        have hmay : ¬MayOpen io c₁ ext origin ⟨flow.src, ext.tunnel_id.val⟩ := by
          intro hmay
          exact h ext ⟨hext, by rw [hr], origin, horigin, by rw [hr]; exact hmay⟩
        obtain ⟨effects, -, hrefused⟩ := openClient_of_not_mayOpen hmay
        simp only [horigin, hr, hrefused]

/-- A call does what it does without the fragment information, when no fragment opens a client. -/
theorem step_eraseFrag {call : Call} (h : OpensWhole c call) :
    c.step call.eraseFrag = c.step call := by
  cases call with
  | handleTunneledPacket io now_ms flow packet =>
    by_cases hopens : ∃ ext, Opens io c flow ext
    · obtain ⟨ext, hopens⟩ := hopens
      simp only [Call.eraseFrag, UdpFlow.eraseFrag_of_frag_eq_none (h ext hopens)]
    · simp only [Call.eraseFrag, step]
      rw [handleTunneledPacket_eraseFrag (not_exists.1 hopens)]
  | dispatchOriginPacket now_ms packet => rfl
  | clearOld io now_ms => rfl

/-- The flow of an answer has the fragment information of its client. -/
theorem frag_replyFlow {flow reply : UdpFlow} {port_offset : UInt16}
    (h : replyFlow flow port_offset = .ok reply) : reply.frag = flow.frag := by
  unfold replyFlow at h
  split at h
  · split at h
    · cases h
      rfl
    · cases h
  · split at h
    · cases h
      rfl
    · cases h
  · cases h

/-- When no fragment opens a client, a transition keeps the flows of the clients free of fragment
information, and a reply has none. -/
theorem Stepped.whole {call : Call} {returned : Returned} (h : Stepped c c' call returned)
    (hopens : OpensWhole c call) (hw : Whole c) :
    Whole c' ∧ ∀ flow packet, returned = .dispatched (.reply flow packet) → flow.frag = none := by
  constructor
  · intro slot client' hget'
    rcases h.get_cases hget' with ⟨client, hget, hcont⟩ |
      ⟨io, now_ms, flow, packet, ext, origin, rfl, hopen, hext, -, -, -, -, hflow⟩
    · rw [hcont.frag_eq]
      exact hw slot client hget
    · obtain ⟨-, -, hfrag, -⟩ := clientFlow_eq_ok hext hflow
      rw [hfrag]
      exact hopens ext hopen
  · rintro flow packet rfl
    cases h with
    | rejected heq hreject => exact absurd rfl (hreject flow packet)
    | @replied now_ms packet client flow hget hid hsource hflow hsets =>
      rw [frag_replyFlow hflow]
      exact hw _ client hget

/-- Along a run in which no fragment opens a client, no reply has fragment information. -/
theorem whole_of_run {trace : List (Call × Returned)} {c₀ : UdpClients σ}
    (h₀ : Reachable step new c₀) (hw : Whole c₀) (h : Run step c₀ trace c)
    (hopens : Along step OpensWhole c₀ trace) :
    Reachable step new c ∧ Whole c ∧
      ∀ x ∈ trace, ∀ flow packet, x.2 = .dispatched (.reply flow packet) → flow.frag = none := by
  induction h with
  | nil => exact ⟨h₀, hw, by simp⟩
  | @snoc trace c c' call returned hrun hstep ih =>
    obtain ⟨hbefore, hlast⟩ := (along_snoc hrun call returned).1 hopens
    obtain ⟨hreach, hwhole, hreplies⟩ := ih hbefore
    have hv := valid_of_reachable hreach
    obtain ⟨hwhole', hreply⟩ := (stepped_of_eq_ok hv hstep).whole hlast hwhole
    refine ⟨hreach.snoc hstep, hwhole', fun x hx => ?_⟩
    rcases List.mem_append.1 hx with hx | hx
    · exact hreplies x hx
    · obtain rfl := List.mem_singleton.1 hx
      exact hreply

/-- Two runs from one state, with the same calls but for the fragment information of their flows. If
no client of the state and no packet that opens a client has fragment information, the runs lead to
the same state, their calls return the same, and no reply has fragment information. -/
theorem replies_eq_of_eraseFrag {c₀ c₁ c₂ : UdpClients σ} {trace₁ trace₂ : List (Call × Returned)}
    (h₀ : Reachable step new c₀) (hw : Whole c₀)
    (h₁ : Run step c₀ trace₁ c₁) (h₂ : Run step c₀ trace₂ c₂)
    (hsame : trace₁.map (fun x => x.1.eraseFrag) = trace₂.map fun x => x.1.eraseFrag)
    (hopens₁ : Along step OpensWhole c₀ trace₁) (hopens₂ : Along step OpensWhole c₀ trace₂) :
    c₁ = c₂ ∧ trace₁.map Prod.snd = trace₂.map Prod.snd ∧
      ∀ x ∈ trace₁, ∀ flow packet, x.2 = .dispatched (.reply flow packet) → flow.frag = none := by
  -- No state tells two such calls apart.
  have hlook : ∀ (c : UdpClients σ) (call call' : Call), call.eraseFrag = call'.eraseFrag →
      OpensWhole c call → OpensWhole c call' → c.step call = c.step call' := by
    intro c call call' hlook hcall hcall'
    rw [← step_eraseFrag hcall, ← step_eraseFrag hcall', hlook]
  obtain ⟨hstate, hreturned⟩ := Run.agree hlook h₁ h₂ hsame hopens₁ hopens₂
  exact ⟨hstate, hreturned, (whole_of_run h₀ hw h₁ hopens₁).2.2⟩

end

/-- Some fragment of some packet. -/
def sampleFrag : FragmentInfo := ⟨⟨9, by decide⟩, 1480, true⟩

/-- The sample's player sends two packets to the second port, and the origin answers. The packets
have this fragment information. -/
def sampleFragments (first second : Option FragmentInfo) : List Call :=
  [.handleTunneledPacket Sample.io 1000 (Sample.flow 30001 1 first) Sample.packet,
    .handleTunneledPacket Sample.io 1500 (Sample.flow 30001 1 second) Sample.packet,
    .dispatchOriginPacket 2000
      (UdpReceiver.received (packClientId 0 1) Sample.packet (.v4 ⟨0x7f000001, 25566⟩))]

/-- What the sample's calls return, with the fragment information of the reply. -/
def sampleReturned (frag : Option FragmentInfo) : List Returned :=
  [.handled [.created 0 (packClientId 0 1), .sent 5 [1] (.v4 ⟨0x7f000001, 25566⟩)],
    .handled [.reused 0, .sent 5 [1] (.v4 ⟨0x7f000001, 25566⟩)],
    .dispatched (.reply (Sample.flow 30001 1 frag).flip Sample.packet)]

/-- The clients after the sample's calls. -/
def sampleAfter (calls : List Call) : UdpClients (SlabVec Client) := calls.foldl Sample.after new

set_option maxRecDepth 10000 in
/-- The sample's calls are a run, in which the reply has the fragment information of the first
packet. The second packet opens no client. -/
theorem run_sampleFragments (first second : Option FragmentInfo) :
    Run step new ((sampleFragments first second).zip (sampleReturned first))
      (sampleAfter (sampleFragments first second)) ∧
    (first = none → Along step OpensWhole (new : UdpClients (SlabVec Client))
      ((sampleFragments first second).zip (sampleReturned first))) := by
  have hfirst : (new : UdpClients (SlabVec Client)).step
      (.handleTunneledPacket Sample.io 1000 (Sample.flow 30001 1 first) Sample.packet) =
      .ok (sampleAfter ((sampleFragments first second).take 1),
        .handled [.created 0 (packClientId 0 1), .sent 5 [1] (.v4 ⟨0x7f000001, 25566⟩)]) := rfl
  have hsecond : (sampleAfter ((sampleFragments first second).take 1)).step
      (.handleTunneledPacket Sample.io 1500 (Sample.flow 30001 1 second) Sample.packet) =
      .ok (sampleAfter ((sampleFragments first second).take 2),
        .handled [.reused 0, .sent 5 [1] (.v4 ⟨0x7f000001, 25566⟩)]) := rfl
  have hthird : (sampleAfter ((sampleFragments first second).take 2)).step
      (.dispatchOriginPacket 2000
        (UdpReceiver.received (packClientId 0 1) Sample.packet (.v4 ⟨0x7f000001, 25566⟩))) =
      .ok (sampleAfter (sampleFragments first second),
        .dispatched (.reply (Sample.flow 30001 1 first).flip Sample.packet)) := rfl
  have hrun₁ := Run.nil.snoc hfirst
  have hrun₂ := hrun₁.snoc hsecond
  refine ⟨hrun₂.snoc hthird, ?_⟩
  rintro rfl
  have hwhole : OpensWhole (new : UdpClients (SlabVec Client))
      (.handleTunneledPacket Sample.io 1000 (Sample.flow 30001 1 none) Sample.packet) :=
    fun _ _ => rfl
  -- The second packet finds the client of the first one.
  have hlive : OpensWhole (sampleAfter ((sampleFragments none second).take 1))
      (.handleTunneledPacket Sample.io 1500 (Sample.flow 30001 1 second) Sample.packet) := by
    rintro ext ⟨hext, hnone, -⟩
    cases hext
    have hfound : ((sampleAfter ((sampleFragments none second).take 1)).findClient
        ⟨(Sample.flow 30001 1 second).src, 7⟩ Sample.io.ended).1 = some 0 := rfl
    rw [hfound] at hnone
    cases hnone
  refine (along_snoc hrun₂ _ _).2 ⟨(along_snoc hrun₁ _ _).2 ⟨?_, hlive⟩, trivial⟩
  exact (along_snoc Run.nil _ _).2 ⟨along_nil, hwhole⟩

/-- When the first packet is whole, the second one may be a fragment or not. -/
theorem replies_eq_of_eraseFrag_sample :
    sampleAfter (sampleFragments none (some sampleFrag)) =
      sampleAfter (sampleFragments none none) := by
  have hwhole : Whole (new : UdpClients (SlabVec Client)) := by
    intro slot client hget
    simp [new, Slab.get_empty] at hget
  obtain ⟨hrun₁, halong₁⟩ := run_sampleFragments none (some sampleFrag)
  obtain ⟨hrun₂, halong₂⟩ := run_sampleFragments none none
  exact (replies_eq_of_eraseFrag ⟨[], Run.nil⟩ hwhole hrun₁ hrun₂ rfl (halong₁ rfl)
    (halong₂ rfl)).1

/-- When the first packet is a fragment, the reply has its fragment information, and differs from
the reply in the run where the first packet is whole. -/
theorem reply_has_frag :
    (Run step new ((sampleFragments (some sampleFrag) none).zip (sampleReturned (some sampleFrag)))
      (sampleAfter (sampleFragments (some sampleFrag) none)) ∧
    Run step new ((sampleFragments none none).zip (sampleReturned none))
      (sampleAfter (sampleFragments none none)) ∧
    (sampleFragments (some sampleFrag) none).map Call.eraseFrag =
      (sampleFragments none none).map Call.eraseFrag) ∧
    (sampleReturned (some sampleFrag)).getLast? =
      some (.dispatched (.reply (Sample.flow 30001 1 (some sampleFrag)).flip Sample.packet)) ∧
    (sampleReturned none).getLast? =
      some (.dispatched (.reply (Sample.flow 30001 1 none).flip Sample.packet)) ∧
    (Sample.flow 30001 1 (some sampleFrag)).flip ≠ (Sample.flow 30001 1 none).flip ∧
    (Sample.flow 30001 1 (some sampleFrag)).flip.frag = some sampleFrag :=
  ⟨⟨(run_sampleFragments _ _).1, (run_sampleFragments _ _).1, rfl⟩, rfl, rfl, by decide, rfl⟩

end UdpClients

end PlayitAgent
