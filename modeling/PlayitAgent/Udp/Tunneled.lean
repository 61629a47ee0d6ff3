import PlayitAgent.Proto.Footer
import PlayitAgent.Udp.Transitions

/-!
# Packets from the tunnel

What `handle_tunneled_packet` does to the packets that the tunnel server sends. A packet that opens
a client panics when its port is below its offset, and no other packet does. A packet goes to the
address that its offset resolves to when it opens a client; a client that is reused sends it to the
address that the offset of its first packet resolved to.
-/

namespace PlayitAgent

namespace UdpClients

section
variable {σ : Type} [Slab σ Client] {c c' : UdpClients σ}

/-! ## Panics -/

/-- Opening a client returns unless the client may be opened and the port is below the offset. -/
theorem openClient_returns_iff {flow : UdpFlow} {ext : UdpFlowExtension} (h : c.Valid)
    (hext : flow.extension = some ext) (io : TunneledIo) (now_ms : UInt64)
    (origin : OriginResource) (key : UdpClientKey) (packet : Packet) :
    (∃ r, c.openClient io now_ms flow ext origin key packet = .ok r) ↔
      (MayOpen io c ext origin key → ext.port_offset ≤ flow.dstPort) := by
  by_cases hmay : MayOpen io c ext origin key
  · obtain ⟨target_addr, socket, -, -, -, hopen⟩ := openClient_of_mayOpen h.indexed hmay
    obtain ⟨header, -, heq⟩ := hopen now_ms flow packet
    rw [heq]
    by_cases hle : ext.port_offset ≤ flow.dstPort
    · obtain ⟨flow', hflow, -⟩ := clientFlow_of_le hext hle
      rw [hflow]
      exact iff_of_true ⟨_, rfl⟩ fun _ => hle
    · -- The assertion fails.
      rw [clientFlow_of_not_le hext hle]
      refine iff_of_false ?_ fun himp => hle (himp hmay)
      rintro ⟨r, hr⟩
      cases hr
  · obtain ⟨effects, -, hrefused⟩ := openClient_of_not_mayOpen hmay
    exact iff_of_true ⟨_, hrefused now_ms flow packet⟩ fun hmay' => absurd hmay' hmay

/-- Handling a packet returns unless the packet opens a client and its port is below its offset. -/
theorem handleTunneledPacket_returns_iff {io : TunneledIo} {now_ms : UInt64} {flow : UdpFlow}
    {packet : Packet} (h : c.Valid) :
    (∃ r, c.handleTunneledPacket io now_ms flow packet = .ok r) ↔
      ∀ ext, Opens io c flow ext → ext.port_offset ≤ flow.dstPort := by
  unfold handleTunneledPacket Opens
  cases hext : flow.extension with
  | none => exact iff_of_true ⟨_, rfl⟩ (by simp)
  | some ext =>
    cases horigin : io.lookup.lookup ext.tunnel_id.val false with
    | none => exact iff_of_true ⟨(c, []), by simp only [horigin]; rfl⟩ (by simp [horigin])
    | some origin =>
      have hfound := found_findClient h.indexed ⟨flow.src, ext.tunnel_id.val⟩ io.ended
      rcases hr : c.findClient ⟨flow.src, ext.tunnel_id.val⟩ io.ended with ⟨found, c₁, removed⟩
      rw [hr] at hfound
      cases found with
      | some slot =>
        refine iff_of_true ?_ (by simp [hr])
        cases hfound with
        | @live slot client hlookup hget hopen =>
          simp only [horigin, hr, reuse, setClient, Slab.get_set_self hget]
          exact ⟨_, rfl⟩
      | none =>
        have hiff := openClient_returns_iff (hfound.none_valid h).1 hext io now_ms origin
          ⟨flow.src, ext.tunnel_id.val⟩ packet
        simp only [horigin, hr]
        refine Iff.trans ?_ (hiff.trans ?_)
        · -- What is returned has the effects of the search in front.
          cases c₁.openClient io now_ms flow ext origin ⟨flow.src, ext.tunnel_id.val⟩ packet with
          | error p => simp
          | ok r => exact iff_of_true ⟨_, rfl⟩ ⟨_, rfl⟩
        · simp [hr, horigin]

/-- On a datagram from the tunnel server, in a reachable state, handling the packet panics exactly
when the packet opens a client and its port is below its offset. -/
theorem handleTunneledPacket_no_panic_iff (h : Reachable step new c) (io : TunneledIo)
    (now_ms : UInt64) (packet : Packet) :
    ∀ datagram flow, datagram.length ≤ packetLen → UdpFlow.fromTail datagram = .ok (.ok flow) →
      ((∃ r, c.handleTunneledPacket io now_ms flow packet = .ok r) ↔
        ¬∃ ext, Opens io c flow ext ∧ flow.dstPort < ext.port_offset) := by
  intro datagram flow _ _
  rw [handleTunneledPacket_returns_iff (valid_of_reachable h)]
  simp only [not_exists, not_and, UInt16.not_lt]

end

/-- The datagram of a packet with one byte, from the sample's player to a port and an offset. -/
def sampleDatagram (port port_offset : UInt16) : List UInt8 :=
  [1] ++ [0x0a, 0x14, 0x1e, 0x28, 0x09, 0x14, 0x03, 0x28] ++ be (5000 : UInt16) ++ be port ++
    be (1 : UInt64) ++ be (7 : UInt64) ++ be port_offset ++ [0, 0] ++ be redirectFlow4FooterIdV2

set_option maxRecDepth 10000 in
/-- The packet to port 30001 at the offset 1 is handled. -/
theorem handleTunneledPacket_no_panic_sample :
    ∃ r, (new : UdpClients (SlabVec Client)).handleTunneledPacket Sample.io 1000
      (Sample.flow 30001 1 none) Sample.packet = .ok r := by
  have hflow : UdpFlow.fromTail (sampleDatagram 30001 1) = .ok (.ok (Sample.flow 30001 1 none)) :=
    rfl
  refine (handleTunneledPacket_no_panic_iff ⟨[], Run.nil⟩ Sample.io 1000 Sample.packet
    (sampleDatagram 30001 1) _ (by decide) hflow).2 ?_
  rintro ⟨ext, ⟨hext, -⟩, hlt⟩
  cases hext
  exact absurd hlt (by decide)

set_option maxRecDepth 10000 in
/-- The packet to port 0 at the offset 1, which the tunnel has, opens a client and panics. -/
theorem handleTunneledPacket_panics :
    (sampleDatagram 0 1).length ≤ packetLen ∧
    UdpFlow.fromTail (sampleDatagram 0 1) = .ok (.ok (Sample.flow 0 1 none)) ∧
    Sample.origin.resolveLocal Sample.io.lookup_host 1 = some (.v4 ⟨0x7f000001, 25566⟩) ∧
    (new : UdpClients (SlabVec Client)).handleTunneledPacket Sample.io 1000
      (Sample.flow 0 1 none) Sample.packet = .error .assertion :=
  ⟨by decide, rfl, rfl, rfl⟩

/-! ## Targets -/

section
variable {σ : Type} [Slab σ Client] {c c' : UdpClients σ} {call : Call} {returned : Returned}

/-- A call meets these origins, with these addresses of hosts. -/
def Call.Uses (lookup : OriginLookup) (lookup_host : LookupHost) : Call → Prop
  | .handleTunneledPacket io _ _ _ => io.lookup = lookup ∧ io.lookup_host = lookup_host
  | _ => True

/-- The address that the packets of a flow are for: what its offset resolves to at the origin of its
tunnel. -/
def target (lookup : OriginLookup) (lookup_host : LookupHost) (flow : UdpFlow) :
    Option SocketAddr := do
  let ext ← flow.extension
  let origin ← lookup.lookup ext.tunnel_id.val false
  origin.resolveLocal lookup_host ext.port_offset

/-- What a call sends for a packet from the tunnel goes to the address that the packet is for. -/
def Routed (lookup : OriginLookup) (lookup_host : LookupHost) : Call × Returned → Prop
  | (.handleTunneledPacket _ _ flow _, .handled effects) =>
    ∀ socket payload addr, .sent socket payload addr ∈ effects →
      target lookup lookup_host flow = some addr
  | _ => True

/-- When a packet from the tunnel finds a client that it can be forwarded by, the offset of the
packet resolves to what the offset of the client does. -/
def SameTarget (c : UdpClients σ) : Call → Prop
  | .handleTunneledPacket io _ flow _ =>
    ∀ ext origin slot client, Reuses io c flow ext origin slot client →
      origin.resolveLocal io.lookup_host ext.port_offset =
        origin.resolveLocal io.lookup_host client.port_offset
  | _ => True

/-- Every client sends to the address that its offset resolves to. -/
def Targets (lookup : OriginLookup) (lookup_host : LookupHost) (c : UdpClients σ) : Prop :=
  ∀ slot client, Slab.get c.virtual_clients slot = some client →
    ∃ origin, lookup.lookup client.key.tunnel_id false = some origin ∧
      origin.resolveLocal lookup_host client.port_offset = some client.target_addr

variable {lookup : OriginLookup} {lookup_host : LookupHost}

/-- The header of the PROXY protocol is sent where the packet is. -/
theorem addr_of_mem_proxyHeader {proxy_protocol : Option ProxyProtocol} {flow : UdpFlow}
    {socket socket' : Socket} {target_addr addr : SocketAddr} {header : List Effect}
    {payload : List UInt8}
    (h : proxyHeader proxy_protocol flow socket target_addr = .ok header)
    (hmem : .sent socket' payload addr ∈ header) : addr = target_addr := by
  unfold proxyHeader at h
  split at h
  · cases h
    simp at hmem
  · cases h
    simp at hmem
  · split at h
    · cases h
      simp only [List.mem_singleton, Effect.sent.injEq] at hmem
      exact hmem.2.2
    · cases h

/-- A transition keeps the clients' addresses right. -/
theorem Stepped.targets (h : Stepped c c' call returned) (huses : call.Uses lookup lookup_host)
    (ht : Targets lookup lookup_host c) : Targets lookup lookup_host c' := by
  intro slot client' hget'
  rcases h.get_cases hget' with ⟨client, hget, hcont⟩ |
    ⟨io, now_ms, flow, packet, ext, origin, rfl, -, hext, horigin, hkey, hoff, htarget, -⟩
  · obtain ⟨origin, horigin, htarget⟩ := ht slot client hget
    rw [hcont.key_eq, hcont.port_offset_eq, hcont.target_addr_eq]
    exact ⟨origin, horigin, htarget⟩
  · obtain ⟨rfl, rfl⟩ := huses
    rw [hkey, hoff]
    exact ⟨origin, horigin, htarget⟩

/-- One call sends its packet where it is for, exactly when a client that forwards it has the same
target. -/
theorem Stepped.routed_iff (h : Stepped c c' call returned) (hv : c.Valid)
    (huses : call.Uses lookup lookup_host) (ht : Targets lookup lookup_host c) :
    Routed lookup lookup_host (call, returned) ↔ SameTarget c call := by
  cases h with
  | @dropped io now_ms flow packet slots rest hnone hremoves hrest =>
    refine iff_of_true (fun socket payload addr hmem => ?_)
      fun _ _ _ _ hr => absurd hr (hnone _ _ _ _)
    -- Nothing is sent.
    rcases hrest with rfl | rfl <;> simp at hmem
  | @reused io now_ms flow packet ext origin slot client hreuses hsets =>
    obtain ⟨rfl, rfl⟩ := huses
    have hfor : target io.lookup io.lookup_host flow =
        origin.resolveLocal io.lookup_host ext.port_offset := by
      simp [target, hreuses.extension_eq, hreuses.origin_eq]
    -- The client sends to what its own offset resolves to.
    have htarget : origin.resolveLocal io.lookup_host client.port_offset =
        some client.target_addr := by
      obtain ⟨client₀, hget₀, hkey⟩ := (hv.indexed.lookup_iff _ _).1 hreuses.lookup_eq
      obtain rfl : client₀ = client := Option.some.inj (hget₀.symm.trans hreuses.get_eq)
      obtain ⟨origin₀, horigin₀, htarget⟩ := ht slot client₀ hget₀
      rw [hkey, hreuses.origin_eq] at horigin₀
      cases horigin₀
      exact htarget
    constructor
    · intro hrouted ext' origin' slot' client' hreuses'
      obtain ⟨rfl, rfl, rfl, rfl⟩ := hreuses.unique hreuses'
      have hsent := hrouted client.socket packet.asRef client.target_addr (by simp)
      rw [← hfor, hsent, htarget]
    · intro hsame socket payload addr hmem
      obtain ⟨-, -, rfl⟩ : socket = client.socket ∧ payload = packet.asRef ∧
          addr = client.target_addr := by simpa using hmem
      rw [hfor, hsame ext origin slot client hreuses, htarget]
  | @opened io now_ms flow packet ext origin c₁ slots header target_addr socket flow' hext horigin
      hopens hnone hremoves htarget hslot hflow hheader hinserts =>
    refine iff_of_true (fun socket' payload addr hmem => ?_)
      fun _ _ _ _ hr => absurd hr (hnone _ _ _ _)
    obtain ⟨rfl, rfl⟩ := huses
    -- The header and the packet are sent to the same address.
    have haddr : addr = target_addr := by
      simp only [List.mem_append, List.mem_map, reduceCtorEq, and_false, exists_false, false_or,
        List.mem_cons, List.not_mem_nil, or_false, Effect.sent.injEq] at hmem
      rcases hmem with hmem | ⟨-, -, rfl⟩
      · exact addr_of_mem_proxyHeader hheader hmem
      · rfl
    rw [haddr, ← htarget]
    simp [target, hext, horigin]
  | rejected heq hreject => exact iff_of_true trivial trivial
  | replied hget hid hsource hflow hsets => exact iff_of_true trivial trivial
  | cleared hremoves => exact iff_of_true trivial trivial

/-- Along a run with fixed origins, the clients' addresses are right. -/
theorem targets_of_run {trace : List (Call × Returned)} (h : Run step new trace c)
    (huses : ∀ x ∈ trace, x.1.Uses lookup lookup_host) : Targets lookup lookup_host c := by
  induction h with
  | nil =>
    intro slot client hget
    simp [new, Slab.get_empty] at hget
  | @snoc trace c c' call returned hrun hstep ih =>
    have hv := valid_of_reachable ⟨trace, hrun⟩
    have hcall : call.Uses lookup lookup_host := huses (call, returned) (by simp)
    have ht := ih fun x hx => huses x (List.mem_append_left _ hx)
    exact (stepped_of_eq_ok hv hstep).targets hcall ht

/-- In a run with fixed origins, every packet that is forwarded is sent to the address that its own
offset resolves to, exactly when no packet was forwarded by a client whose offset resolves to
another address. -/
theorem routed_iff_sameTarget {trace : List (Call × Returned)} (h : Run step new trace c)
    (huses : ∀ x ∈ trace, x.1.Uses lookup lookup_host) :
    (∀ x ∈ trace, Routed lookup lookup_host x) ↔
      Along step SameTarget (new : UdpClients σ) trace := by
  induction h with
  | nil => exact iff_of_true (by simp) along_nil
  | @snoc trace c c' call returned hrun hstep ih =>
    have huses' : ∀ x ∈ trace, x.1.Uses lookup lookup_host :=
      fun x hx => huses x (List.mem_append_left _ hx)
    -- The last call is a transition from a state that the run before it leads to.
    have hv := valid_of_reachable ⟨trace, hrun⟩
    have hcall : call.Uses lookup lookup_host := huses (call, returned) (by simp)
    have hlast := (stepped_of_eq_ok hv hstep).routed_iff hv hcall (targets_of_run hrun huses')
    rw [along_snoc hrun, ← ih huses', ← hlast]
    simp only [List.mem_append, List.mem_singleton, or_imp, forall_and, forall_eq]

end

/-- The sample's player sends to the second port twice, and the client of the first packet forwards
the second one. -/
def sampleTrace : List (Call × Returned) :=
  [(Sample.call 30001 1, .handled [.created 0 (packClientId 0 1),
      .sent 5 [1] (.v4 ⟨0x7f000001, 25566⟩)]),
    (Sample.call 30001 1, .handled [.reused 0, .sent 5 [1] (.v4 ⟨0x7f000001, 25566⟩)])]

/-- The sample's player sends to the first port and then to the second one, and the client of the
first packet forwards the second one too. -/
def sampleMisrouted : List (Call × Returned) :=
  [(Sample.call 30000 0, .handled [.created 0 (packClientId 0 1),
      .sent 5 [1] (.v4 ⟨0x7f000001, 25565⟩)]),
    (Sample.call 30001 1, .handled [.reused 0, .sent 5 [1] (.v4 ⟨0x7f000001, 25565⟩)])]

set_option maxRecDepth 10000 in
/-- Two packets to the second port are both sent to its address. -/
theorem routed_iff_sameTarget_sample :
    Along step SameTarget (new : UdpClients (SlabVec Client)) sampleTrace := by
  have hfirst : (new : UdpClients (SlabVec Client)).step (Sample.call 30001 1) =
      .ok (Sample.after new (Sample.call 30001 1), .handled [.created 0 (packClientId 0 1),
        .sent 5 [1] (.v4 ⟨0x7f000001, 25566⟩)]) := rfl
  have hsecond : (Sample.after new (Sample.call 30001 1)).step (Sample.call 30001 1) =
      .ok (Sample.after (Sample.after new (Sample.call 30001 1)) (Sample.call 30001 1),
        .handled [.reused 0, .sent 5 [1] (.v4 ⟨0x7f000001, 25566⟩)]) := rfl
  have huses : ∀ x ∈ sampleTrace, x.1.Uses Sample.io.lookup Sample.io.lookup_host := by
    simp [sampleTrace, Sample.call, Call.Uses]
  refine (routed_iff_sameTarget ((Run.nil.snoc hfirst).snoc hsecond) huses).1 ?_
  have htarget : target Sample.io.lookup Sample.io.lookup_host (Sample.flow 30001 1 none) =
      some (.v4 ⟨0x7f000001, 25566⟩) := rfl
  simp only [List.nil_append, List.cons_append, Routed, Sample.call, htarget, List.mem_cons,
    List.not_mem_nil, or_false, forall_eq_or_imp, forall_eq, reduceCtorEq, false_or,
    Effect.sent.injEq]
  constructor <;> rintro socket payload addr ⟨-, -, rfl⟩ <;> rfl

set_option maxRecDepth 10000 in
/-- The packet to the second port of the tunnel is for port 25566 and is sent to port 25565. -/
theorem not_routed :
    (∃ c : UdpClients (SlabVec Client), Run step new sampleMisrouted c) ∧
    (∀ x ∈ sampleMisrouted, x.1.Uses Sample.io.lookup Sample.io.lookup_host) ∧
    target Sample.io.lookup Sample.io.lookup_host (Sample.flow 30001 1 none) =
      some (.v4 ⟨0x7f000001, 25566⟩) ∧
    ¬∀ x ∈ sampleMisrouted, Routed Sample.io.lookup Sample.io.lookup_host x := by
  have hfirst : (new : UdpClients (SlabVec Client)).step (Sample.call 30000 0) =
      .ok (Sample.after new (Sample.call 30000 0), .handled [.created 0 (packClientId 0 1),
        .sent 5 [1] (.v4 ⟨0x7f000001, 25565⟩)]) := rfl
  have hsecond : (Sample.after new (Sample.call 30000 0)).step (Sample.call 30001 1) =
      .ok (Sample.after (Sample.after new (Sample.call 30000 0)) (Sample.call 30001 1),
        .handled [.reused 0, .sent 5 [1] (.v4 ⟨0x7f000001, 25565⟩)]) := rfl
  have htarget : target Sample.io.lookup Sample.io.lookup_host (Sample.flow 30001 1 none) =
      some (.v4 ⟨0x7f000001, 25566⟩) := rfl
  have huses : ∀ x ∈ sampleMisrouted, x.1.Uses Sample.io.lookup Sample.io.lookup_host := by
    simp [sampleMisrouted, Sample.call, Call.Uses]
  refine ⟨⟨_, (Run.nil.snoc hfirst).snoc hsecond⟩, huses, htarget, ?_⟩
  simp [sampleMisrouted, Routed, Sample.call, htarget]

end UdpClients

end PlayitAgent
