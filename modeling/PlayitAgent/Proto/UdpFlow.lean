import PlayitAgent.Proto.Net

/-!
# UDP flows and their footers

`UdpFlow` of `agent_proto/src/udp_proto.rs`. Every datagram between the agent and the tunnel server
ends in a footer that names the flow it belongs to. A footer is recognised from its last eight
bytes, and its length depends on what they are: `writeTo` writes it over the front of a slice,
`fromTail` reads it off the end of a datagram, and `footerLen` is its length.
-/

namespace PlayitAgent

/-- The footer of an IPv4 flow without an extension ends in this. -/
def redirectFlow4FooterIdV1 : UInt64 := 0x5cb867cf788173b2

/-- The footer of an IPv6 flow without an extension ends in this. -/
def redirectFlow6FooterIdV1 : UInt64 := 0x6668676f68616366

/-- The footer of an IPv4 flow with an extension ends in this. -/
def redirectFlow4FooterIdV2 : UInt64 := 0x5cb867cf78817399

/-- The footer of an IPv6 flow with an extension ends in this. -/
def redirectFlow6FooterIdV2 : UInt64 := 0x6cb667cf78817369

/-- The tunnel server's answer to a session token ends in this. -/
def udpChannelEstablishId : UInt64 := 0xd01fe6830ddce781

/-- `EXT_LEN`: the bytes of an extension. -/
def extLen : ℕ := 18

/-- `IP4_LEN_V1`. -/
def ip4LenV1 : ℕ := 20

/-- `IP4_LEN_V2_WITHOUT_FRAG`: two more bytes hold the packet id zero. -/
def ip4LenV2WithoutFrag : ℕ := 20 + extLen + 2

/-- `IP4_LEN_V2_WITH_FRAG`. -/
def ip4LenV2WithFrag : ℕ := ip4LenV2WithoutFrag + 3

/-- `IP6_LEN_V1`. -/
def ip6LenV1 : ℕ := 48

/-- `IP6_LEN_V2`: the flow label makes room for the extension. -/
def ip6LenV2 : ℕ := ip6LenV1 - 4 + extLen

/-- Where a flow belongs: the tunnel server's client, the tunnel, and the port within the tunnel. -/
structure UdpFlowExtension where
  /-- The client, as the tunnel server counts it. -/
  client_server_id : NonZeroU64
  /-- The tunnel. -/
  tunnel_id : NonZeroU64
  /-- The offset of the port from the tunnel's first port. -/
  port_offset : UInt16
  deriving DecidableEq

/-- The place of a fragment in its packet. -/
structure FragmentInfo where
  /-- The packet. -/
  packet_id : NonZeroU16
  /-- The offset in the packet. -/
  frag_offset : UInt16
  /-- More fragments follow. -/
  has_more : Bool
  deriving DecidableEq

/-- A UDP flow: its two ends, and what the tunnel server knows of it. -/
inductive UdpFlow where
  | v4 (src dst : SocketAddrV4) (frag : Option FragmentInfo) (extension : Option UdpFlowExtension)
  | v6 (src dst : Ipv6Addr × UInt16) (extension : Option UdpFlowExtension)
  deriving DecidableEq

namespace UdpFlow

/-- The extension. -/
def extension : UdpFlow → Option UdpFlowExtension
  | v4 _ _ _ extension => extension
  | v6 _ _ extension => extension

/-- The flow with another extension, as `extension_mut` leaves it after an assignment. -/
def setExtension (flow : UdpFlow) (extension : Option UdpFlowExtension) : UdpFlow :=
  match flow with
  | v4 src dst frag _ => v4 src dst frag extension
  | v6 src dst _ => v6 src dst extension

/-- The fragment information. An IPv6 flow carries none. -/
def frag : UdpFlow → Option FragmentInfo
  | v4 _ _ frag _ => frag
  | v6 _ _ _ => none

/-- `update_client_server_id`: a flow without an extension stays as it is. -/
def updateClientServerId (flow : UdpFlow) (client_server_id : NonZeroU64) : UdpFlow :=
  flow.setExtension (flow.extension.map ({ · with client_server_id }))

/-- The flow in the other direction. -/
def flip : UdpFlow → UdpFlow
  | v4 src dst frag extension => v4 dst src frag extension
  | v6 src dst extension => v6 dst src extension

/-- The source. -/
def src : UdpFlow → SocketAddr
  | v4 src _ _ _ => .v4 src
  | v6 src _ _ => .v6 ⟨src.1, src.2, 0, 0⟩

/-- The length of the footer. -/
def footerLen : UdpFlow → ℕ
  | v4 _ _ _ none => ip4LenV1
  | v4 _ _ (some _) (some _) => ip4LenV2WithFrag
  | v4 _ _ none (some _) => ip4LenV2WithoutFrag
  | v6 _ _ none => ip6LenV1
  | v6 _ _ (some _) => ip6LenV2

/-- The writes of `write_to`, once the slice is known to be long enough. -/
def writeFields : UdpFlow → WriteM Unit
  | v4 src dst frag extension => do
    unwrap (writeBE src.ip)
    unwrap (writeBE dst.ip)
    unwrap (writeBE src.port)
    unwrap (writeBE dst.port)
    match extension with
    | some extension => do
      unwrap (writeBE extension.client_server_id.val)
      unwrap (writeBE extension.tunnel_id.val)
      unwrap (writeBE extension.port_offset)
      match frag with
      | none => unwrap (writeBE (0 : UInt16))
      | some frag => do
        unwrap (writeBE (if frag.has_more then 1 else 0 : UInt8))
        unwrap (writeBE frag.frag_offset)
        unwrap (writeBE frag.packet_id.val)
      unwrap (writeBE redirectFlow4FooterIdV2)
    | none => unwrap (writeBE redirectFlow4FooterIdV1)
  | v6 src dst extension => do
    unwrap (writeBE src.1)
    unwrap (writeBE dst.1)
    unwrap (writeBE src.2)
    unwrap (writeBE dst.2)
    match extension with
    | some extension => do
      unwrap (writeBE extension.client_server_id.val)
      unwrap (writeBE extension.tunnel_id.val)
      unwrap (writeBE extension.port_offset)
      unwrap (writeBE redirectFlow6FooterIdV2)
    | none => do
      -- The flow label, which is no longer used.
      unwrap (writeBE (0 : UInt32))
      unwrap (writeBE redirectFlow6FooterIdV1)

/-- `write_to`: whether the footer was written, and the slice afterwards. -/
def writeTo (flow : UdpFlow) (slice : List UInt8) : Except Failure (Bool × List UInt8) :=
  if slice.length < flow.footerLen then .ok (false, slice)
  else match flow.writeFields (Sink.slice slice) with
    | .ok (_, sink) => .ok (true, sink.written ++ sink.rest.getD [])
    | .error e => .error e

/-- `&slice[slice.len() - n..]`, which panics on a shorter slice. -/
def lastBytes (slice : List UInt8) (n : ℕ) : Except Failure (List UInt8) :=
  if n ≤ slice.length then .ok (slice.drop (slice.length - n)) else .error (.panic .index)

/-- The reads of `from_tail` on the footer of an IPv4 flow without an extension. -/
def readV4V1 : ReadM (Except (Option UInt64) UdpFlow) := do
  let src_ip ← unwrap (readBE UInt32)
  let dst_ip ← unwrap (readBE UInt32)
  let src_port ← unwrap (readBE UInt16)
  let dst_port ← unwrap (readBE UInt16)
  return .ok (v4 ⟨src_ip, src_port⟩ ⟨dst_ip, dst_port⟩ none none)

/-- The reads of `from_tail` on the footer of an IPv4 flow with an extension. The packet id has
been read already, from the end. -/
def readV4V2 (packet_id : UInt16) : ReadM (Except (Option UInt64) UdpFlow) := do
  let src_ip ← unwrap (readBE UInt32)
  let dst_ip ← unwrap (readBE UInt32)
  let src_port ← unwrap (readBE UInt16)
  let dst_port ← unwrap (readBE UInt16)
  let client_server_id ← unwrap (readBE UInt64)
  let some client_server_id := NonZeroU64.new client_server_id | return .error none
  let tunnel_id ← unwrap (readBE UInt64)
  let some tunnel_id := NonZeroU64.new tunnel_id | return .error none
  let port_offset ← unwrap (readBE UInt16)
  match NonZeroU16.new packet_id with
  | some packet_id => do
    let has_more ← unwrap (readBE UInt8)
    let frag_offset ← unwrap (readBE UInt16)
    return .ok (v4 ⟨src_ip, src_port⟩ ⟨dst_ip, dst_port⟩
      (some ⟨packet_id, frag_offset, has_more != 0⟩)
      (some ⟨client_server_id, tunnel_id, port_offset⟩))
  | none =>
    return .ok (v4 ⟨src_ip, src_port⟩ ⟨dst_ip, dst_port⟩ none
      (some ⟨client_server_id, tunnel_id, port_offset⟩))

/-- The reads of `from_tail` on the footer of an IPv6 flow without an extension. -/
def readV6V1 : ReadM (Except (Option UInt64) UdpFlow) := do
  let src_ip ← unwrap (readBE Ipv6Addr)
  let dst_ip ← unwrap (readBE Ipv6Addr)
  let src_port ← unwrap (readBE UInt16)
  let dst_port ← unwrap (readBE UInt16)
  let _flow ← unwrap (readBE UInt32)
  return .ok (v6 (src_ip, src_port) (dst_ip, dst_port) none)

/-- The reads of `from_tail` on the footer of an IPv6 flow with an extension. -/
def readV6V2 : ReadM (Except (Option UInt64) UdpFlow) := do
  let src_ip ← unwrap (readBE Ipv6Addr)
  let dst_ip ← unwrap (readBE Ipv6Addr)
  let src_port ← unwrap (readBE UInt16)
  let dst_port ← unwrap (readBE UInt16)
  let client_server_id ← unwrap (readBE UInt64)
  let some client_server_id := NonZeroU64.new client_server_id | return .error none
  let tunnel_id ← unwrap (readBE UInt64)
  let some tunnel_id := NonZeroU64.new tunnel_id | return .error none
  let port_offset ← unwrap (readBE UInt16)
  return .ok (v6 (src_ip, src_port) (dst_ip, dst_port)
    (some ⟨client_server_id, tunnel_id, port_offset⟩))

/-- `from_tail`: the flow that the footer at the end of a datagram names. The error is the last
eight bytes when they are no footer's, and `none` when the footer is cut off or malformed. -/
def fromTail (slice : List UInt8) : Except Failure (Except (Option UInt64) UdpFlow) := do
  -- Not enough space for footer.
  if slice.length < 8 then return .error none
  let footer_id ← (unwrap (readBE UInt64)).run' (← lastBytes slice 8)
  if footer_id = redirectFlow4FooterIdV1 then
    if slice.length < ip4LenV1 then return .error none
    readV4V1.run' (← lastBytes slice ip4LenV1)
  else if footer_id = redirectFlow4FooterIdV2 then
    if slice.length < 10 then return .error none
    let packet_id ← (unwrap (readBE UInt16)).run' (← lastBytes slice 10)
    if packet_id = 0 then
      if slice.length < ip4LenV2WithoutFrag then return .error none
      (readV4V2 packet_id).run' (← lastBytes slice ip4LenV2WithoutFrag)
    else
      if slice.length < ip4LenV2WithFrag then return .error none
      (readV4V2 packet_id).run' (← lastBytes slice ip4LenV2WithFrag)
  else if footer_id = redirectFlow6FooterIdV1 then
    if slice.length < ip6LenV1 then return .error none
    readV6V1.run' (← lastBytes slice ip6LenV1)
  else if footer_id = redirectFlow6FooterIdV2 then
    if slice.length < ip6LenV2 then return .error none
    readV6V2.run' (← lastBytes slice ip6LenV2)
  else return .error (some footer_id)

end UdpFlow

end PlayitAgent
