import PlayitAgent.Proto.UdpFlow

/-!
# The header of the PROXY protocol

`ProxyProtocolHeader` of `agent_core/src/network/proxy_protocol.rs`, in its second version. The
header tells the origin who the client is.
-/

namespace PlayitAgent

/-- The two ends of a client's flow. -/
inductive ProxyProtocolHeader where
  | afInet (client_ip proxy_ip : Ipv4Addr) (client_port proxy_port : UInt16)
  | afInet6 (client_ip proxy_ip : Ipv6Addr) (client_port proxy_port : UInt16)
  deriving DecidableEq

namespace ProxyProtocolHeader

/-- `ProxyProtocolHeader::from_udp_flow`. -/
def fromUdpFlow : UdpFlow → ProxyProtocolHeader
  | .v4 src dst _ _ => afInet src.ip dst.ip src.port dst.port
  | .v6 src dst _ => afInet6 src.1 dst.1 src.2 dst.2

/-- `PROXY_PROTOCOL_V2_HEADER`: the signature, the version, and the command. -/
def proxyProtocolV2Header : List UInt8 :=
  [0x0d, 0x0a, 0x0d, 0x0a, 0x00, 0x0d, 0x0a, 0x51, 0x55, 0x49, 0x54, 0x0a, 0x21]

/-- `ProxyProtocolHeader::write_v2_udp`. -/
def writeV2Udp (header : ProxyProtocolHeader) : WriteM Unit := do
  writeAll proxyProtocolV2Header
  match header with
  | afInet client_ip proxy_ip client_port proxy_port =>
    writeAll [0x12]
    writeBE (12 : UInt16)
    writeBE client_ip
    writeBE proxy_ip
    writeBE client_port
    writeBE proxy_port
  | afInet6 client_ip proxy_ip client_port proxy_port =>
    writeAll [0x22]
    writeBE (36 : UInt16)
    writeBE client_ip
    writeBE proxy_ip
    writeBE client_port
    writeBE proxy_port

/-- `ProxyProtocolHeader::write_v2_tcp`. -/
def writeV2Tcp (header : ProxyProtocolHeader) : WriteM Unit := do
  writeAll proxyProtocolV2Header
  match header with
  | afInet client_ip proxy_ip client_port proxy_port =>
    writeAll [0x11]
    writeBE (12 : UInt16)
    writeBE client_ip
    writeBE proxy_ip
    writeBE client_port
    writeBE proxy_port
  | afInet6 client_ip proxy_ip client_port proxy_port =>
    writeAll [0x21]
    writeBE (36 : UInt16)
    writeBE client_ip
    writeBE proxy_ip
    writeBE client_port
    writeBE proxy_port

/-- What is behind the byte for IPv4 and UDP, read from its slab. -/
def readSlabV4 : ReadM (Option ProxyProtocolHeader) := do
  if (← unwrap (readBE UInt16)) ≠ 12 then return none
  let client_ip ← unwrap (readBE Ipv4Addr)
  let proxy_ip ← unwrap (readBE Ipv4Addr)
  let client_port ← unwrap (readBE UInt16)
  let proxy_port ← unwrap (readBE UInt16)
  return some (afInet client_ip proxy_ip client_port proxy_port)

/-- What is behind the byte for IPv6 and UDP, read from its slab. -/
def readSlabV6 : ReadM (Option ProxyProtocolHeader) := do
  if (← unwrap (readBE UInt16)) ≠ 36 then return none
  let client_ip ← unwrap (readBE Ipv6Addr)
  let proxy_ip ← unwrap (readBE Ipv6Addr)
  let client_port ← unwrap (readBE UInt16)
  let proxy_port ← unwrap (readBE UInt16)
  return some (afInet6 client_ip proxy_ip client_port proxy_port)

/-- `ProxyProtocolHeader::parse_v2_udp`. -/
def parseV2Udp : ReadM (Option ProxyProtocolHeader) := do
  let some header ← attemptRead (readExact proxyProtocolV2Header.length) | return none
  if header ≠ proxyProtocolV2Header then return none
  let some proto_type ← attemptRead (readBE UInt8) | return none
  if proto_type = 0x12 then
    let some slab ← attemptRead (readExact 14) | return none
    readSlab slab readSlabV4
  else if proto_type = 0x22 then
    let some slab ← attemptRead (readExact 38) | return none
    readSlab slab readSlabV6
  else return none

/-- A header is written without an error into a buffer that grows. -/
theorem succeeds_writeV2Udp (header : ProxyProtocolHeader) : Succeeds header.writeV2Udp := by
  unfold writeV2Udp
  apply (Succeeds.writeAll _).bind
  intro _
  cases header with
  | afInet client_ip proxy_ip client_port proxy_port =>
    exact (Succeeds.writeAll _).bind fun _ => (succeeds_writeBE _).bind fun _ =>
      (succeeds_writeBE client_ip).bind fun _ => (succeeds_writeBE proxy_ip).bind fun _ =>
        (succeeds_writeBE client_port).bind fun _ => succeeds_writeBE proxy_port
  | afInet6 client_ip proxy_ip client_port proxy_port =>
    exact (Succeeds.writeAll _).bind fun _ => (succeeds_writeBE _).bind fun _ =>
      (succeeds_writeBE client_ip).bind fun _ => (succeeds_writeBE proxy_ip).bind fun _ =>
        (succeeds_writeBE client_port).bind fun _ => succeeds_writeBE proxy_port

end ProxyProtocolHeader

end PlayitAgent
