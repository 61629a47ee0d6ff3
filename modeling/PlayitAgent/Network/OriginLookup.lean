import Mathlib.Logic.Function.Basic
import PlayitAgent.Proto.ControlRequest

/-!
# Origins

The table of `agent_core/src/network/origin_lookup.rs`: which local service a tunnel leads to, and
at which address. `lookup` finds the origin of a tunnel and `resolveLocal` the address for a port of
it. Host names are resolved by a function, the outcome of `lookup_host`.
-/

namespace PlayitAgent

/-- The versions of the PROXY protocol. -/
inductive ProxyProtocol where
  | proxyProtocolV1
  | proxyProtocolV2
  deriving DecidableEq

/-- The host of an origin. -/
inductive OriginIp where
  | ipAddress (ip : IpAddr)
  | hostname (host : String)
  deriving DecidableEq

/-- What `lookup_host` gives first for a host name and a port, or `none` when it fails. -/
abbrev LookupHost := String → UInt16 → Option SocketAddr

/-- `OriginIp::resolve`. -/
def OriginIp.resolve (lookup_host : LookupHost) : OriginIp → UInt16 → Option SocketAddr
  | .ipAddress ip, port => some (SocketAddr.new ip port)
  | .hostname host, port => lookup_host host port

/-- The service behind a tunnel. -/
inductive OriginTarget where
  | https (ip : OriginIp) (http_port https_port : UInt16)
  | port (ip : OriginIp) (port : UInt16)
  deriving DecidableEq

/-- The origin of a tunnel. -/
structure OriginResource where
  tunnel_id : UInt64
  proto : PortProto
  target : OriginTarget
  port_count : UInt16
  proxy_protocol : Option ProxyProtocol
  deriving DecidableEq

/-- `u16::checked_add`. -/
def checkedAdd (a b : UInt16) : Option UInt16 :=
  if a.toNat + b.toNat < 2 ^ 16 then some (a + b) else none

/-- `OriginResource::resolve_local`. -/
def OriginResource.resolveLocal (lookup_host : LookupHost) (origin : OriginResource)
    (port_offset : UInt16) : Option SocketAddr :=
  match origin.target with
  | .https ip http_port https_port =>
    if port_offset = 0 then ip.resolve lookup_host http_port
    else if port_offset = 1 then ip.resolve lookup_host https_port
    else none
  | .port ip port =>
    if origin.port_count = 0 then ip.resolve lookup_host port
    else if origin.port_count ≤ port_offset then none
    else do
      let resolved_port ← checkedAdd port port_offset
      ip.resolve lookup_host resolved_port

/-- The key of an origin. -/
structure OriginKey where
  tunnel_id : UInt64
  is_tcp : Bool
  deriving DecidableEq

/-- The table of origins. -/
structure OriginLookup where
  map : OriginKey → Option OriginResource

namespace OriginLookup

/-- `OriginLookup::lookup`. -/
def lookup (table : OriginLookup) (tunnel_id : UInt64) (is_tcp : Bool) : Option OriginResource :=
  table.map ⟨tunnel_id, is_tcp⟩

/-- One turn of the loop of `update`. -/
def insertResource (next : OriginKey → Option OriginResource) (res : OriginResource) :
    OriginKey → Option OriginResource :=
  match res.proto with
  | .tcp => Function.update next ⟨res.tunnel_id, true⟩ (some res)
  | .udp => Function.update next ⟨res.tunnel_id, false⟩ (some res)
  | .both => Function.update (Function.update next ⟨res.tunnel_id, true⟩ (some res))
      ⟨res.tunnel_id, false⟩ (some res)

/-- `OriginLookup::update`: the new table does not depend on the old one. -/
def update (_table : OriginLookup) (resources : List OriginResource) : OriginLookup :=
  ⟨resources.foldl insertResource fun _ => none⟩

end OriginLookup

end PlayitAgent
