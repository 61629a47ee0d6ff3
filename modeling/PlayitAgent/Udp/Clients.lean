import PlayitAgent.Lib.Run
import PlayitAgent.Lib.Slab
import PlayitAgent.Network.LanAddress
import PlayitAgent.Network.OriginLookup
import PlayitAgent.Network.ProxyProtocol
import PlayitAgent.Network.Stats
import PlayitAgent.Udp.Packets

/-!
# UDP clients

`UdpClients` of `agent_core/src/network/udp/udp_clients.rs`, with `UdpReceiver` of
`udp_receiver.rs`. For every player and tunnel the agent keeps a client: a local socket to the
tunnel's origin, a task that receives what the origin answers, and the flow that the answers go back
on. Clients are stored in a slab and found by the player's address and the tunnel.

What the functions meet outside (the origins, the rate limiter, the sockets, the tasks) is passed in
as a record, and what they do outside is returned as a list of effects. Whether a datagram that was
handed to a socket arrives changes an error counter only, and is left out.
-/

namespace PlayitAgent

/-- A socket, as the operating system numbers it. -/
abbrev Socket := ℕ

/-! ## Receivers -/

/-- The receiving end of a `oneshot` channel. Once `try_recv` has seen the value, or that the sender
is gone, the channel is given up, and awaiting it panics. -/
inductive OneshotReceiver where
  | waiting
  | taken
  deriving DecidableEq

/-- The handle of the task that receives what an origin answers. -/
structure UdpReceiver where
  /-- The id of the client that the task belongs to. -/
  id : UInt64
  /-- Where the task announces its end. -/
  end_rx : OneshotReceiver
  /-- The end has been seen. -/
  closed : Bool
  deriving DecidableEq

/-- What the task of a receiver sends: a packet from the origin's side, with the task's id. -/
structure UdpReceivedPacket where
  rx_id : UInt64
  packet : Packet
  source : SocketAddr

namespace UdpReceiver

/-- `UdpReceiverSetup::create`: the handle of a new task. -/
def create (id : UInt64) : UdpReceiver := ⟨id, .waiting, false⟩

/-- `Task::start`, when its socket has received a datagram: what it sends to the clients. -/
def received (id : UInt64) (packet : Packet) (source : SocketAddr) : UdpReceivedPacket :=
  ⟨id, packet, source⟩

/-- `UdpReceiver::is_closed`, when the task has `ended` or not. -/
def isClosed (receiver : UdpReceiver) (ended : Bool) : Bool × UdpReceiver :=
  if receiver.closed then (true, receiver)
  else
    match receiver.end_rx with
    | .taken => (true, { receiver with closed := true })
    | .waiting =>
      if ended then (true, { receiver with end_rx := .taken, closed := true })
      else (false, receiver)

/-- `UdpReceiver::shutdown`, when the task ends within 15 seconds or not. -/
def shutdown (receiver : UdpReceiver) (timedout : Bool) : Except Panic Unit :=
  match receiver.end_rx with
  | .taken => throw .polledAfterCompletion
  | .waiting => if timedout then throw .explicit else return ()

end UdpReceiver

/-! ## Clients -/

/-- What a client is found by. -/
structure UdpClientKey where
  source_addr : SocketAddr
  tunnel_id : UInt64
  deriving DecidableEq

/-- A client. -/
structure Client where
  id : UInt64
  key : UdpClientKey
  socket : Socket
  target_addr : SocketAddr
  port_offset : UInt16
  flow : UdpFlow
  receiver : UdpReceiver
  from_tunnel_ts : UInt64
  from_origin_ts : UInt64

/-- The clients, in a slab of type `σ`. -/
structure UdpClients (σ : Type) where
  virtual_client_lookup : UdpClientKey → Option ℕ
  virtual_clients : σ
  next_client_generation : UInt32
  stats : AgentStats

/-- `pack_client_id`. -/
def packClientId (slot generation : UInt32) : UInt64 :=
  (generation.toUInt64 <<< 32) ||| slot.toUInt64

/-- `unpack_slot`. -/
def unpackSlot (id : UInt64) : ℕ := id.toUInt32.toNat

/-- What a call does outside, and what it does to the slots of the slab. -/
inductive Effect where
  /-- The rate limiter refused a client. -/
  | newClientRatelimit
  /-- A client was opened in a slot, and its task was started with an id. -/
  | created (slot : ℕ) (id : UInt64)
  /-- The client in a slot forwards the packet. -/
  | reused (slot : ℕ)
  /-- The client in a slot was removed. -/
  | removed (slot : ℕ)
  /-- The origin asks for the first version of the PROXY protocol, which UDP does not have. -/
  | originV1ProxyProtocol
  /-- A datagram was handed to a socket. -/
  | sent (socket : Socket) (payload : List UInt8) (addr : SocketAddr)
  deriving DecidableEq

/-- The number of sockets that a process can have open: a descriptor is a non-negative `i32`. -/
def maxSockets : ℕ := 2 ^ 31

/-- What `handle_tunneled_packet` meets outside. -/
structure TunneledIo where
  /-- The table of origins. -/
  lookup : OriginLookup
  /-- The outcome of `lookup_host`. -/
  lookup_host : LookupHost
  /-- The task of the client that the packet belongs to has ended. -/
  ended : Bool
  /-- The rate limiter allows a new client. -/
  limiter : Bool
  /-- The outcome of `UdpSocket::bind` for an address, with a number of sockets open. -/
  bind : ℕ → SocketAddr → Except IoError Socket
  /-- To a process with `maxSockets` sockets the operating system gives no further one. -/
  limited : ∀ sockets addr, maxSockets ≤ sockets → ∃ error, bind sockets addr = .error error

/-- `UdpClientKey::create_socket`. Each client has a socket open. -/
def UdpClientKey.createSocket (key : UdpClientKey) (io : TunneledIo) (clients : ℕ)
    (special_lan : Bool) (target_addr : SocketAddr) : Except IoError Socket :=
  udpSocket (io.bind clients) special_lan key.source_addr target_addr key.tunnel_id

/-- The address is an IPv4 address of the local host. -/
def SocketAddr.isV4Loopback : SocketAddr → Bool
  | .v4 addr => addr.ip.isLoopback
  | .v6 _ => false

/-- The flow of a client, from the flow of the packet that opens it: the other direction, with the
port of the tunnel's first port. -/
def clientFlow (flow : UdpFlow) (port_offset : UInt16) : Except Panic UdpFlow :=
  match flow.flip with
  | .v4 src dst frag (some ext) =>
    if port_offset ≠ 0 then
      if port_offset ≤ src.port then
        return .v4 ⟨src.ip, src.port - port_offset⟩ dst frag (some { ext with port_offset := 0 })
      else throw .assertion
    else return .v4 src dst frag (some { ext with port_offset := 0 })
  | .v6 src dst (some ext) =>
    if port_offset ≠ 0 then
      if port_offset ≤ src.2 then
        return .v6 (src.1, src.2 - port_offset) dst (some { ext with port_offset := 0 })
      else throw .assertion
    else return .v6 src dst (some { ext with port_offset := 0 })
  | _ => throw .unreachable

/-- The flow of an answer, from the flow of its client: with the port that the client was opened
for. -/
def replyFlow (flow : UdpFlow) (port_offset : UInt16) : Except Panic UdpFlow :=
  match flow with
  | .v4 src dst frag (some ext) =>
    if src.port.toNat + port_offset.toNat < 2 ^ 16 then
      return .v4 ⟨src.ip, src.port + port_offset⟩ dst frag (some { ext with port_offset })
    else throw .overflow
  | .v6 src dst (some ext) =>
    if src.2.toNat + port_offset.toNat < 2 ^ 16 then
      return .v6 (src.1, src.2 + port_offset) dst (some { ext with port_offset })
    else throw .overflow
  | _ => throw .unreachable

/-- The header of the PROXY protocol that precedes the first packet to an origin that asks for
it. -/
def proxyHeader (proxy_protocol : Option ProxyProtocol) (flow : UdpFlow) (socket : Socket)
    (target_addr : SocketAddr) : Except Panic (List Effect) :=
  match proxy_protocol with
  | none => return []
  | some .proxyProtocolV1 => return [.originV1ProxyProtocol]
  | some .proxyProtocolV2 =>
    match (ProxyProtocolHeader.fromUdpFlow flow).writeV2Udp Sink.vec with
    | .ok (_, buffer) => return [.sent socket buffer.written target_addr]
    | .error _ => throw .unwrap

namespace UdpClients

variable {σ : Type} [Slab σ Client]

/-- `UdpClients::new`. -/
def new : UdpClients σ where
  virtual_client_lookup _ := none
  virtual_clients := Slab.empty
  next_client_generation := 1
  stats := ⟨0, 0, 0⟩

/-- `stats.set_udp(virtual_clients.len() as u32)`. -/
def setUdp (c : UdpClients σ) : UdpClients σ :=
  { c with stats := { c.stats with active_udp := UInt32.ofNat (Slab.len c.virtual_clients) } }

/-! ## Packets from the tunnel -/

/-- The first part of `handle_tunneled_packet`: whether the client in a slot is gone or its task has
ended. -/
def pollReceiver (c : UdpClients σ) (slot : ℕ) (ended : Bool) : Bool × UdpClients σ :=
  match Slab.get c.virtual_clients slot with
  | some client =>
    let (closed, receiver) := client.receiver.isClosed ended
    (closed, { c with virtual_clients := Slab.set c.virtual_clients slot { client with receiver } })
  | none => (true, c)

/-- A client whose task has ended is dropped. -/
def discard (c : UdpClients σ) (key : UdpClientKey) (slot : ℕ) : UdpClients σ :=
  setUdp { c with
    virtual_client_lookup := Function.update c.virtual_client_lookup key none
    virtual_clients :=
      if (Slab.get c.virtual_clients slot).isSome then Slab.remove c.virtual_clients slot
      else c.virtual_clients }

/-- The slot of the client to reuse for a key, if there is one, and the clients without one that
cannot be reused. -/
def findClient (c : UdpClients σ) (key : UdpClientKey) (ended : Bool) :
    Option ℕ × UdpClients σ × List Effect :=
  match c.virtual_client_lookup key with
  | none => (none, c, [])
  | some slot =>
    let (closed, c) := c.pollReceiver slot ended
    if closed then (none, c.discard key slot, [.removed slot]) else (some slot, c, [])

/-- The packet is forwarded by the client in a slot. -/
def reuse (c : UdpClients σ) (now_ms : UInt64) (slot : ℕ) (extension : UdpFlowExtension)
    (packet : Packet) : Except Panic (UdpClients σ × List Effect) :=
  match Slab.get c.virtual_clients slot with
  | none => throw .unwrap
  | some client =>
    return ({ c with
      virtual_clients := Slab.set c.virtual_clients slot { client with
        from_tunnel_ts := now_ms
        flow := client.flow.updateClientServerId extension.client_server_id }
      stats := { c.stats with bytes_in := c.stats.bytes_in + UInt64.ofNat packet.len } },
      [.reused slot, .sent client.socket packet.asRef client.target_addr])

/-- A client is opened and forwards the packet, unless the limiter, the origin, or the operating
system refuses it. -/
def openClient (io : TunneledIo) (c : UdpClients σ) (now_ms : UInt64) (flow : UdpFlow)
    (extension : UdpFlowExtension) (origin : OriginResource) (key : UdpClientKey)
    (packet : Packet) : Except Panic (UdpClients σ × List Effect) := do
  if !io.limiter then return (c, [.newClientRatelimit])
  let some target_addr := origin.resolveLocal io.lookup_host extension.port_offset
    | return (c, [])
  let special_lan := target_addr.isV4Loopback && origin.proxy_protocol.isNone
  let .ok socket := key.createSocket io (Slab.len c.virtual_clients) special_lan target_addr
    | return (c, [])
  let slot := Slab.vacantKey c.virtual_clients
  -- `u32::try_from(slot).expect(..)`.
  if ¬slot < 2 ^ 32 then throw .unwrap
  let id := packClientId (UInt32.ofNat slot) c.next_client_generation
  let flow' ← clientFlow flow extension.port_offset
  let header ← proxyHeader origin.proxy_protocol flow socket target_addr
  let client : Client :=
    { id, key, socket, target_addr, port_offset := extension.port_offset, flow := flow',
      receiver := UdpReceiver.create id, from_tunnel_ts := now_ms, from_origin_ts := now_ms }
  return (setUdp { c with
      virtual_client_lookup := Function.update c.virtual_client_lookup key (some slot)
      virtual_clients := Slab.insert c.virtual_clients client
      next_client_generation := c.next_client_generation + 1 },
    [.created slot id] ++ header ++ [.sent socket packet.asRef target_addr])

/-- `UdpClients::handle_tunneled_packet`. -/
def handleTunneledPacket (io : TunneledIo) (c : UdpClients σ) (now_ms : UInt64) (flow : UdpFlow)
    (packet : Packet) : Except Panic (UdpClients σ × List Effect) := do
  let some extension := flow.extension | return (c, [])
  let some origin := io.lookup.lookup extension.tunnel_id.val false | return (c, [])
  let key : UdpClientKey := ⟨flow.src, extension.tunnel_id.val⟩
  match c.findClient key io.ended with
  | (some slot, c, _) => c.reuse now_ms slot extension packet
  | (none, c, removed) =>
    let (c, effects) ← c.openClient io now_ms flow extension origin key packet
    return (c, removed ++ effects)

/-! ## Packets from the origins -/

/-- What `dispatch_origin_packet` comes to. All but a reply return `None`. -/
inductive Dispatched where
  | originClientMissing
  | originRejectBadId
  | originRejectAddrDiffer
  | reply (flow : UdpFlow) (packet : Packet)

/-- `UdpClients::dispatch_origin_packet`. -/
def dispatchOriginPacket (c : UdpClients σ) (now_ms : UInt64) (packet : UdpReceivedPacket) :
    Except Panic (UdpClients σ × Dispatched) :=
  match Slab.get c.virtual_clients (unpackSlot packet.rx_id) with
  | none => return (c, .originClientMissing)
  | some client => do
    if client.id ≠ packet.rx_id then return (c, .originRejectBadId)
    if packet.source ≠ client.target_addr then return (c, .originRejectAddrDiffer)
    let flow ← replyFlow client.flow client.port_offset
    return ({ c with
      virtual_clients := Slab.set c.virtual_clients (unpackSlot packet.rx_id)
        { client with from_origin_ts := now_ms }
      stats := { c.stats with
        bytes_out := c.stats.bytes_out + UInt64.ofNat packet.packet.len } },
      .reply flow packet.packet)

/-! ## Old clients -/

/-- What `clear_old` meets outside, for the client in each slot. -/
structure ClearIo where
  /-- The task has ended. -/
  ended : ℕ → Bool
  /-- The task does not end within 15 seconds of being told to. -/
  timedout : ℕ → Bool

/-- A client is removed when its task has ended, or when it has been idle. The differences saturate
at zero. -/
def isOld (now_ms : UInt64) (client : Client) (receiver_closed : Bool) : Bool :=
  let since_origin := now_ms.toNat - client.from_origin_ts.toNat
  let since_tunnel := now_ms.toNat - client.from_tunnel_ts.toNat
  receiver_closed || (60000 < since_tunnel && 60000 < since_origin) || 90000 < since_tunnel ||
    90000 < since_origin

/-- One turn of the first loop of `clear_old`. -/
def pollOld (io : ClearIo) (now_ms : UInt64) (acc : UdpClients σ × List ℕ) (slot : ℕ) :
    UdpClients σ × List ℕ :=
  match Slab.get acc.1.virtual_clients slot with
  | none => acc
  | some client =>
    let (receiver_closed, c) := acc.1.pollReceiver slot (io.ended slot)
    (c, if isOld now_ms client receiver_closed then acc.2 ++ [slot] else acc.2)

/-- One turn of the second loop of `clear_old`. -/
def removeOld (io : ClearIo) (c : UdpClients σ) (slot : ℕ) : Except Panic (UdpClients σ) :=
  match Slab.get c.virtual_clients slot with
  -- `Slab::remove` panics on a free key.
  | none => throw .index
  | some client =>
    match c.virtual_client_lookup client.key with
    | none => throw .unwrap
    | some removed => do
      if removed ≠ slot then throw .assertion
      client.receiver.shutdown (io.timedout slot)
      return { c with
        virtual_client_lookup := Function.update c.virtual_client_lookup client.key none
        virtual_clients := Slab.remove c.virtual_clients slot }

/-- `UdpClients::clear_old`. -/
def clearOld (io : ClearIo) (c : UdpClients σ) (now_ms : UInt64) :
    Except Panic (UdpClients σ × List Effect) := do
  let (c, to_remove) := (Slab.keys c.virtual_clients).foldl (pollOld io now_ms) (c, [])
  let to_remove := (to_remove.mergeSort (· ≤ ·)).reverse
  let c ← to_remove.foldlM (removeOld io) c
  return (setUdp c, to_remove.map .removed)

/-! ## Calls -/

/-- A call of one of the three functions, with what it meets outside. -/
inductive Call where
  | handleTunneledPacket (io : TunneledIo) (now_ms : UInt64) (flow : UdpFlow) (packet : Packet)
  | dispatchOriginPacket (now_ms : UInt64) (packet : UdpReceivedPacket)
  | clearOld (io : ClearIo) (now_ms : UInt64)

/-- What a call did or returned. -/
inductive Returned where
  | handled (effects : List Effect)
  | dispatched (outcome : Dispatched)
  | cleared (effects : List Effect)

/-- One call. -/
def step (c : UdpClients σ) : Call → Except Panic (UdpClients σ × Returned)
  | .handleTunneledPacket io now_ms flow packet => do
    let (c, effects) ← c.handleTunneledPacket io now_ms flow packet
    return (c, .handled effects)
  | .dispatchOriginPacket now_ms packet => do
    let (c, outcome) ← c.dispatchOriginPacket now_ms packet
    return (c, .dispatched outcome)
  | .clearOld io now_ms => do
    let (c, effects) ← c.clearOld io now_ms
    return (c, .cleared effects)

end UdpClients

end PlayitAgent
