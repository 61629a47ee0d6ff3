import PlayitAgent.Network.LanAddress
import PlayitAgent.Network.OriginTable
import PlayitAgent.Network.ProxyLine
import PlayitAgent.Network.TcpPipe
import PlayitAgent.Proto.ControlFeed

/-!
# The TCP clients

`TcpClients` with its `Worker` of `agent_core/src/network/tcp/tcp_clients.rs`, `TcpClient` of
`tcp_client.rs`, and `LanAddress::tcp_socket` of `lan_address.rs`.

The worker gives each new client an id and starts a task for it. The task claims the client at the
tunnel server, connects to the origin, writes the header of the PROXY protocol, makes the two pipes,
and hands the client over to the worker, which keeps it until it has been idle for too long. The
worker, the tasks, and the pipes take a step at each of their awaits, in any order. What the sockets
do, the clock, the cancellation, and the table of origins are among the actions.

A client refers to its pipes by the number of its task. The tasks are never taken off their list,
so that what their sockets have carried can be told at any time.
-/

namespace PlayitAgent

/-! ## The pipes of a client -/

/-- `TcpClient`. The two pipes have one token. -/
structure TcpClient where
  tunn_to_origin : TcpPipe
  origin_to_tunn : TcpPipe
  /-- The token is cancelled. -/
  cancelled : Bool
  deriving DecidableEq

/-- `TcpClientStat`. -/
structure TcpClientStat where
  tunn_to_origin : UInt64
  origin_to_tunn : UInt64
  deriving DecidableEq

namespace TcpClient

/-- `TcpClient::create_with_stats`. Each pipe reads the clock. -/
def createWithStats (tunnTime originTime : ℤ) (stats : AgentStats) : Option TcpClient := do
  let tunn_to_origin ← TcpPipe.newWithStats tunnTime (some stats) .tunnelToOrigin
  let origin_to_tunn ← TcpPipe.newWithStats originTime (some stats) .originToTunnel
  return ⟨tunn_to_origin, origin_to_tunn, false⟩

/-- `TcpClient::last_use`. -/
def lastUse (tcp : TcpClient) : TcpClientStat :=
  ⟨tcp.tunn_to_origin.readLastActivity, tcp.origin_to_tunn.readLastActivity⟩

/-- `TcpClient::bytes_written`. -/
def bytesWritten (tcp : TcpClient) : TcpClientStat :=
  ⟨tcp.tunn_to_origin.bytesWritten, tcp.origin_to_tunn.bytesWritten⟩

/-- The drop of the client, and of its pipes. -/
def drop (tcp : TcpClient) : TcpClient := { tcp with cancelled := true }

/-- One of the pipes. -/
def pipe (tcp : TcpClient) : PipeDirection → TcpPipe
  | .tunnelToOrigin => tcp.tunn_to_origin
  | .originToTunnel => tcp.origin_to_tunn

/-- The client with another pipe. -/
def setPipe (tcp : TcpClient) (pipe : TcpPipe) : PipeDirection → TcpClient
  | .tunnelToOrigin => { tcp with tunn_to_origin := pipe }
  | .originToTunnel => { tcp with origin_to_tunn := pipe }

/-- What can happen to a pipe under its token. A cancellation is seen only of a token that is
cancelled. It need not be seen at once: `run_until_cancelled` polls a pending read before the token,
and the `select!` may go on with either of two branches that are ready. -/
def allows (tcp : TcpClient) : TcpPipe.Event → Bool
  | .cancelled => tcp.cancelled
  | _ => true

/-- A step of one of the pipes, on the shared counters. -/
def pipeNext (tcp : TcpClient) (stats : AgentStats) (direction : PipeDirection)
    (e : TcpPipe.Event) : Option (TcpClient × AgentStats) :=
  if tcp.allows e then
    ({ tcp.pipe direction with stats := some stats } : TcpPipe).next e |>.map fun pipe =>
      (tcp.setPipe pipe direction, pipe.stats.getD stats)
  else none

end TcpClient

/-! ## The task of a client -/

/-- The counters of `TcpErrors`. -/
inductive TcpError where
  | newClientOriginNotFound
  | invalidProtoMatch
  | newClientRateLimited
  | newClientInvalidPortOffset
  | newClientClaimConnectTimeout
  | newClientClaimConnectError
  | newClientSetTunnelNoDelayError
  | newClientSendClaimTimeout
  | newClientSendClaimError
  | newClientClaimExpectTimeout
  | newClientClaimExpectError
  | newClientOriginConnectError
  | newClientOriginConnectTimeout
  | newClientSetOriginNoDelayError
  | newClientWriteProxyProtoTimeout
  | newClientWriteProxyProtoError
  deriving DecidableEq

/-- The header for the two addresses of a new client, which must be of one family. -/
def ProxyProtocolHeader.fromAddrs : SocketAddr → SocketAddr → Option ProxyProtocolHeader
  | .v4 peer, .v4 tunn => some (.afInet peer.ip tunn.ip peer.port tunn.port)
  | .v6 peer, .v6 tunn => some (.afInet6 peer.ip tunn.ip peer.port tunn.port)
  | _, _ => none

/-- What a writer puts into an empty buffer. -/
def writtenBytes (w : WriteM Unit) : List UInt8 :=
  match w Sink.vec with
  | .ok (_, sink) => sink.written
  | .error _ => []

/-- What is written to the origin first. -/
def ProxyProtocolHeader.tcpBytes (header : ProxyProtocolHeader) : Option ProxyProtocol → List UInt8
  | some .proxyProtocolV1 => writtenBytes header.writeV1Tcp
  | some .proxyProtocolV2 => writtenBytes header.writeV2Tcp
  | none => []

/-- `IpAddr::is_loopback`. -/
def IpAddr.isLoopback : IpAddr → Bool
  | .v4 ip => Ipv4Addr.isLoopback ip
  | .v6 ip => ip = 1

namespace TcpClients

/-- Where the task of a client is. -/
inductive ClaimAt where
  /-- In `resolve_local`. -/
  | resolving
  /-- In the connect to the claim address. -/
  | connecting (origin_addr : SocketAddr)
  /-- In the write of the token. -/
  | sending (origin_addr : SocketAddr)
  /-- In the read of the answer. -/
  | confirming (origin_addr : SocketAddr)
  /-- In `tcp_socket`, connecting from an address of the player's own. -/
  | connectingFrom (local_ip : Ipv4Addr) (origin_addr : SocketAddr)
  /-- In `tcp_socket`, connecting from any address. -/
  | connectingOrigin (origin_addr : SocketAddr)
  /-- In the write of the header. -/
  | writingHeader (origin_addr : SocketAddr)
  /-- Before the pipes are made. -/
  | piping (origin_addr : SocketAddr)
  /-- In the send of the client to the worker. -/
  | handing (added_at : UInt64) (origin_addr : SocketAddr)
  /-- The client was sent. -/
  | handed (added_at : UInt64) (origin_addr : SocketAddr)
  /-- The task has returned, with one of the counters incremented. -/
  | failed (error : TcpError)
  /-- The task has returned because it was cancelled, or because the worker was gone. -/
  | gone
  | panicked
  deriving DecidableEq

/-- The task of a client. -/
structure Claim where
  client_id : UInt64
  details : NewClient
  found : OriginResource
  proxy_header : ProxyProtocolHeader
  phase : ClaimAt
  /-- What the task has written to the tunnel server. -/
  tunnSent : List UInt8
  /-- What the task has read from the tunnel server. -/
  tunnRead : List UInt8
  /-- What the task has written to the origin. -/
  originSent : List UInt8
  /-- The address that the connection to the origin comes from, if it is the player's own. -/
  special : Option Ipv4Addr
  /-- The pipes. -/
  tcp : Option TcpClient
  deriving DecidableEq

/-- What the synchronous part of `LanAddress::tcp_socket` can come to. -/
inductive LocalBind where
  /-- There is no socket. -/
  | noSocket
  /-- The socket cannot be bound. -/
  | notBound
  | bound
  deriving DecidableEq

/-- What can happen to the task of a client. -/
inductive ClaimEvent where
  /-- `resolve_local` returns. -/
  | resolved (lookup_host : LookupHost)
  /-- The tunnel server is connected, and `set_nodelay` has succeeded or not. -/
  | connected (no_delay : Bool)
  | tokenSent
  /-- The answer is there, and a socket was bound for the player or not. -/
  | confirmed (answer : List UInt8) (bind : LocalBind)
  /-- The origin is connected, and `set_nodelay` has succeeded or not. -/
  | originConnected (no_delay : Bool)
  | headerWritten
  /-- The pipes are made, and the clock is read, three times in all. -/
  | piped (tunnTime originTime addedTime : ℤ)
  /-- An I/O error, after some bytes have moved. -/
  | ioFailed (moved : List UInt8)
  /-- The timer fires, after some bytes have moved. -/
  | elapsed (moved : List UInt8)
  /-- The cancellation is seen, after some bytes have moved. -/
  | cancelled (moved : List UInt8)

/-- The counter for an I/O error. The connect from an address of the player's own has none: it is
followed by one from any address. -/
def ClaimAt.ioError : ClaimAt → Option TcpError
  | .connecting _ => some .newClientClaimConnectError
  | .sending _ => some .newClientSendClaimError
  | .confirming _ => some .newClientClaimExpectError
  | .connectingOrigin _ => some .newClientOriginConnectError
  | .writingHeader _ => some .newClientWriteProxyProtoError
  | _ => none

/-- The counter for a timer. -/
def ClaimAt.timeout : ClaimAt → Option TcpError
  | .connecting _ => some .newClientClaimConnectTimeout
  | .sending _ => some .newClientSendClaimTimeout
  | .confirming _ => some .newClientClaimExpectTimeout
  | .connectingFrom _ _ | .connectingOrigin _ => some .newClientOriginConnectTimeout
  | .writingHeader _ => some .newClientWriteProxyProtoTimeout
  | _ => none

/-- The task is in a `select!` with the cancellation. -/
def ClaimAt.cancellable : ClaimAt → Bool
  | .connecting _ | .sending _ | .confirming _ | .connectingFrom _ _ | .connectingOrigin _
  | .writingHeader _ | .handing _ _ => true
  | _ => false

namespace Claim

/-- The task of a client that was just spawned. -/
def spawn (client_id : UInt64) (details : NewClient) (found : OriginResource)
    (proxy_header : ProxyProtocolHeader) : Claim where
  client_id := client_id
  details := details
  found := found
  proxy_header := proxy_header
  phase := .resolving
  tunnSent := []
  tunnRead := []
  originSent := []
  special := none
  tcp := none

/-- The header that the origin gets. -/
def header (c : Claim) : List UInt8 := c.proxy_header.tcpBytes c.found.proxy_protocol

/-- The task goes on. -/
def goto (c : Claim) (phase : ClaimAt) : Claim := { c with phase := phase }

/-- The client is dropped, if there is one. -/
def drop (c : Claim) : Claim := { c with tcp := c.tcp.map TcpClient.drop }

/-- The bytes that have moved when an await ends early: some of the token, less than the answer, or
some of the header. -/
def moving (c : Claim) (moved : List UInt8) : Option Claim :=
  match c.phase with
  | .sending _ =>
    if moved <+: c.details.claim_instructions.token then some { c with tunnSent := moved } else none
  | .confirming _ => if moved.length < 8 then some { c with tunnRead := moved } else none
  | .writingHeader _ => if moved <+: c.header then some { c with originSent := moved } else none
  | _ => if moved = [] then some c else none

/-- `LanAddress::tcp_socket` up to its first await, with `special_lan_ip`. -/
def startOrigin (c : Claim) (origin_addr : SocketAddr) (bind : LocalBind) :
    Claim × List TcpError :=
  if origin_addr.ip.isLoopback then
    match bind with
    | .noSocket =>
      (c.goto (.failed .newClientOriginConnectError), [.newClientOriginConnectError])
    | .notBound => (c.goto (.connectingOrigin origin_addr), [])
    | .bound =>
      (c.goto (.connectingFrom (mapToLocalIp4 c.details.peer_addr.ip) origin_addr), [])
  else (c.goto (.connectingOrigin origin_addr), [])

/-- What follows when the origin is connected. -/
def afterOrigin (c : Claim) (special : Option Ipv4Addr) (origin_addr : SocketAddr)
    (no_delay : Bool) : Claim × List TcpError :=
  let c := { c with special := special }
  (c.goto (if c.found.proxy_protocol.isSome then .writingHeader origin_addr
    else .piping origin_addr), if no_delay then [] else [.newClientSetOriginNoDelayError])

/-- The pipes are made. Where the clock stands before 1970 the task panics, and drops what it has.
-/
def pipes (c : Claim) (stats : AgentStats) (origin_addr : SocketAddr)
    (tunnTime originTime addedTime : ℤ) : Claim :=
  match TcpClient.createWithStats tunnTime originTime stats with
  | none => c.goto .panicked
  | some tcp =>
    match nowMilli addedTime with
    | none => ({ c with tcp := some tcp.drop } : Claim).goto .panicked
    | some added_at => ({ c with tcp := some tcp } : Claim).goto (.handing added_at origin_addr)

/-- One step of the task, if it is possible, and the counters that it increments. -/
def next (c : Claim) (stats : AgentStats) : ClaimEvent → Option (Claim × List TcpError)
  | .resolved lookup_host => match c.phase with
    | .resolving =>
      match c.found.resolveLocal lookup_host c.details.port_offset with
      | none => some (c.goto (.failed .newClientInvalidPortOffset), [.newClientInvalidPortOffset])
      | some origin_addr => some (c.goto (.connecting origin_addr), [])
    | _ => none
  | .connected no_delay => match c.phase with
    | .connecting origin_addr =>
      some (c.goto (.sending origin_addr),
        if no_delay then [] else [.newClientSetTunnelNoDelayError])
    | _ => none
  | .tokenSent => match c.phase with
    | .sending origin_addr =>
      some ({ c with tunnSent := c.details.claim_instructions.token }.goto
        (.confirming origin_addr), [])
    | _ => none
  | .confirmed answer bind => match c.phase with
    | .confirming origin_addr =>
      if answer.length = 8 then some ({ c with tunnRead := answer }.startOrigin origin_addr bind)
      else none
    | _ => none
  | .originConnected no_delay => match c.phase with
    | .connectingFrom local_ip origin_addr =>
      some (c.afterOrigin (some local_ip) origin_addr no_delay)
    | .connectingOrigin origin_addr => some (c.afterOrigin none origin_addr no_delay)
    | _ => none
  | .headerWritten => match c.phase with
    | .writingHeader origin_addr =>
      some ({ c with originSent := c.header }.goto (.piping origin_addr), [])
    | _ => none
  | .piped tunnTime originTime addedTime => match c.phase with
    | .piping origin_addr => some (c.pipes stats origin_addr tunnTime originTime addedTime, [])
    | _ => none
  | .ioFailed moved => match c.phase with
    | .connectingFrom _ origin_addr => some (c.goto (.connectingOrigin origin_addr), [])
    | phase => do
      let error ← phase.ioError
      let c ← c.moving moved
      return (c.goto (.failed error), [error])
  | .elapsed moved => do
    let error ← c.phase.timeout
    let c ← c.moving moved
    return (c.goto (.failed error), [error])
  | .cancelled moved =>
    if c.phase.cancellable then do
      let c ← c.moving moved
      return (c.drop.goto .gone, [])
    else none

end Claim

/-! ## The worker -/

/-- `Client`, with the number of its task for its pipes. -/
structure Client where
  id : UInt64
  added_at : UInt64
  tunnel_id : UInt64
  port_offset : UInt16
  source_addr : SocketAddr
  tunnel_addr : SocketAddr
  origin_addr : SocketAddr
  tcp : ℕ
  deriving DecidableEq

/-- `TcpClientDetails`. -/
structure TcpClientDetails where
  id : UInt64
  added_at : UInt64
  tunnel_id : UInt64
  port_offset : UInt16
  source_addr : SocketAddr
  tunnel_addr : SocketAddr
  origin_addr : SocketAddr
  last_use : TcpClientStat
  bytes_written : TcpClientStat
  deriving DecidableEq

/-- `Event`, without the one that is never sent. -/
inductive Event where
  | newClient (details : NewClient)
  | connectedClient (client : Client)
  | getDetails
  deriving DecidableEq

/-- The clients among events. -/
def clientsOf (events : List Event) : List Client :=
  events.filterMap fun
  | .connectedClient client => some client
  | _ => none

/-- Where the worker is. -/
inductive WorkerAt where
  | selecting
  /-- In the lookup of the origin of a new client. -/
  | lookingUp (client_id : UInt64) (details : NewClient)
  | ended
  deriving DecidableEq

/-- The capacity of the channel to the worker. -/
def eventCapacity : ℕ := 1024

/-- `TcpClients` with its worker, the tasks, and what they share. The ids and the counters wrap. The
counters are those of the process. -/
structure State where
  lookup : OriginLookup
  events : List Event
  worker : WorkerAt
  next_client_id : UInt64
  clients : List Client
  active_tcp : UInt32
  stats : AgentStats
  errors : TcpError → UInt64
  claims : List Claim
  cancelled : Bool
  /-- What `get_details` was answered. -/
  replies : List (List TcpClientDetails)
  /-- A caller has panicked because the worker was gone. -/
  closed : Bool

/-- `TcpClients::new`, while the table of origins is empty, with what the counters have. -/
def init (stats : AgentStats) (errors : TcpError → UInt64) : State where
  lookup := ⟨fun _ => none⟩
  events := []
  worker := .selecting
  next_client_id := 1
  clients := []
  active_tcp := 0
  stats := stats
  errors := errors
  claims := []
  cancelled := false
  replies := []
  closed := false

/-- What can happen. -/
inductive Action where
  /-- `handle_new_client`, with what the rate limiter says. -/
  | handleNewClient (details : NewClient) (limited : Bool)
  /-- `get_details` sends its event. -/
  | getDetails
  /-- The worker takes the next event. -/
  | receive
  /-- The worker has looked up an origin. -/
  | lookedUp
  /-- The timer of the worker fires. -/
  | clearOld (time : ℤ)
  /-- The token is cancelled. -/
  | cancel
  /-- The worker sees the cancellation. -/
  | workerCancelled
  /-- The table of origins is replaced. -/
  | update (resources : List OriginResource)
  | claim (task : ℕ) (e : ClaimEvent)
  /-- A task sends its client to the worker. -/
  | hand (task : ℕ)
  | pipe (task : ℕ) (direction : PipeDirection) (e : TcpPipe.Event)
  /-- Another `TcpClients` of the process increments a counter. -/
  | elsewhere (error : TcpError)

namespace State

/-- Counters are incremented. -/
def count (s : State) (errors : List TcpError) : State :=
  { s with errors := fun error => s.errors error + .ofNat (errors.count error) }

/-- The pipes of a client, by the number of its task. -/
def tcpOf (s : State) (task : ℕ) : Option TcpClient := s.claims[task]?.bind Claim.tcp

/-- `Client::details`. -/
def detailsOf (s : State) (client : Client) : Option TcpClientDetails := do
  let tcp ← s.tcpOf client.tcp
  return ⟨client.id, client.added_at, client.tunnel_id, client.port_offset, client.source_addr,
    client.tunnel_addr, client.origin_addr, tcp.lastUse, tcp.bytesWritten⟩

/-- Clients are dropped, with their pipes. -/
def dropClients (s : State) (dropped : List Client) : State :=
  { s with claims := s.claims.mapIdx fun task c =>
      if task ∈ dropped.map Client.tcp then c.drop else c }

/-- The clients that wait for the worker. -/
def waiting (s : State) : List Client := clientsOf s.events

/-- The worker returns: its clients and the events that wait are dropped. -/
def finish (s : State) : State :=
  { s.dropClients (s.clients ++ s.waiting) with worker := .ended, clients := [], events := [] }

/-- A client that has not been used for so long is not kept, in milliseconds. -/
def keeps (now : UInt64) (last_use : TcpClientStat) : Bool :=
  let since_tunn := max now last_use.tunn_to_origin - last_use.tunn_to_origin
  let since_orig := max now last_use.origin_to_tunn - last_use.origin_to_tunn
  if 90000 < since_tunn ∧ 30000 < since_orig then false
  else if 90000 < since_orig ∧ 30000 < since_tunn then false
  else if 60000 < since_tunn ∧ 60000 < since_orig then false
  else true

/-- `retain` in `Event::ClearOld` keeps a client. -/
def retains (s : State) (now : UInt64) (client : Client) : Bool :=
  match s.tcpOf client.tcp with
  | some tcp => keeps now tcp.lastUse
  | none => true

/-- `Event::ClearOld`. -/
def clearOld (s : State) (now : UInt64) : State :=
  let clients := s.clients.filter (s.retains now)
  { s.dropClients (s.clients.filter fun client => !s.retains now client) with
    clients := clients
    active_tcp := .ofNat clients.length }

/-- The worker handles an event, up to its next await. -/
def handle (s : State) : Event → State
  | .newClient details =>
    { s with worker := .lookingUp s.next_client_id details, next_client_id := s.next_client_id + 1 }
  | .connectedClient client =>
    let clients := s.clients ++ [client]
    { s with clients := clients, active_tcp := .ofNat clients.length }
  | .getDetails => { s with replies := s.replies ++ [s.clients.filterMap s.detailsOf] }

/-- `Event::NewClient`, from the lookup on. -/
def spawnClaim (s : State) (client_id : UInt64) (details : NewClient) : State :=
  let s := { s with worker := .selecting }
  match s.lookup.lookup details.tunnel_id true with
  | none => s.count [.newClientOriginNotFound]
  | some found =>
    match ProxyProtocolHeader.fromAddrs details.peer_addr details.connect_addr with
    | none => s.count [.invalidProtoMatch]
    | some header =>
      { s with claims := s.claims ++ [Claim.spawn client_id details found header] }

/-- An event is sent, where there is room. The caller panics when the worker is gone. -/
def send (s : State) (e : Event) : Option State :=
  if s.worker = .ended then some { s with closed := true }
  else if s.events.length < eventCapacity then some { s with events := s.events ++ [e] }
  else none

/-- The client that a task sends. -/
def clientOf (task : ℕ) (c : Claim) (added_at : UInt64) (origin_addr : SocketAddr) : Client where
  id := c.client_id
  added_at := added_at
  tunnel_id := c.details.tunnel_id
  port_offset := c.details.port_offset
  source_addr := c.details.peer_addr
  tunnel_addr := c.details.connect_addr
  origin_addr := origin_addr
  tcp := task

/-- A task sends its client. What cannot be sent is dropped. -/
def hand (s : State) (task : ℕ) : Option State := do
  let c ← s.claims[task]?
  match c.phase with
  | .handing added_at origin_addr =>
    if s.worker = .ended then some { s with claims := s.claims.set task (c.drop.goto .gone) }
    else if s.events.length < eventCapacity then
      some { s with
        claims := s.claims.set task (c.goto (.handed added_at origin_addr))
        events := s.events ++ [.connectedClient (clientOf task c added_at origin_addr)] }
    else none
  | _ => none

/-- What can happen to a task. The cancellation is seen only when there was one. -/
def allows (s : State) : ClaimEvent → Bool
  | .cancelled _ => s.cancelled
  | _ => true

/-- A step of a task. -/
def claimNext (s : State) (task : ℕ) (e : ClaimEvent) : Option State :=
  if s.allows e then do
    let c ← s.claims[task]?
    let (c, errors) ← c.next s.stats e
    return { s.count errors with claims := s.claims.set task c }
  else none

/-- A step of a pipe. -/
def pipeNext (s : State) (task : ℕ) (direction : PipeDirection) (e : TcpPipe.Event) :
    Option State := do
  let c ← s.claims[task]?
  let tcp ← c.tcp
  let (tcp, stats) ← tcp.pipeNext s.stats direction e
  return { s with claims := s.claims.set task { c with tcp := some tcp }, stats := stats }

/-- One step, if it is possible. -/
def next (s : State) : Action → Option State
  | .handleNewClient details limited =>
    if limited then some (s.count [.newClientRateLimited]) else s.send (.newClient details)
  | .getDetails => s.send .getDetails
  | .receive => match s.worker, s.events with
    | .selecting, e :: events => some ({ s with events := events }.handle e)
    | _, _ => none
  | .lookedUp => match s.worker with
    | .lookingUp client_id details => some (s.spawnClaim client_id details)
    | _ => none
  | .clearOld time => match s.worker with
    | .selecting =>
      -- Where the clock stands before 1970 the worker panics, and drops what it has.
      match nowMilli time with
      | some now => some (s.clearOld now)
      | none => some s.finish
    | _ => none
  | .cancel => some { s with cancelled := true }
  | .workerCancelled => match s.worker with
    | .selecting => if s.cancelled then some s.finish else none
    | _ => none
  | .update resources => some { s with lookup := s.lookup.update resources }
  | .claim task e => s.claimNext task e
  | .hand task => s.hand task
  | .pipe task direction e => s.pipeNext task direction e
  | .elsewhere error => some (s.count [error])

end State

/-- The system that takes a step at a time. -/
def step : State → Action → Except Unit (State × Unit) := ofOption State.next

/-! ## What a step does to the tasks -/

/-- What a step of a task does. -/
inductive Claim.Step (c : Claim) (stats : AgentStats) : Claim → List TcpError → Prop where
  | unresolved (h : c.phase = .resolving) :
    c.Step stats (c.goto (.failed .newClientInvalidPortOffset)) [.newClientInvalidPortOffset]
  | resolved {lookup_host : LookupHost} {origin_addr : SocketAddr} (h : c.phase = .resolving)
    (hlocal : c.found.resolveLocal lookup_host c.details.port_offset = some origin_addr) :
    c.Step stats (c.goto (.connecting origin_addr)) []
  | connected {origin_addr : SocketAddr} (no_delay : Bool) (h : c.phase = .connecting origin_addr) :
    c.Step stats (c.goto (.sending origin_addr))
      (if no_delay then [] else [.newClientSetTunnelNoDelayError])
  | tokenSent {origin_addr : SocketAddr} (h : c.phase = .sending origin_addr) :
    c.Step stats ({ c with tunnSent := c.details.claim_instructions.token }.goto
      (.confirming origin_addr)) []
  | noSocket {answer : List UInt8} {origin_addr : SocketAddr}
    (h : c.phase = .confirming origin_addr) (hanswer : answer.length = 8) :
    c.Step stats ({ c with tunnRead := answer }.goto (.failed .newClientOriginConnectError))
      [.newClientOriginConnectError]
  | confirmed {answer : List UInt8} {origin_addr : SocketAddr}
    (h : c.phase = .confirming origin_addr) (hanswer : answer.length = 8) :
    c.Step stats ({ c with tunnRead := answer }.goto (.connectingOrigin origin_addr)) []
  | bound {answer : List UInt8} {origin_addr : SocketAddr}
    (h : c.phase = .confirming origin_addr) (hanswer : answer.length = 8)
    (hloopback : origin_addr.ip.isLoopback) :
    c.Step stats ({ c with tunnRead := answer }.goto
      (.connectingFrom (mapToLocalIp4 c.details.peer_addr.ip) origin_addr)) []
  | connectedFrom {local_ip : Ipv4Addr} {origin_addr : SocketAddr} (no_delay : Bool)
    (h : c.phase = .connectingFrom local_ip origin_addr) :
    c.Step stats (c.afterOrigin (some local_ip) origin_addr no_delay).1
      (if no_delay then [] else [.newClientSetOriginNoDelayError])
  | connectedOrigin {origin_addr : SocketAddr} (no_delay : Bool)
    (h : c.phase = .connectingOrigin origin_addr) :
    c.Step stats (c.afterOrigin none origin_addr no_delay).1
      (if no_delay then [] else [.newClientSetOriginNoDelayError])
  | notConnectedFrom {local_ip : Ipv4Addr} {origin_addr : SocketAddr}
    (h : c.phase = .connectingFrom local_ip origin_addr) :
    c.Step stats (c.goto (.connectingOrigin origin_addr)) []
  | headerWritten {origin_addr : SocketAddr} (h : c.phase = .writingHeader origin_addr) :
    c.Step stats ({ c with originSent := c.header }.goto (.piping origin_addr)) []
  | piped {origin_addr : SocketAddr} (tunnTime originTime addedTime : ℤ)
    (h : c.phase = .piping origin_addr) :
    c.Step stats (c.pipes stats origin_addr tunnTime originTime addedTime) []
  | failed {c' : Claim} {error : TcpError} {moved : List UInt8}
    (herror : c.phase.ioError = some error ∨ c.phase.timeout = some error)
    (hmoved : c.moving moved = some c') : c.Step stats (c'.goto (.failed error)) [error]
  | cancelled {c' : Claim} {moved : List UInt8} (h : c.phase.cancellable)
    (hmoved : c.moving moved = some c') : c.Step stats (c'.drop.goto .gone) []

/-- A step of a task does one of these things. -/
theorem Claim.step_of_next {c c' : Claim} {stats : AgentStats} {e : ClaimEvent}
    {errors : List TcpError} (h : c.next stats e = some (c', errors)) : c.Step stats c' errors := by
  -- Most events are possible at one await only.
  cases e with
  | resolved lookup_host =>
    simp only [Claim.next] at h
    split at h
    · next hphase =>
      split at h
      · cases h
        exact .unresolved hphase
      · next origin_addr hlocal =>
        cases h
        exact .resolved hphase hlocal
    · cases h
  | connected no_delay =>
    simp only [Claim.next] at h
    split at h
    · next origin_addr hphase =>
      cases h
      exact .connected no_delay hphase
    · cases h
  | tokenSent =>
    simp only [Claim.next] at h
    split at h
    · next origin_addr hphase =>
      cases h
      exact .tokenSent hphase
    · cases h
  | confirmed answer bind =>
    simp only [Claim.next] at h
    split at h
    · next origin_addr hphase =>
      split_ifs at h with hanswer
      simp only [Claim.startOrigin] at h
      split_ifs at h with hloopback
      · cases bind <;> cases h
        · exact .noSocket hphase hanswer
        · exact .confirmed hphase hanswer
        · exact .bound hphase hanswer hloopback
      · cases h
        exact .confirmed hphase hanswer
    · cases h
  | originConnected no_delay =>
    simp only [Claim.next] at h
    split at h
    · next local_ip origin_addr hphase =>
      cases h
      exact .connectedFrom no_delay hphase
    · next origin_addr hphase =>
      cases h
      exact .connectedOrigin no_delay hphase
    · cases h
  | headerWritten =>
    simp only [Claim.next] at h
    split at h
    · next origin_addr hphase =>
      cases h
      exact .headerWritten hphase
    · cases h
  | piped tunnTime originTime addedTime =>
    simp only [Claim.next] at h
    split at h
    · next origin_addr hphase =>
      cases h
      exact .piped tunnTime originTime addedTime hphase
    · cases h
  | ioFailed moved =>
    simp only [Claim.next] at h
    split at h
    · next local_ip origin_addr hphase =>
      cases h
      exact .notConnectedFrom hphase
    · obtain ⟨error, herror, h⟩ := Option.bind_eq_some_iff.1 h
      obtain ⟨c₁, hmoved, h⟩ := Option.bind_eq_some_iff.1 h
      cases h
      exact .failed (.inl herror) hmoved
  | elapsed moved =>
    simp only [Claim.next] at h
    obtain ⟨error, herror, h⟩ := Option.bind_eq_some_iff.1 h
    obtain ⟨c₁, hmoved, h⟩ := Option.bind_eq_some_iff.1 h
    cases h
    exact .failed (.inr herror) hmoved
  | cancelled moved =>
    simp only [Claim.next] at h
    split_ifs at h with hphase
    obtain ⟨c₁, hmoved, h⟩ := Option.bind_eq_some_iff.1 h
    cases h
    exact .cancelled hphase hmoved

/-- What a step can do to a task. -/
inductive ClaimStep (s : State) (c : Claim) : Claim → Prop where
  | same : ClaimStep s c c
  /-- Its client is dropped by the worker. -/
  | dropped : ClaimStep s c c.drop
  | next {c' : Claim} {errors : List TcpError} (h : c.Step s.stats c' errors) : ClaimStep s c c'
  | handed {added_at : UInt64} {origin_addr : SocketAddr}
    (h : c.phase = .handing added_at origin_addr) :
    ClaimStep s c (c.goto (.handed added_at origin_addr))
  /-- The worker is gone when the client is sent. -/
  | lost {added_at : UInt64} {origin_addr : SocketAddr}
    (h : c.phase = .handing added_at origin_addr) : ClaimStep s c (c.drop.goto .gone)
  | piped {tcp tcp' : TcpClient} {stats : AgentStats} {direction : PipeDirection}
    {e : TcpPipe.Event} (h : c.tcp = some tcp)
    (hnext : tcp.pipeNext s.stats direction e = some (tcp', stats)) :
    ClaimStep s c { c with tcp := some tcp' }

/-- A task is one that was spawned now, or was there and has made a step. -/
def ClaimFrom (s : State) (task : ℕ) (c' : Claim) : Prop :=
  (∃ c, s.claims[task]? = some c ∧ ClaimStep s c c') ∨
    ∃ client_id details found header, task = s.claims.length ∧
      s.worker = .lookingUp client_id details ∧
      s.lookup.lookup details.tunnel_id true = some found ∧
      ProxyProtocolHeader.fromAddrs details.peer_addr details.connect_addr = some header ∧
      c' = Claim.spawn client_id details found header

section
variable {s s' : State} {task : ℕ} {c c' : Claim}

/-- Dropping clients drops the pipes of some tasks. -/
theorem claimFrom_of_dropClients {dropped : List Client}
    (h : (s.dropClients dropped).claims[task]? = some c') : ClaimFrom s task c' := by
  simp only [State.dropClients, List.getElem?_mapIdx, Option.map_eq_some_iff] at h
  obtain ⟨c, hc, rfl⟩ := h
  refine .inl ⟨c, hc, ?_⟩
  split_ifs
  · exact .dropped
  · exact .same

/-- A task that is there is one that has made no step. -/
theorem claimFrom_of_getElem? (h : s.claims[task]? = some c') : ClaimFrom s task c' :=
  .inl ⟨c', h, .same⟩

/-- When one task has made a step, the others have made none. -/
theorem claimFrom_of_set {task₀ : ℕ} (hc : s.claims[task₀]? = some c) (hstep : ClaimStep s c c')
    {c'' : Claim} (h : (s.claims.set task₀ c')[task]? = some c'') : ClaimFrom s task c'' := by
  have hlt := (List.getElem?_eq_some_iff.1 hc).1
  rw [List.getElem?_set] at h
  split_ifs at h with heq
  · cases h
    exact .inl ⟨c, heq ▸ hc, hstep⟩
  · exact claimFrom_of_getElem? h

/-- What the lookup of an origin leads to. -/
theorem claimFrom_of_spawnClaim {client_id : UInt64} {details : NewClient}
    (hworker : s.worker = .lookingUp client_id details)
    (h : (s.spawnClaim client_id details).claims[task]? = some c') : ClaimFrom s task c' := by
  unfold State.spawnClaim at h
  dsimp only at h
  split at h
  · exact claimFrom_of_getElem? h
  · next found hfound =>
    split at h
    · exact claimFrom_of_getElem? h
    · next header hheader =>
      rw [List.getElem?_append] at h
      split_ifs at h with hlt
      · exact claimFrom_of_getElem? h
      · -- The new task is the only one behind the others.
        obtain ⟨htask, rfl⟩ : task - s.claims.length = 0 ∧
            Claim.spawn client_id details found header = c' := by
          rcases hindex : task - s.claims.length with _ | n
          · rw [hindex] at h
            exact ⟨rfl, by simpa using h⟩
          · rw [hindex] at h
            simp at h
        exact .inr ⟨client_id, details, found, header, by omega, hworker, hfound, hheader, rfl⟩

/-- A step of a task that is possible. -/
theorem of_claimNext {e : ClaimEvent} (h : s.claimNext task e = some s') :
    ∃ c c' errors, s.allows e ∧ s.claims[task]? = some c ∧ c.next s.stats e = some (c', errors) ∧
      s' = { s.count errors with claims := s.claims.set task c' } := by
  unfold State.claimNext at h
  split_ifs at h with hallows
  obtain ⟨c, hc, h⟩ := Option.bind_eq_some_iff.1 h
  obtain ⟨⟨c', errors⟩, hnext, h⟩ := Option.bind_eq_some_iff.1 h
  exact ⟨c, c', errors, hallows, hc, hnext, (Option.some.inj h).symm⟩

/-- A client that is sent is on its way to the worker, or is dropped because the worker is gone. -/
theorem of_hand (h : s.hand task = some s') :
    ∃ c added_at origin_addr, s.claims[task]? = some c ∧
      c.phase = .handing added_at origin_addr ∧
      ((s.worker = .ended ∧ s' = { s with claims := s.claims.set task (c.drop.goto .gone) }) ∨
        (s.worker ≠ .ended ∧ s.events.length < eventCapacity ∧ s' = { s with
          claims := s.claims.set task (c.goto (.handed added_at origin_addr))
          events := s.events ++
            [.connectedClient (State.clientOf task c added_at origin_addr)] })) := by
  unfold State.hand at h
  obtain ⟨c, hc, h⟩ := Option.bind_eq_some_iff.1 h
  split at h
  · next added_at origin_addr hphase =>
    refine ⟨c, added_at, origin_addr, hc, hphase, ?_⟩
    split_ifs at h with hended hroom
    · exact .inl ⟨hended, (Option.some.inj h).symm⟩
    · exact .inr ⟨hended, hroom, (Option.some.inj h).symm⟩
  · cases h

/-- A step of a pipe that is possible. -/
theorem of_pipeNext {direction : PipeDirection} {e : TcpPipe.Event}
    (h : s.pipeNext task direction e = some s') :
    ∃ c tcp tcp' stats, s.claims[task]? = some c ∧ c.tcp = some tcp ∧
      tcp.pipeNext s.stats direction e = some (tcp', stats) ∧
      s' = { s with claims := s.claims.set task { c with tcp := some tcp' }, stats := stats } := by
  unfold State.pipeNext at h
  obtain ⟨c, hc, h⟩ := Option.bind_eq_some_iff.1 h
  obtain ⟨tcp, htcp, h⟩ := Option.bind_eq_some_iff.1 h
  obtain ⟨⟨tcp', stats⟩, hnext, h⟩ := Option.bind_eq_some_iff.1 h
  exact ⟨c, tcp, tcp', stats, hc, htcp, hnext, (Option.some.inj h).symm⟩

/-- Whatever happens, each task of the next state was spawned now or has made a step. -/
theorem claimFrom_of_next {a : Action} (h : s.next a = some s') (hc : s'.claims[task]? = some c') :
    ClaimFrom s task c' := by
  cases a with
  | handleNewClient details limited =>
    simp only [State.next] at h
    split_ifs at h
    · cases h
      exact claimFrom_of_getElem? hc
    · unfold State.send at h
      split_ifs at h <;> cases h <;> exact claimFrom_of_getElem? hc
  | getDetails =>
    simp only [State.next, State.send] at h
    split_ifs at h <;> cases h <;> exact claimFrom_of_getElem? hc
  | receive =>
    simp only [State.next] at h
    split at h
    · next e events hworker hevents =>
      cases h
      cases e <;> exact claimFrom_of_getElem? hc
    · cases h
  | lookedUp =>
    simp only [State.next] at h
    split at h
    · next client_id details hworker =>
      cases h
      exact claimFrom_of_spawnClaim hworker hc
    · cases h
  | clearOld time =>
    simp only [State.next] at h
    split at h
    · split at h <;> cases h <;> exact claimFrom_of_dropClients hc
    · cases h
  | cancel =>
    cases h
    exact claimFrom_of_getElem? hc
  | workerCancelled =>
    simp only [State.next] at h
    split at h
    · split_ifs at h
      cases h
      exact claimFrom_of_dropClients hc
    · cases h
  | update resources =>
    cases h
    exact claimFrom_of_getElem? hc
  | claim task₀ e =>
    obtain ⟨c, c₁, errors, -, hclaim, hnext, rfl⟩ := of_claimNext h
    exact claimFrom_of_set hclaim (.next (Claim.step_of_next hnext)) hc
  | hand task₀ =>
    obtain ⟨c, added_at, origin_addr, hclaim, hphase, ⟨-, rfl⟩ | ⟨-, -, rfl⟩⟩ := of_hand h
    · exact claimFrom_of_set hclaim (.lost hphase) hc
    · exact claimFrom_of_set hclaim (.handed hphase) hc
  | pipe task₀ direction e =>
    obtain ⟨c, tcp, tcp', stats, hclaim, htcp, hnext, rfl⟩ := of_pipeNext h
    exact claimFrom_of_set hclaim (.piped htcp hnext) hc
  | elsewhere error =>
    cases h
    exact claimFrom_of_getElem? hc

/-- No task is taken off the list of the tasks. -/
theorem length_claims_of_next {a : Action} (h : s.next a = some s') :
    s.claims.length ≤ s'.claims.length := by
  cases a with
  | handleNewClient details limited =>
    simp only [State.next, State.send] at h
    split_ifs at h <;> cases h <;> exact le_rfl
  | getDetails =>
    simp only [State.next, State.send] at h
    split_ifs at h <;> cases h <;> exact le_rfl
  | receive =>
    simp only [State.next] at h
    split at h
    · next e events hworker hevents =>
      cases h
      cases e <;> exact le_rfl
    · cases h
  | lookedUp =>
    simp only [State.next] at h
    split at h
    · cases h
      unfold State.spawnClaim
      dsimp only
      split
      · exact le_rfl
      · split
        · exact le_rfl
        · simp
    · cases h
  | clearOld time =>
    simp only [State.next] at h
    split at h
    · split at h <;> cases h <;> simp [State.clearOld, State.finish, State.dropClients]
    · cases h
  | cancel =>
    cases h
    exact le_rfl
  | workerCancelled =>
    simp only [State.next] at h
    split at h
    · split_ifs at h
      cases h
      simp [State.finish, State.dropClients]
    · cases h
  | update resources =>
    cases h
    exact le_rfl
  | claim task e =>
    obtain ⟨c, c', errors, -, -, -, rfl⟩ := of_claimNext h
    simp
  | hand task =>
    obtain ⟨c, added_at, origin_addr, -, -, ⟨-, rfl⟩ | ⟨-, -, rfl⟩⟩ := of_hand h <;> simp
  | pipe task direction e =>
    obtain ⟨c, tcp, tcp', stats, -, -, -, rfl⟩ := of_pipeNext h
    simp
  | elsewhere error =>
    cases h
    exact le_rfl

/-- A task that is there makes a step, whatever happens. -/
theorem exists_claimStep {a : Action} (h : s.next a = some s') (hc : s.claims[task]? = some c) :
    ∃ c', s'.claims[task]? = some c' ∧ ClaimStep s c c' := by
  have hlt := (List.getElem?_eq_some_iff.1 hc).1
  have hlen := length_claims_of_next h
  obtain ⟨c', hc'⟩ : ∃ c', s'.claims[task]? = some c' :=
    ⟨_, List.getElem?_eq_getElem (by omega)⟩
  rcases claimFrom_of_next h hc' with ⟨c₀, hc₀, hstep⟩ | ⟨_, _, _, _, htask, -⟩
  · obtain rfl := Option.some.inj (hc.symm.trans hc₀)
    exact ⟨c', hc', hstep⟩
  · omega

end

end TcpClients

end PlayitAgent
