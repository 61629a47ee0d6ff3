import PlayitAgent.Lib.Channel
import PlayitAgent.Lib.Run
import PlayitAgent.Udp.Channel

/-!
# The tasks of the channel to the tunnel server

`UdpChannel` of `agent_core/src/network/udp/udp_channel.rs` with the two tasks that it spawns. Its
owner gives it sessions and packets over two channels and gets packets from a third; what the tasks
share besides is `Shared`. A step lets one task go from one await, or one access to what is shared,
to the next. What arrives at the socket, what `now_milli` gives, and when timers fire is part of the
actions.

Of the past a `UdpChannel` keeps what its socket was given, what the sending task has done, and what
the receiving task has looked at.
-/

namespace PlayitAgent

/-! ## The sending task -/

/-- Where `SendTask::start` is. -/
inductive SendAt where
  /-- Not polled yet. -/
  | starting
  /-- At the top of its loop. -/
  | looking
  /-- At its `select!`, with the time of its timer. -/
  | selecting (next_send : ℕ)
  /-- In `send_establish`. -/
  | establishing
  /-- In `handle_session`. -/
  | handling (details : UdpChannelDetails)
  /-- In `handle_session`, about to write the session. -/
  | publishing (details : UdpChannelDetails) (should_send : Bool)
  /-- In `send`. -/
  | sending (flow : UdpFlow) (packet : Packet)
  | ended
  /-- An `expect` has failed. -/
  | panicked

/-- `SendTask`. -/
structure SendTask where
  session : Option UdpChannelDetails
  /-- In milliseconds of the clock of the timers. -/
  last_establish_send : ℕ
  place : SendAt

namespace SendTask

/-- `next_send`. -/
def nextSend (task : SendTask) (instant : ℕ) (now last_rx : UInt64) : ℕ :=
  match task.session with
  | none => instant + 5000
  | some _ =>
    let since_establish := max now.toNat last_rx.toNat - last_rx.toNat
    if 15000 ≤ since_establish then task.last_establish_send + 3000
    else task.last_establish_send + 10000

/-- `should_send` of `handle_session`. -/
def shouldSend (task : SendTask) (details : UdpChannelDetails) (now last_rx : UInt64) : Bool :=
  match task.session with
  | none => true
  | some old => if old ≠ details then true else decide (5000 < now.toNat - last_rx.toNat)

end SendTask

/-- What the sending task has done. -/
inductive SendEvent where
  /-- A session was taken over. -/
  | session (details : UdpChannelDetails)
  /-- `send_establish`. -/
  | establish
  /-- `send`. -/
  | packet (flow : UdpFlow) (packet : Packet)

/-! ## The receiving task -/

/-- Where `RecvTask::start` is. -/
inductive RecvAt where
  /-- In `allocate_wait`. -/
  | allocating
  /-- In `recv_from`, or asleep behind a failure of it. -/
  | receiving (packet : Packet)
  /-- About to read the tunnel address of the session. -/
  | checking (packet : Packet) (datagram : List UInt8) (source : SocketAddr)
  /-- About to note that the token was accepted. -/
  | storing (packet : Packet)
  /-- In `recv_tx.send`. -/
  | passing (flow : UdpFlow) (packet : Packet)
  | ended
  /-- An `expect` has failed. -/
  | panicked

/-- A datagram that the receiving task has looked at, with where it came from and the tunnel address
of the session at that time. -/
structure Arrival where
  datagram : List UInt8
  source : SocketAddr
  session_tunnel_addr : Option SocketAddr

/-! ## The channel -/

/-- `Shared`. -/
structure Shared where
  establish_rx_epoch : UInt64
  establish_tx_epoch : UInt64
  session_tunnel_addr : Option SocketAddr

/-- `UdpChannel`, with its tasks. -/
structure UdpChannel where
  session : Channel UdpChannelDetails
  send : Channel (UdpFlow × Packet)
  recv : Channel (UdpFlow × Packet)
  shared : Shared
  send_task : SendTask
  recv_task : RecvAt
  /-- The owner has dropped its ends of the three channels. -/
  dropped : Bool
  /-- The clock of the timers, in milliseconds. -/
  instant : ℕ
  /-- The datagrams that the socket was given, with their destinations. -/
  datagrams : List (List UInt8 × SocketAddr)
  events : List SendEvent
  arrivals : List Arrival

namespace UdpChannel

/-- `UdpChannel::new`. -/
def new (instant : ℕ) : UdpChannel where
  session := .new 32
  send := .new 1024
  recv := .new 4096
  shared := ⟨0, 0, none⟩
  send_task := ⟨none, instant, .starting⟩
  recv_task := .allocating
  dropped := false
  instant := instant
  datagrams := []
  events := []
  arrivals := []

/-- `UdpChannel::time_since_established`, in milliseconds. -/
def timeSinceEstablished (c : UdpChannel) (now : UInt64) : Option ℕ :=
  let ts := c.shared.establish_rx_epoch
  if ts = 0 then none else some (max now.toNat ts.toNat - ts.toNat)

/-- The sending task goes somewhere. -/
def sendAt (c : UdpChannel) (place : SendAt) : UdpChannel :=
  { c with send_task := { c.send_task with place } }

/-- What can happen. -/
inductive Action where
  /-- The sending task is polled for the first time. -/
  | start
  /-- The top of the loop of the sending task. -/
  | look (now : UInt64)
  /-- The timer of the sending task fires. -/
  | timer
  /-- `session_rx.recv` gives a session. -/
  | takeSession
  /-- `send_rx.recv` gives a packet. -/
  | takePacket
  /-- A channel to the sending task is closed. -/
  | leave
  /-- `should_send` is found. -/
  | handle (now : UInt64)
  /-- The session is written. -/
  | publish
  /-- `send_establish`. -/
  | establish (now : UInt64)
  /-- `SendTask::send`. -/
  | sendPacket
  /-- `allocate_wait` gives a packet. -/
  | allocate (packet : Packet)
  /-- `recv_from` gives a datagram. -/
  | receive (datagram : List UInt8) (source : SocketAddr)
  /-- `recv_from` fails, and the task has slept for 20 milliseconds. -/
  | receiveFails
  /-- The receiving task reads the session's address and looks at the datagram. -/
  | check
  /-- The receiving task notes that the token was accepted. -/
  | store (now : UInt64)
  /-- `recv_tx.send` returns. -/
  | pass
  /-- `update_session` of the owner. -/
  | updateSession (details : UdpChannelDetails)
  /-- `send` of the owner. -/
  | send (flow : UdpFlow) (packet : Packet)
  /-- `recv` of the owner. -/
  | recv
  /-- The owner drops the channel. -/
  | drop
  /-- Time passes. -/
  | elapse (ms : ℕ)

/-- The loop of the sending task is left: a channel is closed and empty. -/
def closed (c : UdpChannel) : Bool :=
  c.dropped && (c.session.queue.isEmpty || c.send.queue.isEmpty)

/-- `send_establish`. -/
def sendEstablish (c : UdpChannel) (now : UInt64) : UdpChannel :=
  match c.send_task.session with
  | none => { c.sendAt .looking with events := c.events ++ [.establish] }
  | some session => { c.sendAt .looking with
    shared := { c.shared with establish_tx_epoch := now }
    datagrams := c.datagrams ++ [(session.token, session.tunnel_addr)]
    events := c.events ++ [.establish] }

/-- `SendTask::send`. -/
def sendPacket (c : UdpChannel) (flow : UdpFlow) (packet : Packet) : UdpChannel :=
  match SendTask.send c.send_task.session flow packet with
  | .error _ => c.sendAt .panicked
  | .ok outcome => { c.sendAt .looking with
    datagrams := match outcome with
      | .sent datagram addr => c.datagrams ++ [(datagram, addr)]
      | _ => c.datagrams
    events := c.events ++ [.packet flow packet] }

/-- Where the receiving task goes after a turn of its loop. -/
def recvAfter : Except Failure (Packet × RecvOutcome) → RecvAt
  | .error _ => .panicked
  | .ok (_, .received flow packet) => .passing flow packet
  | .ok (packet, .established) => .storing packet
  | .ok (packet, _) => .receiving packet

/-- The receiving task looks at a datagram. -/
def check (c : UdpChannel) (packet : Packet) (datagram : List UInt8) (source : SocketAddr) :
    UdpChannel :=
  { c with
    recv_task := recvAfter (RecvTask.step packet
      ⟨some (datagram, source), c.shared.session_tunnel_addr, packet⟩)
    arrivals := c.arrivals ++ [⟨datagram, source, c.shared.session_tunnel_addr⟩] }

/-- One step, if it is possible. -/
def next (c : UdpChannel) : Action → Option UdpChannel
  | .start => match c.send_task.place with
    | .starting =>
      some { c with send_task := ⟨c.send_task.session, c.instant, .looking⟩ }
    | _ => none
  | .look now => match c.send_task.place with
    | .looking => some (c.sendAt
        (.selecting (c.send_task.nextSend c.instant now c.shared.establish_rx_epoch)))
    | _ => none
  | .timer => match c.send_task.place with
    | .selecting next_send =>
      if next_send ≤ c.instant then
        some { c with send_task := ⟨c.send_task.session, c.instant, .establishing⟩ }
      else none
    | _ => none
  | .takeSession => match c.send_task.place with
    | .selecting _ => c.session.recv.map fun p => { c.sendAt (.handling p.1) with session := p.2 }
    | _ => none
  | .takePacket => match c.send_task.place with
    | .selecting _ => c.send.recv.map fun p => { c.sendAt (.sending p.1.1 p.1.2) with send := p.2 }
    | _ => none
  | .leave => match c.send_task.place with
    | .selecting _ => if c.closed then some (c.sendAt .ended) else none
    | _ => none
  | .handle now => match c.send_task.place with
    | .handling details => some (c.sendAt (.publishing details
        (c.send_task.shouldSend details now c.shared.establish_rx_epoch)))
    | _ => none
  | .publish => match c.send_task.place with
    | .publishing details should_send => some { c with
        shared := { c.shared with session_tunnel_addr := some details.tunnel_addr }
        send_task := ⟨some details, c.send_task.last_establish_send,
          if should_send then .establishing else .looking⟩
        events := c.events ++ [.session details] }
    | _ => none
  | .establish now => match c.send_task.place with
    | .establishing => some (c.sendEstablish now)
    | _ => none
  | .sendPacket => match c.send_task.place with
    | .sending flow packet => some (c.sendPacket flow packet)
    | _ => none
  | .allocate packet => match c.recv_task with
    | .allocating =>
      some { c with recv_task := .receiving { packet with len := packetLen, len_le := le_rfl } }
    | _ => none
  | .receive datagram source => match c.recv_task with
    | .receiving packet => some { c with recv_task := .checking packet datagram source }
    | _ => none
  | .receiveFails => match c.recv_task with
    | .receiving _ => some c
    | _ => none
  | .check => match c.recv_task with
    | .checking packet datagram source => some (c.check packet datagram source)
    | _ => none
  | .store now => match c.recv_task with
    | .storing packet => some { c with
        shared := { c.shared with establish_rx_epoch := now }
        recv_task := .receiving packet }
    | _ => none
  | .pass => match c.recv_task with
    | .passing flow packet =>
      if c.dropped then some { c with recv_task := .ended }
      else (c.recv.send (flow, packet)).map fun recv => { c with recv, recv_task := .allocating }
    | _ => none
  | .updateSession details =>
    if c.dropped then none else (c.session.send details).map fun session => { c with session }
  | .send flow packet =>
    if c.dropped then none else (c.send.send (flow, packet)).map fun send => { c with send }
  | .recv => if c.dropped then none else c.recv.recv.map fun p => { c with recv := p.2 }
  | .drop => some { c with dropped := true }
  | .elapse ms => some { c with instant := c.instant + ms }

/-! ## What a step does -/

/-- The steps, one by one. -/
inductive Step (c : UdpChannel) : Action → UdpChannel → Prop
  | start (hplace : c.send_task.place = .starting) :
      Step c .start { c with send_task := ⟨c.send_task.session, c.instant, .looking⟩ }
  | look {now : UInt64} (hplace : c.send_task.place = .looking) :
      Step c (.look now) (c.sendAt
        (.selecting (c.send_task.nextSend c.instant now c.shared.establish_rx_epoch)))
  | timer {next_send : ℕ} (hplace : c.send_task.place = .selecting next_send)
      (hle : next_send ≤ c.instant) :
      Step c .timer { c with send_task := ⟨c.send_task.session, c.instant, .establishing⟩ }
  | takeSession {next_send : ℕ} {details : UdpChannelDetails} {session : Channel UdpChannelDetails}
      (hplace : c.send_task.place = .selecting next_send)
      (hrecv : Channel.Receives c.session session details) :
      Step c .takeSession { c.sendAt (.handling details) with session }
  | takePacket {next_send : ℕ} {flow : UdpFlow} {packet : Packet}
      {send : Channel (UdpFlow × Packet)} (hplace : c.send_task.place = .selecting next_send)
      (hrecv : Channel.Receives c.send send (flow, packet)) :
      Step c .takePacket { c.sendAt (.sending flow packet) with send }
  | leave {next_send : ℕ} (hplace : c.send_task.place = .selecting next_send)
      (hclosed : c.closed = true) : Step c .leave (c.sendAt .ended)
  | handle {now : UInt64} {details : UdpChannelDetails}
      (hplace : c.send_task.place = .handling details) :
      Step c (.handle now) (c.sendAt (.publishing details
        (c.send_task.shouldSend details now c.shared.establish_rx_epoch)))
  | publish {details : UdpChannelDetails} {should_send : Bool}
      (hplace : c.send_task.place = .publishing details should_send) :
      Step c .publish { c with
        shared := { c.shared with session_tunnel_addr := some details.tunnel_addr }
        send_task := ⟨some details, c.send_task.last_establish_send,
          if should_send then .establishing else .looking⟩
        events := c.events ++ [.session details] }
  | establish {now : UInt64} (hplace : c.send_task.place = .establishing) :
      Step c (.establish now) (c.sendEstablish now)
  | sendPacket {flow : UdpFlow} {packet : Packet}
      (hplace : c.send_task.place = .sending flow packet) :
      Step c .sendPacket (c.sendPacket flow packet)
  | allocate {packet : Packet} (hplace : c.recv_task = .allocating) :
      Step c (.allocate packet)
        { c with recv_task := .receiving { packet with len := packetLen, len_le := le_rfl } }
  | receive {packet : Packet} {datagram : List UInt8} {source : SocketAddr}
      (hplace : c.recv_task = .receiving packet) :
      Step c (.receive datagram source) { c with recv_task := .checking packet datagram source }
  | receiveFails {packet : Packet} (hplace : c.recv_task = .receiving packet) :
      Step c .receiveFails c
  | check {packet : Packet} {datagram : List UInt8} {source : SocketAddr}
      (hplace : c.recv_task = .checking packet datagram source) :
      Step c .check (c.check packet datagram source)
  | store {packet : Packet} {now : UInt64} (hplace : c.recv_task = .storing packet) :
      Step c (.store now) { c with
        shared := { c.shared with establish_rx_epoch := now }
        recv_task := .receiving packet }
  | passEnds {flow : UdpFlow} {packet : Packet} (hplace : c.recv_task = .passing flow packet)
      (hdropped : c.dropped = true) : Step c .pass { c with recv_task := .ended }
  | pass {flow : UdpFlow} {packet : Packet} {recv : Channel (UdpFlow × Packet)}
      (hplace : c.recv_task = .passing flow packet) (hdropped : c.dropped = false)
      (hsend : Channel.Sends c.recv recv (flow, packet)) :
      Step c .pass { c with recv, recv_task := .allocating }
  | updateSession {details : UdpChannelDetails} {session : Channel UdpChannelDetails}
      (hdropped : c.dropped = false) (hsend : Channel.Sends c.session session details) :
      Step c (.updateSession details) { c with session }
  | send {flow : UdpFlow} {packet : Packet} {send : Channel (UdpFlow × Packet)}
      (hdropped : c.dropped = false) (hsend : Channel.Sends c.send send (flow, packet)) :
      Step c (.send flow packet) { c with send }
  | recv {value : UdpFlow × Packet} {recv : Channel (UdpFlow × Packet)}
      (hdropped : c.dropped = false) (hrecv : Channel.Receives c.recv recv value) :
      Step c .recv { c with recv }
  | drop : Step c .drop { c with dropped := true }
  | elapse {ms : ℕ} : Step c (.elapse ms) { c with instant := c.instant + ms }

/-- A step is one of these. -/
theorem step_of_next {c c' : UdpChannel} {a : Action} (h : c.next a = some c') : Step c a c' := by
  cases a with
  | start =>
    simp only [next] at h
    split at h
    · next hplace =>
      cases h
      exact .start hplace
    · cases h
  | look now =>
    simp only [next] at h
    split at h
    · next hplace =>
      cases h
      exact .look hplace
    · cases h
  | timer =>
    simp only [next] at h
    split at h
    · next next_send hplace =>
      split at h
      · next hle =>
        cases h
        exact .timer hplace hle
      · cases h
    · cases h
  | takeSession =>
    simp only [next] at h
    split at h
    · next next_send hplace =>
      obtain ⟨⟨details, session⟩, hrecv, rfl⟩ := Option.map_eq_some_iff.1 h
      exact .takeSession hplace (Channel.receives_of_recv hrecv)
    · cases h
  | takePacket =>
    simp only [next] at h
    split at h
    · next next_send hplace =>
      obtain ⟨⟨⟨flow, packet⟩, send⟩, hrecv, rfl⟩ := Option.map_eq_some_iff.1 h
      exact .takePacket hplace (Channel.receives_of_recv hrecv)
    · cases h
  | leave =>
    simp only [next] at h
    split at h
    · next next_send hplace =>
      split at h
      · next hclosed =>
        cases h
        exact .leave hplace hclosed
      · cases h
    · cases h
  | handle now =>
    simp only [next] at h
    split at h
    · next details hplace =>
      cases h
      exact .handle hplace
    · cases h
  | publish =>
    simp only [next] at h
    split at h
    · next details should_send hplace =>
      cases h
      exact .publish hplace
    · cases h
  | establish now =>
    simp only [next] at h
    split at h
    · next hplace =>
      cases h
      exact .establish hplace
    · cases h
  | sendPacket =>
    simp only [next] at h
    split at h
    · next flow packet hplace =>
      cases h
      exact .sendPacket hplace
    · cases h
  | allocate packet =>
    simp only [next] at h
    split at h
    · next hplace =>
      cases h
      exact .allocate hplace
    · cases h
  | receive datagram source =>
    simp only [next] at h
    split at h
    · next packet hplace =>
      cases h
      exact .receive hplace
    · cases h
  | receiveFails =>
    simp only [next] at h
    split at h
    · next packet hplace =>
      cases h
      exact .receiveFails hplace
    · cases h
  | check =>
    simp only [next] at h
    split at h
    · next packet datagram source hplace =>
      cases h
      exact .check hplace
    · cases h
  | store now =>
    simp only [next] at h
    split at h
    · next packet hplace =>
      cases h
      exact .store hplace
    · cases h
  | pass =>
    simp only [next] at h
    split at h
    · next flow packet hplace =>
      split at h
      · next hdropped =>
        cases h
        exact .passEnds hplace hdropped
      · next hdropped =>
        obtain ⟨recv, hsend, rfl⟩ := Option.map_eq_some_iff.1 h
        exact .pass hplace (Bool.eq_false_iff.2 hdropped) (Channel.sends_of_send hsend)
    · cases h
  | updateSession details =>
    simp only [next] at h
    split at h
    · cases h
    · next hdropped =>
      obtain ⟨session, hsend, rfl⟩ := Option.map_eq_some_iff.1 h
      exact .updateSession (Bool.eq_false_iff.2 hdropped) (Channel.sends_of_send hsend)
  | send flow packet =>
    simp only [next] at h
    split at h
    · cases h
    · next hdropped =>
      obtain ⟨send, hsend, rfl⟩ := Option.map_eq_some_iff.1 h
      exact .send (Bool.eq_false_iff.2 hdropped) (Channel.sends_of_send hsend)
  | recv =>
    simp only [next] at h
    split at h
    · cases h
    · next hdropped =>
      obtain ⟨⟨value, recv⟩, hrecv, rfl⟩ := Option.map_eq_some_iff.1 h
      exact .recv (Bool.eq_false_iff.2 hdropped) (Channel.receives_of_recv hrecv)
  | drop =>
    cases h
    exact .drop
  | elapse ms =>
    cases h
    exact .elapse

end UdpChannel

end PlayitAgent
