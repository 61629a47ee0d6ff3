import Mathlib.Logic.Function.Basic
import PlayitAgent.Control.Connected

/-!
# Established sessions

`EstablishedControl`, from `established_control.rs` and `connected_control.rs` of
`agent_core/src/agent_control`: a connection on which the agent is registered, with what was known
of the flow when it registered. The session is expired when it was told to be, when the server has
not set it up in time, or when the flow has changed since the registration.
-/

namespace PlayitAgent

open Future (mapErr zoom)

/-! ## MTU data -/

/-- `MtuData`. The map by data centers is a function. -/
structure MtuData where
  largest_received_packet : Option CheckMtuReceivedAck
  largest_payload_by_datacenter : UInt32 → Option UInt32
  latest_test_fail : Option MtuTestFail

namespace MtuData

/-- `MtuData::default`. -/
def default : MtuData where
  largest_received_packet := none
  largest_payload_by_datacenter := fun _ => none
  latest_test_fail := none

/-- `MtuData::record_check_mtu_received_ack`. -/
def recordCheckMtuReceivedAck (self : MtuData) (ack : CheckMtuReceivedAck) : MtuData :=
  let should_replace := match self.largest_received_packet with
    | some current => decide (current.message_length ≤ ack.message_length)
    | none => true
  if should_replace then { self with largest_received_packet := some ack } else self

/-- `MtuData::record_mtu_test_packet`. -/
def recordMtuTestPacket (self : MtuData) (packet : MtuTestPacket) : MtuData :=
  { self with
    largest_payload_by_datacenter :=
      Function.update self.largest_payload_by_datacenter packet.data_center_id
        (match self.largest_payload_by_datacenter packet.data_center_id with
        | some current =>
          some (if current ≤ packet.udp_payload_length then packet.udp_payload_length else current)
        | none => some packet.udp_payload_length) }

/-- `MtuData::record_mtu_test_fail`. -/
def recordMtuTestFail (self : MtuData) (fail : MtuTestFail) : MtuData :=
  { self with latest_test_fail := some fail }

end MtuData

/-! ## The session -/

/-- A connection on which the agent is registered. -/
structure EstablishedControl (I A : Type) where
  auth : A
  conn : ConnectedControl I
  pong_at_auth : Pong
  session_setup_deadline : Option UInt64
  registered : AgentRegistered
  current_ping : Option UInt32
  clock_offset : Int64
  force_expired : Bool
  pending_mtu_data : MtuData
  known_mtu_data : MtuData

/-- `ExpiredReason`. -/
inductive ExpiredReason where
  | forced
  | sessionNotSetup
  | flowChanged
  deriving DecidableEq

/-- `SESSION_SETUP_GRACE_MS`. -/
def sessionSetupGraceMs : UInt64 := 5000

section
variable {I A W E : Type}

/-- `session_expire_at.is_none().then(|| now_milli().saturating_add(grace))`. -/
def sessionSetupDeadline {S : Type} (session_expire_at : Option UInt64) (grace : UInt64) :
    ControlM I W S E (Option UInt64) :=
  match session_expire_at with
  | some _ => pure none
  | none => do
    let now ← Future.now
    pure (some (saturatingAdd now grace))

/-- `ConnectedControl::into_established`. -/
def ConnectedControl.intoEstablished {S : Type} (self : ConnectedControl I) (auth : A)
    (registered : AgentRegistered) : ControlM I W S E (EstablishedControl I A) := do
  let pong := self.pong_latest
  let session_setup_deadline ← sessionSetupDeadline pong.session_expire_at 5000
  pure
    { auth
      conn := self
      pong_at_auth := pong
      session_setup_deadline
      registered
      current_ping := none
      clock_offset := 0
      force_expired := false
      pending_mtu_data := MtuData.default
      known_mtu_data := MtuData.default }

/-- `ConnectedControl::auth_into_established`. -/
def ConnectedControl.authIntoEstablished {S : Type} (p : Platform) (self : ConnectedControl I)
    (auth : A) : ControlM I W S SetupError (EstablishedControl I A) := do
  let authenticated ← Future.within self (ConnectedControl.authenticate p)
  authenticated.2.intoEstablished auth authenticated.1

/-- `ConnectedControl::reset_established`. -/
def ConnectedControl.resetEstablished (self : ConnectedControl I)
    (registered : AgentRegistered) (established : EstablishedControl I A) :
    EstablishedControl I A :=
  { established with
    registered
    pong_at_auth :=
      { self.pong_latest with
        session_expire_at :=
          established.pong_at_auth.session_expire_at.or self.pong_latest.session_expire_at }
    conn := self
    current_ping := none
    force_expired := false
    pending_mtu_data := MtuData.default
    known_mtu_data := MtuData.default }

namespace EstablishedControl

/-- `EstablishedControl::get_expire_at`. -/
def getExpireAt (self : EstablishedControl I A) : UInt64 := self.registered.expires_at

/-- `EstablishedControl::flow_changed`. -/
def flowChanged (self : EstablishedControl I A) : Bool :=
  self.conn.pong_latest.client_addr != self.pong_at_auth.client_addr ||
    self.conn.pong_latest.tunnel_addr != self.pong_at_auth.tunnel_addr

/-- The session was not set up, at a reading of the clock. -/
def notSetupAt (self : EstablishedControl I A) (now : UInt64) : Bool :=
  self.pong_at_auth.session_expire_at.isNone &&
    match self.session_setup_deadline with
    | none => true
    | some deadline => decide (deadline ≤ now)

/-- `EstablishedControl::is_expired` at a reading of the clock. -/
def isExpiredAt (self : EstablishedControl I A) (now : UInt64) : Option ExpiredReason :=
  if self.force_expired then some .forced
  else if self.notSetupAt now then some .sessionNotSetup
  else if self.flowChanged then some .flowChanged
  else none

/-- The session was not set up. The clock is read only when there is a deadline to compare
it with. -/
def notSetup (self : EstablishedControl I A) : ControlM I W (EstablishedControl I A) E Bool :=
  match self.pong_at_auth.session_expire_at with
  | some _ => pure false
  | none =>
    match self.session_setup_deadline with
    | none => pure true
    | some deadline => do
      let now ← Future.now
      pure (decide (deadline ≤ now))

/-- `EstablishedControl::is_expired`. -/
def isExpired : ControlM I W (EstablishedControl I A) E (Option ExpiredReason) := do
  let self ← Future.get
  if self.force_expired then pure (some .forced)
  else
    let not_setup ← self.notSetup
    if not_setup then pure (some .sessionNotSetup)
    else if self.flowChanged then pure (some .flowChanged)
    else pure none

/-- `EstablishedControl::set_expired`. -/
def setExpired (self : EstablishedControl I A) : EstablishedControl I A :=
  { self with force_expired := true }

/-- `EstablishedControl::commit_pending_mtu_data`. -/
def commitPendingMtuData (self : EstablishedControl I A) : EstablishedControl I A :=
  { self with known_mtu_data := self.pending_mtu_data }

/-- `EstablishedControl::clear_pending_mtu_data`. -/
def clearPendingMtuData (self : EstablishedControl I A) : EstablishedControl I A :=
  { self with pending_mtu_data := MtuData.default }

/-- `EstablishedControl::clear_known_mtu_data`. -/
def clearKnownMtuData (self : EstablishedControl I A) : EstablishedControl I A :=
  { self with known_mtu_data := MtuData.default }

/-- A future on the connection. -/
def onConn {α : Type} (x : ControlM I W (ConnectedControl I) E α) :
    ControlM I W (EstablishedControl I A) E α :=
  zoom conn (fun conn self => { self with conn }) x

variable (p : Platform)

/-! ## Requests -/

/-- `EstablishedControl::send`. -/
def send (request_id : UInt64) (content : ControlRequest) :
    ControlM I W (EstablishedControl I A) ControlError Unit :=
  mapErr .ioError (onConn (ConnectedControl.send (p.request request_id content)))

/-- `EstablishedControl::send_keep_alive`. -/
def sendKeepAlive (request_id : UInt64) :
    ControlM I W (EstablishedControl I A) ControlError Unit := do
  let self ← Future.get
  send p request_id (.agentKeepAlive self.registered.id)

/-- `EstablishedControl::send_setup_udp_channel`. -/
def sendSetupUdpChannel (request_id : UInt64) :
    ControlM I W (EstablishedControl I A) ControlError Unit := do
  let self ← Future.get
  send p request_id (.setupUdpChannel self.registered.id)

/-- `EstablishedControl::send_ping`. -/
def sendPing (request_id now : UInt64) :
    ControlM I W (EstablishedControl I A) ControlError Unit := do
  let self ← Future.get
  send p request_id
    (.ping { now, current_ping := self.current_ping, session_id := some self.registered.id })

/-- `EstablishedControl::send_check_mtu_received`. -/
def sendCheckMtuReceived (request_id id : UInt64) (message_size : UInt32) :
    ControlM I W (EstablishedControl I A) ControlError Unit :=
  send p request_id (.checkMtuReceived { id, message_size })

/-- `EstablishedControl::send_mtu_test`. -/
def sendMtuTest (request_id id : UInt64) (data_center_id udp_payload_length : UInt32) :
    ControlM I W (EstablishedControl I A) ControlError Unit :=
  send p request_id (.sendMtuTest { id, data_center_id, udp_payload_length })

/-! ## Registration -/

/-- `EstablishedControl::authenticate`, from the new registration on. -/
def onRegistered (registered : AgentRegistered) :
    ControlM I W (EstablishedControl I A) E Unit := do
  Future.modify fun self => { self with force_expired := false, registered }
  let self ← Future.get
  let session_expire_at :=
    self.pong_at_auth.session_expire_at.or self.conn.pong_latest.session_expire_at
  Future.modify fun self =>
    { self with pong_at_auth := { self.conn.pong_latest with session_expire_at } }
  let session_setup_deadline ← sessionSetupDeadline session_expire_at sessionSetupGraceMs
  Future.modify fun self => { self with session_setup_deadline }

/-- `EstablishedControl::authenticate`. -/
def authenticate : ControlM I W (EstablishedControl I A) SetupError Unit := do
  let registered ← onConn (ConnectedControl.authenticate p)
  onRegistered registered

/-! ## Messages -/

/-- `EstablishedControl::recv_feed_msg`, on the expiry of a pong: the baseline of the session, and
its end on the local clock. -/
def onSessionExpireAt (pong : Pong) (rtt : UInt32) (expires_at : UInt64) :
    ControlM I W (EstablishedControl I A) E Unit := do
  Future.modify fun self =>
    { self with
      pong_at_auth := { self.pong_at_auth with session_expire_at := some expires_at }
      session_setup_deadline := none }
  let time_to_live ← subU64 p .timeToLive expires_at pong.server_now
  let sum ← addU64 p .expiresAt pong.request_now (max time_to_live rtt.toUInt64)
  let expires_at ← subU64 p .expiresAtRtt sum rtt.toUInt64
  Future.modify fun self => { self with registered := { self.registered with expires_at } }

/-- `EstablishedControl::recv_feed_msg`, on a pong. -/
def onPong (pong : Pong) : ControlM I W (EstablishedControl I A) E Unit := do
  let now ← Future.now
  let rtt := (max now pong.request_now - pong.request_now).toUInt32
  let server_ts ← subU64 p .serverTs pong.server_now (rtt / 2).toUInt64
  let clock_offset ← subI64 p .clockOffset pong.request_now.toInt64 server_ts.toInt64
  Future.modify fun self => { self with clock_offset }
  let _ ← absI64 p .clockOffsetAbs clock_offset
  Future.modify fun self => { self with current_ping := some rtt }
  match pong.session_expire_at with
  | some expires_at => onSessionExpireAt p pong rtt expires_at
  | none => pure ()

/-- `EstablishedControl::recv_feed_msg`, on a message. -/
def onFeed (feed : ControlFeed) : ControlM I W (EstablishedControl I A) E Unit :=
  match feed with
  | .response res =>
    match res.content with
    | .agentRegistered registered => Future.modify fun self => { self with registered }
    | .pong pong => onPong p pong
    | .checkMtuReceivedAck ack => Future.modify fun self =>
      { self with pending_mtu_data := self.pending_mtu_data.recordCheckMtuReceivedAck ack }
    | .mtuTestPacket packet => Future.modify fun self =>
      { self with pending_mtu_data := self.pending_mtu_data.recordMtuTestPacket packet }
    | .mtuTestFail fail => Future.modify fun self =>
      { self with pending_mtu_data := self.pending_mtu_data.recordMtuTestFail fail }
    | _ => pure ()
  | _ => pure ()

/-- `EstablishedControl::recv_feed_msg`. -/
def recvFeedMsg : ControlM I W (EstablishedControl I A) ControlError ControlFeed := do
  let feed ← onConn (ConnectedControl.recv p)
  onFeed p feed
  pure feed

end EstablishedControl

end

end PlayitAgent
