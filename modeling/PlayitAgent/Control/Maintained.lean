import PlayitAgent.Control.Established

/-!
# The maintained connection

`MaintainedControl`, from `maintained_control.rs` of `agent_core/src/agent_control`: it keeps a
session alive, registers again when the session is expired, replaces the connection when the
endpoints have changed or a caller asks for it, and publishes whether it is connected. `Op` lists
what a caller can do with it once it is set up.
-/

namespace PlayitAgent

open Future (Flow attempt timeout mapErr tryTimeout forLoop zoom)

/-- `watch::Sender`: its value, and whether there is a receiver at each send that is still to come.
Receivers subscribe and are dropped by other tasks, at any time. -/
structure WatchSender (α : Type) where
  value : α
  receivers : ℕ → Bool

namespace WatchSender

variable {α : Type} (self : WatchSender α)

/-- There is a receiver to send to. -/
def hasReceiver : Bool := self.receivers 0

/-- `watch::Sender::send`: without a receiver, nothing is stored. -/
def send (value : α) : WatchSender α where
  value := if self.hasReceiver then value else self.value
  receivers n := self.receivers (n + 1)

/-- A receiver is there at every send. -/
def Live : Prop := ∀ n, self.receivers n = true

end WatchSender

/-- `HARD_RECONNECT_FAILURE_THRESHOLD`. -/
def hardReconnectFailureThreshold : UInt32 := 3

/-- A session that is kept alive. -/
structure MaintainedControl (I A : Type) where
  control : EstablishedControl I A
  last_keep_alive : UInt64
  last_ping : UInt64
  last_pong : UInt64
  last_udp_auth : UInt64
  last_control_targets : List SocketAddr
  control_state : WatchSender ControlConnectionState
  soft_reconnect_failures : UInt32
  hard_reconnect_requested : Bool

/-- `TunnelControlEvent`. -/
inductive TunnelControlEvent where
  | newClient (client : NewClient)
  | udpChannelDetails (details : UdpChannelDetails)
  deriving DecidableEq

namespace MaintainedControl

section
variable {I A W S E : Type} (p : Platform)

/-- `MaintainedControl::setup`. The receivers are those that will be there at the sends on the watch
channel, whose own receiver is dropped at once. -/
def setup (io : I) (auth : A) (receivers : ℕ → Bool) :
    ControlM I W S SetupError (MaintainedControl I A) := do
  let addresses ← getControlAddresses
  let setup ← tryTimeout .timeout
    ((AddressSelector.mk addresses io).connectToFirst p)
  let control ← tryTimeout .timeout (setup.authIntoEstablished p auth)
  -- The watch channel starts with `Connected`.
  Future.act (.published .connected)
  let now ← Future.now
  pure
    { control
      last_keep_alive := 0
      last_ping := 0
      last_pong := now
      last_udp_auth := 0
      last_control_targets := addresses
      control_state := { value := .connected, receivers }
      soft_reconnect_failures := 0
      hard_reconnect_requested := false }

/-- A future on the session. -/
def onControl {α : Type} (x : ControlM I W (EstablishedControl I A) E α) :
    ControlM I W (MaintainedControl I A) E α :=
  zoom control (fun control self => { self with control }) x

/-- `MaintainedControl::take_hard_reconnect_request`. -/
def takeHardReconnectRequest : ControlM I W (MaintainedControl I A) E Bool := do
  let self ← Future.get
  Future.modify fun self => { self with hard_reconnect_requested := false }
  pure self.hard_reconnect_requested

/-- `MaintainedControl::set_control_state`. A send without a receiver is an error, which is dropped:
the state is neither stored nor seen by anyone. -/
def setControlState (state : ControlConnectionState) :
    ControlM I W (MaintainedControl I A) E Unit := do
  let self ← Future.get
  if self.control_state.value ≠ state then
    Future.modify fun self => { self with control_state := self.control_state.send state }
    if self.control_state.hasReceiver then Future.act (.published state) else pure ()
  else pure ()

/-- `MaintainedControl::note_control_failure`: the state afterwards. The number of failures
saturates. -/
def noteControlFailure (self : MaintainedControl I A) : MaintainedControl I A :=
  let failures :=
    if self.soft_reconnect_failures ≤ self.soft_reconnect_failures + 1 then
      self.soft_reconnect_failures + 1
    else self.soft_reconnect_failures
  { self with
    soft_reconnect_failures := failures
    hard_reconnect_requested :=
      if hardReconnectFailureThreshold ≤ failures then true else self.hard_reconnect_requested }

/-- A control failure is noted, and the session is told to be expired. -/
def failed (self : MaintainedControl I A) : MaintainedControl I A :=
  { self.noteControlFailure with control := self.control.setExpired }

/-! ## Replacing the connection -/

/-- The end of `replace_connection`, and of `reload_control_addr`: everything is reset, and the
state is `Connected`. -/
def reconnected : ControlM I W (MaintainedControl I A) E Unit := do
  let now ← Future.now
  Future.modify fun self =>
    { self with
      last_pong := now
      last_ping := 0
      last_keep_alive := 0
      last_udp_auth := 0
      soft_reconnect_failures := 0
      hard_reconnect_requested := false }
  setControlState .connected

/-- The new connection is on the flow of the old one: the same IP address of the client, and the
same tunnel address. -/
def sameFlow (self : MaintainedControl I A) (connected : ConnectedControl I) : Bool :=
  decide (self.control.conn.pong_latest.client_addr.ip = connected.pong_latest.client_addr.ip ∧
    self.control.conn.pong_latest.tunnel_addr = connected.pong_latest.tunnel_addr)

/-- `MaintainedControl::replace_connection`. -/
def replaceConnection (connected : ConnectedControl I) (force : Bool) :
    ControlM I W (MaintainedControl I A) SetupError Bool := do
  let self ← Future.get
  if !force && self.sameFlow connected then pure false
  else
    setControlState .reconnecting
    -- The new connection is registered on its own; until then the session stays what it is.
    let authenticated ← tryTimeout .timeout
      (Future.within connected (ConnectedControl.authenticate p))
    Future.modify fun self =>
      { self with
        control := authenticated.2.resetEstablished authenticated.1 self.control }
    reconnected
    pure true

/-- `MaintainedControl::reload_control_addr`, from the addresses on. -/
def reloadTo (addresses : List SocketAddr) (force : Bool) :
    ControlM I W (MaintainedControl I A) SetupError Bool := do
  setControlState .reconnecting
  let new_io ← tryTimeout .timeout createIo
  let connected ← tryTimeout .timeout
    ((AddressSelector.mk addresses new_io).connectToFirst p)
  let updated ← tryTimeout .timeout (replaceConnection p connected force)
  -- Also when the connection was kept.
  Future.modify fun self => { self with last_control_targets := addresses }
  reconnected
  pure updated

/-- `MaintainedControl::reload_control_addr`: a forced reload is announced before anything else. -/
def announceReload (force : Bool) : ControlM I W (MaintainedControl I A) E Unit :=
  if force then setControlState .reconnecting else pure ()

/-- `MaintainedControl::reload_control_addr`. -/
def reloadControlAddr (force : Bool) : ControlM I W (MaintainedControl I A) SetupError Bool := do
  announceReload force
  let addresses ← tryTimeout .timeout getControlAddresses
  let self ← Future.get
  if !force && decide (self.last_control_targets = addresses) then pure false
  else reloadTo p addresses force

/-! ## Keeping the session alive -/

/-- A request under a timer: its failure is noted, and expires the session. -/
def sendOrExpire (x : ControlM I W (EstablishedControl I A) ControlError Unit) :
    ControlM I W (MaintainedControl I A) E Unit := do
  match ← attempt (tryTimeout .timeout (onControl x)) with
  | .ok () => pure ()
  | .error _ => Future.modify failed

/-- `MaintainedControl::send_udp_session_auth`. -/
def sendUdpSessionAuth (now_ms min_wait_ms : UInt64) :
    ControlM I W (MaintainedControl I A) E Bool := do
  let self ← Future.get
  let next ← addU64 p .lastUdpAuth self.last_udp_auth min_wait_ms
  if now_ms < next then pure false
  else
    Future.modify fun self => { self with last_udp_auth := now_ms }
    sendOrExpire (EstablishedControl.sendSetupUdpChannel p 1)
    pure true

/-- `MaintainedControl::update`: the registration of an expired session, and whether the session can
be used. -/
def reauthenticate : ControlM I W (MaintainedControl I A) E Bool := do
  setControlState .reconnecting
  match ← attempt (tryTimeout .timeout (onControl (EstablishedControl.authenticate p))) with
  | .error _ =>
    -- The state stays `Reconnecting`.
    Future.modify noteControlFailure
    sleep
    pure false
  | .ok () =>
    Future.modify fun self =>
      { self with soft_reconnect_failures := 0, hard_reconnect_requested := false }
    let now ← Future.now
    Future.modify fun self => { self with last_pong := now }
    setControlState .connected
    pure true

/-- `MaintainedControl::update`: the ping, once a second. -/
def pingIfDue (now : UInt64) : ControlM I W (MaintainedControl I A) E Unit := do
  let self ← Future.get
  let since ← subU64 p .lastPing now self.last_ping
  if 1000 < since then
    Future.modify fun self => { self with last_ping := now }
    sendOrExpire (EstablishedControl.sendPing p 200 now)
  else pure ()

/-- `MaintainedControl::update`: the keep-alive, once a minute, and every ten seconds when the
session expires soon. -/
def keepAliveIfDue (now : UInt64) : ControlM I W (MaintainedControl I A) E Unit := do
  let self ← Future.get
  let time_till_expire := max self.control.getExpireAt now - now
  let interval : UInt64 := if time_till_expire < 30000 then 10000 else 60000
  let since ← subU64 p .lastKeepAlive now self.last_keep_alive
  if interval < since then
    Future.modify fun self => { self with last_keep_alive := now }
    sendOrExpire (EstablishedControl.sendKeepAlive p 100)
  else pure ()

/-- `MaintainedControl::update`: what is done with a message. -/
def onUpdateFeed (timeouts : ℕ) (feed : ControlFeed) :
    ControlM I W (MaintainedControl I A) E (Flow ℕ TunnelControlEvent) :=
  match feed with
  | .newClient client => pure (.ret (.newClient client))
  | .newClientOld client => pure (.ret (.newClient client.toNewClient))
  | .response msg =>
    match msg.content with
    | .udpChannelDetails details => pure (.ret (.udpChannelDetails details))
    | .unauthorized => do
      setControlState .reconnecting
      Future.modify fun self => { self with control := self.control.setExpired }
      pure (.next timeouts)
    | .pong _ => do
      let now ← Future.now
      Future.modify fun self => { self with last_pong := now }
      pure (.next timeouts)
    | _ => pure (.next timeouts)

/-- `MaintainedControl::update`: one turn of its loop. -/
def updateTurn (timeouts : ℕ) :
    ControlM I W (MaintainedControl I A) E (Flow ℕ TunnelControlEvent) := do
  match ← timeout (onControl (EstablishedControl.recvFeedMsg p)) with
  | some (.ok feed) => onUpdateFeed timeouts feed
  | some (.error _) => pure (.next timeouts)
  -- The tenth timeout ends the loop.
  | none => if 10 ≤ timeouts + 1 then pure .leave else pure (.next (timeouts + 1))

/-- `MaintainedControl::update`: the endpoint is dead when there was no pong for a while. -/
def checkPong : ControlM I W (MaintainedControl I A) E Unit := do
  let self ← Future.get
  -- It is zero after the endpoint was declared dead, until the next pong.
  if self.last_pong ≠ 0 then
    let now ← Future.now
    let since ← subU64 p .lastPong now self.last_pong
    if 6000 < since then
      Future.act .stoppedResponding
      Future.modify fun self => { self with last_pong := 0 }
      setControlState .reconnecting
      Future.modify failed
    else pure ()
  else pure ()

/-- `MaintainedControl::update`: an expired session is registered again. It tells whether the
session can be used. -/
def renew : ControlM I W (MaintainedControl I A) E Bool := do
  match ← onControl EstablishedControl.isExpired with
  | none => pure true
  | some _ => reauthenticate p

/-- `MaintainedControl::update`: what is due is sent, and messages are received, up to one that a
caller has to know of. -/
def tend : ControlM I W (MaintainedControl I A) E (Option TunnelControlEvent) := do
  let now ← Future.now
  pingIfDue p now
  keepAliveIfDue p now
  forLoop (updateTurn p) 30 0

/-- `MaintainedControl::update`, on a session that can be used. -/
def serve : ControlM I W (MaintainedControl I A) E (Option TunnelControlEvent) := do
  match ← tend p with
  | some event => pure (some event)
  | none =>
    checkPong p
    pure none

/-- `MaintainedControl::update`. -/
def update : ControlM I W (MaintainedControl I A) E (Option TunnelControlEvent) := do
  let usable ← renew p
  if usable then serve p else pure none

end

end MaintainedControl

/-! ## Runs -/

/-- What a caller can do with a session that is kept alive. -/
inductive ControlOp (I : Type) where
  | update
  | reloadControlAddr (force : Bool)
  | replaceConnection (connected : ConnectedControl I) (force : Bool)
  | sendUdpSessionAuth (now_ms min_wait_ms : UInt64)
  | takeHardReconnectRequest

namespace ControlOp

variable {I A W : Type} (p : Platform) (clock : ℕ → UInt64)

/-- What is done. -/
def run (op : ControlOp I) : ControlM I W (MaintainedControl I A) SetupError Unit :=
  match op with
  | .update => do
    let _ ← MaintainedControl.update p
    pure ()
  | .reloadControlAddr force => do
    let _ ← MaintainedControl.reloadControlAddr p force
    pure ()
  | .replaceConnection connected force => do
    let _ ← MaintainedControl.replaceConnection p connected force
    pure ()
  | .sendUdpSessionAuth now_ms min_wait_ms => do
    let _ ← MaintainedControl.sendUdpSessionAuth p now_ms min_wait_ms
    pure ()
  | .takeHardReconnectRequest => do
    let _ ← MaintainedControl.takeHardReconnectRequest
    pure ()

/-- The environment whose log has the whole session. -/
def whole : Env UInt64 (MaintainedControl I A) (MaintainedControl I A) := ⟨clock, id⟩

/-- The run of one call, from a session and the number of readings of the clock before it. -/
def ran (s : MaintainedControl I A × ℕ) (op : ControlOp I) (script : List (Item (Answer I))) :
    Ran (Answer I) UInt64 Action (MaintainedControl I A) (MaintainedControl I A) SetupError Unit :=
  op.run p (whole clock) script ⟨s.1, s.2, []⟩

/-- One call that returns, with a result or an error: the session and the number of readings of the
clock afterwards, and the run. -/
def step (s : MaintainedControl I A × ℕ) (a : ControlOp I × List (Item (Answer I))) :
    Except Unit ((MaintainedControl I A × ℕ) × Ran (Answer I) UInt64 Action (MaintainedControl I A)
      (MaintainedControl I A) SetupError Unit) :=
  let ran := a.1.ran p clock s a.2
  match ran.result with
  | .ok () => .ok ((ran.config.state, ran.config.ticks), ran)
  | .error (.failed _) => .ok ((ran.config.state, ran.config.ticks), ran)
  | .error _ => .error ()

/-- The run of `setup`, from the first reading of the clock on. -/
def setUp (io : I) (auth : A) (receivers : ℕ → Bool) (script : List (Item (Answer I))) :
    Ran (Answer I) UInt64 Action Unit Unit SetupError (MaintainedControl I A) :=
  MaintainedControl.setup p io auth receivers ⟨clock, id⟩ script ⟨(), 0, []⟩

end ControlOp

end PlayitAgent
