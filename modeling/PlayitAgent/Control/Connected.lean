import PlayitAgent.Control.Environment

/-!
# Connections to the tunnel server

`AddressSelector` and `ConnectedControl`, from `address_selector.rs` and `connected_control.rs` of
`agent_core/src/agent_control`: the choice of an endpoint that answers a ping, and the registration
of the agent's session there. Loops have the form of `Future.forLoop`, one definition for each body.
-/

namespace PlayitAgent

open Future (Flow attempt timeout mapErr forLoop)

/-- A connection to an endpoint of the tunnel server. -/
structure ConnectedControl (I : Type) where
  control_addr : SocketAddr
  packet_io : I
  pong_latest : Pong
  buffer : List UInt8
  deriving DecidableEq

/-- `SocketAddr::is_ipv6`. -/
def SocketAddr.isIpv6 : SocketAddr → Bool
  | .v4 _ => false
  | .v6 _ => true

/-- `SocketAddr::ip`. -/
def SocketAddr.ip : SocketAddr → IpAddr
  | .v4 addr => .v4 addr.ip
  | .v6 addr => .v6 addr.ip

section
variable {I W S E : Type} (p : Platform)

/-! ## The choice of an endpoint -/

/-- `AddressSelector`. -/
structure AddressSelector (I : Type) where
  options : List SocketAddr
  packet_io : I

/-- `ConnectedControl::new`. -/
def ConnectedControl.new (control_addr : SocketAddr) (udp : I) (pong : Pong) :
    ConnectedControl I where
  control_addr
  packet_io := udp
  pong_latest := pong
  buffer := []

namespace AddressSelector

/-- A datagram that arrives while `addr` is tried: the pong of `addr` to the ping, if it is that. -/
def pongOf (addr : SocketAddr) (d : Datagram) : ControlM I W S E (Flow Unit Pong) :=
  if d.source ≠ addr then pure (.next ())
  else
    match p.readFeed d.bytes with
    | .ok (.response msg) =>
      if msg.request_id ≠ 1 then pure (.next ())
      else
        match msg.content with
        | .pong pong => pure (.ret pong)
        | _ => pure (.next ())
    | .ok _ => pure (.next ())
    | .error (.io _) => pure (.next ())
    | .error (.panic reason) => Future.panic reason

/-- One wait for the pong of `addr`. -/
def waitForPong (addr : SocketAddr) : ControlM I W S E (Flow Unit Pong) := do
  match ← timeout (recvFrom 2048) with
  | some (.ok d) => pongOf p addr d
  | some (.error _) => pure (.next ())
  | none => pure (.next ())

/-- One attempt to reach `addr`: a ping, and the waits for its pong. -/
def tryAddress (self : AddressSelector I) (addr : SocketAddr) :
    ControlM I W S SetupError (Flow Unit (ConnectedControl I)) := do
  let now ← Future.now
  let buffer ← mapErr .ioError
    (encoded (p.request 1 (.ping { now, current_ping := none, session_id := none })))
  match ← attempt (sendTo buffer addr) with
  -- A ping that cannot be sent ends the attempts with this option.
  | .error _ => pure .leave
  | .ok () =>
    let waits := if addr.isIpv6 then 3 else 5
    match ← forLoop (fun _ => waitForPong p addr) waits () with
    | some pong => pure (.ret (ConnectedControl.new addr self.packet_io pong))
    | none => pure (.next ())

/-- The loop of `connect_to_first` over the options that are left. -/
def connectTo (self : AddressSelector I) :
    List SocketAddr → ControlM I W S SetupError (ConnectedControl I)
  | [] => Future.fail .failedToConnect
  | addr :: options => do
    let attempts := if addr.isIpv6 then 1 else 3
    match ← forLoop (fun _ => self.tryAddress p addr) attempts () with
    | some connected => pure connected
    | none => self.connectTo options

/-- `AddressSelector::connect_to_first`. -/
def connectToFirst (self : AddressSelector I) : ControlM I W S SetupError (ConnectedControl I) :=
  self.connectTo p self.options

end AddressSelector

/-! ## The connection -/

namespace ConnectedControl

/-- `Vec::resize` with zeros. -/
def resize (buffer : List UInt8) (n : ℕ) : List UInt8 :=
  buffer.take n ++ List.replicate (n - buffer.length) 0

/-- `ConnectedControl::send`. -/
def send (msg : WriteM ℕ) : ControlM I W (ConnectedControl I) IoError Unit := do
  Future.modify fun self => { self with buffer := [] }
  let bytes ← encoded msg
  Future.modify fun self => { self with buffer := bytes }
  let self ← Future.get
  sendTo bytes self.control_addr

/-- The change that a message makes to the connection: a pong is remembered. -/
def noted (feed : ControlFeed) (self : ConnectedControl I) : ConnectedControl I :=
  match feed with
  | .response { content := .pong pong, .. } => { self with pong_latest := pong }
  | _ => self

/-- `ConnectedControl::recv`, from the datagram on. -/
def onDatagram (d : Datagram) : ControlM I W (ConnectedControl I) ControlError ControlFeed := do
  Future.modify fun self => { self with buffer := d.bytes ++ self.buffer.drop d.bytes.length }
  let self ← Future.get
  if d.source ≠ self.control_addr then Future.fail (.invalidRemote self.control_addr d.source)
  else
    match p.readFeed d.bytes with
    | .ok feed =>
      Future.modify (noted feed)
      pure feed
    | .error (.io error) => Future.fail (.failedToReadControlFeed error)
    | .error (.panic reason) => Future.panic reason

/-- `ConnectedControl::recv`. -/
def recv : ControlM I W (ConnectedControl I) ControlError ControlFeed := do
  Future.modify fun self => { self with buffer := resize self.buffer 1024 }
  let d ← mapErr .ioError (recvFrom 1024)
  onDatagram p d

/-- `ConnectedControl::authenticate`: what is done with the response to the registration. -/
def onRegisterResponse (auth_pong : Pong) (request_id : UInt64) (content : ControlResponse) :
    ControlM I W (ConnectedControl I) SetupError (Flow Unit AgentRegistered) :=
  match content with
  | .agentRegistered registered => pure (.ret registered)
  | .invalidSignature => Future.fail .registerInvalidSignature
  | .unauthorized => do
    -- Most likely due to a changed client address: the pong to this ping will have the new one.
    let now ← Future.now
    let _ ← attempt
      (send (p.request request_id (.ping { now, current_ping := none, session_id := none })))
    Future.fail .registerUnauthorized
  | .pong pong =>
    if pong.client_addr ≠ auth_pong.client_addr ∨ pong.tunnel_addr ≠ auth_pong.tunnel_addr then
      Future.fail .attemptingToAuthWithOldFlow
    else pure (.next ())
  | .requestQueued => do
    -- The registration is sent again, after a second.
    sleep
    pure .leave
  | _ => pure (.next ())

/-- `ConnectedControl::authenticate`: one wait for the response to the registration. -/
def waitForRegistered (auth_pong : Pong) (request_id : UInt64) :
    ControlM I W (ConnectedControl I) SetupError (Flow Unit AgentRegistered) := do
  match ← timeout (recv p) with
  | some (.ok (.response response)) =>
    if response.request_id = request_id then
      onRegisterResponse p auth_pong request_id response.content
    else pure (.next ())
  | some (.ok _) => pure (.next ())
  -- An error, also of a datagram from elsewhere, ends the waits of the attempt.
  | some (.error _) => pure .leave
  | none => pure (.next ())

/-- `ConnectedControl::authenticate`: one attempt, with the signed registration `bytes`. -/
def tryRegister (auth_pong : Pong) (request_id : UInt64) (bytes : List UInt8) :
    ControlM I W (ConnectedControl I) SetupError (Flow Unit AgentRegistered) := do
  mapErr .ioError
    (send ((ControlRpcMessage.encoding p.crate RawSlice.encoding).writeTo ⟨request_id, bytes⟩))
  match ← forLoop (fun _ => waitForRegistered p auth_pong request_id) 5 () with
  | some registered => pure (.ret registered)
  | none => pure (.next ())

/-- `ConnectedControl::authenticate`. -/
def authenticate : ControlM I W (ConnectedControl I) SetupError AgentRegistered := do
  let self ← Future.get
  let auth_pong := self.pong_latest
  -- What is signed is the pong of this moment, whatever arrives later.
  let key ← authAuthenticate auth_pong
  match p.hexDecode key with
  | none => Future.fail .failedToDecodeSignedAgentRegisterHex
  | some bytes =>
    let request_id ← Future.now
    match ← forLoop (fun _ => tryRegister p auth_pong request_id bytes) 5 () with
    | some registered => pure registered
    | none => Future.fail .failedToConnect

end ConnectedControl

end

end PlayitAgent
