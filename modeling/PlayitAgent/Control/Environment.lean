import PlayitAgent.Lib.Future
import PlayitAgent.Proto.ControlFeed

/-!
# What the control connection runs in

The control connection of `agent_core/src/agent_control` is asynchronous code over a `PacketIO`, an
`AuthResource`, timers, and the wall clock. Here are the answers it can get from them, what it does
that can be seen from outside, its errors, and its machine arithmetic.
-/

namespace PlayitAgent

/-! ## Answers and actions -/

/-- A datagram and the address it came from. -/
structure Datagram where
  bytes : List UInt8
  source : SocketAddr
  deriving DecidableEq

/-- `SetupError`. What the API's errors carry is left out, and so is the place of a timeout. -/
inductive SetupError where
  | ioError (error : IoError)
  | failedToConnect
  | apiFail (reason : String)
  | apiError
  | requestError
  | attemptingToAuthWithOldFlow
  | failedToDecodeSignedAgentRegisterHex
  | noResponseFromAuthenticate
  | registerInvalidSignature
  | registerUnauthorized
  | timeout
  deriving DecidableEq

/-- `ControlError`. -/
inductive ControlError where
  | ioError (error : IoError)
  | invalidRemote (expected got : SocketAddr)
  | failedToReadControlFeed (error : IoError)
  | timeout
  deriving DecidableEq

/-- What the control code awaits, as it is answered. `I` is the type of sockets. -/
inductive Answer (I : Type) where
  /-- `PacketIO::send_to`. -/
  | sent (res : Except IoError ℕ)
  /-- `PacketIO::recv_from`: a datagram, of which the buffer takes what fits. -/
  | received (res : Except IoError Datagram)
  /-- `AuthResource::get_control_addresses`. -/
  | addresses (res : Except SetupError (List SocketAddr))
  /-- `AuthResource::authenticate`: the key of the signed registration. -/
  | signed (res : Except SetupError String)
  /-- The `create_io` of a caller. -/
  | created (res : Except SetupError I)
  /-- `tokio::time::sleep`. -/
  | slept

/-- `ControlConnectionState`. -/
inductive ControlConnectionState where
  | connected
  | reconnecting
  deriving DecidableEq

/-- Where the control code computes with machine integers that may overflow. -/
inductive Site where
  /-- `now - self.last_ping` in `MaintainedControl::update`. -/
  | lastPing
  /-- `now - self.last_keep_alive` in `MaintainedControl::update`. -/
  | lastKeepAlive
  /-- `now_milli() - self.last_pong` in `MaintainedControl::update`. -/
  | lastPong
  /-- `self.last_udp_auth + min_wait_ms` in `MaintainedControl::send_udp_session_auth`. -/
  | lastUdpAuth
  /-- `pong.server_now - (rtt / 2)` in `EstablishedControl::recv_feed_msg`. -/
  | serverTs
  /-- `local_ts as i64 - server_ts as i64`. -/
  | clockOffset
  /-- `self.clock_offset.abs()`. -/
  | clockOffsetAbs
  /-- `expires_at - pong.server_now`. -/
  | timeToLive
  /-- `pong.request_now + ..`. -/
  | expiresAt
  /-- `.. - rtt`. -/
  | expiresAtRtt
  deriving DecidableEq

/-- What the control code does that can be seen from outside. -/
inductive Action where
  /-- A datagram is handed to the socket. -/
  | sendTo (bytes : List UInt8) (target : SocketAddr)
  /-- A pong is handed to `AuthResource::authenticate`, to be signed. -/
  | authenticate (pong : Pong)
  /-- A state is sent on the watch channel. -/
  | published (state : ControlConnectionState)
  /-- An integer operation overflows. -/
  | overflow (site : Site)
  /-- The message "control endpoint stopped responding; reconnecting". -/
  | stoppedResponding
  deriving DecidableEq

/-- Futures of the control code, on a state of type `S`. -/
abbrev ControlM (I W S E : Type) := Future (Answer I) UInt64 Action W S E

/-- What happens in a run of the control code. -/
abbrev ControlEvent (I : Type) := Event (Answer I) UInt64 Action

/-- The control code in the middle of a run. -/
abbrev ControlConfig (I W S : Type) := Config (Answer I) UInt64 Action W S

/-- Where the control code runs. -/
structure Platform where
  /-- The encodings of the crate `message_encoding`. -/
  crate : MessageEncodingCrate
  /-- `hex::decode` of the crate `hex`, without its errors. -/
  hexDecode : String → Option (List UInt8)
  /-- The build checks for overflows, and panics; otherwise it wraps. -/
  overflow_checks : Bool

section
variable {I W S E : Type}

/-! ## Machine arithmetic -/

/-- An overflow: a panic, or the wrapped result. -/
def overflow {α : Type} (p : Platform) (site : Site) (wrapped : α) : ControlM I W S E α := do
  Future.act (.overflow site)
  if p.overflow_checks then Future.panic .overflow else pure wrapped

/-- `a - b` on `u64`. -/
def subU64 (p : Platform) (site : Site) (a b : UInt64) : ControlM I W S E UInt64 :=
  if b ≤ a then pure (a - b) else overflow p site (a - b)

/-- `a + b` on `u64`. -/
def addU64 (p : Platform) (site : Site) (a b : UInt64) : ControlM I W S E UInt64 :=
  if a ≤ a + b then pure (a + b) else overflow p site (a + b)

/-- `a - b` on `i64`. -/
def subI64 (p : Platform) (site : Site) (a b : Int64) : ControlM I W S E Int64 :=
  if (a - b).toInt = a.toInt - b.toInt then pure (a - b) else overflow p site (a - b)

/-- `a.abs()` on `i64`. -/
def absI64 (p : Platform) (site : Site) (a : Int64) : ControlM I W S E Int64 :=
  if a = Int64.minValue then overflow p site a else pure (if a < 0 then -a else a)

/-- `a.saturating_add(b)` on `u64`. -/
def saturatingAdd (a b : UInt64) : UInt64 := if a ≤ a + b then a + b else 0 - 1

/-! ## Awaits -/

/-- `PacketIO::send_to`. -/
def sendTo (bytes : List UInt8) (target : SocketAddr) : ControlM I W S IoError Unit := do
  Future.act (.sendTo bytes target)
  let res ← Future.await fun
    | .sent res => some res
    | _ => none
  let _ ← Future.ofExcept res

/-- `PacketIO::recv_from` into a buffer of the given size. -/
def recvFrom (size : ℕ) : ControlM I W S IoError Datagram := do
  let res ← Future.await fun
    | .received res => some (res.map fun d => { d with bytes := d.bytes.take size })
    | _ => none
  Future.ofExcept res

/-- `AuthResource::get_control_addresses`. -/
def getControlAddresses : ControlM I W S SetupError (List SocketAddr) := do
  let res ← Future.await fun
    | .addresses res => some res
    | _ => none
  Future.ofExcept res

/-- `AuthResource::authenticate`. -/
def authAuthenticate (pong : Pong) : ControlM I W S SetupError String := do
  Future.act (.authenticate pong)
  let res ← Future.await fun
    | .signed res => some res
    | _ => none
  Future.ofExcept res

/-- `create_io`. -/
def createIo : ControlM I W S SetupError I := do
  let res ← Future.await fun
    | .created res => some res
    | _ => none
  Future.ofExcept res

/-- `tokio::time::sleep`. -/
def sleep : ControlM I W S E Unit :=
  Future.await fun
    | .slept => some ()
    | _ => none

/-! ## Messages -/

/-- `RawSlice`: bytes that are written as they are, and cannot be read. -/
def RawSlice.encoding : MessageEncoding (List UInt8) where
  writeTo bytes := do
    if (← write bytes) ≠ bytes.length then
      ioError .writeZero "not enough space to write raw slice"
    return bytes.length
  readFrom := ioError .unsupported "cannot read for RawSlice"

/-- A message written to an empty buffer. -/
def encoded (msg : WriteM ℕ) : ControlM I W S IoError (List UInt8) :=
  match msg Sink.vec with
  | .ok (_, out) => pure out.written
  | .error (.io error) => Future.fail error
  | .error (.panic reason) => Future.panic reason

/-- `ControlFeed::read_from` of a datagram. -/
def Platform.readFeed (p : Platform) (bytes : List UInt8) : Except Failure ControlFeed :=
  match (ControlFeed.encoding p.crate).readFrom bytes with
  | .ok (feed, _) => .ok feed
  | .error failure => .error failure

/-- A request with its id, as it is written. -/
def Platform.request (p : Platform) (request_id : UInt64) (content : ControlRequest) : WriteM ℕ :=
  (ControlRpcMessage.encoding p.crate (ControlRequest.encoding p.crate)).writeTo
    { request_id, content }

end

end PlayitAgent
