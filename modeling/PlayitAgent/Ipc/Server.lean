import PlayitAgent.Ipc.Protocol
import PlayitAgent.Lib.Lines
import PlayitAgent.Lib.Run

/-!
# A client of the IPC server

`IpcServer::handle_client` of `playitd/src/ipc_server.rs`, from one await to the next. The bytes of
the client arrive in any chunks, and `LinesCodec` cuts them into lines; a `select!` that is won by
an event leaves them in the buffer. Which branch a `select!` takes, what the runtime returns, and
when the connection breaks are part of the actions.
-/

namespace PlayitAgent

/-! ## Frames -/

/-- `LogLevel`. -/
inductive LogLevel where
  | trace
  | debug
  | info
  | warn
  | error
  deriving DecidableEq

/-- `LogEntry`. -/
structure LogEntry where
  level : LogLevel
  target : String
  message : String
  timestamp : UInt64

/-- What `event_rx` receives: an update of the state, or a log line. -/
inductive ServiceEvent where
  | update (update : ServiceUpdate)
  | log (entry : LogEntry)

/-- `ResponseEnvelope`. -/
structure ResponseEnvelope where
  ipc_version : UInt32
  request_id : UInt64
  response : ServiceResponse

/-- `ServerEnvelope`. -/
inductive ServerEnvelope where
  | hello (protocol : ProtocolInfo)
  | response (envelope : ResponseEnvelope)
  | event (ipc_version : UInt32) (event : ServiceEvent)

/-- The response in a frame, if it is one. -/
def ServerEnvelope.response? : ServerEnvelope → Option ResponseEnvelope
  | .response envelope => some envelope
  | _ => none

/-- It is a `Hello` frame. -/
def ServerEnvelope.isHello : ServerEnvelope → Bool
  | .hello _ => true
  | _ => false

/-- It is an `Event` frame. -/
def ServerEnvelope.isEvent : ServerEnvelope → Bool
  | .event _ _ => true
  | _ => false

/-- `IpcServer::transport_event`, for the log lines too. -/
def IpcServer.transportServiceEvent (server : IpcServer) : ServiceEvent → ServiceEvent
  | .update update => .update (server.transportEvent update)
  | .log entry => .log entry

/-- The kinds of `IpcError` that end a connection. -/
inductive ConnectionError where
  | ioError (text : String)
  /-- A line is not UTF-8 text, or not a request envelope. -/
  | invalidLine
  deriving DecidableEq

/-! ## The handler -/

/-- Where `handle_client` is. -/
inductive HandlerAt where
  /-- It writes the `Hello` frame. -/
  | greeting
  /-- In the `select!`. -/
  | selecting
  /-- In `handle_service_request`. -/
  | handling (request_id : UInt64) (request : ServiceRequest)
  /-- It writes a frame. -/
  | writing (frame : ServerEnvelope)
  | ended (result : Except ConnectionError Unit)
  /-- The task was dropped with the host. -/
  | dropped

/-- A client of the server. -/
structure IpcClient where
  /-- The buffer of `FramedRead`. -/
  buffer : List UInt8
  /-- The client has closed its end. -/
  eof : Bool
  subscribed : Bool
  handler : HandlerAt
  /-- The senders of the event channel, of which the server has one. -/
  senders : ℕ
  /-- The frames that were written. -/
  output : List ServerEnvelope
  /-- The operations of the runtime that were called. -/
  calls : List RuntimeOperation
  host_shutdown : Bool
  /-- What has arrived from the client. -/
  arrived : List UInt8
  /-- The lines that were read. -/
  lines : List (List UInt8)
  /-- What the runtime has returned to the request in each line, or that it was not called. -/
  returned : List (Option RuntimeResults)

namespace IpcClient

/-- What can happen. -/
inductive Action where
  /-- Bytes of the client arrive. -/
  | arrive (chunk : List UInt8)
  | closeInput
  /-- The `select!` takes a line. -/
  | read
  /-- The `select!` finds the end of the stream. -/
  | readEnd
  | readFails (text : String)
  /-- The `select!` takes an event. -/
  | event (event : ServiceEvent)
  | lagged
  | eventsClosed
  /-- The operation of the runtime returns. -/
  | finish (results : RuntimeResults)
  | write
  | writeFails (text : String)
  /-- Another handle of the runtime comes or goes. -/
  | cloneSender
  | dropSender
  /-- The host exits. -/
  | drop

/-- A step that breaks the connection. -/
def Action.disconnects : Action → Bool
  | .closeInput | .readFails _ | .writeFails _ | .drop => true
  | _ => false

/-- `b'\n'`. -/
def newline : UInt8 := 10

/-- A line without a carriage return at its end, as `LinesCodec` gives it. -/
def withoutCarriageReturn (line : List UInt8) : List UInt8 :=
  if line.getLast? = some 13 then line.dropLast else line

section
variable {Value : Type} (server : IpcServer) (codec : RequestCodec Value)

/-- `read_json` of a line. -/
def readJson (line : List UInt8) : Option IncomingRequestEnvelope :=
  codec.decode (withoutCarriageReturn line)

/-- The frame of a response. -/
def responseFrame (request_id : UInt64) (response : ServiceResponse) : ServerEnvelope :=
  .response ⟨ipcVersion, request_id, response⟩

/-- The branch of the `select!` for a request, up to the call of the runtime or, if there is none,
the write of the response. -/
def handleRequestEnvelope (s : IpcClient) (envelope : IncomingRequestEnvelope) : IpcClient :=
  match validateRequestEnvelope envelope with
  | .error response =>
    { s with
      handler := .writing (responseFrame envelope.request_id response)
      returned := s.returned ++ [none] }
  | .ok request =>
    { s with
      handler := .handling envelope.request_id request
      calls := s.calls ++ request.operation.toList
      host_shutdown := s.host_shutdown || (request = .stop) }

/-- A line is read. -/
def readLine (s : IpcClient) (line : List UInt8) (rest : List UInt8) : IpcClient :=
  match readJson codec line with
  | some envelope =>
    { s with buffer := rest, lines := s.lines ++ [line] }.handleRequestEnvelope envelope
  | none =>
    { s with
      buffer := rest
      lines := s.lines ++ [line]
      handler := .ended (.error .invalidLine) }

/-- One step, if it is possible. -/
def next (s : IpcClient) : Action → Option IpcClient
  | .arrive chunk =>
    if s.eof then none
    else some { s with buffer := s.buffer ++ chunk, arrived := s.arrived ++ chunk }
  | .closeInput => some { s with eof := true }
  | .read => match s.handler, takeLine newline s.buffer with
    | .selecting, some (line, rest) => some (s.readLine codec line rest)
    | _, _ => none
  -- What is left behind the last newline is a line, too, if it is not empty.
  | .readEnd => match s.handler, takeLine newline s.buffer with
    | .selecting, none =>
      if s.eof then
        if s.buffer = [] ∨ s.buffer = [13] then
          some { s with handler := .ended (.error (.ioError "Connection closed")) }
        else some (s.readLine codec s.buffer [])
      else none
    | _, _ => none
  | .readFails text => match s.handler with
    | .selecting => some { s with handler := .ended (.error (.ioError text)) }
    | _ => none
  | .event event => match s.handler with
    | .selecting =>
      if s.subscribed then
        some { s with handler := .writing (.event ipcVersion (server.transportServiceEvent event)) }
      else none
    | _ => none
  | .lagged => match s.handler with
    | .selecting => if s.subscribed then some s else none
    | _ => none
  | .eventsClosed => match s.handler with
    | .selecting =>
      if s.subscribed ∧ s.senders = 0 then some { s with handler := .ended (.ok ()) } else none
    | _ => none
  | .finish results => match s.handler with
    | .handling request_id request =>
      let outcome := server.handleServiceRequest results request
      some { s with
        subscribed := s.subscribed || outcome.subscribed
        handler := .writing (responseFrame request_id outcome.response)
        returned := s.returned ++ [some results] }
    | _ => none
  | .write => match s.handler with
    | .greeting =>
      some { s with handler := .selecting, output := s.output ++ [.hello protocolInfo] }
    | .writing frame => some { s with handler := .selecting, output := s.output ++ [frame] }
    | _ => none
  | .writeFails text => match s.handler with
    | .greeting | .writing _ => some { s with handler := .ended (.error (.ioError text)) }
    | _ => none
  | .cloneSender => some { s with senders := s.senders + 1 }
  -- The server keeps its own handle as long as it runs.
  | .dropSender => if 1 < s.senders then some { s with senders := s.senders - 1 } else none
  | .drop => some { s with handler := .dropped }

/-- A client that was just accepted. -/
def accepted : IpcClient where
  buffer := []
  eof := false
  subscribed := false
  handler := .greeting
  senders := 1
  output := []
  calls := []
  host_shutdown := false
  arrived := []
  lines := []
  returned := []

/-- A client as a system that takes a step at a time. -/
def step : IpcClient → Action → Except Unit (IpcClient × Unit) := ofOption (next server codec)

end

end IpcClient

end PlayitAgent
