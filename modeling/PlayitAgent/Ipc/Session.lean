import PlayitAgent.Ipc.Client
import PlayitAgent.Ipc.Pairing

/-!
# A connection with both of its ends

The client of `playit-ipc` and the handler of `playitd` with the two streams between them. A stream
delivers its bytes in order and in any chunks. When the handler is dropped, or a write of it fails,
the client may have received a part of the frame that it was writing.
-/

namespace PlayitAgent

/-- A connection. -/
structure IpcSession where
  server : IpcClient
  client : IpcCaller
  /-- What the client has written and the server has not received. -/
  sent : List UInt8
  /-- What the server has written and the client has not received. -/
  wire : List UInt8
  /-- The frames that the server has begun to write. -/
  frames : List ServerEnvelope
  /-- What was written of the last of them, when the connection broke within it. -/
  rest : List UInt8

namespace IpcSession

open IpcClient (newline responses readJson Answers Greets Paired live responseFrame)

/-- The frame that the handler writes. -/
def frameAt : HandlerAt → Option ServerEnvelope
  | .greeting => some (.hello protocolInfo)
  | .writing frame => some frame
  | _ => none

/-- What can happen. -/
inductive Action where
  /-- A step of the handler. If it breaks a write, a part of the frame was written. -/
  | serve (a : IpcClient.Action) (part : List UInt8)
  | client (a : IpcCaller.Action)
  /-- The client writes some of its buffer. -/
  | flush (n : ℕ)
  /-- Bytes of the client arrive. -/
  | carry (n : ℕ)
  /-- Bytes of the server arrive. -/
  | deliver (n : ℕ)
  /-- The end of the stream from the server arrives. -/
  | deliverEnd

/-- A step that leaves a call without the response to its request. -/
def Action.abandons : Action → Bool
  | .client a => a.abandons
  | _ => false

/-- The step of the handler is its own. Only a client that is gone closes its end. -/
def own (s : IpcSession) : IpcClient.Action → Bool
  | .arrive _ => false
  | .closeInput => s.client.phase = .gone
  | _ => true

/-- The step writes the frame that the handler is at. -/
def writes : IpcClient.Action → Bool
  | .write => true
  | _ => false

/-- The step breaks the write of the frame that the handler is at. -/
def breaks : IpcClient.Action → Bool
  | .writeFails _ | .drop => true
  | _ => false

/-- The client is in a write that has something to write. -/
def flushes (s : IpcSession) : Bool :=
  match s.client.phase with
  | .feeding _ => IpcCaller.backpressureBoundary ≤ s.client.pending.length
  | .flushing _ => true
  | _ => false

section
variable {Value Value' : Type} (server : IpcServer) (requests : RequestCodec Value)
  (codec : EnvelopeCodec Value')

/-- A step of the handler. -/
def serve (s : IpcSession) (a : IpcClient.Action) (part : List UInt8) : Option IpcSession :=
  if s.own a then
    match s.server.next server requests a, frameAt s.server.handler with
    | some server', some frame =>
      if writes a then
        some { s with
          server := server'
          wire := s.wire ++ (codec.frame frame ++ [newline])
          frames := s.frames ++ [frame] }
      else if breaks a then
        if part <+: codec.frame frame then
          some { s with
            server := server'
            wire := s.wire ++ part
            frames := s.frames ++ [frame]
            rest := part }
        else none
      else some { s with server := server' }
    | some server', none => some { s with server := server' }
    | none, _ => none
  else none

/-- One step, if it is possible. -/
def next (s : IpcSession) : Action → Option IpcSession
  | .serve a part => s.serve server requests codec a part
  | .client a => (s.client.next codec a).map fun client => { s with client := client }
  | .flush n =>
    if s.flushes then
      some { s with
        client := { s.client with pending := s.client.pending.drop n }
        sent := s.sent ++ s.client.pending.take n }
    else none
  | .carry n => (s.server.next server requests (.arrive (s.sent.take n))).map fun server' =>
      { s with server := server', sent := s.sent.drop n }
  | .deliver n =>
    some { s with
      client := { s.client with buffer := s.client.buffer ++ s.wire.take n }
      wire := s.wire.drop n }
  | .deliverEnd =>
    if s.wire = [] ∧ live s.server.handler = false then
      some { s with client := { s.client with eof := true } }
    else none

/-- A client that has connected, and a handler that was just spawned for it. -/
def accepted : IpcSession where
  server := IpcClient.accepted
  client := .connected
  sent := []
  wire := []
  frames := []
  rest := []

/-- A connection as a system that takes a step at a time. -/
def step : IpcSession → Action → Except Unit (IpcSession × Unit) :=
  ofOption (next server requests codec)

/-! ## What is used of `serde_json` -/

/-- A request comes through: it is one line of text, which is read as it was written. -/
structure RequestComes (e : RequestEnvelope) : Prop where
  plain : newline ∉ codec.request e ∧ 13 ∉ codec.request e
  decode : requests.decode (codec.request e) = some ⟨e.ipc_version, e.request_id, .known e.request⟩

/-- A frame comes through: it is one line of text, which is read as it was written, while a part of
it is no message. -/
structure FrameComes (frame : ServerEnvelope) : Prop where
  plain : newline ∉ codec.frame frame ∧ 13 ∉ codec.frame frame
  parse : codec.parse (codec.frame frame) = some frame
  decode : codec.decodeIncoming (codec.frame frame) = some frame.incoming
  part : ∀ part, part <+: codec.frame frame → part ≠ codec.frame frame →
    codec.parse part = none ∧ codec.decodeIncoming part = none

/-- The messages of a connection come through. -/
structure Faithful (s : IpcSession) : Prop where
  requests : ∀ e ∈ s.client.requests, RequestComes requests codec e
  frames : ∀ frame ∈ s.frames, FrameComes codec frame

end

end IpcSession

end PlayitAgent
