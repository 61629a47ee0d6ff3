import PlayitAgent.Ipc.Streams

/-!
# Calls that go through

While nothing is on the way and both ends wait, a call of the client can go through, whatever it
asks for and whatever the runtime returns, and then both ends wait again. The greeting and an event
go through in the same way.
-/

namespace PlayitAgent

namespace IpcSession

open IpcClient (newline readJson responseFrame)

section
variable {Value Value' : Type} {server : IpcServer} {requests : RequestCodec Value}
  {codec : EnvelopeCodec Value'} {s s' : IpcSession}

/-- Nothing is on the way, and both ends wait. -/
structure Rests (s : IpcSession) : Prop where
  phase : s.client.phase = .idle
  buffer : s.client.buffer = []
  pending : s.client.pending = []
  sent : s.sent = []
  wire : s.wire = []
  handler : s.server.handler = .selecting
  input : s.server.buffer = []
  eof : s.server.eof = false

variable (server requests codec) in
/-- The state of a run in which no call was left without its response. -/
def Undisturbed (s : IpcSession) : Prop :=
  ∃ trace, Run (step server requests codec) accepted trace s ∧ ∀ x ∈ trace, x.1.abandons = false

/-- More steps that can be taken leave every call its response. -/
theorem Undisturbed.takes (h : Undisturbed server requests codec s) (actions : List Action)
    (htakes : takes (next server requests codec) s actions = some s')
    (hkeeps : actions.all (fun a => !a.abandons) = true) :
    Undisturbed server requests codec s' := by
  obtain ⟨trace, hrun, htrace⟩ := h
  refine ⟨_, Run.takes hrun htakes, ?_⟩
  intro x hx
  rcases List.mem_append.1 hx with hx | hx
  · exact htrace x hx
  · obtain ⟨a, ha, rfl⟩ := List.mem_map.1 hx
    simpa using List.all_eq_true.1 hkeeps a ha

/-! ## Lines -/

/-- A line and its newline are taken, and nothing is left. -/
theorem takeLine_line {line : List UInt8} (h : newline ∉ line) :
    takeLine newline (line ++ [newline]) = some (line, []) :=
  takeLine_eq_some_iff.2 ⟨rfl, h⟩

/-- They are all that is written for a frame. -/
theorem take_line (line : List UInt8) :
    (line ++ [newline]).take (line.length + 1) = line ++ [newline] := by
  rw [List.take_of_length_le]
  simp

/-- A frame that comes through is read as it was written, unless `recv_update` reads it. -/
theorem Undisturbed.frame (h : Undisturbed server requests codec s) {frame : ServerEnvelope}
    (hcomes : FrameComes codec frame) (hreads : IpcCaller.CallerAt.reads s.client.phase = true)
    (hupdating : s.client.phase ≠ .updating) (hbuffer : s.client.buffer = [])
    (hwire : s.wire = codec.frame frame ++ [newline]) :
    Undisturbed server requests codec
      { s with client := { s.client with buffer := [] }.receive frame, wire := [] } := by
  refine h.takes [.deliver ((codec.frame frame).length + 1), .client .read] ?_ rfl
  have hline := takeLine_line hcomes.plain.1
  have hparse := hcomes.parse
  rw [← withoutCarriageReturn_of_not_mem hcomes.plain.2] at hparse
  cases hphase : s.client.phase with
  | updating => exact absurd hphase hupdating
  | _ =>
    rw [hphase] at hreads
    simp [PlayitAgent.takes, next, IpcCaller.next, IpcCaller.readLine, hreads, hphase, hbuffer,
      hwire, take_line, hline, hparse]

variable (server requests) in
/-- The greeting goes through. -/
theorem greeting_completes (hcomes : FrameComes codec (.hello protocolInfo)) :
    ∃ s, Undisturbed server requests codec s ∧ s.Rests ∧ s.frames = [.hello protocolInfo] ∧
      s.client = { IpcCaller.connected with
        phase := .idle
        server_protocol := some protocolInfo
        taken := [.hello protocolInfo] } := by
  have hstart : Undisturbed server requests codec accepted := ⟨[], .nil, by simp⟩
  have hwritten := hstart.takes [.serve .write []] rfl rfl
  have hread := hwritten.frame hcomes rfl (by simp [accepted, IpcCaller.connected]) rfl rfl
  exact ⟨_, hread, ⟨rfl, rfl, rfl, rfl, rfl, rfl, rfl, rfl⟩, rfl, rfl⟩

/-! ## A call -/

/-- The request of a call reaches the server. -/
theorem Undisturbed.request (h : Undisturbed server requests codec s) (hrests : s.Rests)
    {e : RequestEnvelope} (hversion : e.ipc_version = ipcVersion)
    (hid : e.request_id = s.client.next_request_id) :
    Undisturbed server requests codec { s with
      client := { s.client with
        phase := .awaiting e
        next_request_id := s.client.next_request_id + 1
        pending := []
        started := s.client.started + 1
        requests := s.client.requests ++ [e] }
      server := { s.server with
        buffer := codec.request e ++ [newline]
        arrived := s.server.arrived ++ (codec.request e ++ [newline]) }
      sent := [] } := by
  refine h.takes [.client (.call e.request), .client .feed, .flush ((codec.request e).length + 1),
    .client .flushed, .carry ((codec.request e).length + 1)] ?_ rfl
  obtain ⟨version, id, request⟩ := e
  obtain rfl : version = ipcVersion := hversion
  obtain rfl : id = s.client.next_request_id := hid
  have hboundary : 0 < IpcCaller.backpressureBoundary := by decide
  simp [PlayitAgent.takes, next, flushes, IpcCaller.next, IpcClient.next, hrests.phase,
    hrests.pending, hrests.sent, hrests.eof, hrests.input, hboundary, take_line]

/-- The response to a request, with what the runtime returns. -/
def answerTo (server : IpcServer) (results : RuntimeResults) (e : RequestEnvelope) :
    ServerEnvelope :=
  responseFrame e.request_id (server.handleServiceRequest results e.request).response

/-- The server answers. -/
theorem Undisturbed.answer (h : Undisturbed server requests codec s) {e : RequestEnvelope}
    (hversion : e.ipc_version = ipcVersion) (results : RuntimeResults)
    (hcomes : RequestComes requests codec e) (hhandler : s.server.handler = .selecting)
    (hbuffer : s.server.buffer = codec.request e ++ [newline]) (hwire : s.wire = []) :
    Undisturbed server requests codec { s with
      server := { s.server with
        buffer := []
        subscribed := s.server.subscribed ||
          (server.handleServiceRequest results e.request).subscribed
        handler := .selecting
        output := s.server.output ++ [answerTo server results e]
        calls := s.server.calls ++ e.request.operation.toList
        host_shutdown := s.server.host_shutdown || (e.request = .stop)
        lines := s.server.lines ++ [codec.request e]
        returned := s.server.returned ++ [some results] }
      wire := codec.frame (answerTo server results e) ++ [newline]
      frames := s.frames ++ [answerTo server results e] } := by
  refine h.takes [.serve .read [], .serve (.finish results) [], .serve .write []] ?_ rfl
  have hline := takeLine_line hcomes.plain.1
  have hread : readJson requests (codec.request e) =
      some ⟨ipcVersion, e.request_id, .known e.request⟩ := by
    rw [readJson, withoutCarriageReturn_of_not_mem hcomes.plain.2, hcomes.decode, hversion]
  simp [PlayitAgent.takes, next, serve, own, writes, breaks, frameAt, answerTo, IpcClient.next,
    IpcClient.readLine, IpcClient.handleRequestEnvelope, validateRequestEnvelope, hhandler, hbuffer,
    hline, hread, hwire]

/-- A call goes through, and returns what came of it. -/
theorem call_completes (h : Undisturbed server requests codec s) (hrests : s.Rests)
    {e : RequestEnvelope} (hversion : e.ipc_version = ipcVersion)
    (hid : e.request_id = s.client.next_request_id) (results : RuntimeResults)
    (hrequest : RequestComes requests codec e)
    (hresponse : FrameComes codec (answerTo server results e)) :
    ∃ s', Undisturbed server requests codec s' ∧ s'.Rests ∧
      s'.frames = s.frames ++ [answerTo server results e] ∧
      s'.server.subscribed = (s.server.subscribed ||
        (server.handleServiceRequest results e.request).subscribed) ∧
      s'.client = { s.client with
        phase := .idle
        next_request_id := s.client.next_request_id + 1
        buffer := []
        pending := []
        started := s.client.started + 1
        requests := s.client.requests ++ [e]
        taken := s.client.taken ++ [(answerTo server results e).incoming]
        log := s.client.log ++ [⟨e, .ok (server.handleServiceRequest results e.request).response,
          s.client.requests.length - s.client.answered⟩] } := by
  have hasked := h.request hrests hversion hid
  have hanswered := hasked.answer hversion results hrequest hrests.handler rfl hrests.wire
  have hread := hanswered.frame hresponse rfl (by simp) hrests.buffer rfl
  have hresult : requestResult e.request_id (answerTo server results e) =
      .ok (server.handleServiceRequest results e.request).response := by
    simp [requestResult, answerTo, responseFrame, recvResponse, ensureIpcVersion, bind, Except.bind]
  refine ⟨_, hread, ⟨rfl, rfl, rfl, rfl, rfl, rfl, rfl, hrests.eof⟩, rfl, rfl, ?_⟩
  simp [IpcCaller.receive, hresult, IpcCaller.stale, IpcCaller.answered]

/-! ## An event -/

/-- An event is sent to a client that has subscribed, which waits for it. -/
theorem Undisturbed.event (h : Undisturbed server requests codec s) (hrests : s.Rests)
    (hsubscribed : s.server.subscribed = true) (event : ServiceEvent) :
    Undisturbed server requests codec { s with
      server := { s.server with
        handler := .selecting
        output := s.server.output ++ [.event ipcVersion (server.transportServiceEvent event)] }
      client := { s.client with phase := .updating }
      wire := codec.frame (.event ipcVersion (server.transportServiceEvent event)) ++ [newline]
      frames := s.frames ++ [.event ipcVersion (server.transportServiceEvent event)] } := by
  refine h.takes [.serve (.event event) [], .serve .write [], .client .update] ?_ rfl
  simp [PlayitAgent.takes, next, serve, own, writes, frameAt, IpcClient.next, IpcCaller.next,
    hrests.handler, hrests.phase, hrests.wire, hsubscribed]

/-- `recv_update` returns an event that comes through. -/
theorem Undisturbed.update (h : Undisturbed server requests codec s) {event : ServiceEvent}
    (hcomes : FrameComes codec (.event ipcVersion event)) (hphase : s.client.phase = .updating)
    (hbuffer : s.client.buffer = [])
    (hwire : s.wire = codec.frame (.event ipcVersion event) ++ [newline]) :
    Undisturbed server requests codec { s with
      client := { s.client with
        phase := .idle
        buffer := []
        taken := s.client.taken ++ [.event ipcVersion (.known event)]
        updates := s.client.updates ++ [event] }
      wire := [] } := by
  refine h.takes
    [.deliver ((codec.frame (.event ipcVersion event)).length + 1), .client .read] ?_ rfl
  have hline := takeLine_line hcomes.plain.1
  have hdecode := hcomes.decode
  rw [← withoutCarriageReturn_of_not_mem hcomes.plain.2] at hdecode
  have hupdate : recvUpdate (.event ipcVersion (.known event)) = .ok (some event) := by
    simp [recvUpdate, validateIncomingServerEnvelope, ensureIpcVersion, bind, Except.bind]
  simp [PlayitAgent.takes, next, IpcCaller.next, IpcCaller.readLine, IpcCaller.receiveIncoming,
    IpcCaller.CallerAt.reads, ServerEnvelope.incoming, hphase, hbuffer, hwire, take_line, hline,
    hdecode, hupdate]

/-- An event goes through to a client that has subscribed. -/
theorem event_completes (h : Undisturbed server requests codec s) (hrests : s.Rests)
    (hsubscribed : s.server.subscribed = true) (event : ServiceEvent)
    (hcomes : FrameComes codec (.event ipcVersion (server.transportServiceEvent event))) :
    ∃ s', Undisturbed server requests codec s' ∧ s'.Rests ∧
      s'.frames = s.frames ++ [.event ipcVersion (server.transportServiceEvent event)] ∧
      s'.client = { s.client with
        phase := .idle
        buffer := []
        taken := s.client.taken ++ [.event ipcVersion (.known (server.transportServiceEvent event))]
        updates := s.client.updates ++ [server.transportServiceEvent event] } := by
  have hsent := h.event hrests hsubscribed event
  have hread := hsent.update hcomes rfl hrests.buffer rfl
  exact ⟨_, hread, ⟨rfl, rfl, hrests.pending, hrests.sent, rfl, rfl, hrests.input, hrests.eof⟩, rfl,
    rfl⟩

end

end IpcSession

/-! ## A connection with a call, a subscription and an event -/

namespace SampleCalls

open IpcClient (newline)
open IpcSession (FrameComes RequestComes Undisturbed Rests answerTo)
open SampleClient (server results)

/-- The bytes of a text. -/
def utf8 (text : String) : List UInt8 := text.toByteArray.data.toList

/-- A string of JSON, for a text without characters that are escaped. -/
def quoted (text : String) : List UInt8 := utf8 "\"" ++ utf8 text ++ utf8 "\""

/-- An object of JSON, for values that are in JSON. -/
def object (fields : List (String × List UInt8)) : List UInt8 :=
  utf8 "\x7b" ++ (utf8 ",").intercalate
    (fields.map fun field => quoted field.1 ++ utf8 ":" ++ field.2) ++ utf8 "\x7d"

/-- The protocol, as it is written. -/
def protocolJson : List UInt8 :=
  object [("ipc_version", utf8 "3"), ("capabilities", utf8 "[" ++
    (utf8 ",").intercalate (protocolInfo.capabilities.map quoted) ++ utf8 "]")]

/-- The lifecycle of a service that starts. -/
def startingJson : List UInt8 := object [("state", quoted "starting")]

/-- Its status. -/
def statusJson : List UInt8 :=
  object [("phase", quoted "starting"), ("pid", utf8 "1"), ("uptime_secs", utf8 "0"),
    ("version", quoted "1.0.0"), ("socket_path", quoted "/run/playit.sock"),
    ("secret_path", utf8 "null"), ("has_secret", utf8 "false"), ("protocol", protocolJson),
    ("last_error", utf8 "null")]

/-- Its statistics. -/
def statsJson : List UInt8 :=
  object [("bytes_in", utf8 "0"), ("bytes_out", utf8 "0"), ("active_tcp", utf8 "0"),
    ("active_udp", utf8 "0")]

/-- The snapshot that a subscriber gets. -/
def snapshotJson : List UInt8 :=
  object [("status", statusJson), ("lifecycle", startingJson), ("stats", statsJson)]

/-- The line of a frame. -/
def frameLine (message_kind : String) (data : List UInt8) : List UInt8 :=
  object [("message_kind", quoted message_kind), ("data", data)]

/-- The line of a response. -/
def responseLine (request_id type_name : String) (data : List UInt8) : List UInt8 :=
  frameLine "response" (object [("ipc_version", utf8 "3"), ("request_id", utf8 request_id),
    ("response", object [("type", quoted type_name), ("data", data)])])

/-- The line of the greeting. -/
def helloLine : List UInt8 := frameLine "hello" (object [("protocol", protocolJson)])

/-- The line of the response to the first request. -/
def pathLine : List UInt8 := responseLine "1" "secret_path" (object [("secret_path", utf8 "null")])

/-- The line of the response to the second request. -/
def subscribeLine : List UInt8 :=
  responseLine "2" "subscribe" (object [("protocol", protocolJson), ("snapshot", snapshotJson)])

/-- The line of the event. -/
def eventLine : List UInt8 :=
  frameLine "event" (object [("ipc_version", utf8 "3"),
    ("event", object [("type", quoted "lifecycle"), ("data", startingJson)])])

/-- The lines that the server writes. -/
def lines : List (List UInt8) := [helloLine, pathLine, subscribeLine, eventLine]

/-- The first request. -/
def getPath : RequestEnvelope := ⟨ipcVersion, 1, .getSecretPath⟩

/-- The second request. -/
def subscribe : RequestEnvelope := ⟨ipcVersion, 2, .subscribe⟩

/-- The event: the service starts. -/
def event : ServiceEvent := .update (.lifecycle .starting)

/-- The frame with a line. -/
def frameOf (line : List UInt8) : Option ServerEnvelope :=
  if line = helloLine then some (.hello protocolInfo)
  else if line = pathLine then some (answerTo server results getPath)
  else if line = subscribeLine then some (answerTo server results subscribe)
  else if line = eventLine then some (.event ipcVersion event)
  else none

/-- The line of a request without fields. -/
def requestLine (e : RequestEnvelope) : List UInt8 :=
  object [("ipc_version", utf8 (toString e.ipc_version.toNat)),
    ("request_id", utf8 (toString e.request_id.toNat)),
    ("request", object [("type", quoted e.request.typeName)])]

/-- The decoder of the server at the two requests, with the type of a request for its value. -/
def requests : RequestCodec String where
  parse line :=
    if line = requestLine getPath then some (3, 1, "get_secret_path")
    else if line = requestLine subscribe then some (3, 2, "subscribe")
    else none
  request type_name :=
    if type_name = "get_secret_path" then some .getSecretPath
    else if type_name = "subscribe" then some .subscribe
    else none
  unknown type_name := some ⟨type_name⟩

/-- The encoders, and the decoder of the client, at these frames, with the event for its value. -/
def codec : EnvelopeCodec ServiceEvent where
  request := requestLine
  frame
    | .hello _ => helloLine
    | .response r => if r.request_id = 1 then pathLine else subscribeLine
    | .event _ _ => eventLine
  parse := frameOf
  parseIncoming line := (frameOf line).map fun
    | .hello protocol => .inl (.inl protocol)
    | .response envelope => .inl (.inr envelope)
    | .event ipc_version event => .inr (ipc_version, event)
  update := some
  unknown _ := none

/-- Both decoders of the client read the same frame. -/
theorem decodeIncoming_eq (line : List UInt8) :
    codec.decodeIncoming line = (frameOf line).map ServerEnvelope.incoming := by
  rw [EnvelopeCodec.decodeIncoming]
  simp only [codec]
  rcases frameOf line with _ | (_ | _ | _) <;> rfl

/-- No line has a line break in it. -/
theorem lines_plain : ∀ line ∈ lines, newline ∉ line ∧ 13 ∉ line := by
  decide +kernel

/-- No line begins another. -/
theorem lines_apart : ∀ line ∈ lines, ∀ part ∈ lines, part <+: line → part = line := by
  decide +kernel

/-- The lines differ. -/
theorem lines_nodup : lines.Nodup := by
  decide +kernel

/-- Only these lines are read as frames. -/
theorem mem_lines {line : List UInt8} (h : frameOf line ≠ none) : line ∈ lines := by
  by_contra hline
  simp only [lines, List.mem_cons, List.not_mem_nil, or_false, not_or] at hline
  obtain ⟨hhello, hpath, hsubscribe, hevent⟩ := hline
  rw [frameOf, if_neg hhello, if_neg hpath, if_neg hsubscribe, if_neg hevent] at h
  exact h rfl

/-- A frame that is read from its line comes through. -/
theorem frame_comes {frame : ServerEnvelope} {line : List UInt8} (hframe : codec.frame frame = line)
    (hread : frameOf line = some frame) : FrameComes codec frame := by
  have hline : line ∈ lines := mem_lines (by simp [hread])
  have hpart : ∀ part, part <+: line → part ≠ line → frameOf part = none := by
    intro part hpre hne
    by_contra hpart
    exact hne (lines_apart line hline part (mem_lines hpart) hpre)
  subst hframe
  refine ⟨lines_plain _ hline, hread, ?_, fun part hpre hne => ⟨hpart part hpre hne, ?_⟩⟩
  · rw [decodeIncoming_eq, hread]
    rfl
  · rw [decodeIncoming_eq, hpart part hpre hne]
    rfl

/-- All four frames come through. -/
theorem frames_come : FrameComes codec (.hello protocolInfo) ∧
    FrameComes codec (answerTo server results getPath) ∧
    FrameComes codec (answerTo server results subscribe) ∧
    FrameComes codec (.event ipcVersion event) := by
  have hnodup := lines_nodup
  simp only [lines, List.nodup_cons, List.mem_cons, List.not_mem_nil, or_false, not_or] at hnodup
  obtain ⟨⟨hhp, hhs, hhe⟩, ⟨hps, hpe⟩, hse, -⟩ := hnodup
  refine ⟨frame_comes rfl ?_, frame_comes rfl ?_, frame_comes rfl ?_, frame_comes rfl ?_⟩
  · exact if_pos rfl
  · exact (if_neg (Ne.symm hhp)).trans (if_pos rfl)
  · exact (if_neg (Ne.symm hhs)).trans ((if_neg (Ne.symm hps)).trans (if_pos rfl))
  · exact (if_neg (Ne.symm hhe)).trans ((if_neg (Ne.symm hpe)).trans
      ((if_neg (Ne.symm hse)).trans (if_pos rfl)))

/-- Both requests come through. -/
theorem requests_come : ∀ e ∈ [getPath, subscribe], RequestComes requests codec e := by
  have hall : ∀ e ∈ [getPath, subscribe], (newline ∉ requestLine e ∧ 13 ∉ requestLine e) ∧
      requests.decode (requestLine e) = some ⟨e.ipc_version, e.request_id, .known e.request⟩ := by
    decide +kernel
  intro e he
  exact ⟨(hall e he).1, (hall e he).2⟩

/-- The client has asked for the path of the secret. -/
theorem path_returned : ∃ s, Undisturbed server requests codec s ∧ s.Rests ∧
    s.frames = [.hello protocolInfo, answerTo server results getPath] ∧
    s.client.requests = [getPath] ∧ s.client.started = 1 ∧ s.client.next_request_id = 2 ∧
    s.client.log = [⟨getPath, .ok (.secretPath ⟨none⟩), 0⟩] ∧ s.client.updates = [] := by
  obtain ⟨hhello, hpath, -⟩ := frames_come
  obtain ⟨s, hgreeted, hrests, hframes, hclient⟩ :=
    IpcSession.greeting_completes server requests hhello
  obtain ⟨s', hcalled, hrests', hframes', -, hclient'⟩ := IpcSession.call_completes hgreeted hrests
    (e := getPath) rfl (by rw [hclient]; rfl) results (requests_come getPath (by simp)) hpath
  refine ⟨s', hcalled, hrests', by rw [hframes', hframes]; rfl, ?_⟩
  rw [hclient', hclient]
  exact ⟨rfl, rfl, rfl, rfl, rfl⟩

/-- The messages of the first call come through. -/
theorem path_faithful {s : IpcSession}
    (hframes : s.frames = [.hello protocolInfo, answerTo server results getPath])
    (hrequests : s.client.requests = [getPath]) : s.Faithful requests codec := by
  obtain ⟨hhello, hpath, -⟩ := frames_come
  refine ⟨?_, ?_⟩
  · rw [hrequests]
    exact fun e he => requests_come e (List.mem_cons.2 (.inl (List.mem_singleton.1 he)))
  · rw [hframes]
    simp [hhello, hpath]

/-- Then it has subscribed, and has received an event. -/
theorem event_returned : ∃ s, Undisturbed server requests codec s ∧ s.Rests ∧
    s.frames = [.hello protocolInfo, answerTo server results getPath,
      answerTo server results subscribe, .event ipcVersion event] ∧
    s.client.requests = [getPath, subscribe] ∧ s.client.started = 2 ∧
    s.client.updates = [event] := by
  obtain ⟨-, -, hresponse, hevent⟩ := frames_come
  obtain ⟨s, hcalled, hrests, hframes, hrequests, hstarted, hid, -, hupdates⟩ := path_returned
  obtain ⟨s', hcalled', hrests', hframes', hsubscribed, hclient'⟩ :=
    IpcSession.call_completes hcalled hrests (e := subscribe) rfl hid.symm results
      (requests_come subscribe (by simp)) hresponse
  have hfollows : s'.server.subscribed = true := by
    rw [hsubscribed]
    exact Bool.or_true _
  obtain ⟨s'', htold, hrests'', hframes'', hclient''⟩ :=
    IpcSession.event_completes hcalled' hrests' hfollows event hevent
  refine ⟨s'', htold, hrests'', by rw [hframes'', hframes', hframes]; rfl, ?_⟩
  rw [hclient'', hclient', hrequests, hstarted, hupdates]
  exact ⟨rfl, rfl, rfl⟩

/-- So do those up to the event. -/
theorem event_faithful {s : IpcSession}
    (hframes : s.frames = [.hello protocolInfo, answerTo server results getPath,
      answerTo server results subscribe, .event ipcVersion event])
    (hrequests : s.client.requests = [getPath, subscribe]) : s.Faithful requests codec := by
  obtain ⟨hhello, hpath, hresponse, hevent⟩ := frames_come
  refine ⟨?_, ?_⟩
  · rw [hrequests]
    exact requests_come
  · rw [hframes]
    simp [hhello, hpath, hresponse, hevent]

end SampleCalls

end PlayitAgent
