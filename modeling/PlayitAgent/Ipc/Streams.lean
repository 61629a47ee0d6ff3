import PlayitAgent.Ipc.Session

/-!
# What the two ends have read

Along every run of a connection, what the server has read are the requests of the client in their
order, and what the client has read are the frames of the server in theirs. This holds whatever
calls are cancelled, and wherever the connection breaks.
-/

namespace PlayitAgent

/-- The frame is of the version of the client. -/
def ServerEnvelope.Current : ServerEnvelope → Prop
  | .hello protocol => protocol = protocolInfo
  | .response envelope => envelope.ipc_version = ipcVersion
  | .event ipc_version _ => ipc_version = ipcVersion

namespace IpcSession

open IpcClient (newline responses readJson AnsweredFirst Greets Paired live responseFrame
  EventsAfterSubscribe)

section
variable {Value Value' : Type} (server : IpcServer) (requests : RequestCodec Value)
  (codec : EnvelopeCodec Value')

/-- The stream of the requests. -/
structure Upstream (s : IpcSession) : Prop where
  paired : Paired server requests s.server
  eof : s.server.eof = false
  stream : s.server.arrived ++ s.sent ++ s.client.pending =
    unlines newline (s.client.requests.map codec.request)

/-- The frames that the server has begun to write. -/
structure Written (s : IpcSession) : Prop where
  /-- All of them are written, or the connection broke within the last one. -/
  frames : (s.rest = [] ∧ s.frames = s.server.output) ∨
    (live s.server.handler = false ∧
      ∃ frame, s.frames = s.server.output ++ [frame] ∧ s.rest <+: codec.frame frame)
  greets : s.frames = [] ∨ Greets s.frames
  answers : AnsweredFirst server requests s.server (responses s.frames)
  events : EventsAfterSubscribe s.frames
  current : ∀ frame ∈ s.frames, frame.Current
  writing : ∀ frame, frameAt s.server.handler = some frame → frame.Current

/-- What is left of the stream of frames, behind those that were taken from it. -/
def Reading (s : IpcSession) (taken : List ServerEnvelope) : Prop :=
  taken <+: s.server.output ∧
    unlines newline (taken.map codec.frame) ++ s.client.buffer ++ s.wire =
      unlines newline (s.server.output.map codec.frame) ++ s.rest ∧
    (s.client.eof = true → s.wire = [] ∧ live s.server.handler = false)

/-- Nothing is left of the stream, and its end was found. -/
def Finished (s : IpcSession) : Prop :=
  s.client.eof = true ∧ s.client.buffer = [] ∧ s.wire = [] ∧ live s.server.handler = false

/-- The client has taken these frames. -/
structure Taken (s : IpcSession) (taken : List ServerEnvelope) : Prop where
  frames : taken <+: s.frames
  taken_eq : s.client.taken = taken.map ServerEnvelope.incoming
  stream : s.Reading codec taken ∨ s.Finished

/-- What holds of the streams while the client is there. -/
structure Streams (s : IpcSession) : Prop where
  up : s.Upstream server requests codec
  written : s.Written server requests codec
  down : ∃ taken, s.Taken codec taken
  /-- A call that waits has sent the last request. -/
  waiting : ∀ e, s.client.phase.waiting? = some e → ∃ before, s.client.requests = before ++ [e]

end

section
variable {Value Value' : Type} {server : IpcServer} {requests : RequestCodec Value}
  {codec : EnvelopeCodec Value'} {s s' : IpcSession} {taken : List ServerEnvelope}

/-- A line without a carriage return is as it is. -/
theorem withoutCarriageReturn_of_not_mem {line : List UInt8} (h : 13 ∉ line) :
    IpcClient.withoutCarriageReturn line = line := by
  unfold IpcClient.withoutCarriageReturn
  rw [if_neg]
  intro hlast
  exact h (List.mem_of_getLast? hlast)

/-! ## The server -/

/-- A step of the handler itself takes nothing from the stream of requests. -/
theorem arrived_of_own {c c' : IpcClient} {a : IpcClient.Action}
    (h : c.next server requests a = some c') (harrive : ∀ chunk, a ≠ .arrive chunk)
    (hclose : a ≠ .closeInput) : c'.arrived = c.arrived ∧ c'.eof = c.eof := by
  cases IpcClient.next_cases h with
  | @arrive chunk _ => exact absurd rfl (harrive chunk)
  | closeInput => exact absurd rfl hclose
  | @read line rest _ _ => exact IpcClient.readLine_arrived c requests line rest
  | readRest _ _ _ => exact IpcClient.readLine_arrived c requests c.buffer []
  | event | lagged | finish | greet | write | cloneSender | dropSender | ends => exact ⟨rfl, rfl⟩

/-- A step that is the handler's own, while the client is there. -/
theorem own_iff (hphase : s.client.phase ≠ .gone) {a : IpcClient.Action} (h : s.own a = true) :
    (∀ chunk, a ≠ .arrive chunk) ∧ a ≠ .closeInput := by
  constructor
  · rintro chunk rfl
    cases h
  · rintro rfl
    exact hphase (by simpa [own] using h)

/-- What the handler has written, when it writes the frame that it is at. -/
theorem written_frameAt (h : Paired server requests s.server) {frame : ServerEnvelope}
    (hframe : frameAt s.server.handler = some frame) :
    Greets (s.server.output ++ [frame]) ∧ EventsAfterSubscribe (s.server.output ++ [frame]) ∧
      AnsweredFirst server requests s.server (responses (s.server.output ++ [frame])) := by
  have hover : ∃ c : IpcClient, Paired server requests c ∧
      (c.lines = s.server.lines ∧ c.returned = s.server.returned) ∧
      c.output = s.server.output ++ [frame] := by
    cases hhandler : s.server.handler with
    | greeting =>
      rw [hhandler] at hframe
      cases hframe
      exact ⟨_, h.greet hhandler, ⟨rfl, rfl⟩, rfl⟩
    | writing frame' =>
      rw [hhandler] at hframe
      cases hframe
      exact ⟨_, h.write hhandler, ⟨rfl, rfl⟩, rfl⟩
    | _ =>
      rw [hhandler] at hframe
      cases hframe
  obtain ⟨c, hc, ⟨hlines, hreturned⟩, houtput⟩ := hover
  obtain ⟨hgreets, hanswers⟩ := hc.over
  rw [houtput] at hgreets hanswers
  unfold AnsweredFirst at hanswers ⊢
  rw [hlines, hreturned] at hanswers
  exact ⟨hgreets.resolve_left (by simp), houtput ▸ hc.events, hanswers⟩

/-- The handler writes only frames of its own version. -/
theorem current_of_next {c c' : IpcClient} {a : IpcClient.Action}
    (h : c.next server requests a = some c')
    (hcurrent : ∀ frame, frameAt c.handler = some frame → frame.Current) :
    ∀ frame, frameAt c'.handler = some frame → frame.Current := by
  have hread : ∀ line rest frame, frameAt (c.readLine requests line rest).handler = some frame →
      frame.Current := by
    intro line rest frame hframe
    unfold IpcClient.readLine at hframe
    split at hframe
    · unfold IpcClient.handleRequestEnvelope at hframe
      split at hframe <;> cases hframe
      rfl
    · cases hframe
  cases IpcClient.next_cases h with
  | read _ _ | readRest _ _ _ => exact hread _ _
  | event _ _ | finish _ =>
    intro frame hframe
    cases hframe
    rfl
  | greet _ | write _ =>
    intro frame hframe
    cases hframe
  | ends _ hover =>
    intro frame hframe
    rcases hover with rfl | ⟨result, rfl⟩ <;> cases hframe
  | arrive | closeInput | lagged | cloneSender | dropSender => exact hcurrent

/-- A handler that is at a frame has not ended. -/
theorem live_of_frameAt {handler : HandlerAt} {frame : ServerEnvelope}
    (h : frameAt handler = some frame) : live handler = true := by
  cases handler <;> first | rfl | cases h

/-- The lines that were read stay, and so does what was returned to them. -/
def Keeps (c c' : IpcClient) : Prop := c.lines <+: c'.lines ∧ c.returned <+: c'.returned

/-- The responses to the first lines are still that. -/
theorem Keeps.answeredFirst {c c' : IpcClient} (h : Keeps c c') {rs : List ResponseEnvelope}
    (hanswers : AnsweredFirst server requests c rs) : AnsweredFirst server requests c' rs := by
  obtain ⟨lines, returned, hlines, hreturned, hanswered⟩ := hanswers
  exact ⟨lines, returned, hlines.trans h.1, hreturned.trans h.2, hanswered⟩

/-- The read of a line adds it, and decides at most its response. -/
theorem keeps_readLine (c : IpcClient) (line rest : List UInt8) :
    (c.readLine requests line rest).output = c.output ∧
      Keeps c (c.readLine requests line rest) := by
  unfold IpcClient.readLine
  split
  · unfold IpcClient.handleRequestEnvelope
    split
    · exact ⟨rfl, List.prefix_append _ _, List.prefix_append _ _⟩
    · exact ⟨rfl, List.prefix_append _ _, List.prefix_refl _⟩
  · exact ⟨rfl, List.prefix_append _ _, List.prefix_refl _⟩

/-- Every step of the handler keeps them. -/
theorem keeps_of_next {c c' : IpcClient} {a : IpcClient.Action}
    (h : c.next server requests a = some c') : Keeps c c' := by
  cases IpcClient.next_cases h with
  | read _ _ => exact (keeps_readLine c _ _).2
  | readRest _ _ _ => exact (keeps_readLine c _ _).2
  | finish => exact ⟨List.prefix_refl _, List.prefix_append _ _⟩
  | arrive | closeInput | event | lagged | greet | write | cloneSender | dropSender | ends =>
    exact ⟨List.prefix_refl _, List.prefix_refl _⟩

/-- A step that does not write keeps the output. -/
theorem of_not_writes {c c' : IpcClient} {a : IpcClient.Action}
    (h : c.next server requests a = some c') (hwrites : writes a = false) :
    c'.output = c.output := by
  cases IpcClient.next_cases h with
  | read _ _ => exact (keeps_readLine c _ _).1
  | readRest _ _ _ => exact (keeps_readLine c _ _).1
  | greet | write => cases hwrites
  | arrive | closeInput | event | lagged | finish | cloneSender | dropSender | ends => rfl

/-- There is no write without a frame. -/
theorem not_write_of_frameAt {c : IpcClient} (h : frameAt c.handler = none) :
    c.next server requests .write = none := by
  rw [IpcClient.next]
  cases hhandler : c.handler with
  | greeting | writing frame =>
    rw [hhandler] at h
    cases h
  | _ => rfl

/-- The write of a frame. -/
theorem of_writes {c c' : IpcClient} {frame : ServerEnvelope}
    (h : c.next server requests .write = some c') (hframe : frameAt c.handler = some frame) :
    c' = { c with handler := .selecting, output := c.output ++ [frame] } := by
  cases hhandler : c.handler with
  | greeting | writing frame' =>
    rw [hhandler] at hframe
    cases hframe
    rw [IpcClient.next, hhandler] at h
    exact (Option.some.inj h).symm
  | _ =>
    rw [hhandler] at hframe
    cases hframe

/-- A step that breaks a write ends the handler. -/
theorem of_breaks {c c' : IpcClient} {a : IpcClient.Action} {frame : ServerEnvelope}
    (h : c.next server requests a = some c') (hbreaks : breaks a = true)
    (hframe : frameAt c.handler = some frame) :
    live c'.handler = false ∧ c'.output = c.output := by
  cases a with
  | writeFails text =>
    cases hhandler : c.handler with
    | greeting | writing frame' =>
      rw [IpcClient.next, hhandler] at h
      cases h
      exact ⟨rfl, rfl⟩
    | _ =>
      rw [hhandler] at hframe
      cases hframe
  | drop =>
    cases h
    exact ⟨rfl, rfl⟩
  | _ => cases hbreaks

/-- A handler that has ended does nothing more. -/
theorem of_ended {c c' : IpcClient} {a : IpcClient.Action}
    (h : c.next server requests a = some c') (hlive : live c.handler = false)
    (heof : c.eof = false) : live c'.handler = false := by
  have hnot : ∀ {handler : HandlerAt}, c.handler = handler → live handler = false := by
    rintro handler rfl
    exact hlive
  cases IpcClient.next_cases h with
  | read hhandler _ => cases hnot hhandler
  | readRest hend _ _ =>
    rw [heof] at hend
    cases hend
  | event hhandler _ => cases hnot hhandler
  | finish hhandler => cases hnot hhandler
  | greet hhandler => cases hnot hhandler
  | write hhandler => cases hnot hhandler
  | arrive | closeInput | lagged | cloneSender | dropSender => exact hlive
  | ends _ hover =>
    rcases hover with rfl | ⟨result, rfl⟩
    · rfl
    · rfl

/-- The requests come through as lines that the server can read. -/
theorem Faithful.requests_decode (h : s.Faithful requests codec) :
    ∀ line ∈ s.client.requests.map codec.request,
      newline ∉ line ∧ (readJson requests line).isSome = true := by
  intro line hline
  obtain ⟨e, he, rfl⟩ := List.mem_map.1 hline
  have hcomes := h.requests e he
  refine ⟨hcomes.plain.1, ?_⟩
  rw [readJson, withoutCarriageReturn_of_not_mem hcomes.plain.2, hcomes.decode]
  rfl

/-- The server keeps up with the stream of requests in every step that adds nothing to it. -/
theorem Upstream.next (s' : IpcSession) (h : s.Upstream server requests codec)
    (hfaithful : s.Faithful requests codec) {a : IpcClient.Action}
    (hnext : s.server.next server requests a = some s'.server)
    (heof : s'.server.eof = false) (hrequests : s'.client.requests = s.client.requests)
    (hstream : s'.server.arrived ++ s'.sent ++ s'.client.pending =
      s.server.arrived ++ s.sent ++ s.client.pending) :
    s'.Upstream server requests codec := by
  have hsame : s'.server.arrived ++ s'.sent ++ s'.client.pending =
      unlines newline (s.client.requests.map codec.request) := hstream.trans h.stream
  have hsent : s'.server.Sent (s.client.requests.map codec.request) := by
    refine ⟨⟨s'.sent ++ s'.client.pending, ?_⟩, fun hend => ?_⟩
    · rw [← List.append_assoc, hsame]
    · rw [heof] at hend
      cases hend
  refine ⟨h.paired.next hnext hsent hfaithful.requests_decode, heof, ?_⟩
  rw [hsame, hrequests]

/-- What was written stays, and no more is written. -/
theorem Written.of_not_writes (h : s.Written server requests codec)
    (houtput : s'.server.output = s.server.output) (hkeeps : Keeps s.server s'.server)
    (hframes : s'.frames = s.frames) (hrest : s'.rest = s.rest)
    (hlive : live s.server.handler = false → live s'.server.handler = false)
    (hwriting : ∀ frame, frameAt s'.server.handler = some frame → frame.Current) :
    s'.Written server requests codec := by
  refine ⟨?_, hframes ▸ h.greets, hframes ▸ hkeeps.answeredFirst h.answers, hframes ▸ h.events,
    hframes ▸ h.current, hwriting⟩
  rw [hrest, hframes, houtput]
  rcases h.frames with hall | ⟨hended, hcut⟩
  · exact .inl hall
  · exact .inr ⟨hlive hended, hcut⟩

/-- The stream to the client is the same. -/
theorem Taken.of_eq (h : s.Taken codec taken) (hframes : s'.frames = s.frames)
    (houtput : s'.server.output = s.server.output) (hrest : s'.rest = s.rest)
    (hclient : s'.client = s.client) (hwire : s'.wire = s.wire)
    (hlive : live s.server.handler = false → live s'.server.handler = false) :
    s'.Taken codec taken := by
  refine ⟨hframes ▸ h.frames, hclient ▸ h.taken_eq, ?_⟩
  rcases h.stream with ⟨hpre, hstream, hend⟩ | ⟨heof, hbuffer, hempty, hended⟩
  · refine .inl ⟨houtput ▸ hpre, ?_, ?_⟩
    · rw [hclient, hwire, houtput, hrest, hstream]
    · rw [hclient, hwire]
      exact fun heof => ⟨(hend heof).1, hlive (hend heof).2⟩
  · rw [← hclient] at heof hbuffer
    rw [← hwire] at hempty
    exact .inr ⟨heof, hbuffer, hempty, hlive hended⟩

/-- The handler writes a frame, all of it or a part. -/
theorem Streams.serve_frame (h : s.Streams server requests codec)
    {frame : ServerEnvelope} (hframe : frameAt s.server.handler = some frame)
    (hup : s'.Upstream server requests codec) (hclient : s'.client = s.client)
    (hkeeps : Keeps s.server s'.server) (hframes : s'.frames = s.frames ++ [frame])
    (hwriting : ∀ frame, frameAt s'.server.handler = some frame → frame.Current)
    (hcase : (s'.server.output = s.server.output ++ [frame] ∧ s'.rest = s.rest ∧
        s'.wire = s.wire ++ (codec.frame frame ++ [newline])) ∨
      (s'.server.output = s.server.output ∧ live s'.server.handler = false ∧
        s'.rest <+: codec.frame frame ∧ s'.wire = s.wire ++ s'.rest)) :
    s'.Streams server requests codec := by
  have hlive := live_of_frameAt hframe
  -- A handler that is at a frame was not cut before.
  obtain ⟨hrest, hall⟩ : s.rest = [] ∧ s.frames = s.server.output := by
    rcases h.written.frames with hall | ⟨hended, -⟩
    · exact hall
    · rw [hlive] at hended
      cases hended
  obtain ⟨hgreets, hevents, hanswers⟩ := written_frameAt h.up.paired hframe
  have hframes' : s'.frames = s.server.output ++ [frame] := by rw [hframes, hall]
  refine ⟨hup, ⟨?_, ?_, ?_, hframes' ▸ hevents, ?_, hwriting⟩, ?_, ?_⟩
  · rcases hcase with ⟨houtput, hrest', -⟩ | ⟨houtput, hended, hpart, -⟩
    · exact .inl ⟨hrest'.trans hrest, by rw [hframes', houtput]⟩
    · exact .inr ⟨hended, frame, by rw [hframes', houtput], hpart⟩
  · rw [hframes']
    exact .inr hgreets
  · rw [hframes']
    exact hkeeps.answeredFirst hanswers
  · rw [hframes]
    intro frame' hmem
    rcases List.mem_append.1 hmem with hmem | hmem
    · exact h.written.current frame' hmem
    · rw [List.mem_singleton.1 hmem]
      exact h.written.writing frame hframe
  · obtain ⟨taken, htaken⟩ := h.down
    refine ⟨taken, ?_, hclient ▸ htaken.taken_eq, ?_⟩
    · rw [hframes]
      exact htaken.frames.trans (List.prefix_append _ _)
    · -- The stream has not ended, since the handler has not.
      rcases htaken.stream with ⟨hpre, hstream, hend⟩ | ⟨-, -, -, hended⟩
      · have heof : s.client.eof = false := by
          by_contra heof
          have hended := (hend (by simpa using heof)).2
          rw [hlive] at hended
          cases hended
        have hopen : s'.client.eof = true → s'.wire = [] ∧ live s'.server.handler = false := by
          rw [hclient, heof]
          intro hfalse
          cases hfalse
        rw [hrest, List.append_nil] at hstream
        rcases hcase with ⟨houtput, hrest', hwire⟩ | ⟨houtput, -, -, hwire⟩
        · refine .inl ⟨?_, ?_, hopen⟩
          · rw [houtput]
            exact hpre.trans (List.prefix_append _ _)
          · rw [hclient, hwire, houtput, hrest', hrest, List.map_append, List.map_singleton,
              unlines_concat, ← hstream]
            simp
        · refine .inl ⟨houtput ▸ hpre, ?_, hopen⟩
          rw [hclient, hwire, houtput, ← hstream]
          simp
      · rw [hlive] at hended
        cases hended
  · rw [hclient]
    exact h.waiting

/-- What a step of the handler does to the connection: the handler takes it, and it writes the frame
that it is at, breaks within it, or writes nothing. -/
theorem serve_cases {a : IpcClient.Action} {part : List UInt8}
    (h : s.serve server requests codec a part = some s') :
    s.own a = true ∧ ∃ server', s.server.next server requests a = some server' ∧
      ((writes a = false ∧ s' = { s with server := server' }) ∨
        ∃ frame, frameAt s.server.handler = some frame ∧
          ((a = .write ∧ s' = { s with
              server := server'
              wire := s.wire ++ (codec.frame frame ++ [newline])
              frames := s.frames ++ [frame] }) ∨
            (breaks a = true ∧ part <+: codec.frame frame ∧ s' = { s with
              server := server'
              wire := s.wire ++ part
              frames := s.frames ++ [frame]
              rest := part }))) := by
  have hwrite : writes a = true → a = .write := by
    intro hwrites
    cases a <;> first | rfl | cases hwrites
  unfold IpcSession.serve at h
  split at h
  · next hown =>
    split at h
    · next server' frame hnext hframe =>
      refine ⟨hown, server', hnext, ?_⟩
      split at h
      · next hwrites => exact .inr ⟨frame, hframe, .inl ⟨hwrite hwrites, (Option.some.inj h).symm⟩⟩
      · next hwrites =>
        split at h
        · next hbreaks =>
          split at h
          · next hpart =>
            exact .inr ⟨frame, hframe, .inr ⟨hbreaks, hpart, (Option.some.inj h).symm⟩⟩
          · cases h
        · exact .inl ⟨by simpa using hwrites, (Option.some.inj h).symm⟩
    · next server' hnext hframe =>
      refine ⟨hown, server', hnext, .inl ⟨?_, (Option.some.inj h).symm⟩⟩
      -- A write needs a frame.
      by_contra hwrites
      obtain rfl := hwrite (by simpa using hwrites)
      rw [not_write_of_frameAt hframe] at hnext
      cases hnext
    · cases h
  · cases h

/-- A step of the handler. -/
theorem Streams.serve (h : s.Streams server requests codec)
    (hfaithful : s.Faithful requests codec) (hphase : s.client.phase ≠ .gone)
    {a : IpcClient.Action} {part : List UInt8}
    (hserve : s.serve server requests codec a part = some s') :
    s'.Streams server requests codec := by
  obtain ⟨hown, server', hnext, hcases⟩ := serve_cases hserve
  obtain ⟨harrive, hclose⟩ := own_iff hphase hown
  obtain ⟨harrived, heof⟩ := arrived_of_own hnext harrive hclose
  have hup : s'.server = server' → s'.client = s.client → s'.sent = s.sent →
      s'.Upstream server requests codec := by
    rintro rfl hclient hsent
    refine Upstream.next s' h.up hfaithful hnext (heof.trans h.up.eof) (by rw [hclient]) ?_
    rw [harrived, hsent, hclient]
  have hwriting := current_of_next hnext h.written.writing
  have hkeeps := keeps_of_next hnext
  obtain ⟨hwrites, rfl⟩ | ⟨frame, hframe, ⟨rfl, rfl⟩ | ⟨hbreaks, hpart, rfl⟩⟩ := hcases
  · have houtput := of_not_writes hnext hwrites
    have hlive := fun hended => of_ended hnext hended h.up.eof
    obtain ⟨taken, htaken⟩ := h.down
    exact ⟨hup rfl rfl rfl, h.written.of_not_writes houtput hkeeps rfl rfl hlive hwriting,
      ⟨taken, htaken.of_eq rfl houtput rfl rfl rfl hlive⟩, h.waiting⟩
  · have hserver := of_writes hnext hframe
    refine h.serve_frame hframe (hup rfl rfl rfl) rfl hkeeps rfl hwriting (.inl ⟨?_, rfl, rfl⟩)
    rw [hserver]
  · obtain ⟨hended, houtput⟩ := of_breaks hnext hbreaks hframe
    exact h.serve_frame hframe (hup rfl rfl rfl) rfl hkeeps rfl hwriting
      (.inr ⟨houtput, hended, hpart, rfl⟩)

/-- What was written is the same for a server that is the same. -/
theorem Written.of_eq (h : s.Written server requests codec) (hserver : s'.server = s.server)
    (hframes : s'.frames = s.frames) (hrest : s'.rest = s.rest) :
    s'.Written server requests codec := by
  refine h.of_not_writes (by rw [hserver]) ?_ hframes hrest ?_ ?_
  · rw [hserver]
    exact ⟨List.prefix_refl _, List.prefix_refl _⟩
  · rw [hserver]
    exact id
  · rw [hserver]
    exact h.writing

/-- Bytes of the client arrive at the server. -/
theorem Streams.carry (h : s.Streams server requests codec) (hfaithful : s.Faithful requests codec)
    {server' : IpcClient} {n : ℕ}
    (hnext : s.server.next server requests (.arrive (s.sent.take n)) = some server') :
    Streams server requests codec { s with server := server', sent := s.sent.drop n } := by
  have hopen : ¬s.server.eof = true := by simp [h.up.eof]
  have hnext' := hnext
  rw [IpcClient.next, if_neg hopen] at hnext'
  obtain rfl := Option.some.inj hnext'
  obtain ⟨taken, htaken⟩ := h.down
  refine ⟨?_, ?_, ⟨taken, ?_⟩, h.waiting⟩
  · refine Upstream.next { s with server := _, sent := s.sent.drop n } h.up hfaithful
      hnext h.up.eof rfl ?_
    simp
  · exact h.written.of_not_writes rfl (keeps_of_next hnext) rfl rfl id h.written.writing
  · exact htaken.of_eq rfl rfl rfl rfl rfl id

/-! ## The client -/

/-- A step of the client that takes nothing from the streams. -/
theorem Streams.of_client (h : s.Streams server requests codec) {c : IpcCaller}
    (hpending : c.pending = s.client.pending) (hrequests : c.requests = s.client.requests)
    (hbuffer : c.buffer = s.client.buffer) (heof : c.eof = s.client.eof)
    (htaken_eq : c.taken = s.client.taken)
    (hwaiting : ∀ e, c.phase.waiting? = some e → s.client.phase.waiting? = some e) :
    Streams server requests codec { s with client := c } := by
  obtain ⟨taken, htaken⟩ := h.down
  refine ⟨⟨h.up.paired, h.up.eof, ?_⟩, h.written.of_eq rfl rfl rfl,
    ⟨taken, htaken.frames, ?_, ?_⟩, ?_⟩
  · rw [hpending, hrequests]
    exact h.up.stream
  · rw [htaken_eq]
    exact htaken.taken_eq
  · unfold Reading Finished
    rw [hbuffer, heof]
    exact htaken.stream
  · intro e he
    rw [hrequests]
    exact h.waiting e (hwaiting e he)

/-- The client writes some of its buffer. -/
theorem Streams.flush (h : s.Streams server requests codec) (n : ℕ) :
    Streams server requests codec { s with
      client := { s.client with pending := s.client.pending.drop n }
      sent := s.sent ++ s.client.pending.take n } := by
  obtain ⟨taken, htaken⟩ := h.down
  refine ⟨⟨h.up.paired, h.up.eof, ?_⟩, h.written.of_eq rfl rfl rfl, ⟨taken, ?_⟩, h.waiting⟩
  · rw [← h.up.stream]
    simp
  · exact ⟨htaken.frames, htaken.taken_eq, htaken.stream⟩

/-- Bytes of the server arrive at the client. -/
theorem Streams.deliver (h : s.Streams server requests codec) (n : ℕ) :
    Streams server requests codec { s with
      client := { s.client with buffer := s.client.buffer ++ s.wire.take n }
      wire := s.wire.drop n } := by
  obtain ⟨taken, htaken⟩ := h.down
  refine ⟨⟨h.up.paired, h.up.eof, h.up.stream⟩, h.written.of_eq rfl rfl rfl,
    ⟨taken, htaken.frames, htaken.taken_eq, ?_⟩, h.waiting⟩
  rcases htaken.stream with ⟨hpre, hstream, hend⟩ | ⟨heof, hbuffer, hwire, hended⟩
  · refine .inl ⟨hpre, ?_, fun heof => ⟨?_, (hend heof).2⟩⟩
    · rw [← hstream]
      simp
    · change s.wire.drop n = []
      rw [(hend heof).1, List.drop_nil]
  · refine .inr ⟨heof, ?_, ?_, hended⟩
    · change s.client.buffer ++ s.wire.take n = []
      rw [hbuffer, hwire, List.take_nil, List.append_nil]
    · change s.wire.drop n = []
      rw [hwire, List.drop_nil]

/-- The end of the stream arrives at the client. -/
theorem Streams.deliverEnd (h : s.Streams server requests codec) (hwire : s.wire = [])
    (hended : live s.server.handler = false) :
    Streams server requests codec { s with client := { s.client with eof := true } } := by
  obtain ⟨taken, htaken⟩ := h.down
  refine ⟨⟨h.up.paired, h.up.eof, h.up.stream⟩, h.written.of_eq rfl rfl rfl,
    ⟨taken, htaken.frames, htaken.taken_eq, ?_⟩, h.waiting⟩
  rcases htaken.stream with ⟨hpre, hstream, -⟩ | ⟨-, hbuffer, hwire, hended⟩
  · exact .inl ⟨hpre, hstream, fun _ => ⟨hwire, hended⟩⟩
  · exact .inr ⟨rfl, hbuffer, hwire, hended⟩

/-- The client puts a request in its buffer. -/
theorem Streams.feed (h : s.Streams server requests codec) (e : RequestEnvelope) :
    Streams server requests codec { s with
      client := { s.client with
        phase := .flushing e
        pending := s.client.pending ++ (codec.request e ++ [newline])
        requests := s.client.requests ++ [e] } } := by
  obtain ⟨taken, htaken⟩ := h.down
  refine ⟨⟨h.up.paired, h.up.eof, ?_⟩, h.written.of_eq rfl rfl rfl, ⟨taken, ?_⟩, ?_⟩
  · rw [List.map_append, List.map_singleton, unlines_concat, ← h.up.stream]
    simp
  · exact ⟨htaken.frames, htaken.taken_eq, htaken.stream⟩
  · intro e' he'
    cases he'
    exact ⟨s.client.requests, rfl⟩

/-! ## The frames that the client reads -/

/-- What a client is, once it has read a frame. -/
structure Received (frame : ServerEnvelope) (rest : List UInt8) (c c' : IpcCaller) : Prop where
  buffer : c'.buffer = rest
  pending : c'.pending = c.pending
  requests : c'.requests = c.requests
  eof : c'.eof = c.eof
  taken_eq : c'.taken = c.taken ++ [frame.incoming]
  /-- An update is returned by `recv_update`. -/
  updates : c'.updates = c.updates ++
    if c.phase = .updating then (recvUpdate frame.incoming).toOption.join.toList else []
  phase : c'.phase = .idle ∨ c'.phase = .gone
  started : c'.started = c.started
  next_request_id : c'.next_request_id = c.next_request_id
  /-- The call that waited for it returns. -/
  log : (∃ e, c.phase = .awaiting e ∧
      c'.log = c.log ++ [⟨e, requestResult e.request_id frame, c.stale⟩]) ∨
    (∀ e, c.phase ≠ .awaiting e) ∧ c'.log = c.log

/-- A frame of a server of the same version has no update of an unknown type. -/
theorem recvUpdate_incoming_ne_none (frame : ServerEnvelope) :
    recvUpdate frame.incoming ≠ .ok none := by
  cases frame with
  | hello protocol | response envelope =>
    intro h
    cases h
  | event version update =>
    simp only [ServerEnvelope.incoming, recvUpdate, validateIncomingServerEnvelope,
      ensureIpcVersion]
    split <;> (intro h; cases h)

/-- A frame that was read whole. -/
theorem received_of_readLine {c : IpcCaller} {frame : ServerEnvelope} (rest : List UInt8)
    (hcomes : FrameComes codec frame) (hreads : IpcCaller.CallerAt.reads c.phase = true) :
    Received frame rest c (c.readLine codec (codec.frame frame) rest) := by
  unfold IpcCaller.readLine
  rw [withoutCarriageReturn_of_not_mem hcomes.plain.2]
  cases hphase : c.phase with
  | updating =>
    dsimp only
    rw [hcomes.decode]
    simp only [IpcCaller.receiveIncoming]
    have hlog : (∀ e, c.phase ≠ .awaiting e) := by simp [hphase]
    split
    · next event hupdate =>
      refine ⟨rfl, rfl, rfl, rfl, rfl, ?_, .inl rfl, rfl, rfl, .inr ⟨hlog, rfl⟩⟩
      rw [if_pos hphase, hupdate]
      rfl
    · next hupdate => exact absurd hupdate (recvUpdate_incoming_ne_none frame)
    · next error hupdate =>
      refine ⟨rfl, rfl, rfl, rfl, rfl, ?_, .inl rfl, rfl, rfl, .inr ⟨hlog, rfl⟩⟩
      rw [if_pos hphase, hupdate]
      exact (List.append_nil _).symm
  | greeting =>
    dsimp only
    rw [hcomes.parse]
    simp only [IpcCaller.receive]
    have hlog : (∀ e, c.phase ≠ .awaiting e) := by simp [hphase]
    split
    · exact ⟨rfl, rfl, rfl, rfl, rfl, by simp [hphase], .inl rfl, rfl, rfl, .inr ⟨hlog, rfl⟩⟩
    · exact ⟨rfl, rfl, rfl, rfl, rfl, by simp [hphase], .inr rfl, rfl, rfl, .inr ⟨hlog, rfl⟩⟩
  | awaiting e =>
    dsimp only
    rw [hcomes.parse]
    simp only [IpcCaller.receive]
    exact ⟨rfl, rfl, rfl, rfl, rfl, by simp [hphase], .inl rfl, rfl, rfl, .inl ⟨e, hphase, rfl⟩⟩
  | _ =>
    rw [hphase] at hreads
    cases hreads

/-- The frames that the client has taken, with one more. -/
theorem Taken.concat {c : IpcCaller} {frame : ServerEnvelope} {rest : List UInt8}
    (h : s.Taken codec taken) (hreceived : Received frame rest s.client c)
    (hpre : taken ++ [frame] <+: s.frames)
    (hstream : Reading codec { s with client := c } (taken ++ [frame]) ∨
      Finished { s with client := c }) :
    Taken codec { s with client := c } (taken ++ [frame]) := by
  refine ⟨hpre, ?_, hstream⟩
  change c.taken = _
  rw [hreceived.taken_eq, h.taken_eq, List.map_append, List.map_singleton]

/-- The client has received a frame. -/
theorem Streams.received (h : s.Streams server requests codec) {c : IpcCaller}
    {frame : ServerEnvelope} {rest : List UInt8} (hreceived : Received frame rest s.client c)
    (htaken : Taken codec { s with client := c } taken) :
    Streams server requests codec { s with client := c } := by
  refine ⟨⟨h.up.paired, h.up.eof, ?_⟩, h.written.of_eq rfl rfl rfl, ⟨taken, htaken⟩, ?_⟩
  · rw [hreceived.pending, hreceived.requests]
    exact h.up.stream
  · intro e he
    rcases hreceived.phase with hphase | hphase <;> rw [hphase] at he <;> cases he

/-- A frame has no newline in it. -/
theorem Faithful.plain_frames (h : s.Faithful requests codec) {frames : List ServerEnvelope}
    (hframes : frames ⊆ s.frames) :
    ∀ line ∈ frames.map codec.frame, newline ∉ line := by
  intro line hline
  obtain ⟨frame, hframe, rfl⟩ := List.mem_map.1 hline
  exact (h.frames frame (hframes hframe)).plain.1

/-- The frames that were written are among those that were begun. -/
theorem Written.output_prefix (h : s.Written server requests codec) :
    s.server.output <+: s.frames := by
  rcases h.frames with ⟨-, hall⟩ | ⟨-, frame, hcut, -⟩
  · exact ⟨[], by rw [List.append_nil, hall]⟩
  · rw [hcut]
    exact List.prefix_append _ _

/-- What was written of a frame that was cut has no newline in it. -/
theorem Written.plain_rest (h : s.Written server requests codec)
    (hfaithful : s.Faithful requests codec) : newline ∉ s.rest := by
  rcases h.frames with ⟨hrest, -⟩ | ⟨-, frame, hcut, hpart⟩
  · rw [hrest]
    exact List.not_mem_nil
  · intro hmem
    have hframe : frame ∈ s.frames := by
      rw [hcut]
      exact List.mem_append_right _ (List.mem_singleton.2 rfl)
    exact (hfaithful.frames frame hframe).plain.1 (hpart.subset hmem)

/-- The line that the client reads next is the next frame. -/
theorem Streams.next_frame (h : s.Streams server requests codec)
    (hfaithful : s.Faithful requests codec) (htaken : s.Taken codec taken) {line rest : List UInt8}
    (hline : takeLine newline s.client.buffer = some (line, rest)) :
    ∃ frame, frame ∈ s.frames ∧ line = codec.frame frame ∧ taken ++ [frame] <+: s.frames ∧
      ∀ c, Received frame rest s.client c →
        Taken codec { s with client := c } (taken ++ [frame]) := by
  obtain ⟨hbuffer, hplain⟩ := takeLine_eq_some_iff.1 hline
  have houtput := h.written.output_prefix
  rcases htaken.stream with ⟨hpre, hstream, hend⟩ | ⟨-, hempty, -⟩
  · have hsplit : unlines newline (taken.map codec.frame) ++ (line ++ newline :: (rest ++ s.wire)) =
        unlines newline (s.server.output.map codec.frame) ++ s.rest := by
      rw [← hstream, hbuffer]
      simp
    have hnext : taken.map codec.frame ++ [line] <+: s.server.output.map codec.frame :=
      concat_prefix_of_unlines (hfaithful.plain_frames htaken.frames.subset)
        (hfaithful.plain_frames houtput.subset) hplain (h.written.plain_rest hfaithful) hsplit
    -- The frame behind those that were taken has this line.
    obtain ⟨more, hmore⟩ := hpre
    rw [← hmore, List.map_append, List.prefix_append_right_inj] at hnext
    cases more with
    | nil => simp at hnext
    | cons frame more =>
      obtain ⟨rfl, -⟩ := List.cons_prefix_cons.1 hnext
      have hpre' : taken ++ [frame] <+: s.server.output := ⟨more, by rw [← hmore]; simp⟩
      refine ⟨frame, houtput.subset (hpre'.subset (by simp)), rfl, hpre'.trans houtput, ?_⟩
      intro c hreceived
      refine htaken.concat hreceived (hpre'.trans houtput) (.inl ⟨hpre', ?_, ?_⟩)
      · change _ ++ c.buffer ++ s.wire = _
        rw [hreceived.buffer, ← hstream, hbuffer, List.map_append, List.map_singleton,
          unlines_concat]
        simp
      · intro heof
        exact hend (hreceived.eof ▸ heof)
  · rw [hempty] at hbuffer
    simp at hbuffer

/-- A line is read. -/
theorem Streams.read (h : s.Streams server requests codec) (hfaithful : s.Faithful requests codec)
    (hreads : IpcCaller.CallerAt.reads s.client.phase = true) {line rest : List UInt8}
    (hline : takeLine newline s.client.buffer = some (line, rest)) :
    Streams server requests codec { s with client := s.client.readLine codec line rest } := by
  obtain ⟨taken, htaken⟩ := h.down
  obtain ⟨frame, hmem, rfl, -, hconcat⟩ := h.next_frame hfaithful htaken hline
  have hreceived := received_of_readLine rest (hfaithful.frames frame hmem) hreads
  exact h.received hreceived (hconcat _ hreceived)

/-- What a client is, once what it awaited has failed. -/
structure Failed (error : CallError) (c c' : IpcCaller) : Prop where
  buffer : c'.buffer = c.buffer
  pending : c'.pending = c.pending
  requests : c'.requests = c.requests
  eof : c'.eof = c.eof
  taken_eq : c'.taken = c.taken
  updates : c'.updates = c.updates
  /-- Without a greeting there is no client. -/
  phase : c'.phase = .gone ∨ (c'.phase = .idle ∧ c.phase ≠ .greeting)
  started : c'.started = c.started
  next_request_id : c'.next_request_id = c.next_request_id
  log : c'.log = c.log ∨ ∃ e stale, c'.log = c.log ++ [⟨e, .error error, stale⟩]

/-- A client fails. -/
theorem failed_fail (c : IpcCaller) (error : CallError) : Failed error c (c.fail error) := by
  unfold IpcCaller.fail IpcCaller.returns
  split
  · exact ⟨rfl, rfl, rfl, rfl, rfl, rfl, .inl rfl, rfl, rfl, .inl rfl⟩
  · next e hphase =>
    exact ⟨rfl, rfl, rfl, rfl, rfl, rfl, .inr ⟨rfl, by simp [hphase]⟩, rfl, rfl, .inr ⟨e, _, rfl⟩⟩
  · next e hphase =>
    exact ⟨rfl, rfl, rfl, rfl, rfl, rfl, .inr ⟨rfl, by simp [hphase]⟩, rfl, rfl, .inr ⟨e, _, rfl⟩⟩
  · next e hphase =>
    exact ⟨rfl, rfl, rfl, rfl, rfl, rfl, .inr ⟨rfl, by simp [hphase]⟩, rfl, rfl, .inr ⟨e, _, rfl⟩⟩
  · next hphase =>
    exact ⟨rfl, rfl, rfl, rfl, rfl, rfl, .inr ⟨rfl, by simp [hphase]⟩, rfl, rfl, .inl rfl⟩
  · next hphase =>
    exact ⟨rfl, rfl, rfl, rfl, rfl, rfl, .inr ⟨hphase, by simp [hphase]⟩, rfl, rfl, .inl rfl⟩
  · next hphase => exact ⟨rfl, rfl, rfl, rfl, rfl, rfl, .inl hphase, rfl, rfl, .inl rfl⟩

/-- What the client awaits fails. -/
theorem Streams.fail (h : s.Streams server requests codec) (error : CallError) :
    Streams server requests codec { s with client := s.client.fail error } := by
  have hfailed := failed_fail s.client error
  refine h.of_client hfailed.pending hfailed.requests hfailed.buffer hfailed.eof hfailed.taken_eq ?_
  intro e he
  rcases hfailed.phase with hphase | ⟨hphase, -⟩ <;> rw [hphase] at he <;> cases he

/-- What is left behind the last newline, when the stream has ended, is a frame or a part of one. -/
theorem Streams.last_frame (h : s.Streams server requests codec)
    (hfaithful : s.Faithful requests codec) (htaken : s.Taken codec taken)
    (heof : s.client.eof = true) (hline : takeLine newline s.client.buffer = none)
    (hbuffer : s.client.buffer ≠ []) :
    ∃ frame, frame ∈ s.frames ∧ s.client.buffer <+: codec.frame frame ∧
      s.frames = taken ++ [frame] ∧ s.wire = [] ∧ live s.server.handler = false := by
  rcases htaken.stream with ⟨hpre, hstream, hend⟩ | ⟨-, hempty, -⟩
  · obtain ⟨hwire, hended⟩ := hend heof
    have houtput := h.written.output_prefix
    rw [hwire, List.append_nil] at hstream
    obtain ⟨hmap, hrest⟩ := eq_of_unlines_append (hfaithful.plain_frames htaken.frames.subset)
      (hfaithful.plain_frames houtput.subset) (takeLine_eq_none_iff.1 hline)
      (h.written.plain_rest hfaithful) hstream
    have hall : taken = s.server.output := by
      have hlen := congrArg List.length hmap
      rw [List.length_map, List.length_map] at hlen
      exact hpre.eq_of_length hlen
    rcases h.written.frames with ⟨hnil, -⟩ | ⟨-, frame, hcut, hpart⟩
    · rw [hnil] at hrest
      exact absurd hrest hbuffer
    · refine ⟨frame, ?_, ?_, ?_, hwire, hended⟩
      · rw [hcut]
        simp
      · rw [hrest]
        exact hpart
      · rw [hcut, hall]
  · exact absurd hempty hbuffer

/-- A part of a frame is no message. -/
theorem readLine_part {c : IpcCaller} {frame : ServerEnvelope} (hcomes : FrameComes codec frame)
    {part : List UInt8} (hpart : part <+: codec.frame frame) (hne : part ≠ codec.frame frame) :
    c.readLine codec part [] = { c with buffer := [] }.fail .invalidLine := by
  obtain ⟨hparse, hdecode⟩ := hcomes.part part hpart hne
  have hplain : 13 ∉ part := fun hmem => hcomes.plain.2 (hpart.subset hmem)
  unfold IpcCaller.readLine
  rw [withoutCarriageReturn_of_not_mem hplain]
  dsimp only
  rw [hparse, hdecode]
  split <;> rfl

/-- The rest of the stream is read as a line. -/
theorem Streams.readRest (h : s.Streams server requests codec)
    (hfaithful : s.Faithful requests codec)
    (hreads : IpcCaller.CallerAt.reads s.client.phase = true) (heof : s.client.eof = true)
    (hline : takeLine newline s.client.buffer = none) (hbuffer : s.client.buffer ≠ []) :
    Streams server requests codec
      { s with client := s.client.readLine codec s.client.buffer [] } := by
  obtain ⟨taken, htaken⟩ := h.down
  obtain ⟨frame, hmem, hpart, hframes, hwire, hended⟩ :=
    h.last_frame hfaithful htaken heof hline hbuffer
  have hcomes := hfaithful.frames frame hmem
  by_cases hwhole : s.client.buffer = codec.frame frame
  · have hreceived := received_of_readLine [] hcomes hreads
    rw [← hwhole] at hreceived
    refine h.received hreceived (htaken.concat hreceived ?_ (.inr ⟨?_, ?_, hwire, hended⟩))
    · exact ⟨[], by rw [List.append_nil, hframes]⟩
    · exact hreceived.eof.trans heof
    · exact hreceived.buffer
  · rw [readLine_part hcomes hpart hwhole]
    have hempty : Streams server requests codec
        { s with client := { s.client with buffer := [] } } :=
      ⟨⟨h.up.paired, h.up.eof, h.up.stream⟩, h.written.of_eq rfl rfl rfl,
        ⟨taken, htaken.frames, htaken.taken_eq, .inr ⟨heof, rfl, hwire, hended⟩⟩,
        h.waiting⟩
    exact hempty.fail .invalidLine

/-! ## Runs -/

/-- What a step of the client does. -/
inductive CallerStep (codec : EnvelopeCodec Value') (c : IpcCaller) :
    IpcCaller.Action → IpcCaller → Prop
  | call {request : ServiceRequest} : c.phase = .idle →
    CallerStep codec c (.call request) { c with
      phase := .feeding ⟨ipcVersion, c.next_request_id, request⟩
      next_request_id := c.next_request_id + 1
      started := c.started + 1 }
  | feed {e : RequestEnvelope} : c.phase = .feeding e →
    CallerStep codec c .feed { c with
      phase := .flushing e
      pending := c.pending ++ (codec.request e ++ [newline])
      requests := c.requests ++ [e] }
  | flushed {e : RequestEnvelope} : c.phase = .flushing e →
    CallerStep codec c .flushed { c with phase := .awaiting e }
  | update : c.phase = .idle → CallerStep codec c .update { c with phase := .updating }
  | read {line rest : List UInt8} : takeLine newline c.buffer = some (line, rest) →
    IpcCaller.CallerAt.reads c.phase = true →
    CallerStep codec c .read (c.readLine codec line rest)
  | readRest : takeLine newline c.buffer = none → IpcCaller.CallerAt.reads c.phase = true →
    c.eof = true → c.buffer ≠ [] → CallerStep codec c .readEnd (c.readLine codec c.buffer [])
  /-- An operation of the socket fails, or the stream has ended. -/
  | fails {a : IpcCaller.Action} {text : String} : a.abandons = true →
    CallerStep codec c a (c.fail (.ioError text))
  /-- The future is dropped, or the client. -/
  | drops {a : IpcCaller.Action} {phase : CallerAt} :
    (phase = .idle ∧ c.phase ≠ .greeting ∧ a.abandons = true) ∨ phase = .gone →
    CallerStep codec c a { c with phase := phase }

/-- Every step of the client is one of these. -/
theorem callerStep_of_next {c c' : IpcCaller} {a : IpcCaller.Action}
    (h : c.next codec a = some c') : CallerStep codec c a c' := by
  cases a with
  | call request =>
    simp only [IpcCaller.next] at h
    split at h
    · next hphase =>
      cases h
      exact .call hphase
    · cases h
  | feed =>
    simp only [IpcCaller.next] at h
    split at h
    · next e hphase =>
      split at h
      · cases h
        exact .feed hphase
      · cases h
    · cases h
  | flushed =>
    simp only [IpcCaller.next] at h
    split at h
    · next e hphase =>
      split at h
      · cases h
        exact .flushed hphase
      · cases h
    · cases h
  | update =>
    simp only [IpcCaller.next] at h
    split at h
    · next hphase =>
      cases h
      exact .update hphase
    · cases h
  | read =>
    simp only [IpcCaller.next] at h
    split at h
    · next line rest hline =>
      split at h
      · next hreads =>
        cases h
        exact .read hline hreads
      · cases h
    · cases h
  | readEnd =>
    simp only [IpcCaller.next] at h
    split at h
    · cases h
    · next hline =>
      split at h
      · next hend =>
        split at h
        · cases h
          exact .fails rfl
        · next hbuffer =>
          cases h
          exact .readRest hline hend.1 hend.2 fun hnil => hbuffer (.inl hnil)
      · cases h
  | fails text =>
    simp only [IpcCaller.next] at h
    split at h
    · cases h
    · cases h
    · cases h
      exact .fails rfl
  | cancel =>
    simp only [IpcCaller.next] at h
    split at h
    · cases h
      exact .drops (.inr rfl)
    · cases h
    · cases h
    · next hgreeting _ _ =>
      cases h
      exact .drops (.inl ⟨rfl, hgreeting, rfl⟩)
  | hangUp =>
    cases h
    exact .drops (.inr rfl)

/-- A step of the client. -/
theorem Streams.client (h : s.Streams server requests codec) (hfaithful : s.Faithful requests codec)
    {a : IpcCaller.Action} {c : IpcCaller} (hnext : s.client.next codec a = some c) :
    Streams server requests codec { s with client := c } := by
  cases callerStep_of_next hnext with
  | call hphase =>
    refine h.of_client rfl rfl rfl rfl rfl fun e he => ?_
    cases he
  | feed hphase => exact h.feed _
  | flushed hphase =>
    refine h.of_client rfl rfl rfl rfl rfl fun e he => ?_
    rw [hphase]
    exact he
  | update hphase =>
    refine h.of_client rfl rfl rfl rfl rfl fun e he => ?_
    cases he
  | read hline hreads => exact h.read hfaithful hreads hline
  | readRest hline hreads heof hbuffer => exact h.readRest hfaithful hreads heof hline hbuffer
  | fails _ => exact h.fail _
  | drops hphase =>
    refine h.of_client rfl rfl rfl rfl rfl fun e he => ?_
    rcases hphase with ⟨rfl, -⟩ | rfl <;> cases he

/-- A read takes no requests back. -/
theorem readLine_requests (c : IpcCaller) (line rest : List UInt8) :
    (c.readLine codec line rest).requests = c.requests := by
  unfold IpcCaller.readLine
  dsimp only
  split
  · split
    · unfold IpcCaller.receiveIncoming
      dsimp only
      split <;> rfl
    · rw [(failed_fail _ _).requests]
  · split
    · unfold IpcCaller.receive
      dsimp only
      split
      · split <;> rfl
      · rfl
      · rfl
    · rw [(failed_fail _ _).requests]

/-- Requests and frames are only added, and what was returned to the requests. -/
theorem grows_of_next {a : Action} (h : s.next server requests codec a = some s') :
    s.client.requests <+: s'.client.requests ∧ s.frames <+: s'.frames ∧
      Keeps s.server s'.server := by
  have hkeeps : Keeps s.server s.server := ⟨List.prefix_refl _, List.prefix_refl _⟩
  cases a with
  | serve a part =>
    obtain ⟨-, server', hserver, ⟨-, rfl⟩ | ⟨frame, -, ⟨-, rfl⟩ | ⟨-, -, rfl⟩⟩⟩ := serve_cases h
    · exact ⟨List.prefix_refl _, List.prefix_refl _, keeps_of_next hserver⟩
    · exact ⟨List.prefix_refl _, List.prefix_append _ _, keeps_of_next hserver⟩
    · exact ⟨List.prefix_refl _, List.prefix_append _ _, keeps_of_next hserver⟩
  | client a =>
    obtain ⟨c, hc, rfl⟩ := Option.map_eq_some_iff.1 h
    refine ⟨?_, List.prefix_refl _, hkeeps⟩
    cases callerStep_of_next hc with
    | feed _ => exact List.prefix_append _ _
    | read _ _ | readRest _ _ _ _ =>
      change _ <+: (IpcCaller.readLine _ _ _ _).requests
      exact ⟨[], by rw [List.append_nil, readLine_requests]⟩
    | fails _ =>
      change _ <+: (IpcCaller.fail _ _).requests
      exact ⟨[], by rw [List.append_nil, (failed_fail _ _).requests]⟩
    | call _ | flushed _ | update _ | drops _ => exact List.prefix_refl _
  | flush n =>
    simp only [IpcSession.next] at h
    split_ifs at h
    cases h
    exact ⟨List.prefix_refl _, List.prefix_refl _, hkeeps⟩
  | carry n =>
    obtain ⟨server', hserver, rfl⟩ := Option.map_eq_some_iff.1 h
    exact ⟨List.prefix_refl _, List.prefix_refl _, keeps_of_next hserver⟩
  | deliver n =>
    cases h
    exact ⟨List.prefix_refl _, List.prefix_refl _, hkeeps⟩
  | deliverEnd =>
    simp only [IpcSession.next] at h
    split_ifs at h
    cases h
    exact ⟨List.prefix_refl _, List.prefix_refl _, hkeeps⟩

/-- The messages of a connection have come through before a step if they have behind it. -/
theorem Faithful.of_next {a : Action} (h : s.next server requests codec a = some s')
    (hfaithful : s'.Faithful requests codec) : s.Faithful requests codec := by
  obtain ⟨hrequests, hframes, -⟩ := grows_of_next h
  exact ⟨fun e he => hfaithful.requests e (hrequests.subset he),
    fun frame hframe => hfaithful.frames frame (hframes.subset hframe)⟩

/-- While the client is there, every step keeps the streams. -/
theorem Streams.next {a : Action} (h : s.Streams server requests codec)
    (hfaithful : s.Faithful requests codec) (hphase : s.client.phase ≠ .gone)
    (hnext : s.next server requests codec a = some s') : s'.Streams server requests codec := by
  cases a with
  | serve a part => exact h.serve hfaithful hphase hnext
  | client a =>
    obtain ⟨c, hc, rfl⟩ := Option.map_eq_some_iff.1 hnext
    exact h.client hfaithful hc
  | flush n =>
    simp only [IpcSession.next] at hnext
    split_ifs at hnext
    cases hnext
    exact h.flush n
  | carry n =>
    obtain ⟨server', hserver, rfl⟩ := Option.map_eq_some_iff.1 hnext
    exact h.carry hfaithful hserver
  | deliver n =>
    cases hnext
    exact h.deliver n
  | deliverEnd =>
    simp only [IpcSession.next] at hnext
    split_ifs at hnext with hend
    cases hnext
    exact h.deliverEnd hend.1 hend.2

/-- The streams of a connection that was just accepted. -/
theorem streams_accepted : accepted.Streams server requests codec := by
  refine ⟨⟨IpcClient.paired_accepted, rfl, rfl⟩, ⟨.inl ⟨rfl, rfl⟩, .inl rfl,
    ⟨[], [], List.nil_prefix, List.nil_prefix, .nil⟩,
    ?_, ?_, ?_⟩, ⟨[], List.prefix_refl _, rfl, .inl ⟨List.prefix_refl _, rfl, ?_⟩⟩, ?_⟩
  · intro before frame after hframes
    simp [accepted] at hframes
  · intro frame hframe
    cases hframe
  · intro frame hframe
    cases hframe
    rfl
  · intro heof
    cases heof
  · intro e he
    cases he

/-- The client is as it was, apart from its buffers. -/
structure Still (c c' : IpcCaller) : Prop where
  phase : c'.phase = c.phase
  next_request_id : c'.next_request_id = c.next_request_id
  started : c'.started = c.started
  requests : c'.requests = c.requests
  taken_eq : c'.taken = c.taken
  log : c'.log = c.log
  updates : c'.updates = c.updates

/-- The steps that are not the client's leave it as it was. -/
theorem still_of_next {a : Action} (hnext : s.next server requests codec a = some s')
    (ha : ∀ b, a ≠ .client b) : Still s.client s'.client := by
  cases a with
  | serve a part =>
    obtain ⟨-, server', -, ⟨-, rfl⟩ | ⟨frame, -, ⟨-, rfl⟩ | ⟨-, -, rfl⟩⟩⟩ := serve_cases hnext <;>
      exact ⟨rfl, rfl, rfl, rfl, rfl, rfl, rfl⟩
  | client a => exact absurd rfl (ha a)
  | flush n =>
    simp only [IpcSession.next] at hnext
    split_ifs at hnext
    cases hnext
    exact ⟨rfl, rfl, rfl, rfl, rfl, rfl, rfl⟩
  | carry n =>
    obtain ⟨server', -, rfl⟩ := Option.map_eq_some_iff.1 hnext
    exact ⟨rfl, rfl, rfl, rfl, rfl, rfl, rfl⟩
  | deliver n =>
    cases hnext
    exact ⟨rfl, rfl, rfl, rfl, rfl, rfl, rfl⟩
  | deliverEnd =>
    simp only [IpcSession.next] at hnext
    split_ifs at hnext
    cases hnext
    exact ⟨rfl, rfl, rfl, rfl, rfl, rfl, rfl⟩

/-- A client that is gone does nothing more. -/
theorem still_of_gone {a : Action} (hnext : s.next server requests codec a = some s')
    (hgone : s.client.phase = .gone) : Still s.client s'.client := by
  by_cases hclient : ∃ b, a = .client b
  · obtain ⟨b, rfl⟩ := hclient
    obtain ⟨c, hc, rfl⟩ := Option.map_eq_some_iff.1 hnext
    cases b <;> simp only [IpcCaller.next, hgone] at hc <;> try cases hc
    · split at hc <;> cases hc
    · split at hc
      · cases hc
      · simp [IpcCaller.CallerAt.reads] at hc
    · exact ⟨hgone.symm, rfl, rfl, rfl, rfl, rfl, rfl⟩
  · exact still_of_next hnext fun b hb => hclient ⟨b, hb⟩

end

end IpcSession

end PlayitAgent
