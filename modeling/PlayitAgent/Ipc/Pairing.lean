import PlayitAgent.Ipc.Server

/-!
# One response for each request

Along every run of a connection, the frames that the server writes are a `Hello`, then the responses
to the requests in the order in which the client has sent them, and between them events, which come
only behind a `Subscribe` response. How the bytes of the client are cut into chunks does not matter,
nor when events arrive. A request that is rejected is answered by an `Error`, and nothing else comes
of it.
-/

namespace PlayitAgent

namespace IpcClient

variable {Value : Type} (server : IpcServer) (codec : RequestCodec Value)

/-! ## What the frames say -/

/-- The responses that were written. -/
def responses (output : List ServerEnvelope) : List ResponseEnvelope :=
  output.filterMap ServerEnvelope.response?

/-- A response is one to the request in a line: the error of the validation, or what comes of the
request for the results that the runtime has returned to it. -/
def Answers (line : List UInt8) (result : Option RuntimeResults) (r : ResponseEnvelope) : Prop :=
  ∃ envelope, readJson codec line = some envelope ∧ r.ipc_version = ipcVersion ∧
    r.request_id = envelope.request_id ∧
    ((∃ response, validateRequestEnvelope envelope = .error response ∧ result = none ∧
        r.response = response) ∨
      ∃ request results, validateRequestEnvelope envelope = .ok request ∧ result = some results ∧
        r.response = (server.handleServiceRequest results request).response)

/-- The responses to lines, one for each, in their order. -/
inductive Answered : List (List UInt8) → List (Option RuntimeResults) → List ResponseEnvelope → Prop
  | nil : Answered [] [] []
  | concat {lines : List (List UInt8)} {returned : List (Option RuntimeResults)}
    {rs : List ResponseEnvelope} {line : List UInt8} {result : Option RuntimeResults}
    {r : ResponseEnvelope} : Answered lines returned rs → Answers server codec line result r →
    Answered (lines ++ [line]) (returned ++ [result]) (rs ++ [r])

/-- The responses are those to the first lines. -/
def AnsweredFirst (s : IpcClient) (rs : List ResponseEnvelope) : Prop :=
  ∃ lines returned, lines <+: s.lines ∧ returned <+: s.returned ∧
    Answered server codec lines returned rs

/-- The first frame is the `Hello`, and it is the only one. -/
def Greets (output : List ServerEnvelope) : Prop :=
  ∃ rest, output = .hello protocolInfo :: rest ∧ ∀ frame ∈ rest, frame.isHello = false

/-- The client was told of its subscription. -/
def Told (output : List ServerEnvelope) : Prop :=
  ∃ r ∈ responses output, r.response.isSubscribe = true

/-- Events come only behind a `Subscribe` response. -/
def EventsAfterSubscribe (output : List ServerEnvelope) : Prop :=
  ∀ before frame after, output = before ++ frame :: after → frame.isEvent = true → Told before

/-- The operations of the runtime that the request in a line leads to. -/
def operations (line : List UInt8) : List RuntimeOperation :=
  match readJson codec line with
  | none => []
  | some envelope =>
    match validateRequestEnvelope envelope with
    | .error _ => []
    | .ok request => request.operation.toList

/-- The lines of the client are these frames: what has arrived is the beginning of their text, and
all of it when the client has closed its end. -/
def Sent (frames : List (List UInt8)) (s : IpcClient) : Prop :=
  s.arrived <+: unlines newline frames ∧ (s.eof = true → s.arrived = unlines newline frames)

/-! ## The invariant -/

/-- What holds where the handler is. -/
def Phase (s : IpcClient) : HandlerAt → Prop
  | .greeting => s.output = [] ∧ s.lines = [] ∧ s.returned = [] ∧ s.subscribed = false
  | .selecting =>
    Greets s.output ∧ Answered server codec s.lines s.returned (responses s.output) ∧
      (s.subscribed = true → Told s.output)
  -- The request in the last line is not answered yet.
  | .handling request_id request =>
    Greets s.output ∧ (s.subscribed = true → Told s.output) ∧
      ∃ before line envelope, s.lines = before ++ [line] ∧
        Answered server codec before s.returned (responses s.output) ∧
        readJson codec line = some envelope ∧ envelope.request_id = request_id ∧
        validateRequestEnvelope envelope = .ok request
  | .writing (.response r) =>
    Greets s.output ∧ (s.subscribed = true → Told s.output ∨ r.response.isSubscribe = true) ∧
      ∃ before line returned result, s.lines = before ++ [line] ∧
        s.returned = returned ++ [result] ∧
        Answered server codec before returned (responses s.output) ∧
        Answers server codec line result r
  | .writing (.event _ _) =>
    Greets s.output ∧ Answered server codec s.lines s.returned (responses s.output) ∧
      Told s.output
  | .writing (.hello _) => False
  | .ended _ | .dropped =>
    (s.output = [] ∨ Greets s.output) ∧ AnsweredFirst server codec s (responses s.output)

/-- The lines, the responses and the operations that belong together. -/
structure Paired (s : IpcClient) : Prop where
  /-- The lines that were read and the buffer make up what has arrived. -/
  stream : s.arrived = unlines newline s.lines ++ s.buffer
  plain : ∀ line ∈ s.lines, newline ∉ line
  calls : s.calls = s.lines.flatMap (operations codec)
  events : EventsAfterSubscribe s.output
  phase : Phase server codec s s.handler

variable {server codec} {s s' : IpcClient} {a : Action}

/-- There is one response for each line. -/
theorem Answered.length_eq {lines : List (List UInt8)} {returned : List (Option RuntimeResults)}
    {rs : List ResponseEnvelope} (h : Answered server codec lines returned rs) :
    lines.length = rs.length ∧ returned.length = rs.length := by
  induction h with
  | nil => exact ⟨rfl, rfl⟩
  | concat _ _ ih => simp [ih.1, ih.2]

/-- A response is that to the line in its place. -/
theorem Answered.get {lines : List (List UInt8)} {returned : List (Option RuntimeResults)}
    {rs : List ResponseEnvelope} (h : Answered server codec lines returned rs) {i : ℕ}
    {r : ResponseEnvelope} (hr : rs[i]? = some r) :
    ∃ line result, lines[i]? = some line ∧ returned[i]? = some result ∧
      Answers server codec line result r := by
  induction h with
  | nil => cases hr
  | @concat lines returned rs line result r' hanswered hanswers ih =>
    obtain ⟨hlines, hreturned⟩ := hanswered.length_eq
    rcases Nat.lt_trichotomy i rs.length with hlt | rfl | hgt
    · rw [List.getElem?_append_left hlt] at hr
      rw [List.getElem?_append_left (by omega), List.getElem?_append_left (by omega)]
      exact ih hr
    · rw [List.getElem?_concat_length] at hr
      obtain rfl := Option.some.inj hr
      refine ⟨line, result, ?_, ?_, hanswers⟩
      · rw [← hlines, List.getElem?_concat_length]
      · rw [← hreturned, List.getElem?_concat_length]
    · rw [List.getElem?_eq_none (by simp; omega)] at hr
      cases hr

/-- On a new connection nothing was answered yet. -/
theorem paired_accepted : Paired server codec accepted where
  stream := rfl
  plain line h := by simp [accepted] at h
  calls := rfl
  events before frame after h := by simp [accepted] at h
  phase := ⟨rfl, rfl, rfl, rfl⟩

/-- Wherever the handler is, it has greeted the client or written nothing, and the responses are
those of the first lines. -/
theorem Paired.over (h : Paired server codec s) :
    (s.output = [] ∨ Greets s.output) ∧ AnsweredFirst server codec s (responses s.output) := by
  have hphase := h.phase
  cases hhandler : s.handler with
  | greeting =>
    rw [hhandler] at hphase
    obtain ⟨houtput, -⟩ := hphase
    refine ⟨.inl houtput, [], [], List.nil_prefix, List.nil_prefix, ?_⟩
    rw [houtput]
    exact .nil
  | selecting =>
    rw [hhandler] at hphase
    exact ⟨.inr hphase.1, _, _, List.prefix_refl _, List.prefix_refl _, hphase.2.1⟩
  | handling request_id request =>
    rw [hhandler] at hphase
    obtain ⟨hgreets, -, before, line, envelope, hlines, hanswered, -⟩ := hphase
    exact ⟨.inr hgreets, before, _, ⟨[line], hlines.symm⟩, List.prefix_refl _, hanswered⟩
  | writing frame =>
    rw [hhandler] at hphase
    cases frame with
    | hello protocol => exact hphase.elim
    | response r =>
      obtain ⟨hgreets, -, before, line, returned, result, hlines, hreturned, hanswered, -⟩ := hphase
      exact ⟨.inr hgreets, before, returned, ⟨[line], hlines.symm⟩, ⟨[result], hreturned.symm⟩,
        hanswered⟩
    | event version event =>
      exact ⟨.inr hphase.1, _, _, List.prefix_refl _, List.prefix_refl _, hphase.2.1⟩
  | ended result =>
    rw [hhandler] at hphase
    exact hphase
  | dropped =>
    rw [hhandler] at hphase
    exact hphase

/-- The handler ends, whatever it was doing. -/
theorem Paired.end (h : Paired server codec s) {handler : HandlerAt}
    (hhandler : handler = .dropped ∨ ∃ result, handler = .ended result) :
    Paired server codec { s with handler } := by
  refine ⟨h.stream, h.plain, h.calls, h.events, ?_⟩
  have hover := h.over
  rcases hhandler with rfl | ⟨result, rfl⟩
  · exact hover
  · exact hover

/-- Bytes arrive. -/
theorem Paired.arrive (h : Paired server codec s) (chunk : List UInt8) :
    Paired server codec
      { s with buffer := s.buffer ++ chunk, arrived := s.arrived ++ chunk } where
  stream := by
    change s.arrived ++ chunk = _
    rw [h.stream, List.append_assoc]
  plain := h.plain
  calls := h.calls
  events := h.events
  phase := h.phase

/-- One more line of the buffer belongs to what has arrived, too. -/
theorem Paired.stream_concat (h : Paired server codec s) {line rest : List UInt8}
    (hline : takeLine newline s.buffer = some (line, rest)) :
    s.arrived = unlines newline (s.lines ++ [line]) ++ rest ∧
      ∀ l ∈ s.lines ++ [line], newline ∉ l := by
  obtain ⟨hbuffer, hplain⟩ := takeLine_eq_some_iff.1 hline
  constructor
  · rw [h.stream, hbuffer, unlines_concat]
    simp
  · intro l hl
    rcases List.mem_append.1 hl with hl | hl
    · exact h.plain l hl
    · rw [List.mem_singleton.1 hl]
      exact hplain

/-- A line is read that is a request. -/
theorem Paired.readLine (h : Paired server codec s) {line rest : List UInt8}
    {envelope : IncomingRequestEnvelope} (hselecting : s.handler = .selecting)
    (hline : takeLine newline s.buffer = some (line, rest))
    (hdecode : readJson codec line = some envelope) :
    Paired server codec (s.readLine codec line rest) := by
  obtain ⟨hstream, hlines⟩ := h.stream_concat hline
  have hphase := h.phase
  rw [hselecting] at hphase
  obtain ⟨hgreets, hanswered, htold⟩ := hphase
  simp only [IpcClient.readLine, hdecode, handleRequestEnvelope]
  cases hvalid : validateRequestEnvelope envelope with
  | error response =>
    refine ⟨hstream, hlines, ?_, h.events, hgreets, fun hsub => .inl (htold hsub), s.lines, line,
      s.returned, none, rfl, rfl, hanswered, envelope, hdecode, rfl, rfl,
      .inl ⟨response, hvalid, rfl, rfl⟩⟩
    simp [h.calls, operations, hdecode, hvalid]
  | ok request =>
    refine ⟨hstream, hlines, ?_, h.events, hgreets, htold, s.lines, line, envelope, rfl, hanswered,
      hdecode, rfl, hvalid⟩
    simp [h.calls, operations, hdecode, hvalid]

/-- An event is taken, which is for a client that was told of its subscription. -/
theorem Paired.event (h : Paired server codec s) (hselecting : s.handler = .selecting)
    (hsubscribed : s.subscribed = true) (version : UInt32) (event : ServiceEvent) :
    Paired server codec { s with handler := .writing (.event version event) } := by
  have hphase := h.phase
  rw [hselecting] at hphase
  exact ⟨h.stream, h.plain, h.calls, h.events, hphase.1, hphase.2.1, hphase.2.2 hsubscribed⟩

/-- The operation of the runtime has returned. -/
theorem Paired.finish (h : Paired server codec s) {request_id : UInt64} {request : ServiceRequest}
    (hhandling : s.handler = .handling request_id request) (results : RuntimeResults) :
    Paired server codec { s with
      subscribed := s.subscribed || (server.handleServiceRequest results request).subscribed
      handler := .writing
        (responseFrame request_id (server.handleServiceRequest results request).response)
      returned := s.returned ++ [some results] } := by
  have hphase := h.phase
  rw [hhandling] at hphase
  obtain ⟨hgreets, htold, before, line, envelope, hlines, hanswered, hdecode, hid, hvalid⟩ := hphase
  refine ⟨h.stream, h.plain, h.calls, h.events, hgreets, fun hsub => ?_, before, line, s.returned,
    some results, hlines, rfl, hanswered, envelope, hdecode, rfl, hid.symm,
    .inr ⟨request, results, hvalid, rfl, rfl⟩⟩
  rcases Bool.or_eq_true_iff.1 hsub with hsub | hsub
  · exact .inl (htold hsub)
  · rw [IpcServer.handleServiceRequest_subscribed] at hsub
    subst hsub
    exact .inr rfl

/-! ## Writing -/

/-- One more frame is one more response, if it is one. -/
theorem responses_concat (output : List ServerEnvelope) (frame : ServerEnvelope) :
    responses (output ++ [frame]) = responses output ++ frame.response?.toList := by
  cases frame <;> simp [responses, ServerEnvelope.response?]

/-- Another frame leaves what was told before. -/
theorem Told.concat {output : List ServerEnvelope} (h : Told output) (frame : ServerEnvelope) :
    Told (output ++ [frame]) := by
  obtain ⟨r, hr, hsub⟩ := h
  refine ⟨r, ?_, hsub⟩
  rw [responses_concat]
  exact List.mem_append_left _ hr

/-- A frame that is no `Hello` leaves the greeting what it is. -/
theorem Greets.concat {output : List ServerEnvelope} (h : Greets output) {frame : ServerEnvelope}
    (hframe : frame.isHello = false) : Greets (output ++ [frame]) := by
  obtain ⟨rest, rfl, hrest⟩ := h
  refine ⟨rest ++ [frame], rfl, fun f hf => ?_⟩
  rcases List.mem_append.1 hf with hf | hf
  · exact hrest f hf
  · rw [List.mem_singleton.1 hf]
    exact hframe

/-- One more frame keeps the events behind a `Subscribe` response, if it is one for a client that
was told of its subscription, or no event. -/
theorem EventsAfterSubscribe.concat {output : List ServerEnvelope} (h : EventsAfterSubscribe output)
    {frame : ServerEnvelope} (hframe : frame.isEvent = true → Told output) :
    EventsAfterSubscribe (output ++ [frame]) := by
  intro before f after heq hf
  rcases List.eq_nil_or_concat after with rfl | ⟨after, last, rfl⟩
  · obtain ⟨rfl, hlast⟩ := List.append_inj' heq rfl
    obtain rfl := List.singleton_inj.1 hlast
    exact hframe hf
  · have hsplit : output ++ [frame] = (before ++ f :: after) ++ [last] := by
      rw [heq]
      simp
    obtain ⟨rfl, -⟩ := List.append_inj' hsplit rfl
    exact h before f after rfl hf

/-- The greeting is written. -/
theorem Paired.greet (h : Paired server codec s) (hgreeting : s.handler = .greeting) :
    Paired server codec { s with
      handler := .selecting, output := s.output ++ [.hello protocolInfo] } := by
  have hphase := h.phase
  rw [hgreeting] at hphase
  obtain ⟨houtput, hlines, hreturned, hsubscribed⟩ := hphase
  refine ⟨h.stream, h.plain, h.calls, h.events.concat fun hf => ?_, ?_, ?_, fun hsub => ?_⟩
  · cases hf
  · rw [houtput]
    exact ⟨[], rfl, by simp⟩
  · rw [hlines, hreturned, responses_concat, houtput]
    exact .nil
  · rw [hsubscribed] at hsub
    cases hsub

/-- A response or an event is written. -/
theorem Paired.write (h : Paired server codec s) {frame : ServerEnvelope}
    (hwriting : s.handler = .writing frame) :
    Paired server codec { s with handler := .selecting, output := s.output ++ [frame] } := by
  have hphase := h.phase
  rw [hwriting] at hphase
  cases frame with
  | hello protocol => exact hphase.elim
  | response r =>
    obtain ⟨hgreets, htold, before, line, returned, result, hlines, hreturned, hanswered,
      hanswers⟩ := hphase
    refine ⟨h.stream, h.plain, h.calls, h.events.concat fun hf => ?_, hgreets.concat rfl, ?_,
      fun hsub => ?_⟩
    · cases hf
    · rw [responses_concat]
      change Answered server codec s.lines s.returned _
      rw [hlines, hreturned]
      exact hanswered.concat hanswers
    · rcases htold hsub with htold | hr
      · exact htold.concat _
      · refine ⟨r, ?_, hr⟩
        rw [responses_concat]
        exact List.mem_append_right _ (List.mem_singleton.2 rfl)
  | event version event =>
    obtain ⟨hgreets, hanswered, htold⟩ := hphase
    refine ⟨h.stream, h.plain, h.calls, h.events.concat fun _ => htold, hgreets.concat rfl, ?_,
      fun _ => htold.concat _⟩
    simpa [responses_concat, ServerEnvelope.response?] using hanswered

/-! ## Runs -/

/-- What a step does. -/
inductive Step (server : IpcServer) (codec : RequestCodec Value) (s : IpcClient) :
    Action → IpcClient → Prop
  | arrive {chunk : List UInt8} : s.eof = false →
    Step server codec s (.arrive chunk)
      { s with buffer := s.buffer ++ chunk, arrived := s.arrived ++ chunk }
  | closeInput : Step server codec s .closeInput { s with eof := true }
  | read {line rest : List UInt8} : s.handler = .selecting →
    takeLine newline s.buffer = some (line, rest) →
    Step server codec s .read (s.readLine codec line rest)
  | readRest : s.eof = true → takeLine newline s.buffer = none → s.buffer ≠ [] →
    Step server codec s .readEnd (s.readLine codec s.buffer [])
  | event {event : ServiceEvent} : s.handler = .selecting → s.subscribed = true →
    Step server codec s (.event event)
      { s with handler := .writing (.event ipcVersion (server.transportServiceEvent event)) }
  | lagged : Step server codec s .lagged s
  | finish {request_id : UInt64} {request : ServiceRequest} {results : RuntimeResults} :
    s.handler = .handling request_id request →
    Step server codec s (.finish results)
      { s with
        subscribed := s.subscribed || (server.handleServiceRequest results request).subscribed
        handler := .writing
          (responseFrame request_id (server.handleServiceRequest results request).response)
        returned := s.returned ++ [some results] }
  | greet : s.handler = .greeting →
    Step server codec s .write
      { s with handler := .selecting, output := s.output ++ [.hello protocolInfo] }
  | write {frame : ServerEnvelope} : s.handler = .writing frame →
    Step server codec s .write { s with handler := .selecting, output := s.output ++ [frame] }
  | cloneSender : Step server codec s .cloneSender { s with senders := s.senders + 1 }
  | dropSender : 1 < s.senders →
    Step server codec s .dropSender { s with senders := s.senders - 1 }
  /-- The handler ends, since the connection breaks, or there are no more bytes or events. -/
  | ends {a : Action} {handler : HandlerAt} :
    a.disconnects = true ∨ s.eof = true ∨ s.senders = 0 →
    (handler = .dropped ∨ ∃ result, handler = .ended result) →
    Step server codec s a { s with handler }

/-- A step is one of those. -/
theorem next_cases (h : s.next server codec a = some s') : Step server codec s a s' := by
  cases a with
  | arrive chunk =>
    simp only [next] at h
    split at h
    · cases h
    · next heof =>
      obtain rfl := Option.some.inj h
      exact .arrive (by simpa using heof)
  | closeInput =>
    obtain rfl := Option.some.inj h
    exact .closeInput
  | read =>
    simp only [next] at h
    split at h
    · next line rest hselecting hline =>
      obtain rfl := Option.some.inj h
      exact .read hselecting hline
    · cases h
  | readEnd =>
    simp only [next] at h
    split at h
    · next hselecting hline =>
      split at h
      · next heof =>
        split at h
        · obtain rfl := Option.some.inj h
          exact .ends (.inr (.inl heof)) (.inr ⟨_, rfl⟩)
        · next hbuffer =>
          obtain rfl := Option.some.inj h
          exact .readRest heof hline fun hnil => hbuffer (.inl hnil)
      · cases h
    · cases h
  | readFails text =>
    simp only [next] at h
    split at h
    · obtain rfl := Option.some.inj h
      exact .ends (.inl rfl) (.inr ⟨_, rfl⟩)
    · cases h
  | event event =>
    simp only [next] at h
    split at h
    · next hselecting =>
      split at h
      · next hsub =>
        obtain rfl := Option.some.inj h
        exact .event hselecting hsub
      · cases h
    · cases h
  | lagged =>
    simp only [next] at h
    split at h
    · split at h
      · obtain rfl := Option.some.inj h
        exact .lagged
      · cases h
    · cases h
  | eventsClosed =>
    simp only [next] at h
    split at h
    · split at h
      · next hclosed =>
        obtain rfl := Option.some.inj h
        exact .ends (.inr (.inr hclosed.2)) (.inr ⟨_, rfl⟩)
      · cases h
    · cases h
  | finish results =>
    simp only [next] at h
    split at h
    · next request_id request hhandling =>
      obtain rfl := Option.some.inj h
      exact .finish hhandling
    · cases h
  | write =>
    simp only [next] at h
    split at h
    · next hgreeting =>
      obtain rfl := Option.some.inj h
      exact .greet hgreeting
    · next frame hwriting =>
      obtain rfl := Option.some.inj h
      exact .write hwriting
    · cases h
  | writeFails text =>
    simp only [next] at h
    split at h
    · obtain rfl := Option.some.inj h
      exact .ends (.inl rfl) (.inr ⟨_, rfl⟩)
    · obtain rfl := Option.some.inj h
      exact .ends (.inl rfl) (.inr ⟨_, rfl⟩)
    · cases h
  | cloneSender =>
    obtain rfl := Option.some.inj h
    exact .cloneSender
  | dropSender =>
    simp only [next] at h
    split at h
    · next hmore =>
      obtain rfl := Option.some.inj h
      exact .dropSender hmore
    · cases h
  | drop =>
    obtain rfl := Option.some.inj h
    exact .ends (.inl rfl) (.inl rfl)

/-- The read of a line takes nothing from what has arrived. -/
theorem readLine_arrived (s : IpcClient) (codec : RequestCodec Value) (line rest : List UInt8) :
    (s.readLine codec line rest).arrived = s.arrived ∧
      (s.readLine codec line rest).eof = s.eof := by
  unfold IpcClient.readLine
  split
  · unfold handleRequestEnvelope
    split
    · exact ⟨rfl, rfl⟩
    · exact ⟨rfl, rfl⟩
  · exact ⟨rfl, rfl⟩

/-- A step only adds to what has arrived, and nothing when the client has closed its end. -/
theorem next_arrived (h : s.next server codec a = some s') :
    s.arrived <+: s'.arrived ∧ (s.eof = true → s'.eof = true ∧ s'.arrived = s.arrived) := by
  cases next_cases h with
  | arrive heof =>
    refine ⟨List.prefix_append _ _, fun h => ?_⟩
    rw [heof] at h
    cases h
  | closeInput => exact ⟨List.prefix_refl _, fun _ => ⟨rfl, rfl⟩⟩
  | @read line rest _ _ =>
    obtain ⟨harrived, heof⟩ := readLine_arrived s codec line rest
    rw [harrived, heof]
    exact ⟨List.prefix_refl _, fun h => ⟨h, rfl⟩⟩
  | readRest _ _ _ =>
    obtain ⟨harrived, heof⟩ := readLine_arrived s codec s.buffer []
    rw [harrived, heof]
    exact ⟨List.prefix_refl _, fun h => ⟨h, rfl⟩⟩
  | event | lagged | finish | greet | write | cloneSender | dropSender | ends =>
    exact ⟨List.prefix_refl _, fun h => ⟨h, rfl⟩⟩

variable {frames : List (List UInt8)}

/-- What the client sends after a step it sends before it, as far as it has come. -/
theorem Sent.of_next (h : s.next server codec a = some s') (hsent : s'.Sent frames) :
    s.Sent frames := by
  obtain ⟨hpre, heof⟩ := next_arrived h
  refine ⟨hpre.trans hsent.1, fun h => ?_⟩
  obtain ⟨heof', harrived⟩ := heof h
  rw [← harrived]
  exact hsent.2 heof'

/-- The lines that were read are the first frames of the client. -/
theorem Paired.lines_prefix (h : Paired server codec s) (hsent : s.Sent frames)
    (hframes : ∀ frame ∈ frames, newline ∉ frame) : s.lines <+: frames := by
  refine prefix_of_unlines s.buffer h.plain hframes ?_
  rw [← h.stream]
  exact hsent.1

/-- The next line is one of the frames, so it is a request. -/
theorem Paired.line_decodes (h : Paired server codec s) (hsent : s.Sent frames)
    (hframes : ∀ frame ∈ frames, newline ∉ frame ∧ (readJson codec frame).isSome = true)
    {line rest : List UInt8} (hline : takeLine newline s.buffer = some (line, rest)) :
    ∃ envelope, readJson codec line = some envelope := by
  obtain ⟨hstream, hplain⟩ := h.stream_concat hline
  have hpre : s.lines ++ [line] <+: frames := by
    refine prefix_of_unlines rest hplain (fun frame hf => (hframes frame hf).1) ?_
    rw [← hstream]
    exact hsent.1
  have hmem : line ∈ frames := hpre.subset (List.mem_append_right _ (List.mem_singleton.2 rfl))
  exact Option.isSome_iff_exists.1 (hframes line hmem).2

/-- When all has arrived and no line is left, all frames were read. -/
theorem Paired.lines_eq (h : Paired server codec s) (hframes : ∀ frame ∈ frames, newline ∉ frame)
    (harrived : s.arrived = unlines newline frames) (hbuffer : newline ∉ s.buffer) :
    s.lines = frames ∧ s.buffer = [] := by
  rw [h.stream] at harrived
  exact eq_of_unlines h.plain hframes hbuffer harrived

/-- Every step keeps the invariant, when the frames of the client are requests. -/
theorem Paired.next (hpaired : Paired server codec s) (h : s.next server codec a = some s')
    (hsent : s'.Sent frames)
    (hframes : ∀ frame ∈ frames, newline ∉ frame ∧ (readJson codec frame).isSome = true) :
    Paired server codec s' := by
  have hsent₀ := Sent.of_next h hsent
  cases next_cases h with
  | arrive _ => exact hpaired.arrive _
  | closeInput | lagged | cloneSender | dropSender =>
    exact ⟨hpaired.stream, hpaired.plain, hpaired.calls, hpaired.events, hpaired.phase⟩
  | read hselecting hline =>
    obtain ⟨envelope, hdecode⟩ := hpaired.line_decodes hsent₀ hframes hline
    exact hpaired.readLine hselecting hline hdecode
  | readRest heof hline hbuffer =>
    -- Nothing is left behind the last newline, since the client has sent whole lines.
    have hplain : ∀ frame ∈ frames, newline ∉ frame := fun frame hf => (hframes frame hf).1
    have hnone := takeLine_eq_none_iff.1 hline
    exact absurd (hpaired.lines_eq hplain (hsent₀.2 heof) hnone).2 hbuffer
  | event hselecting hsub => exact hpaired.event hselecting hsub _ _
  | finish hhandling => exact hpaired.finish hhandling _
  | greet hgreeting => exact hpaired.greet hgreeting
  | write hwriting => exact hpaired.write hwriting
  | ends _ hover => exact hpaired.end hover

/-- In every run the responses are paired with the lines. -/
theorem paired_of_run {trace : List (Action × Unit)}
    (hframes : ∀ frame ∈ frames, newline ∉ frame ∧ (readJson codec frame).isSome = true)
    (h : Run (step server codec) accepted trace s) (hsent : s.Sent frames) :
    Paired server codec s := by
  refine h.invariant (I := fun _ s => s.Sent frames → Paired server codec s)
    (fun _ => paired_accepted) (fun _ s s' a o ih hstep hsent => ?_) hsent
  have hnext := ofOption_eq_ok.1 hstep
  exact (ih (Sent.of_next hnext hsent)).next hnext hsent hframes

/-! ## The connection goes on -/

/-- The handler has not ended. -/
def live : HandlerAt → Bool
  | .ended _ | .dropped => false
  | _ => true

/-- A line that is a request leaves the handler at work. -/
theorem readLine_live {line rest : List UInt8} {envelope : IncomingRequestEnvelope}
    (hdecode : readJson codec line = some envelope) :
    live (s.readLine codec line rest).handler = true ∧
      (s.readLine codec line rest).senders = s.senders := by
  simp only [IpcClient.readLine, hdecode, handleRequestEnvelope]
  split
  · exact ⟨rfl, rfl⟩
  · exact ⟨rfl, rfl⟩

/-- The client has not closed its end, the server has its handle, and the handler has not ended. -/
def Connected (s : IpcClient) : Prop := s.eof = false ∧ 1 ≤ s.senders ∧ live s.handler = true

/-- As long as the connection does not break, the handler goes on. -/
theorem Connected.next (hs : s.Connected) (hpaired : Paired server codec s)
    (hsent : s.Sent frames) (ha : a.disconnects = false) (h : s.next server codec a = some s')
    (hframes : ∀ frame ∈ frames, newline ∉ frame ∧ (readJson codec frame).isSome = true) :
    s'.Connected := by
  obtain ⟨heof, hsenders, hlive⟩ := hs
  cases next_cases h with
  | arrive | lagged => exact ⟨heof, hsenders, hlive⟩
  | closeInput => cases ha
  | @read line rest hselecting hline =>
    obtain ⟨envelope, hdecode⟩ := hpaired.line_decodes hsent hframes hline
    obtain ⟨hlive', hsenders'⟩ := readLine_live hdecode
    refine ⟨?_, ?_, hlive'⟩
    · rw [(readLine_arrived s codec line rest).2]
      exact heof
    · rw [hsenders']
      exact hsenders
  | readRest hend _ _ =>
    rw [heof] at hend
    cases hend
  | event | finish | greet | write => exact ⟨heof, hsenders, rfl⟩
  | cloneSender => exact ⟨heof, Nat.le_add_left 1 s.senders, hlive⟩
  | dropSender hmore => exact ⟨heof, Nat.le_sub_one_of_lt hmore, hlive⟩
  | ends hcause _ =>
    -- The server has a sender, so the event channel is not closed.
    obtain hbreaks | hend | hclosed := hcause
    · rw [ha] at hbreaks
      cases hbreaks
    · rw [heof] at hend
      cases hend
    · omega

/-- A connection that nobody cuts stays connected. -/
theorem connected_of_run {trace : List (Action × Unit)}
    (hframes : ∀ frame ∈ frames, newline ∉ frame ∧ (readJson codec frame).isSome = true)
    (h : Run (step server codec) accepted trace s) (hsent : s.Sent frames)
    (hconnected : ∀ x ∈ trace, x.1.disconnects = false) : s.Connected := by
  induction h with
  | nil => exact ⟨rfl, le_refl 1, rfl⟩
  | @snoc trace s s' a o hrun hstep ih =>
    have hnext := ofOption_eq_ok.1 hstep
    have hsent₀ := Sent.of_next hnext hsent
    have hs := ih hsent₀ fun x hx => hconnected x (List.mem_append_left _ hx)
    have ha : a.disconnects = false :=
      hconnected (a, o) (List.mem_append_right _ (List.mem_singleton.2 rfl))
    exact hs.next (paired_of_run hframes hrun hsent₀) hsent₀ ha hnext hframes

/-- A handler at work waits for bytes of the client, or it can take the step that brings the next
response nearer. -/
theorem goes_on (hlive : live s.handler = true) (results : RuntimeResults) :
    (s.handler = .selecting ∧ newline ∉ s.buffer) ∨
      ∃ a, (a = .read ∨ a = .finish results ∨ a = .write) ∧
        (s.next server codec a).isSome = true := by
  cases hhandler : s.handler with
  | greeting => exact .inr ⟨.write, .inr (.inr rfl), by simp [next, hhandler]⟩
  | selecting =>
    cases hline : takeLine newline s.buffer with
    | none => exact .inl ⟨rfl, takeLine_eq_none_iff.1 hline⟩
    | some p => exact .inr ⟨.read, .inl rfl, by simp [next, hhandler, hline]⟩
  | handling request_id request =>
    exact .inr ⟨.finish results, .inr (.inl rfl), by simp [next, hhandler]⟩
  | writing frame => exact .inr ⟨.write, .inr (.inr rfl), by simp [next, hhandler]⟩
  | ended result =>
    rw [hhandler] at hlive
    cases hlive
  | dropped =>
    rw [hhandler] at hlive
    cases hlive

/-! ## Requests that are rejected -/

/-- The read of a request that is rejected leads to its `Error` response, and to nothing else. -/
theorem read_rejected (hcodec : codec.TagsAgree) {line rest : List UInt8}
    {envelope : IncomingRequestEnvelope} (hdecode : readJson codec line = some envelope)
    (hrejected : codec.Rejected (withoutCarriageReturn line)) :
    ∃ error, (s.readLine codec line rest).handler =
        .writing (responseFrame envelope.request_id (.error error)) ∧
      (s.readLine codec line rest).subscribed = s.subscribed ∧
      (s.readLine codec line rest).calls = s.calls ∧
      (s.readLine codec line rest).host_shutdown = s.host_shutdown := by
  obtain ⟨error, herror⟩ := validateRequestEnvelope_of_rejected hcodec hdecode hrejected
  refine ⟨error, ?_⟩
  simp only [IpcClient.readLine, hdecode, handleRequestEnvelope, herror, and_self]

/-- A rejected line calls no operation. -/
theorem operations_rejected (hcodec : codec.TagsAgree) {line : List UInt8}
    (hrejected : codec.Rejected (withoutCarriageReturn line)) : operations codec line = [] := by
  unfold operations
  split
  · rfl
  · next envelope hdecode =>
    obtain ⟨error, herror⟩ := validateRequestEnvelope_of_rejected hcodec hdecode hrejected
    rw [herror]

/-- The answer to a rejected line is an error. -/
theorem Answers.isError (hcodec : codec.TagsAgree) {line : List UInt8}
    {result : Option RuntimeResults} {r : ResponseEnvelope}
    (h : Answers server codec line result r)
    (hrejected : codec.Rejected (withoutCarriageReturn line)) : r.response.isError = true := by
  obtain ⟨envelope, hdecode, -, -, hr⟩ := h
  obtain ⟨error, herror⟩ := validateRequestEnvelope_of_rejected hcodec hdecode hrejected
  obtain ⟨response, hresponse, -, hr⟩ | ⟨request, results, hrequest, -⟩ := hr
  · rw [hr, ← Except.error.inj (herror.symm.trans hresponse)]
    rfl
  · rw [herror] at hrequest
    cases hrequest

/-! ## The protocol -/

/-- What a connection whose client sends these frames must show. -/
structure Follows (server : IpcServer) (codec : RequestCodec Value) (frames : List (List UInt8))
    (s : IpcClient) : Prop where
  /-- One `Hello` frame comes first. -/
  hello : s.output = [] ∨ Greets s.output
  /-- The responses are those to the first requests, one for each, in their order, for what the
  runtime has returned to them. -/
  inOrder : ∃ n, Answered server codec (frames.take n) (s.returned.take n) (responses s.output)
  /-- When all requests have arrived, and the server waits for another, all are answered. -/
  complete : s.handler = .selecting → s.arrived = unlines newline frames → newline ∉ s.buffer →
    Answered server codec frames s.returned (responses s.output)
  /-- Until then it can always take the step that brings the next response nearer. -/
  goesOn : live s.handler = true → ∀ results,
    (s.handler = .selecting ∧ newline ∉ s.buffer) ∨
      ∃ a, (a = .read ∨ a = .finish results ∨ a = .write) ∧
        (s.next server codec a).isSome = true
  events : EventsAfterSubscribe s.output
  /-- The response to a request that is rejected is an `Error`. -/
  rejected : ∀ (i : ℕ) line (r : ResponseEnvelope), frames[i]? = some line →
    codec.Rejected (withoutCarriageReturn line) → (responses s.output)[i]? = some r →
    r.response.isError = true
  /-- The operations that were called are those of the requests that were read, and a request that
  is rejected has none. -/
  calls : (∃ n, s.calls = (frames.take n).flatMap (operations codec)) ∧
    ∀ line, codec.Rejected (withoutCarriageReturn line) → operations codec line = []
  /-- The read of a request that is rejected changes neither the subscription nor the runtime. -/
  unchanged : ∀ line rest s', takeLine newline s.buffer = some (line, rest) →
    codec.Rejected (withoutCarriageReturn line) → s.next server codec .read = some s' →
    s'.subscribed = s.subscribed ∧ s'.calls = s.calls ∧ s'.host_shutdown = s.host_shutdown ∧
      ∃ request_id error, s'.handler = .writing (responseFrame request_id (.error error))

/-- The responses are those to the first frames. -/
theorem Paired.inOrder (h : Paired server codec s) (hsent : s.Sent frames)
    (hframes : ∀ frame ∈ frames, newline ∉ frame) :
    Answered server codec (frames.take (responses s.output).length)
      (s.returned.take (responses s.output).length) (responses s.output) := by
  obtain ⟨-, before, returned, hlines, hreturned, hanswered⟩ := h.over
  have hpre : before <+: frames := hlines.trans (h.lines_prefix hsent hframes)
  have hfirst := List.prefix_iff_eq_take.1 hpre
  have hresults := List.prefix_iff_eq_take.1 hreturned
  obtain ⟨hlength, hlength'⟩ := hanswered.length_eq
  rw [hlength] at hfirst
  rw [hlength'] at hresults
  rw [← hfirst, ← hresults]
  exact hanswered

/-- Responses that are paired follow the protocol. -/
theorem Paired.follows (h : Paired server codec s) (hcodec : codec.TagsAgree)
    (hsent : s.Sent frames)
    (hframes : ∀ frame ∈ frames, newline ∉ frame ∧ (readJson codec frame).isSome = true) :
    Follows server codec frames s := by
  have hplain : ∀ frame ∈ frames, newline ∉ frame := fun frame hf => (hframes frame hf).1
  have horder := h.inOrder hsent hplain
  refine ⟨h.over.1, ⟨_, horder⟩, ?_, fun hlive results => goes_on hlive results, h.events, ?_,
    ⟨⟨s.lines.length, ?_⟩, fun line => operations_rejected hcodec⟩, ?_⟩
  · intro hselecting harrived hbuffer
    have hphase := h.phase
    rw [hselecting] at hphase
    rw [← (h.lines_eq hplain harrived hbuffer).1]
    exact hphase.2.1
  · intro i line r hline hrejected hr
    -- The request is among the first ones, since it has a response.
    have hi := (List.getElem?_eq_some_iff.1 hr).1
    obtain ⟨line', result, hline', -, hanswers⟩ := horder.get hr
    rw [List.getElem?_take_of_lt hi, hline] at hline'
    obtain rfl := Option.some.inj hline'
    exact hanswers.isError hcodec hrejected
  · rw [← List.prefix_iff_eq_take.1 (h.lines_prefix hsent hplain)]
    exact h.calls
  · intro line rest s' hline hrejected hnext
    simp only [IpcClient.next] at hnext
    split at hnext
    · next line' rest' hselecting hline' =>
      obtain rfl := Option.some.inj hnext
      obtain ⟨rfl, rfl⟩ := Prod.mk.inj (Option.some.inj (hline.symm.trans hline'))
      obtain ⟨envelope, hdecode⟩ := h.line_decodes hsent hframes hline
      obtain ⟨error, hhandler, hsub, hcalls, hshutdown⟩ :=
        read_rejected (s := s) hcodec hdecode hrejected
      exact ⟨hsub, hcalls, hshutdown, _, error, hhandler⟩
    · cases hnext

end IpcClient

open IpcClient

/-- Along every run of a connection whose client sends the lines `frames`, all of them request
envelopes, in whatever chunks and among whatever events: the server greets first, then answers each
request once, in order and with its number, and sends events only behind a `Subscribe` response; a
request that is rejected gets an `Error`, and nothing else comes of it. The handler does not end
before the connection breaks. -/
theorem ipc_connection_protocol {Value : Type} (server : IpcServer) (codec : RequestCodec Value)
    (hcodec : codec.TagsAgree) {frames : List (List UInt8)}
    (hframes : ∀ frame ∈ frames, newline ∉ frame ∧ (readJson codec frame).isSome = true)
    {trace : List (IpcClient.Action × Unit)} {s : IpcClient}
    (h : Run (step server codec) accepted trace s) (hsent : s.Sent frames) :
    Follows server codec frames s ∧
      ((∀ x ∈ trace, x.1.disconnects = false) → live s.handler = true) := by
  have hpaired := paired_of_run hframes h hsent
  exact ⟨hpaired.follows hcodec hsent hframes,
    fun hconnected => (connected_of_run hframes h hsent hconnected).2.2⟩

namespace SampleClient

/-- ASCII text as bytes. -/
def bytes (text : String) : List UInt8 := text.toList.map fun c => UInt8.ofNat c.toNat

/-- A request to subscribe. -/
def subscribeLine : List UInt8 :=
  bytes "\x7b\"ipc_version\":3,\"request_id\":7,\"request\":\x7b\"type\":\"subscribe\"\x7d\x7d"

/-- A request of a type that there is not. -/
def rebootLine : List UInt8 :=
  bytes "\x7b\"ipc_version\":3,\"request_id\":8,\"request\":\x7b\"type\":\"reboot\"\x7d\x7d"

/-- The decoder at these lines, with the type of a request for its value. -/
def codec : RequestCodec String where
  parse line :=
    if line = subscribeLine then some (3, 7, "subscribe")
    else if line = rebootLine then some (3, 8, "reboot")
    else none
  request type_name := if type_name = "subscribe" then some .subscribe else none
  unknown type_name := some ⟨type_name⟩

/-- The decoder reads the same tag in both types. -/
theorem codec_tagsAgree : codec.TagsAgree := by
  intro value request message hrequest hmessage
  simp only [codec, Option.some.injEq] at hrequest hmessage
  split at hrequest
  · next hvalue =>
    rw [← Option.some.inj hrequest, ← hmessage, hvalue]
    rfl
  · cases hrequest

/-- A server. -/
def server : IpcServer := ⟨"/run/playit.sock", 0⟩

/-- The status of its service. -/
def status : ServiceStatus := ⟨.starting, 1, 0, "1.0.0", "", none, false, protocolInfo, none⟩

/-- A runtime that has stopped answers most requests with an error. -/
def results : RuntimeResults where
  subscription_snapshot := ⟨protocolInfo, .starting, status, ⟨0, 0, 0, 0⟩⟩
  status := status
  lifecycle := .starting
  list_tunnels := .error .stopped
  list_account_tunnels := .error .stopped
  create_tunnel := .error .stopped
  create_minecraft_java_tunnel := .error .stopped
  delete_tunnel := .error .stopped
  reassign_tunnel := .error .stopped
  account := .error .stopped
  start_claim := .error .stopped
  set_secret := .error .stopped
  reset_secret := .error .stopped
  secret_path := none
  account_login_url := .error .stopped

/-- The lines arrive in two chunks, and an event comes between their responses. -/
def actions : List IpcClient.Action :=
  [.arrive (subscribeLine.take 10), .write,
    .arrive (subscribeLine.drop 10 ++ [newline] ++ rebootLine ++ [newline]), .read, .finish results,
    .write, .event (.update (.lifecycle .starting)), .write, .read, .write]

/-- Both lines are requests. -/
theorem frames_decode : ∀ frame ∈ [subscribeLine, rebootLine],
    newline ∉ frame ∧ (readJson codec frame).isSome = true := by
  decide +kernel

end SampleClient

open SampleClient in
/-- A `Subscribe` and an unknown request are answered in their order. -/
theorem ipc_connection_protocol_sample :
    ∃ trace s, Run (step server codec) accepted trace s ∧ s.Sent [subscribeLine, rebootLine] ∧
      (responses s.output).map ResponseEnvelope.request_id = [7, 8] ∧
      Follows server codec [subscribeLine, rebootLine] s ∧ live s.handler = true := by
  obtain ⟨s, hs, harrived, hids⟩ : ∃ s,
      takes (next server codec) accepted actions = some s ∧
        s.arrived = unlines newline [subscribeLine, rebootLine] ∧
        (responses s.output).map ResponseEnvelope.request_id = [7, 8] :=
    ⟨_, rfl, rfl, rfl⟩
  have hrun := Run.takes .nil hs
  have hsent : s.Sent [subscribeLine, rebootLine] := by
    refine ⟨⟨[], ?_⟩, fun _ => harrived⟩
    rw [List.append_nil, harrived]
  obtain ⟨hfollows, hlive⟩ :=
    ipc_connection_protocol server codec codec_tagsAgree frames_decode hrun hsent
  refine ⟨_, s, hrun, hsent, hids, hfollows, hlive ?_⟩
  simp [actions, Action.disconnects]

end PlayitAgent
