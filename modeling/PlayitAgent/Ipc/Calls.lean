import PlayitAgent.Ipc.Rounds

/-!
# Calls get their own answers

Over every run of a connection, with calls cancelled at any point, with events between the
responses, and with the connection cut anywhere: a call that succeeds has the answer to its own
request. Without a subscription, a call that gets a frame succeeds unless the response to an earlier
request is still to be read. A client that subscribes last gets every event in order.
-/

namespace PlayitAgent

namespace IpcSession

open IpcClient (newline responses readJson Greets Paired live responseFrame EventsAfterSubscribe
  Told)

section
variable {Value Value' : Type} {server : IpcServer} {requests : RequestCodec Value}
  {codec : EnvelopeCodec Value'} {s s' : IpcSession} {taken : List ServerEnvelope}

/-! ## Responses and requests -/

/-- How many responses were read, from the frames. -/
theorem Taken.answered_eq (h : s.Taken codec taken) :
    s.client.answered = (responses taken).length := by
  have hcount : ∀ frames : List ServerEnvelope,
      (frames.map ServerEnvelope.incoming).countP IncomingServerEnvelope.isResponse =
        (responses frames).length := by
    intro frames
    induction frames with
    | nil => rfl
    | cons frame frames ih =>
      rw [List.map_cons, List.countP_cons, ih]
      cases frame <;> rfl
  rw [IpcCaller.answered, h.taken_eq, hcount]

/-- The response is the one to the request. Among the requests of the client, the responses of the
server, and what the runtime has returned they have one place, and the response is what comes of the
request for what was returned there. -/
def OwnAnswer (server : IpcServer) (s : IpcSession) (e : RequestEnvelope)
    (response : ServiceResponse) : Prop :=
  ∃ (j : ℕ) (results : RuntimeResults), s.client.requests[j]? = some e ∧
    s.server.returned[j]? = some (some results) ∧
    (responses s.frames)[j]? = some ⟨ipcVersion, e.request_id, response⟩ ∧
    response = (server.handleServiceRequest results e.request).response

/-- What is in its place in a list is there when the list has grown. -/
theorem getElem?_of_prefix {α : Type} {l l' : List α} (h : l <+: l') {i : ℕ} {a : α}
    (ha : l[i]? = some a) : l'[i]? = some a := by
  obtain ⟨more, rfl⟩ := h
  rw [List.getElem?_append_left (List.getElem?_eq_some_iff.1 ha).1, ha]

/-- Whatever comes behind it, the response stays the one to the request. -/
theorem OwnAnswer.mono {e : RequestEnvelope} {response : ServiceResponse}
    (h : OwnAnswer server s e response) (hrequests : s.client.requests <+: s'.client.requests)
    (hframes : s.frames <+: s'.frames) (hkeeps : Keeps s.server s'.server) :
    OwnAnswer server s' e response := by
  obtain ⟨j, results, he, hreturned, hr, hresponse⟩ := h
  exact ⟨j, results, getElem?_of_prefix hrequests he, getElem?_of_prefix hkeeps.2 hreturned,
    getElem?_of_prefix (hframes.filterMap _) hr, hresponse⟩

/-- The response to the `j`th request is the `j`th response. -/
theorem Streams.request_of_response (h : s.Streams server requests codec)
    (hfaithful : s.Faithful requests codec) {j : ℕ} {r : ResponseEnvelope}
    (hr : (responses s.frames)[j]? = some r) :
    ∃ e, s.client.requests[j]? = some e ∧ r.request_id = e.request_id ∧
      (e.ipc_version = ipcVersion → OwnAnswer server s e r.response) := by
  obtain ⟨before, returned, hlines, hreturned, hanswers⟩ := h.written.answers
  have hsent : s.server.Sent (s.client.requests.map codec.request) := by
    refine ⟨⟨s.sent ++ s.client.pending, ?_⟩, fun hend => ?_⟩
    · rw [← List.append_assoc, h.up.stream]
    · rw [h.up.eof] at hend
      cases hend
  have hplain : ∀ line ∈ s.client.requests.map codec.request, newline ∉ line :=
    fun line hline => (hfaithful.requests_decode line hline).1
  have hpre : before <+: s.client.requests.map codec.request :=
    hlines.trans (h.up.paired.lines_prefix hsent hplain)
  -- The line of the response is that of the request.
  obtain ⟨line, result, hline, hresult, hanswer⟩ := hanswers.get hr
  have hline := getElem?_of_prefix hpre hline
  rw [List.getElem?_map, Option.map_eq_some_iff] at hline
  obtain ⟨e, he, rfl⟩ := hline
  refine ⟨e, he, ?_⟩
  have hcomes := hfaithful.requests e (List.mem_of_getElem? he)
  obtain ⟨envelope, hread, hcurrent, hid, hresponse⟩ := hanswer
  rw [readJson, withoutCarriageReturn_of_not_mem hcomes.plain.2, hcomes.decode] at hread
  obtain rfl := Option.some.inj hread
  refine ⟨hid, fun hversion => ?_⟩
  have hvalid : validateRequestEnvelope ⟨e.ipc_version, e.request_id, .known e.request⟩ =
      .ok e.request := by
    rw [validateRequestEnvelope, if_neg (not_not_intro hversion)]
  obtain ⟨response, herror, -⟩ | ⟨request, results, hok, rfl, hresponse⟩ := hresponse
  · rw [hvalid] at herror
    cases herror
  · rw [hvalid] at hok
    cases hok
    refine ⟨j, results, he, getElem?_of_prefix hreturned hresult, ?_, hresponse⟩
    obtain ⟨version, request_id, response⟩ := r
    obtain rfl : version = ipcVersion := hcurrent
    obtain rfl : request_id = e.request_id := hid
    exact hr

/-- No more responses were read than requests were sent. -/
theorem Streams.answered_le (h : s.Streams server requests codec)
    (hfaithful : s.Faithful requests codec) : s.client.answered ≤ s.client.requests.length := by
  obtain ⟨taken, htaken⟩ := h.down
  rw [htaken.answered_eq]
  have hpre : responses taken <+: responses s.frames := htaken.frames.filterMap _
  by_contra hlt
  have hj : s.client.requests.length < (responses s.frames).length := by
    have hlen := hpre.length_le
    omega
  obtain ⟨e, he, -⟩ := h.request_of_response hfaithful (List.getElem?_eq_getElem hj)
  have hlt := (List.getElem?_eq_some_iff.1 he).1
  omega

/-- The response behind the frames that were taken is that of the next request. -/
theorem Streams.next_response (h : s.Streams server requests codec)
    (hfaithful : s.Faithful requests codec) (htaken : s.Taken codec taken) {r : ResponseEnvelope}
    (hpre : taken ++ [.response r] <+: s.frames) :
    r.ipc_version = ipcVersion ∧
      ∃ e, s.client.requests[s.client.answered]? = some e ∧ r.request_id = e.request_id ∧
        (e.ipc_version = ipcVersion → OwnAnswer server s e r.response) := by
  refine ⟨h.written.current (.response r) (hpre.subset (by simp)), ?_⟩
  apply h.request_of_response hfaithful
  obtain ⟨more, hmore⟩ := hpre
  have hsplit : responses s.frames = responses taken ++ r :: responses more := by
    rw [← hmore, responses, List.filterMap_append, List.filterMap_append]
    simp [responses, ServerEnvelope.response?]
  rw [htaken.answered_eq, hsplit, List.getElem?_append_right (le_refl _), Nat.sub_self]
  rfl

/-! ## What a step does to the client -/

/-- What a step does to the client. -/
inductive Moves (codec : EnvelopeCodec Value') (s : IpcSession) : Action → IpcCaller → Prop
  | still {a : Action} {c : IpcCaller} : Still s.client c → Moves codec s a c
  | called {request : ServiceRequest} : s.client.phase = .idle →
    Moves codec s (.client (.call request)) { s.client with
      phase := .feeding ⟨ipcVersion, s.client.next_request_id, request⟩
      next_request_id := s.client.next_request_id + 1
      started := s.client.started + 1 }
  | fed {e : RequestEnvelope} {pending : List UInt8} : s.client.phase = .feeding e →
    Moves codec s (.client .feed) { s.client with
      phase := .flushing e, pending := pending, requests := s.client.requests ++ [e] }
  | flushed {e : RequestEnvelope} : s.client.phase = .flushing e →
    Moves codec s (.client .flushed) { s.client with phase := .awaiting e }
  | updating : s.client.phase = .idle →
    Moves codec s (.client .update) { s.client with phase := .updating }
  | received {a : Action} {taken : List ServerEnvelope} {frame : ServerEnvelope}
    {rest : List UInt8} {c : IpcCaller} : s.Taken codec taken → taken ++ [frame] <+: s.frames →
    IpcCaller.CallerAt.reads s.client.phase = true → Received frame rest s.client c →
    Moves codec s a c
  | failed {a : Action} {error : CallError} {c₀ c : IpcCaller} : a.abandons = true →
    Still s.client c₀ → (error = .invalidLine ∨ ∃ text, error = .ioError text) →
    Failed error c₀ c → Moves codec s a c
  | dropped {a : Action} {phase : CallerAt} :
    (phase = .idle ∧ s.client.phase ≠ .greeting ∧ a.abandons = true) ∨ phase = .gone →
    Moves codec s a { s.client with phase := phase }

/-- Every step of a connection whose client is there is one of these. -/
theorem moves_of_next {a : Action} (h : s.Streams server requests codec)
    (hfaithful : s.Faithful requests codec) (hnext : s.next server requests codec a = some s') :
    Moves codec s a s'.client := by
  by_cases hclient : ∃ b, a = .client b
  · obtain ⟨b, rfl⟩ := hclient
    obtain ⟨c, hc, rfl⟩ := Option.map_eq_some_iff.1 hnext
    obtain ⟨taken, htaken⟩ := h.down
    cases callerStep_of_next hc with
    | call hphase => exact .called hphase
    | feed hphase => exact .fed hphase
    | flushed hphase => exact .flushed hphase
    | update hphase => exact .updating hphase
    | @read line rest hline hreads =>
      obtain ⟨frame, hmem, rfl, hpre, -⟩ := h.next_frame hfaithful htaken hline
      exact .received htaken hpre hreads
        (received_of_readLine rest (hfaithful.frames frame hmem) hreads)
    | readRest hline hreads heof hbuffer =>
      obtain ⟨frame, hmem, hpart, hframes, -⟩ := h.last_frame hfaithful htaken heof hline hbuffer
      have hcomes := hfaithful.frames frame hmem
      by_cases hwhole : s.client.buffer = codec.frame frame
      · have hreceived := received_of_readLine [] hcomes hreads
        rw [← hwhole] at hreceived
        exact .received htaken (hframes ▸ List.prefix_refl _) hreads hreceived
      · rw [readLine_part hcomes hpart hwhole]
        have hstill : Still s.client { s.client with buffer := [] } :=
          ⟨rfl, rfl, rfl, rfl, rfl, rfl, rfl⟩
        exact .failed rfl hstill (.inl rfl) (failed_fail _ _)
    | fails habandons =>
      exact .failed habandons ⟨rfl, rfl, rfl, rfl, rfl, rfl, rfl⟩ (.inr ⟨_, rfl⟩) (failed_fail _ _)
    | drops hphase => exact .dropped hphase
  · exact .still (still_of_next hnext fun b hb => hclient ⟨b, hb⟩)

/-! ## The client -/

/-- What holds of the client alone, while its numbers do not wrap. -/
structure Ordered (c : IpcCaller) : Prop where
  next_id : c.next_request_id.toNat = c.started + 1
  /-- The requests have growing numbers. -/
  ids : (c.requests.map fun e => e.request_id.toNat).Pairwise (· < ·)
  sent : ∀ e ∈ c.requests, e.ipc_version = ipcVersion ∧ e.request_id.toNat ≤ c.started
  feeding : ∀ e, c.phase = .feeding e → e.ipc_version = ipcVersion ∧
    e.request_id.toNat = c.started ∧ ∀ e' ∈ c.requests, e'.request_id.toNat < c.started
  /-- The greeting is the first frame that is read. -/
  greeted : c.phase ≠ .gone → (c.phase = .greeting ↔ c.taken = [])

/-- The client is as it was, apart from where it is and what it has read. -/
theorem Ordered.of_eq {c c' : IpcCaller} (h : Ordered c)
    (hnext : c'.next_request_id = c.next_request_id) (hstarted : c'.started = c.started)
    (hrequests : c'.requests = c.requests)
    (hfeeding : ∀ e, c'.phase = .feeding e → c.phase = .feeding e)
    (hgreeted : c'.phase ≠ .gone → (c'.phase = .greeting ↔ c'.taken = [])) : Ordered c' := by
  refine ⟨?_, ?_, ?_, ?_, hgreeted⟩
  · rw [hnext, hstarted]
    exact h.next_id
  · rw [hrequests]
    exact h.ids
  · rw [hrequests, hstarted]
    exact h.sent
  · intro e he
    rw [hrequests, hstarted]
    exact h.feeding e (hfeeding e he)

/-- A client that is not waiting for its greeting, and not gone, has read a frame. -/
theorem Ordered.taken_ne_nil {c : IpcCaller} (h : Ordered c) (hgone : c.phase ≠ .gone)
    (hphase : c.phase ≠ .greeting) : c.taken ≠ [] :=
  fun hnil => hphase ((h.greeted hgone).2 hnil)

/-- Every step keeps this, while the numbers do not wrap. -/
theorem Ordered.moves {a : Action} {c : IpcCaller} (h : Ordered s.client)
    (hgone : s.client.phase ≠ .gone) (hmoves : Moves codec s a c)
    (hbound : c.started + 1 < 2 ^ 64) : Ordered c := by
  cases hmoves with
  | still hstill =>
    refine h.of_eq hstill.next_request_id hstill.started hstill.requests ?_ ?_
    · rw [hstill.phase]
      exact fun e he => he
    · rw [hstill.phase, hstill.taken_eq]
      exact h.greeted
  | called hphase =>
    have hid : (s.client.next_request_id + 1).toNat = s.client.started + 1 + 1 := by
      rw [UInt64.toNat_add, h.next_id]
      exact Nat.mod_eq_of_lt hbound
    refine ⟨hid, h.ids, fun e he => ⟨(h.sent e he).1, Nat.le_succ_of_le (h.sent e he).2⟩, ?_, ?_⟩
    · intro e he
      cases he
      exact ⟨rfl, h.next_id, fun e' he' => Nat.lt_succ_of_le (h.sent e' he').2⟩
    · have htaken := h.taken_ne_nil hgone (by simp [hphase])
      exact fun _ => iff_of_false (by simp) htaken
  | @fed e pending hphase =>
    obtain ⟨hversion, hid, hlt⟩ := h.feeding e hphase
    refine ⟨h.next_id, ?_, ?_, ?_, ?_⟩
    · rw [List.map_append, List.map_singleton, List.pairwise_append]
      refine ⟨h.ids, List.pairwise_singleton _ _, ?_⟩
      intro n hn m hm
      obtain ⟨e', he', rfl⟩ := List.mem_map.1 hn
      rw [List.mem_singleton.1 hm, hid]
      exact hlt e' he'
    · intro e' he'
      rcases List.mem_append.1 he' with he' | he'
      · exact h.sent e' he'
      · rw [List.mem_singleton.1 he']
        exact ⟨hversion, le_of_eq hid⟩
    · intro e' he'
      cases he'
    · have htaken := h.taken_ne_nil hgone (by simp [hphase])
      exact fun _ => iff_of_false (by simp) htaken
  | flushed hphase | updating hphase =>
    have htaken := h.taken_ne_nil hgone (by simp [hphase])
    refine h.of_eq rfl rfl rfl ?_ fun _ => iff_of_false (by simp) htaken
    intro e he
    cases he
  | received htaken hpre hreads hreceived =>
    refine h.of_eq hreceived.next_request_id hreceived.started hreceived.requests ?_ ?_
    · intro e he
      rcases hreceived.phase with hphase | hphase <;> rw [hphase] at he <;> cases he
    · intro hnot
      have hidle := hreceived.phase.resolve_right hnot
      rw [hidle, hreceived.taken_eq]
      simp
  | failed _ hstill _ hfailed =>
    refine h.of_eq (hfailed.next_request_id.trans hstill.next_request_id)
      (hfailed.started.trans hstill.started) (hfailed.requests.trans hstill.requests) ?_ ?_
    · intro e he
      rcases hfailed.phase with hphase | ⟨hphase, -⟩ <;> rw [hphase] at he <;> cases he
    · intro hnot
      obtain ⟨hidle, hphase⟩ := hfailed.phase.resolve_left hnot
      rw [hstill.phase] at hphase
      rw [hidle, hfailed.taken_eq, hstill.taken_eq]
      exact iff_of_false (by simp) (h.taken_ne_nil hgone hphase)
  | dropped hphase =>
    refine h.of_eq rfl rfl rfl ?_ ?_
    · intro e he
      rcases hphase with ⟨rfl, -⟩ | rfl <;> cases he
    · intro hnot
      obtain ⟨rfl, hgreeted, -⟩ := hphase.resolve_right hnot
      exact iff_of_false (by simp) (h.taken_ne_nil hgone hgreeted)

/-- Two requests with the same number are one. -/
theorem Ordered.eq_of_request_id {c : IpcCaller} (h : Ordered c) {i j : ℕ} {e e' : RequestEnvelope}
    (hi : c.requests[i]? = some e) (hj : c.requests[j]? = some e')
    (heq : e.request_id = e'.request_id) : i = j := by
  have hnodup : (c.requests.map fun e => e.request_id.toNat).Nodup :=
    h.ids.imp fun hlt => Nat.ne_of_lt hlt
  have hlt : i < (c.requests.map fun e => e.request_id.toNat).length := by
    rw [List.length_map]
    exact (List.getElem?_eq_some_iff.1 hi).1
  apply (List.getElem?_inj hlt hnodup).1
  rw [List.getElem?_map, List.getElem?_map, hi, hj, Option.map_some, Option.map_some, heq]

/-- An earlier request has a smaller number. -/
theorem Ordered.request_id_lt {c : IpcCaller} (h : Ordered c) {i j : ℕ} {e e' : RequestEnvelope}
    (hi : c.requests[i]? = some e) (hj : c.requests[j]? = some e') (hlt : i < j) :
    e.request_id.toNat < e'.request_id.toNat := by
  obtain ⟨hi, rfl⟩ := List.getElem?_eq_some_iff.1 hi
  obtain ⟨hj, rfl⟩ := List.getElem?_eq_some_iff.1 hj
  have hsorted := List.pairwise_iff_getElem.1 h.ids i j (by rwa [List.length_map])
    (by rwa [List.length_map]) hlt
  rwa [List.getElem_map, List.getElem_map] at hsorted

/-! ## What calls return -/

/-- The client has sent no `Subscribe`. -/
def Unsubscribed (c : IpcCaller) : Prop := ∀ e ∈ c.requests, e.request ≠ .subscribe

/-- The client has sent nothing behind a `Subscribe`. -/
def SubscribesLast (c : IpcCaller) : Prop :=
  ∀ before e after, c.requests = before ++ e :: after → e.request = .subscribe → after = []

/-- Only a `Subscribe` is answered by a `Subscribe` response. -/
theorem subscribe_of_isSubscribe {results : RuntimeResults} {request : ServiceRequest}
    (h : (server.handleServiceRequest results request).response.isSubscribe = true) :
    request = .subscribe := by
  have hresponse : ∀ {α : Type} {f : α → ServiceResponse} (result : Except RuntimeError α),
      (∀ a, (f a).isSubscribe = false) → (responseOf f result).isSubscribe = false := by
    intro α f result hf
    cases result with
    | ok a => exact hf a
    | error error => rfl
  cases request <;> first
    | rfl
    | cases h
    | exact absurd (hresponse _ fun _ => rfl) (by
        rw [Bool.not_eq_false]
        exact h)

/-- A client that was told of its subscription has sent the request for it. -/
theorem Streams.subscribe_of_told (h : s.Streams server requests codec)
    (hfaithful : s.Faithful requests codec) (hordered : Ordered s.client)
    {before : List ServerEnvelope} (hpre : before <+: s.frames) (htold : Told before) :
    ∃ j e, j < (responses before).length ∧ s.client.requests[j]? = some e ∧
      e.request = .subscribe := by
  obtain ⟨r, hr, hsubscribe⟩ := htold
  obtain ⟨j, hj⟩ := List.mem_iff_getElem?.1 hr
  have hlt := (List.getElem?_eq_some_iff.1 hj).1
  have hresponses : responses before <+: responses s.frames := hpre.filterMap _
  have hj' : (responses s.frames)[j]? = some r := by
    obtain ⟨more, hmore⟩ := hresponses
    rw [← hmore, List.getElem?_append_left hlt, hj]
  obtain ⟨e, he, -, hresults⟩ := h.request_of_response hfaithful hj'
  obtain ⟨-, results, -, -, -, hresponse⟩ :=
    hresults (hordered.sent e (List.mem_of_getElem? he)).1
  rw [hresponse] at hsubscribe
  exact ⟨j, e, hlt, he, subscribe_of_isSubscribe hsubscribe⟩

/-- What `request` makes of a response of its version. -/
theorem requestResult_response {r : ResponseEnvelope} (hversion : r.ipc_version = ipcVersion)
    (request_id : UInt64) : requestResult request_id (.response r) =
      if r.request_id = request_id then .ok r.response
      else .error (mismatchedResponseId request_id r.request_id) := by
  have hcheck : ensureIpcVersion r.ipc_version = .ok () := if_pos hversion
  change (ensureIpcVersion r.ipc_version >>= fun _ => if r.request_id ≠ request_id then
    .error (mismatchedResponseId request_id r.request_id) else .ok r.response) = _
  rw [hcheck]
  by_cases hmatch : r.request_id = request_id
  · rw [if_neg (not_not_intro hmatch), if_pos hmatch]
    rfl
  · rw [if_pos hmatch, if_neg hmatch]
    rfl

/-- A call that succeeds was the one whose response was next, and returns what came of its
request. -/
theorem Streams.own_answer (h : s.Streams server requests codec)
    (hfaithful : s.Faithful requests codec) (hordered : Ordered s.client)
    (htaken : s.Taken codec taken) {frame : ServerEnvelope} (hpre : taken ++ [frame] <+: s.frames)
    {e : RequestEnvelope} (hphase : s.client.phase = .awaiting e) {response : ServiceResponse}
    (hok : requestResult e.request_id frame = .ok response) : OwnAnswer server s e response := by
  cases frame with
  | hello protocol | event version update => cases hok
  | response r =>
    obtain ⟨hversion, e', he', hid, hresults⟩ := h.next_response hfaithful htaken hpre
    rw [requestResult_response hversion] at hok
    split_ifs at hok with hmatch
    cases hok
    obtain ⟨before, hbefore⟩ := h.waiting e (by rw [hphase]; rfl)
    have he : s.client.requests[before.length]? = some e := by
      rw [hbefore, List.getElem?_append_right (le_refl _), Nat.sub_self]
      rfl
    have hsame := hordered.eq_of_request_id he' he (hid.symm.trans hmatch)
    rw [hsame, he] at he'
    cases he'
    exact hresults (hordered.sent e (List.mem_of_getElem? he)).1

/-- How a call can end that was not cancelled, without a subscription: the connection broke, or its
response was next, or the response to an earlier request was. -/
inductive EndsInStep (server : IpcServer) (s : IpcSession) (call : Call) : Prop
  | ioError {text : String} : call.result = .error (.ioError text) → EndsInStep server s call
  | invalidLine : call.result = .error .invalidLine → EndsInStep server s call
  | answered {response : ServiceResponse} : call.stale = 0 → call.result = .ok response →
    OwnAnswer server s call.envelope response → EndsInStep server s call
  | stale {e : RequestEnvelope} : 0 < call.stale → e ∈ s.client.requests →
    e.request_id.toNat < call.envelope.request_id.toNat →
    call.result = .error (mismatchedResponseId call.envelope.request_id e.request_id) →
    EndsInStep server s call

/-- Without a subscription, what comes behind the greeting are responses. -/
theorem Streams.next_is_response (h : s.Streams server requests codec)
    (hfaithful : s.Faithful requests codec) (hordered : Ordered s.client)
    (hunsubscribed : Unsubscribed s.client) (htaken : s.Taken codec taken) {frame : ServerEnvelope}
    (hpre : taken ++ [frame] <+: s.frames) (hne : s.client.taken ≠ []) :
    ∃ r, frame = .response r := by
  cases frame with
  | response r => exact ⟨r, rfl⟩
  | hello protocol =>
    -- There is one greeting, and it comes first.
    obtain ⟨more, hmore⟩ := hpre
    rcases h.written.greets with hnil | ⟨others, hothers, hnot⟩
    · rw [hnil] at hmore
      simp at hmore
    · cases taken with
      | nil =>
        rw [htaken.taken_eq] at hne
        exact absurd rfl hne
      | cons first taken =>
        rw [hothers, List.append_assoc] at hmore
        obtain ⟨-, hrest⟩ := List.cons.inj hmore
        have hhello := hnot (.hello protocol) (hrest ▸ by simp)
        cases hhello
  | event version update =>
    obtain ⟨more, hmore⟩ := hpre
    have htold := h.written.events taken (.event version update) more
      (by rw [← hmore]; simp) rfl
    obtain ⟨j, e, -, he, hsubscribe⟩ :=
      h.subscribe_of_told hfaithful hordered htaken.frames htold
    exact absurd hsubscribe (hunsubscribed e (List.mem_of_getElem? he))

/-- Without a subscription, a call that gets a frame gets its own response or an earlier one. -/
theorem Streams.own_or_stale (h : s.Streams server requests codec)
    (hfaithful : s.Faithful requests codec) (hordered : Ordered s.client)
    (hunsubscribed : Unsubscribed s.client) (htaken : s.Taken codec taken) {frame : ServerEnvelope}
    (hpre : taken ++ [frame] <+: s.frames) {e : RequestEnvelope}
    (hphase : s.client.phase = .awaiting e) :
    (s.client.stale = 0 ∧ ∃ response, requestResult e.request_id frame = .ok response ∧
      OwnAnswer server s e response) ∨
    (0 < s.client.stale ∧ ∃ e' ∈ s.client.requests, e'.request_id.toNat < e.request_id.toNat ∧
      requestResult e.request_id frame =
        .error (mismatchedResponseId e.request_id e'.request_id)) := by
  have hne := hordered.taken_ne_nil (by simp [hphase]) (by simp [hphase])
  obtain ⟨r, rfl⟩ := h.next_is_response hfaithful hordered hunsubscribed htaken hpre hne
  obtain ⟨hversion, e', he', hid, hresults⟩ := h.next_response hfaithful htaken hpre
  obtain ⟨before, hbefore⟩ := h.waiting e (by rw [hphase]; rfl)
  have he : s.client.requests[before.length]? = some e := by
    rw [hbefore, List.getElem?_append_right (le_refl _), Nat.sub_self]
    rfl
  have hlen : s.client.requests.length = before.length + 1 := by rw [hbefore]; simp
  have hlt := (List.getElem?_eq_some_iff.1 he').1
  have hstale : s.client.stale = before.length - s.client.answered := by
    rw [IpcCaller.stale, hlen]
    rfl
  rw [requestResult_response hversion]
  by_cases hnext : s.client.answered = before.length
  · rw [hnext, he] at he'
    cases he'
    have hown := hresults (hordered.sent e (List.mem_of_getElem? he)).1
    exact .inl ⟨by omega, r.response, if_pos hid, hown⟩
  · have hearlier : e'.request_id.toNat < e.request_id.toNat :=
      hordered.request_id_lt he' he (by omega)
    have hother : e'.request_id ≠ e.request_id := by
      intro heq
      rw [heq] at hearlier
      exact Nat.lt_irrefl _ hearlier
    refine .inr ⟨by omega, e', List.mem_of_getElem? he', hearlier, ?_⟩
    rw [hid, if_neg hother]

/-- Whatever comes behind it does not change how a call has ended. -/
theorem EndsInStep.mono {call : Call} (h : EndsInStep server s call)
    (hrequests : s.client.requests <+: s'.client.requests) (hframes : s.frames <+: s'.frames)
    (hkeeps : Keeps s.server s'.server) : EndsInStep server s' call := by
  cases h with
  | ioError hresult => exact .ioError hresult
  | invalidLine hresult => exact .invalidLine hresult
  | answered hstale hresult hown =>
    exact .answered hstale hresult (hown.mono hrequests hframes hkeeps)
  | stale hstale hmem hlt hresult => exact .stale hstale (hrequests.subset hmem) hlt hresult

/-- What a step does to the calls that have returned. -/
theorem log_of_moves {a : Action} {c : IpcCaller} (hmoves : Moves codec s a c) :
    c.log = s.client.log ∨ ∃ call, c.log = s.client.log ++ [call] ∧
      ((a.abandons = true ∧ (call.result = .error .invalidLine ∨
          ∃ text, call.result = .error (.ioError text))) ∨
        ∃ e taken frame, s.client.phase = .awaiting e ∧ s.Taken codec taken ∧
          taken ++ [frame] <+: s.frames ∧
          call = ⟨e, requestResult e.request_id frame, s.client.stale⟩) := by
  cases hmoves with
  | still hstill => exact .inl hstill.log
  | called _ | fed _ | flushed _ | updating _ | dropped _ => exact .inl rfl
  | received htaken hpre _ hreceived =>
    rcases hreceived.log with ⟨e, hphase, hlog⟩ | ⟨-, hlog⟩
    · exact .inr ⟨_, hlog, .inr ⟨e, _, _, hphase, htaken, hpre, rfl⟩⟩
    · exact .inl hlog
  | failed habandons hstill herror hfailed =>
    rcases hfailed.log with hlog | ⟨e, stale, hlog⟩
    · exact .inl (hlog.trans hstill.log)
    · refine .inr ⟨_, hlog.trans (by rw [hstill.log]), .inl ⟨habandons, ?_⟩⟩
      rcases herror with rfl | ⟨text, rfl⟩
      · exact .inl rfl
      · exact .inr ⟨text, rfl⟩

/-- What holds of the calls and the updates in every state. -/
structure Kept (server : IpcServer) (s : IpcSession) : Prop where
  ordered : Ordered s.client
  /-- The client has read the first frames. -/
  taken_eq : ∃ taken, taken <+: s.frames ∧ s.client.taken = taken.map ServerEnvelope.incoming
  /-- The response to the request of a call that waits was not read. -/
  waiting : ∀ e, s.client.phase.waiting? = some e → s.client.answered < s.client.requests.length
  updates : s.client.updates.Sublist (s.client.taken.filterMap IncomingServerEnvelope.update?)
  /-- No update is lost to a call when nothing is sent behind a `Subscribe`. -/
  allUpdates : SubscribesLast s.client →
    s.client.updates = s.client.taken.filterMap IncomingServerEnvelope.update?
  own : ∀ call ∈ s.client.log, ∀ response, call.result = .ok response →
    OwnAnswer server s call.envelope response
  inStep : Unsubscribed s.client → ∀ call ∈ s.client.log, EndsInStep server s call

/-- Where requests are only added, those before are as they were. -/
theorem SubscribesLast.of_prefix {c c' : IpcCaller} (h : SubscribesLast c')
    (hpre : c.requests <+: c'.requests) : SubscribesLast c := by
  intro before e after hsplit hsubscribe
  obtain ⟨more, hmore⟩ := hpre
  have hafter := h before e (after ++ more) (by rw [← hmore, hsplit]; simp) hsubscribe
  exact (List.append_eq_nil_iff.1 hafter).1

/-- An event that a call runs into comes behind a `Subscribe` that is not the last request. -/
theorem Streams.not_subscribesLast (h : s.Streams server requests codec)
    (hfaithful : s.Faithful requests codec) (hkept : Kept server s)
    (htaken : s.Taken codec taken) {version : UInt32} {update : ServiceEvent}
    (hpre : taken ++ [.event version update] <+: s.frames) {e : RequestEnvelope}
    (hphase : s.client.phase = .awaiting e) : ¬SubscribesLast s.client := by
  intro hlast
  obtain ⟨more, hmore⟩ := hpre
  have htold := h.written.events taken (.event version update) more (by rw [← hmore]; simp) rfl
  obtain ⟨j, e', hj, he', hsubscribe⟩ :=
    h.subscribe_of_told hfaithful hkept.ordered htaken.frames htold
  rw [← htaken.answered_eq] at hj
  have hwaiting := hkept.waiting e (by rw [hphase]; rfl)
  obtain ⟨hlt, hget⟩ := List.getElem?_eq_some_iff.1 he'
  have hsplit : s.client.requests =
      s.client.requests.take j ++ e' :: s.client.requests.drop (j + 1) := by
    rw [← hget, List.getElem_cons_drop, List.take_append_drop]
  have hnil := congrArg List.length (hlast _ _ _ hsplit hsubscribe)
  rw [List.length_drop, List.length_nil] at hnil
  omega

/-- `recv_update` returns the event in a frame of its version, and no more. -/
theorem recvUpdate_current {frame : ServerEnvelope} (h : frame.Current) :
    (recvUpdate frame.incoming).toOption.join = frame.incoming.update? := by
  cases frame with
  | hello protocol | response envelope => rfl
  | event version update =>
    obtain rfl : version = ipcVersion := h
    rfl

/-- The updates, behind a frame that was read. -/
theorem Kept.updates_received (hkept : Kept server s) (h : s.Streams server requests codec)
    (hfaithful : s.Faithful requests codec) (htaken : s.Taken codec taken) {frame : ServerEnvelope}
    {rest : List UInt8} {c : IpcCaller} (hpre : taken ++ [frame] <+: s.frames)
    (hreads : IpcCaller.CallerAt.reads s.client.phase = true)
    (hreceived : Received frame rest s.client c) :
    c.updates.Sublist (c.taken.filterMap IncomingServerEnvelope.update?) ∧
      (SubscribesLast s.client → c.updates = c.taken.filterMap IncomingServerEnvelope.update?) := by
  have hcurrent := h.written.current frame (hpre.subset (by simp))
  rw [hreceived.updates, hreceived.taken_eq, List.filterMap_append]
  by_cases hupdating : s.client.phase = .updating
  · rw [if_pos hupdating, recvUpdate_current hcurrent]
    have hsingle : [frame.incoming].filterMap IncomingServerEnvelope.update? =
        frame.incoming.update?.toList := by
      cases frame <;> rfl
    rw [hsingle]
    exact ⟨hkept.updates.append (List.Sublist.refl _), fun hlast => by rw [hkept.allUpdates hlast]⟩
  · rw [if_neg hupdating, List.append_nil]
    refine ⟨hkept.updates.trans (List.sublist_append_left _ _), fun hlast => ?_⟩
    rw [hkept.allUpdates hlast]
    -- A call gets no event here, and neither does the greeting.
    cases frame with
    | hello protocol | response r => exact (List.append_nil _).symm
    | event version update =>
      cases hphase : s.client.phase with
      | awaiting e =>
        exact absurd hlast (h.not_subscribesLast hfaithful hkept htaken hpre hphase)
      | greeting =>
        have hnil := (hkept.ordered.greeted (by simp [hphase])).1 hphase
        rw [htaken.taken_eq, List.map_eq_nil_iff] at hnil
        obtain ⟨more, hmore⟩ := hpre
        rcases h.written.greets with hempty | ⟨others, hothers, -⟩
        · rw [hempty] at hmore
          simp at hmore
        · rw [hnil, hothers] at hmore
          cases hmore
      | updating => exact absurd hphase hupdating
      | _ =>
        rw [hphase] at hreads
        cases hreads

/-- A step that reads nothing keeps what is known of the updates. -/
theorem Kept.updates_of_eq (hkept : Kept server s) {c : IpcCaller}
    (hpre : s.client.requests <+: c.requests) (hupdates : c.updates = s.client.updates)
    (htaken_eq : c.taken = s.client.taken) :
    c.updates.Sublist (c.taken.filterMap IncomingServerEnvelope.update?) ∧
      (SubscribesLast c → c.updates = c.taken.filterMap IncomingServerEnvelope.update?) := by
  rw [hupdates, htaken_eq]
  exact ⟨hkept.updates, fun hlast => hkept.allUpdates (hlast.of_prefix hpre)⟩

/-- Every step keeps what is known of the updates. -/
theorem Kept.updates_moves (hkept : Kept server s) (h : s.Streams server requests codec)
    (hfaithful : s.Faithful requests codec) {a : Action} {c : IpcCaller}
    (hmoves : Moves codec s a c) :
    c.updates.Sublist (c.taken.filterMap IncomingServerEnvelope.update?) ∧
      (SubscribesLast c → c.updates = c.taken.filterMap IncomingServerEnvelope.update?) := by
  cases hmoves with
  | still hstill =>
    exact hkept.updates_of_eq (hstill.requests ▸ List.prefix_refl _) hstill.updates hstill.taken_eq
  | called _ | flushed _ | updating _ | dropped _ =>
    exact hkept.updates_of_eq (List.prefix_refl _) rfl rfl
  | fed _ => exact hkept.updates_of_eq (List.prefix_append _ _) rfl rfl
  | received htaken hpre hreads hreceived =>
    obtain ⟨hsub, hall⟩ := hkept.updates_received h hfaithful htaken hpre hreads hreceived
    refine ⟨hsub, fun hlast => hall (hlast.of_prefix ?_)⟩
    exact ⟨[], by rw [List.append_nil, hreceived.requests]⟩
  | failed _ hstill _ hfailed =>
    refine hkept.updates_of_eq ?_ (hfailed.updates.trans hstill.updates)
      (hfailed.taken_eq.trans hstill.taken_eq)
    exact ⟨[], by rw [List.append_nil, hfailed.requests, hstill.requests]⟩

/-- A call that waits has a request that was not answered to it. -/
theorem Kept.waiting_moves (hkept : Kept server s) (h : s.Streams server requests codec)
    (hfaithful : s.Faithful requests codec) {a : Action} {c : IpcCaller}
    (hmoves : Moves codec s a c) :
    ∀ e, c.phase.waiting? = some e → c.answered < c.requests.length := by
  intro e he
  cases hmoves with
  | still hstill =>
    rw [hstill.phase] at he
    rw [IpcCaller.answered, hstill.taken_eq, hstill.requests]
    exact hkept.waiting e he
  | called _ | updating _ => cases he
  | flushed hphase => exact hkept.waiting e (by rw [hphase]; exact he)
  | fed _ =>
    have hle := h.answered_le hfaithful
    change s.client.answered < (s.client.requests ++ [_]).length
    rw [List.length_append]
    exact Nat.lt_succ_of_le hle
  | received _ _ _ hreceived =>
    rcases hreceived.phase with hphase | hphase <;> rw [hphase] at he <;> cases he
  | failed _ _ _ hfailed =>
    rcases hfailed.phase with hphase | ⟨hphase, -⟩ <;> rw [hphase] at he <;> cases he
  | dropped hphase => rcases hphase with ⟨rfl, -⟩ | rfl <;> cases he

/-- Every step keeps the invariant, while the numbers do not wrap. -/
theorem Kept.next {a : Action} (hkept : Kept server s)
    (h : s.client.phase ≠ .gone → s.Streams server requests codec)
    (hfaithful : s.Faithful requests codec) (hnext : s.next server requests codec a = some s')
    (hbound : s'.client.started + 1 < 2 ^ 64) : Kept server s' := by
  obtain ⟨hgrows, hframes, hkeeps⟩ := grows_of_next hnext
  have hown : ∀ call ∈ s.client.log, ∀ response, call.result = .ok response →
      OwnAnswer server s' call.envelope response := fun call hcall response hok =>
    (hkept.own call hcall response hok).mono hgrows hframes hkeeps
  by_cases hgone : s.client.phase = .gone
  · have hstill := still_of_gone hnext hgone
    have hgone' := hstill.phase.trans hgone
    obtain ⟨hsub, hall⟩ := hkept.updates_of_eq hgrows hstill.updates hstill.taken_eq
    obtain ⟨taken, hpre, htaken_eq⟩ := hkept.taken_eq
    refine ⟨?_, ⟨taken, hpre.trans hframes, hstill.taken_eq.trans htaken_eq⟩, ?_, hsub, hall,
      hstill.log ▸ hown, fun hunsubscribed call hcall => ?_⟩
    · refine hkept.ordered.of_eq hstill.next_request_id hstill.started hstill.requests ?_ ?_
      · intro e he
        rw [hgone'] at he
        cases he
      · exact fun hnot => absurd hgone' hnot
    · intro e he
      rw [hgone'] at he
      cases he
    · rw [hstill.log] at hcall
      exact (hkept.inStep (fun e he => hunsubscribed e (hgrows.subset he)) call hcall).mono hgrows
        hframes hkeeps
  · have hstreams := h hgone
    have hmoves := moves_of_next hstreams hfaithful hnext
    obtain ⟨hsub, hall⟩ := hkept.updates_moves hstreams hfaithful hmoves
    have hlog := log_of_moves hmoves
    obtain ⟨taken, htaken⟩ := (hstreams.next hfaithful hgone hnext).down
    refine ⟨hkept.ordered.moves hgone hmoves hbound, ⟨taken, htaken.frames, htaken.taken_eq⟩,
      hkept.waiting_moves hstreams hfaithful hmoves, hsub, hall, ?_, ?_⟩
    · intro call hcall response hok
      rcases hlog with hlog | ⟨new, hlog, hnew⟩
      · exact hown call (hlog ▸ hcall) response hok
      · rw [hlog] at hcall
        rcases List.mem_append.1 hcall with hcall | hcall
        · exact hown call hcall response hok
        · obtain rfl := List.mem_singleton.1 hcall
          rcases hnew with ⟨-, herror | ⟨text, herror⟩⟩ |
            ⟨e, taken, frame, hphase, htaken, hpre, rfl⟩
          · rw [herror] at hok
            cases hok
          · rw [herror] at hok
            cases hok
          · have hanswer := hstreams.own_answer hfaithful hkept.ordered htaken hpre hphase hok
            exact hanswer.mono hgrows hframes hkeeps
    · intro hunsubscribed call hcall
      have hunsubscribed₀ : Unsubscribed s.client :=
        fun e he => hunsubscribed e (hgrows.subset he)
      rcases hlog with hlog | ⟨new, hlog, hnew⟩
      · exact (hkept.inStep hunsubscribed₀ call (hlog ▸ hcall)).mono hgrows hframes hkeeps
      · rw [hlog] at hcall
        rcases List.mem_append.1 hcall with hcall | hcall
        · exact (hkept.inStep hunsubscribed₀ call hcall).mono hgrows hframes hkeeps
        · obtain rfl := List.mem_singleton.1 hcall
          rcases hnew with ⟨-, herror | ⟨text, herror⟩⟩ |
            ⟨e, taken, frame, hphase, htaken, hpre, rfl⟩
          · exact .invalidLine herror
          · exact .ioError herror
          · rcases hstreams.own_or_stale hfaithful hkept.ordered hunsubscribed₀ htaken hpre hphase
              with ⟨hzero, response, hresult, hanswer⟩ | ⟨hstale, e', he', hlt, hresult⟩
            · exact .answered hzero hresult (hanswer.mono hgrows hframes hkeeps)
            · exact .stale hstale (hgrows.subset he') hlt hresult

/-- How many calls there were only grows. -/
theorem started_le {a : Action} (hnext : s.next server requests codec a = some s') :
    s.client.started ≤ s'.client.started := by
  by_cases hclient : ∃ b, a = .client b
  · obtain ⟨b, rfl⟩ := hclient
    obtain ⟨c, hc, rfl⟩ := Option.map_eq_some_iff.1 hnext
    have hread : ∀ line rest, (s.client.readLine codec line rest).started = s.client.started := by
      intro line rest
      unfold IpcCaller.readLine
      dsimp only
      split
      · split
        · unfold IpcCaller.receiveIncoming
          dsimp only
          split <;> rfl
        · exact (failed_fail _ _).started
      · split
        · unfold IpcCaller.receive
          dsimp only
          split
          · split <;> rfl
          · rfl
          · rfl
        · exact (failed_fail _ _).started
    cases callerStep_of_next hc with
    | call _ => exact Nat.le_succ _
    | read _ _ | readRest _ _ _ _ => exact le_of_eq (hread _ _).symm
    | fails _ => exact le_of_eq (failed_fail _ _).started.symm
    | feed _ | flushed _ | update _ | drops _ => exact le_refl _
  · exact le_of_eq (still_of_next hnext fun b hb => hclient ⟨b, hb⟩).started.symm

/-- The invariant of a connection that was just accepted. -/
theorem kept_accepted : Kept server accepted := by
  refine ⟨⟨rfl, .nil, ?_, ?_, fun _ => ⟨fun _ => rfl, fun _ => rfl⟩⟩,
    ⟨[], List.prefix_refl _, rfl⟩, ?_, List.Sublist.refl _, fun _ => rfl, ?_, fun _ => ?_⟩
  · intro e he
    cases he
  · intro e he
    cases he
  · intro e he
    cases he
  · intro call hcall
    cases hcall
  · intro call hcall
    cases hcall

/-- The invariant holds in every state, as long as the numbers have not wrapped. -/
theorem kept_of_run {trace : List (Action × Unit)}
    (hrun : Run (step server requests codec) accepted trace s)
    (hfaithful : s.Faithful requests codec) (hbound : s.client.started + 1 < 2 ^ 64) :
    Kept server s ∧ (s.client.phase ≠ .gone → s.Streams server requests codec) := by
  refine hrun.invariant (I := fun _ s => s.Faithful requests codec →
    s.client.started + 1 < 2 ^ 64 →
      Kept server s ∧ (s.client.phase ≠ .gone → s.Streams server requests codec)) ?_ ?_
    hfaithful hbound
  · exact fun _ _ => ⟨kept_accepted, fun _ => streams_accepted⟩
  · intro trace s s' a o ih hstep hfaithful hbound
    have hnext := ofOption_eq_ok.1 hstep
    have hfaithful₀ := hfaithful.of_next hnext
    have hle := started_le hnext
    obtain ⟨hkept, hstreams⟩ := ih hfaithful₀ (by omega)
    refine ⟨hkept.next hstreams hfaithful₀ hnext hbound, fun hphase => ?_⟩
    have hphase₀ : s.client.phase ≠ .gone := by
      intro hgone
      exact hphase ((still_of_gone hnext hgone).phase.trans hgone)
    exact (hstreams hphase₀).next hfaithful₀ hphase₀ hnext

/-! ## The results -/

variable (server) in
/-- The method for a request takes the answer to it as one of its kind. -/
theorem check_handleServiceRequest (results : RuntimeResults) (request : ServiceRequest) :
    IpcCaller.check request (server.handleServiceRequest results request).response = .ok () ∨
      ∃ error, (server.handleServiceRequest results request).response = .error error ∧
        IpcCaller.check request (.error error) = .error (.service error) := by
  have hresponse : ∀ {α : Type} {f : α → ServiceResponse} {check : ServiceResponse →
      Except CallError Unit} (result : Except RuntimeError α), (∀ a, check (f a) = .ok ()) →
      (∀ error, check (.error error) = .error (.service error)) →
      check (responseOf f result) = .ok () ∨ ∃ error, responseOf f result = .error error ∧
        check (.error error) = .error (.service error) := by
    intro α f check result hok herror
    cases result with
    | ok a => exact .inl (hok a)
    | error error => exact .inr ⟨_, rfl, herror _⟩
  cases request <;> first
    | exact .inl rfl
    | exact hresponse _ (fun _ => rfl) (fun _ => rfl)

/-- Over every run of a connection, in which any calls are cancelled and the connection breaks
anywhere, a call that returns a response returns the one that the server has sent to its own
request, which is what came of that request for what the runtime has returned to it. The method that
made the call takes it as one of its kind, or as an error of the service. -/
theorem ipc_calls_get_own_answers {trace : List (Action × Unit)}
    (hrun : Run (step server requests codec) accepted trace s)
    (hfaithful : s.Faithful requests codec) (hbound : s.client.started + 1 < 2 ^ 64) :
    ∀ call ∈ s.client.log, ∀ response, call.result = .ok response →
      OwnAnswer server s call.envelope response ∧
      (IpcCaller.check call.envelope.request response = .ok () ∨
        ∃ error, response = .error error ∧
          IpcCaller.check call.envelope.request response = .error (.service error)) := by
  intro call hcall response hok
  have hown := (kept_of_run hrun hfaithful hbound).1.own call hcall response hok
  refine ⟨hown, ?_⟩
  obtain ⟨-, results, -, -, -, rfl⟩ := hown
  rcases check_handleServiceRequest server results call.envelope.request with
    hcheck | ⟨error, hresponse, hcheck⟩
  · exact .inl hcheck
  · exact .inr ⟨error, hresponse, hresponse ▸ hcheck⟩

open SampleCalls SampleClient in
/-- The call for the path of the secret gets its own answer. -/
theorem ipc_calls_get_own_answers_sample :
    ∃ s, Undisturbed SampleClient.server SampleCalls.requests SampleCalls.codec s ∧
      s.Faithful SampleCalls.requests SampleCalls.codec ∧ s.client.started + 1 < 2 ^ 64 ∧
      s.client.log = [⟨getPath, .ok (.secretPath ⟨none⟩), 0⟩] ∧
      OwnAnswer SampleClient.server s getPath (.secretPath ⟨none⟩) ∧
      IpcCaller.check .getSecretPath (.secretPath ⟨none⟩) = .ok () := by
  obtain ⟨s, hundisturbed, -, hframes, hrequests, hstarted, -, hlog, -⟩ := path_returned
  have hfaithful := path_faithful hframes hrequests
  have hbound : s.client.started + 1 < 2 ^ 64 := by
    rw [hstarted]
    decide
  refine ⟨s, hundisturbed, hfaithful, hbound, hlog, ?_⟩
  obtain ⟨trace, hrun, -⟩ := hundisturbed
  obtain ⟨hown, hcheck⟩ := ipc_calls_get_own_answers hrun hfaithful hbound _
    (hlog ▸ List.mem_singleton_self _) _ rfl
  refine ⟨hown, ?_⟩
  rcases hcheck with hok | ⟨error, herror, -⟩
  · exact hok
  · cases herror

/-- The updates of the frames. -/
def updatesOf (frames : List ServerEnvelope) : List ServiceEvent :=
  frames.filterMap fun frame => frame.incoming.update?

/-- Over every run of a connection, the updates that `recv_update` returns are those that the server
has sent, in their order and none twice. If the client has sent nothing behind a `Subscribe`, none
is missing: it has all of them when nothing is left on the way. -/
theorem ipc_updates_in_order {trace : List (Action × Unit)}
    (hrun : Run (step server requests codec) accepted trace s)
    (hfaithful : s.Faithful requests codec) (hbound : s.client.started + 1 < 2 ^ 64) :
    s.client.updates.Sublist (updatesOf s.frames) ∧
    (SubscribesLast s.client →
      s.client.updates <+: updatesOf s.frames ∧
      (s.client.phase ≠ .gone → live s.server.handler = true → s.wire = [] →
        newline ∉ s.client.buffer → s.client.updates = updatesOf s.server.output)) := by
  obtain ⟨hkept, hstreams⟩ := kept_of_run hrun hfaithful hbound
  have hmap : ∀ taken : List ServerEnvelope,
      (taken.map ServerEnvelope.incoming).filterMap IncomingServerEnvelope.update? =
        updatesOf taken := by
    intro taken
    rw [List.filterMap_map]
    rfl
  obtain ⟨taken, hpre, htaken_eq⟩ := hkept.taken_eq
  have hupdates : updatesOf taken <+: updatesOf s.frames := hpre.filterMap _
  refine ⟨?_, fun hlast => ⟨?_, fun hphase hlive hwire hbuffer => ?_⟩⟩
  · have hsub := hkept.updates
    rw [htaken_eq, hmap] at hsub
    exact hsub.trans hupdates.sublist
  · rw [hkept.allUpdates hlast, htaken_eq, hmap]
    exact hupdates
  · have hstreams := hstreams hphase
    obtain ⟨taken, htaken⟩ := hstreams.down
    rw [hkept.allUpdates hlast, htaken.taken_eq, hmap]
    rcases htaken.stream with ⟨hpre, hstream, -⟩ | ⟨-, -, -, hended⟩
    · rw [hwire, List.append_nil] at hstream
      have houtput := hstreams.written.output_prefix
      obtain ⟨hmap, -⟩ := eq_of_unlines_append (hfaithful.plain_frames htaken.frames.subset)
        (hfaithful.plain_frames houtput.subset) hbuffer
        (hstreams.written.plain_rest hfaithful) hstream
      have hlen := congrArg List.length hmap
      rw [List.length_map, List.length_map] at hlen
      rw [hpre.eq_of_length hlen]
    · rw [hlive] at hended
      cases hended

open SampleCalls SampleClient in
/-- The client gets the event that was sent. -/
theorem ipc_updates_in_order_sample :
    ∃ s, Undisturbed SampleClient.server SampleCalls.requests SampleCalls.codec s ∧
      s.Faithful SampleCalls.requests SampleCalls.codec ∧ s.client.started + 1 < 2 ^ 64 ∧
      SubscribesLast s.client ∧ s.client.updates = [event] ∧
      s.client.updates = updatesOf s.server.output := by
  obtain ⟨s, hundisturbed, hrests, hframes, hrequests, hstarted, hupdates⟩ := event_returned
  have hfaithful := event_faithful hframes hrequests
  have hbound : s.client.started + 1 < 2 ^ 64 := by
    rw [hstarted]
    decide
  have hlast : SubscribesLast s.client := by
    intro before e after hsplit hsubscribe
    rw [hrequests] at hsplit
    rcases before with _ | ⟨first, _ | ⟨second, more⟩⟩
    · obtain ⟨rfl, -⟩ := List.cons.inj hsplit
      cases hsubscribe
    · exact ((List.cons.inj (List.cons.inj hsplit).2).2).symm
    · have hnil := (List.cons.inj (List.cons.inj hsplit).2).2
      simp at hnil
  refine ⟨s, hundisturbed, hfaithful, hbound, hlast, hupdates, ?_⟩
  obtain ⟨trace, hrun, -⟩ := hundisturbed
  refine ((ipc_updates_in_order hrun hfaithful hbound).2 hlast).2 ?_ ?_ hrests.wire ?_
  · rw [hrests.phase]
    decide
  · rw [hrests.handler]
    rfl
  · rw [hrests.buffer]
    exact List.not_mem_nil

end

end IpcSession

end PlayitAgent
