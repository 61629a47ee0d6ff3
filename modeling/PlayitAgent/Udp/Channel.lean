import PlayitAgent.Proto.ControlFeed
import PlayitAgent.Proto.Footer
import PlayitAgent.Udp.Packets

/-!
# The channel to the tunnel server

The two tasks of `agent_core/src/network/udp/udp_channel.rs`. `SendTask.send` appends the footer of
a flow to a packet and sends it to the session's tunnel address; `RecvTask.step` is one turn of the
loop that receives datagrams from there and cuts their footers off. Which error counter a turn
increments is part of its outcome.
-/

namespace PlayitAgent

/-- What `SendTask::send` does with a packet. -/
inductive SendOutcome where
  /-- There is no session. -/
  | noSessionSendFail
  /-- The footer does not fit behind the packet. -/
  | tailAppendFail
  /-- The datagram is handed to the socket. -/
  | sent (datagram : List UInt8) (addr : SocketAddr)
  deriving DecidableEq

/-- `SendTask::send`. -/
def SendTask.send (session : Option UdpChannelDetails) (flow : UdpFlow) (packet : Packet) :
    Except Failure SendOutcome := do
  let some session := session | return .noSessionSendFail
  let og_len := packet.len
  let remaining := packet.buffer.drop og_len
  let (written, remaining') ← flow.writeTo remaining
  if !written then return .tailAppendFail
  if h : og_len + remaining'.length = packetLen then
    match (packet.overwrite og_len remaining' h).setLen (og_len + flow.footerLen) with
    | .ok packet => return .sent packet.asRef session.tunnel_addr
    | .error _ => throw (.panic .unwrap)
  else
    -- A slice keeps its length, so `writeTo` cannot end here.
    throw (.panic .index)

/-- What one turn of the receive loop comes to. -/
inductive RecvOutcome where
  /-- The socket failed. -/
  | recvIoError
  /-- There is no session. -/
  | recvWithNoSession
  /-- The datagram is not from the session's tunnel address. -/
  | recvSourceNoMatch
  /-- The tunnel server has accepted the session's token. -/
  | established
  /-- The datagram ends in no footer, or in one that is cut off. -/
  | recvTooSmall
  /-- The datagram ends in an unknown id. -/
  | recvInvalidFooterId
  /-- A packet of a flow is passed on. -/
  | received (flow : UdpFlow) (packet : Packet)

/-- What the receive loop meets in one turn. -/
structure RecvEvent where
  /-- The datagram and its source, or `none` when the socket failed. -/
  datagram : Option (List UInt8 × SocketAddr)
  /-- The tunnel address of the session. -/
  session_tunnel_addr : Option SocketAddr
  /-- The buffer that `allocate_wait` returns after the current one is passed on. -/
  next : Packet

/-- One turn of the loop of `RecvTask::start`: the buffer for the next turn, and the outcome. -/
def RecvTask.step (packet : Packet) (event : RecvEvent) :
    Except Failure (Packet × RecvOutcome) := do
  let some (datagram, source) := event.datagram | return (packet, .recvIoError)
  let packet := packet.receive datagram
  let bytes := min datagram.length packetLen
  let some session_addr := event.session_tunnel_addr | return (packet, .recvWithNoSession)
  if session_addr ≠ source then return (packet, .recvSourceNoMatch)
  let .ok packet := packet.setLen bytes | throw (.panic .unwrap)
  match ← UdpFlow.fromTail packet.asRef with
  | .ok flow =>
    if bytes < flow.footerLen then throw (.panic .overflow)
    let .ok packet := packet.setLen (bytes - flow.footerLen) | throw (.panic .unwrap)
    return (event.next, .received flow packet)
  | .error (some footer) =>
    if footer = udpChannelEstablishId then return (packet, .established)
    return (packet, .recvInvalidFooterId)
  | .error none => return (packet, .recvTooSmall)

/-- The loop of `RecvTask::start` over a list of turns: their outcomes, in order. -/
def RecvTask.start (packet : Packet) : List RecvEvent → Except Failure (List RecvOutcome)
  | [] => return []
  | event :: events => do
    let (packet, outcome) ← RecvTask.step packet event
    return outcome :: (← RecvTask.start packet events)

namespace UdpFlow

/-- `send` drops a packet whose footer does not fit. -/
theorem send_of_lt (session : UdpChannelDetails) {flow : UdpFlow} {packet : Packet}
    (h : packetLen < packet.len + flow.footerLen) :
    SendTask.send (some session) flow packet = .ok .tailAppendFail := by
  have hbuf := packet.length_buffer
  have hle := packet.len_le
  have hrem : (packet.buffer.drop packet.len).length < flow.footerLen := by
    rw [List.length_drop]
    omega
  simp only [SendTask.send, writeTo_of_lt flow hrem, ok_bind]
  rfl

/-- `send` sends the packet's bytes followed by the footer. -/
theorem send_of_le (session : UdpChannelDetails) {flow : UdpFlow} {packet : Packet}
    (h : packet.len + flow.footerLen ≤ packetLen) :
    SendTask.send (some session) flow packet =
      .ok (.sent (packet.asRef ++ flow.footer) session.tunnel_addr) := by
  have hbuf := packet.length_buffer
  have hfooter := length_footer flow
  have hrem : flow.footerLen ≤ (packet.buffer.drop packet.len).length := by
    rw [List.length_drop]
    omega
  have hlen : packet.len + (flow.footer ++
      (packet.buffer.drop packet.len).drop flow.footerLen).length = packetLen := by
    simp only [List.length_append, List.length_drop]
    omega
  simp only [SendTask.send, writeTo_of_le flow hrem, ok_bind]
  rw [dif_pos hlen, Packet.setLen_of_le _ h]
  -- What is in use of the new buffer is the old packet and the footer.
  have hasRef : (packet.asRef ++ (flow.footer ++
      (packet.buffer.drop packet.len).drop flow.footerLen)).take
        (packet.len + flow.footerLen) = packet.asRef ++ flow.footer := by
    rw [← List.append_assoc]
    exact List.take_left' (by simp [hfooter])
  exact congrArg (fun d => Except.ok (SendOutcome.sent d session.tunnel_addr)) hasRef

/-- A buffer that a datagram was received into, cut to the datagram's length, is the datagram. -/
theorem asRef_receive (packet : Packet) (datagram : List UInt8)
    (h : min datagram.length packetLen ≤ packetLen) :
    Packet.asRef { packet.receive datagram with
      len := min datagram.length packetLen, len_le := h } = datagram.take packetLen := by
  rw [Packet.asRef]
  exact List.take_left' (by simp [Nat.min_comm])

/-- One turn of the receive loop on a datagram from the session's tunnel address. -/
theorem step_from_session (packet next : Packet) (datagram : List UInt8) (addr : SocketAddr) :
    ∃ packet' : Packet, packet'.asRef = datagram.take packetLen ∧
      packet'.len = min datagram.length packetLen ∧
      RecvTask.step packet ⟨some (datagram, addr), some addr, next⟩ =
        (do
          match ← fromTail (datagram.take packetLen) with
          | .ok flow =>
            if min datagram.length packetLen < flow.footerLen then throw (.panic .overflow)
            let .ok packet := packet'.setLen (min datagram.length packetLen - flow.footerLen)
              | throw (.panic .unwrap)
            return (next, .received flow packet)
          | .error (some footer) =>
            if footer = udpChannelEstablishId then return (packet', .established)
            return (packet', .recvInvalidFooterId)
          | .error none => return (packet', .recvTooSmall)) := by
  have hle : min datagram.length packetLen ≤ packetLen := Nat.min_le_right _ _
  refine ⟨_, asRef_receive packet datagram hle, rfl, ?_⟩
  simp only [RecvTask.step, ne_eq, not_true_eq_false, if_false]
  rw [Packet.setLen_of_le _ hle]
  simp only [asRef_receive packet datagram hle]

/-- A flow that `from_tail` finds has its footer in the datagram. -/
theorem footerLen_le_of_fromTail {b : List UInt8} {f : UdpFlow} (h : fromTail b = .ok (.ok f)) :
    f.footerLen ≤ b.length :=
  (endsIn_of_fromTail h).2.1

/-- A turn of the receive loop never panics. -/
theorem recvTask_step_ok (packet : Packet) (event : RecvEvent) :
    ∃ r, RecvTask.step packet event = .ok r := by
  rcases event with ⟨_ | ⟨datagram, source⟩, session, next⟩
  · exact ⟨_, rfl⟩
  cases session with
  | none => exact ⟨_, rfl⟩
  | some addr =>
    by_cases hsrc : addr = source
    · subst hsrc
      obtain ⟨packet', -, -, hstep⟩ := step_from_session packet next datagram addr
      obtain ⟨r, hr, -⟩ := fromTail_tail (datagram.take packetLen)
      rw [hstep, hr, ok_bind]
      rcases r with (_ | footer) | flow
      · exact ⟨_, rfl⟩
      · dsimp only
        split_ifs
        · exact ⟨_, rfl⟩
        · exact ⟨_, rfl⟩
      · -- The footer was found in what was received, so it is no longer than that.
        have hlen := footerLen_le_of_fromTail hr
        rw [List.length_take] at hlen
        dsimp only
        rw [if_neg (by omega), Packet.setLen_of_le _ (by omega)]
        exact ⟨_, rfl⟩
    · refine ⟨(packet.receive datagram, .recvSourceNoMatch), ?_⟩
      simp [RecvTask.step, hsrc]
      rfl

/-- The receive loop never panics: it comes to one outcome for each turn. -/
theorem recvTask_start_ok (packet : Packet) (events : List RecvEvent) :
    ∃ outcomes, RecvTask.start packet events = .ok outcomes ∧
      outcomes.length = events.length := by
  induction events generalizing packet with
  | nil => exact ⟨[], rfl, rfl⟩
  | cons event events ih =>
    obtain ⟨⟨packet', outcome⟩, hstep⟩ := recvTask_step_ok packet event
    obtain ⟨outcomes, hrest, hlen⟩ := ih packet'
    refine ⟨outcome :: outcomes, ?_, by simp [hlen]⟩
    simp only [RecvTask.start, hstep, ok_bind, hrest]
    rfl

/-- The receive loop recovers the flow and the payload from a datagram that ends in a footer. -/
theorem step_append_footer (packet next : Packet) {payload : List UInt8} {flow : UdpFlow}
    (hf : ¬flow.Unencodable) (addr : SocketAddr)
    (hlen : payload.length + flow.footerLen ≤ packetLen) :
    ∃ packet' : Packet, packet'.asRef = payload ∧
      RecvTask.step packet ⟨some (payload ++ flow.footer, addr), some addr, next⟩ =
        .ok (next, .received flow packet') := by
  have hfooter := length_footer flow
  have hlen' : (payload ++ flow.footer).length = payload.length + flow.footerLen := by
    rw [List.length_append, hfooter]
  obtain ⟨packet', hasRef, -, hstep⟩ :=
    step_from_session packet next (payload ++ flow.footer) addr
  have hwhole : (payload ++ flow.footer).take packetLen = payload ++ flow.footer :=
    List.take_of_length_le (by omega)
  have hbytes : min (payload ++ flow.footer).length packetLen =
      payload.length + flow.footerLen := by omega
  rw [hwhole, fromTail_append_footer payload hf, ok_bind] at hstep
  simp only [hbytes] at hstep
  rw [if_neg (by omega), Packet.setLen_of_le _ (by omega)] at hstep
  refine ⟨_, ?_, hstep⟩
  -- What is left in use is the payload.
  have hcut : packet'.buffer.take payload.length = payload := by
    have hle : payload.length ≤ packet'.len := by
      rw [← Packet.length_asRef, hasRef, hwhole, hlen']
      omega
    rw [← List.take_append_drop packet'.len packet'.buffer, List.take_append_of_le_length]
    · change packet'.asRef.take payload.length = payload
      rw [hasRef, hwhole]
      exact List.take_left' rfl
    · rw [← Packet.asRef, Packet.length_asRef]
      exact hle
  simpa [Packet.asRef] using hcut

/-- The footer codec is exact on every flow but an IPv4 fragment without an extension. The footer is
some `w` of length `footerLen`; `write_to` puts it over the front of a slice that is long enough and
leaves a shorter one alone, and `from_tail` reads it back behind any payload. So the receive loop
recovers what was given to `send`, which sends every packet whose footer fits and drops the
others. -/
theorem footer_codec_exact (f : UdpFlow) (hf : ¬f.Unencodable) :
    ∃ w : List UInt8, w.length = f.footerLen ∧
      (∀ slice : List UInt8, f.footerLen ≤ slice.length →
        f.writeTo slice = .ok (true, w ++ slice.drop f.footerLen)) ∧
      (∀ slice : List UInt8, slice.length < f.footerLen → f.writeTo slice = .ok (false, slice)) ∧
      (∀ p : List UInt8, fromTail (p ++ w) = .ok (.ok f)) ∧
      (∀ (session : UdpChannelDetails) (packet : Packet), packet.len + f.footerLen ≤ packetLen →
        ∃ d : List UInt8,
          SendTask.send (some session) f packet = .ok (.sent d session.tunnel_addr) ∧
          ∀ buffer next : Packet, ∃ packet' : Packet, packet'.asRef = packet.asRef ∧
            RecvTask.step buffer
              ⟨some (d, session.tunnel_addr), some session.tunnel_addr, next⟩ =
                .ok (next, .received f packet')) ∧
      (∀ (session : UdpChannelDetails) (packet : Packet), packetLen < packet.len + f.footerLen →
        SendTask.send (some session) f packet = .ok .tailAppendFail) := by
  refine ⟨f.footer, length_footer f, fun _ h => writeTo_of_le f h, fun _ h => writeTo_of_lt f h,
    fun p => fromTail_append_footer p hf, ?_, fun session packet h => send_of_lt session h⟩
  intro session packet h
  refine ⟨packet.asRef ++ f.footer, send_of_le session h, ?_⟩
  intro buffer next
  exact step_append_footer buffer next hf session.tunnel_addr (by rw [Packet.length_asRef]; exact h)

/-- A flow with a fragment and an extension is one of them. -/
theorem footer_codec_exact_fragment :
    ∃ w : List UInt8, w.length = 43 ∧ ∀ p : List UInt8,
      fromTail (p ++ w) = .ok (.ok (v4 ⟨0x04020103, 1234⟩ ⟨0x01020304, 5512⟩
        (some ⟨⟨7, by decide⟩, 185, true⟩) (some ⟨⟨12, by decide⟩, ⟨123, by decide⟩, 3⟩))) := by
  obtain ⟨w, hlen, -, -, hread, -⟩ := footer_codec_exact (v4 ⟨0x04020103, 1234⟩ ⟨0x01020304, 5512⟩
    (some ⟨⟨7, by decide⟩, 185, true⟩) (some ⟨⟨12, by decide⟩, ⟨123, by decide⟩, 3⟩)) id
  exact ⟨w, hlen, hread⟩

/-- `from_tail` on any byte string. It never panics. It returns a flow exactly when the string ends
in what `write_to` makes of that flow, up to `normalise`, and then the footer is no longer than the
string; an error carries the last eight bytes exactly when they are an id that ends no footer, such
as that of an accepted token; and a string that ends in neither is an error without an id. So no
turn of the receive loop panics. -/
theorem fromTail_exact (b : List UInt8) :
    ∃ r, fromTail b = .ok r ∧
      (∀ f, r = .ok f → f.footerLen ≤ b.length ∧
        ∀ slice : List UInt8, slice.length = f.footerLen →
          f.writeTo slice = .ok (true, f.normalise (b.drop (b.length - f.footerLen)))) ∧
      (∀ id, r = .error (some id) ↔
        8 ≤ b.length ∧ b.drop (b.length - 8) = be id ∧ id ∉ footerIds) ∧
      (∀ f, r = .ok f ↔ EndsIn b f) ∧
      (r = .error none ↔ (∀ f, ¬EndsIn b f) ∧
        ¬∃ id, 8 ≤ b.length ∧ b.drop (b.length - 8) = be id ∧ id ∉ footerIds) ∧
      (8 ≤ b.length → b.drop (b.length - 8) = be udpChannelEstablishId →
        r = .error (some udpChannelEstablishId)) ∧
      ∀ (packet : Packet) (events : List RecvEvent),
        ∃ outcomes, RecvTask.start packet events = .ok outcomes := by
  obtain ⟨r, hr, ht⟩ := fromTail_tail b
  have hok (f : UdpFlow) : r = .ok f ↔ EndsIn b f := by
    constructor
    · rintro rfl
      exact endsIn_of_fromTail hr
    · intro hends
      exact Except.ok.inj (hr.symm.trans (fromTail_of_endsIn hends))
  refine ⟨r, hr, ?_, ht.error_some_iff, hok, ?_, ?_, ?_⟩
  · intro f hf
    exact ((hok f).1 hf).2
  · rcases r with (_ | id) | f
    · refine iff_of_true rfl ⟨fun f hends => ?_, ?_⟩
      · cases (hok f).2 hends
      · rintro ⟨id, h⟩
        cases (ht.error_some_iff id).2 h
    · refine iff_of_false (by simp) fun h => ?_
      exact h.2 ⟨id, (ht.error_some_iff id).1 rfl⟩
    · refine iff_of_false (by simp) fun h => ?_
      exact h.1 f ((hok f).1 rfl)
  · intro h8 hid
    exact (ht.error_some_iff _).2 ⟨h8, hid, by decide⟩
  · intro packet events
    obtain ⟨outcomes, h, -⟩ := recvTask_start_ok packet events
    exact ⟨outcomes, h⟩

end UdpFlow

end PlayitAgent
