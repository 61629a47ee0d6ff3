import PlayitAgent.Udp.ChannelTasks

/-!
# What the channel to the tunnel server relays

What the tasks of a `UdpChannel` come to, said without them. The receiving task passes on the flow
and the payload of every datagram that came from the session's tunnel address and ends in a footer,
in order. The sending task is a machine that takes one input after the other, a session, a timer or
a packet, and sends what the session at that time makes of it. Both hold in every order of the
tasks' steps, and `Relays` puts them together for a run.
-/

namespace PlayitAgent

/-! ## Arrivals -/

/-- A packet of a flow, as its bytes. -/
def payload (p : UdpFlow × Packet) : UdpFlow × List UInt8 := (p.1, p.2.asRef)

namespace Arrival

/-- The flow and the payload that the receiving task passes on, if it does. -/
def accepted (a : Arrival) : Option (UdpFlow × List UInt8) :=
  if a.session_tunnel_addr = some a.source then
    match UdpFlow.fromTail (a.datagram.take packetLen) with
    | .ok (.ok flow) => some (flow, (a.datagram.take packetLen).take
        (min a.datagram.length packetLen - flow.footerLen))
    | _ => none
  else none

/-- An arrival that is accepted came from the session's tunnel address. -/
theorem source_of_accepted {a : Arrival} {p : UdpFlow × List UInt8} (h : a.accepted = some p) :
    a.session_tunnel_addr = some a.source := by
  unfold accepted at h
  split at h
  · assumption
  · cases h

end Arrival

/-- What the outcome of a turn passes on. -/
def RecvOutcome.passed : RecvOutcome → Option (UdpFlow × List UInt8)
  | .received flow packet => some (flow, packet.asRef)
  | _ => none

/-- A packet that is cut shorter has the first bytes of what it had. -/
theorem Packet.asRef_shorter (packet : Packet) (len : ℕ) (h : len ≤ packet.len)
    (hle : len ≤ packetLen) :
    Packet.asRef { packet with len, len_le := hle } = packet.asRef.take len := by
  rw [Packet.asRef, Packet.asRef, List.take_take, Nat.min_eq_left h]

/-- A turn of the receive loop passes on what is accepted of the arrival. -/
theorem recvTask_step_passed (packet : Packet) (datagram : List UInt8) (source : SocketAddr)
    (addr : Option SocketAddr) :
    ∃ packet' outcome, RecvTask.step packet ⟨some (datagram, source), addr, packet⟩ =
      .ok (packet', outcome) ∧ outcome.passed = Arrival.accepted ⟨datagram, source, addr⟩ := by
  cases addr with
  | none => exact ⟨_, _, rfl, rfl⟩
  | some addr =>
    by_cases hsource : addr = source
    · subst hsource
      obtain ⟨packet', hasRef, hlen, hstep⟩ :=
        UdpFlow.step_from_session packet packet datagram addr
      obtain ⟨r, hr, -⟩ := UdpFlow.fromTail_tail (datagram.take packetLen)
      rw [hstep, hr, ok_bind]
      unfold Arrival.accepted
      rw [if_pos rfl, hr]
      rcases r with (_ | footer) | flow
      · exact ⟨_, _, rfl, rfl⟩
      · dsimp only
        split_ifs
        · exact ⟨_, _, rfl, rfl⟩
        · exact ⟨_, _, rfl, rfl⟩
      · have hfooter := UdpFlow.footerLen_le_of_fromTail hr
        rw [List.length_take] at hfooter
        dsimp only
        rw [if_neg (by omega), Packet.setLen_of_le _ (by omega)]
        refine ⟨_, _, rfl, ?_⟩
        -- The footer is cut off what was received.
        have hcut := packet'.asRef_shorter
          (min datagram.length packetLen - flow.footerLen) (by omega) (by omega)
        rw [RecvOutcome.passed, hcut, hasRef]
    · refine ⟨packet.receive datagram, .recvSourceNoMatch, ?_, ?_⟩
      · simp [RecvTask.step, hsource]
        rfl
      · unfold Arrival.accepted
        rw [if_neg (fun h => hsource (Option.some.inj h))]
        rfl

/-! ## The machine behind the sending task -/

namespace SendEvent

/-- The session after an event. -/
def after (session : Option UdpChannelDetails) : SendEvent → Option UdpChannelDetails
  | .session details => some details
  | _ => session

/-- What is sent for an event, and where to. -/
def emits (session : Option UdpChannelDetails) : SendEvent → List (List UInt8 × SocketAddr)
  | .session _ => []
  | .establish => match session with
    | none => []
    | some session => [(session.token, session.tunnel_addr)]
  | .packet flow p => match session with
    | none => []
    | some session =>
      if p.len + flow.footerLen ≤ packetLen then
        [(p.asRef ++ flow.footer, session.tunnel_addr)]
      else []

/-- The session that was taken over. -/
def session? : SendEvent → Option UdpChannelDetails
  | .session details => some details
  | _ => none

/-- The packet that was to be sent. -/
def packet? : SendEvent → Option (UdpFlow × Packet)
  | .packet flow p => some (flow, p)
  | _ => none

end SendEvent

/-- The session after some events, and what was sent for them. -/
def replay (events : List SendEvent) :
    Option UdpChannelDetails × List (List UInt8 × SocketAddr) :=
  events.foldl (fun acc event => (event.after acc.1, acc.2 ++ event.emits acc.1)) (none, [])

/-- The sessions that were taken over. -/
def sessions (events : List SendEvent) : List UdpChannelDetails := events.filterMap (·.session?)

/-- The packets that were to be sent. -/
def packets (events : List SendEvent) : List (UdpFlow × Packet) := events.filterMap (·.packet?)

section
variable {events : List SendEvent}

/-- One more event. -/
theorem replay_snoc (events : List SendEvent) (event : SendEvent) :
    replay (events ++ [event]) =
      (event.after (replay events).1, (replay events).2 ++ event.emits (replay events).1) := by
  rw [replay, List.foldl_append]
  rfl

/-- One more session is taken over. -/
@[simp]
theorem sessions_snoc (events : List SendEvent) (event : SendEvent) :
    sessions (events ++ [event]) = sessions events ++ event.session?.toList :=
  filterMap_snoc _ events event

/-- One more packet is sent. -/
@[simp]
theorem packets_snoc (events : List SendEvent) (event : SendEvent) :
    packets (events ++ [event]) = packets events ++ event.packet?.toList :=
  filterMap_snoc _ events event

/-- The session is the one that was taken over last. -/
theorem replay_session (events : List SendEvent) :
    (replay events).1 = (sessions events).getLast? := by
  induction events using List.reverseRecOn with
  | nil => rfl
  | append_singleton events event ih =>
    rw [replay_snoc, sessions_snoc]
    cases event with
    | session details => simp [SendEvent.after, SendEvent.session?]
    | establish => simpa [SendEvent.after, SendEvent.session?] using ih
    | packet flow packet => simpa [SendEvent.after, SendEvent.session?] using ih

/-- What is sent is the token of a session, or a packet with its footer, and it goes to the tunnel
address of a session. -/
theorem mem_replay {d : List UInt8 × SocketAddr} (h : d ∈ (replay events).2) :
    ∃ session ∈ sessions events, d.2 = session.tunnel_addr ∧ (d.1 = session.token ∨
      ∃ p ∈ packets events, d.1 = p.2.asRef ++ p.1.footer) := by
  induction events using List.reverseRecOn with
  | nil => cases h
  | append_singleton events event ih =>
    rw [replay_snoc, List.mem_append] at h
    rcases h with h | h
    · obtain ⟨session, hsession, haddr, hbytes⟩ := ih h
      refine ⟨session, by simp [hsession], haddr, ?_⟩
      rcases hbytes with htoken | ⟨p, hp, hbytes⟩
      · exact .inl htoken
      · exact .inr ⟨p, by simp [hp], hbytes⟩
    · -- The event itself sends, with the session that was taken over last.
      have hlast : ∀ session, (replay events).1 = some session → session ∈ sessions events := by
        intro session hsome
        rw [replay_session] at hsome
        exact List.mem_of_getLast? hsome
      cases event with
      | session details => cases h
      | establish =>
        simp only [SendEvent.emits] at h
        split at h
        · cases h
        · next session hsome =>
          rw [List.mem_singleton] at h
          subst h
          exact ⟨session, by simp [hlast session hsome], rfl, .inl rfl⟩
      | packet flow packet =>
        simp only [SendEvent.emits] at h
        split at h
        · cases h
        · next session hsome =>
          split at h
          · rw [List.mem_singleton] at h
            subst h
            refine ⟨session, by simp [hlast session hsome], rfl, .inr ⟨(flow, packet), ?_, rfl⟩⟩
            simp [SendEvent.packet?]
          · cases h

end

/-! ## Along the runs -/

/-- The session that the sending task has in hand. -/
def SendAt.sessions : SendAt → List UdpChannelDetails
  | .handling details => [details]
  | .publishing details _ => [details]
  | _ => []

/-- The packet that the sending task has in hand. -/
def SendAt.packets : SendAt → List (UdpFlow × Packet)
  | .sending flow packet => [(flow, packet)]
  | _ => []

/-- The packet that the receiving task has in hand. -/
def RecvAt.packets : RecvAt → List (UdpFlow × Packet)
  | .passing flow packet => [(flow, packet)]
  | _ => []

namespace UdpChannel

variable {c c' : UdpChannel} {a : Action}

/-- The sending task is the machine: it was given the sessions and packets that it has received but
for the one in hand, and the receiving task knows the address of its session. -/
structure SendsInOrder (c : UdpChannel) : Prop where
  replay_eq : replay c.events = (c.send_task.session, c.datagrams)
  sessions_eq : PlayitAgent.sessions c.events ++ c.send_task.place.sessions = c.session.received
  packets_eq : PlayitAgent.packets c.events ++ c.send_task.place.packets = c.send.received
  addr_eq : c.shared.session_tunnel_addr = c.send_task.session.map (·.tunnel_addr)
  not_panicked : c.send_task.place ≠ .panicked
  dropped_of_ended : c.send_task.place = .ended → c.dropped = true

/-- What the task has in hand, by its place. -/
theorem SendsInOrder.inHand (h : c.SendsInOrder) {place : SendAt}
    (hplace : c.send_task.place = place) :
    PlayitAgent.sessions c.events ++ place.sessions = c.session.received ∧
      PlayitAgent.packets c.events ++ place.packets = c.send.received := by
  subst hplace
  exact ⟨h.sessions_eq, h.packets_eq⟩

/-- The task goes on with nothing in hand, as before. -/
theorem SendsInOrder.sendAt (h : c.SendsInOrder) {place place' : SendAt}
    (hplace : c.send_task.place = place) (hsessions : place'.sessions = place.sessions)
    (hpackets : place'.packets = place.packets) (hpanicked : place' ≠ .panicked)
    (hended : place' = .ended → c.dropped = true) : (c.sendAt place').SendsInOrder := by
  obtain ⟨hs, hp⟩ := h.inHand hplace
  exact ⟨h.replay_eq, (congrArg _ hsessions).trans hs, (congrArg _ hpackets).trans hp, h.addr_eq,
    hpanicked, hended⟩

/-- `send_establish` sends what the machine sends on a timer. -/
theorem sendEstablish_eq (c : UdpChannel) (now : UInt64) :
    ∃ shared, shared.session_tunnel_addr = c.shared.session_tunnel_addr ∧
      c.sendEstablish now = { c.sendAt .looking with
        shared
        datagrams := c.datagrams ++ SendEvent.establish.emits c.send_task.session
        events := c.events ++ [.establish] } := by
  unfold sendEstablish
  cases hsession : c.send_task.session with
  | none => exact ⟨c.shared, rfl, by simp [SendEvent.emits, sendAt]⟩
  | some session => exact ⟨{ c.shared with establish_tx_epoch := now }, rfl, rfl⟩

/-- `send_establish` is one input to the machine. -/
theorem SendsInOrder.sendEstablish (h : c.SendsInOrder) (now : UInt64)
    (hplace : c.send_task.place = .establishing) : (c.sendEstablish now).SendsInOrder := by
  obtain ⟨hs, hp⟩ := h.inHand hplace
  have hreplay := replay_snoc c.events .establish
  rw [h.replay_eq] at hreplay
  obtain ⟨shared, haddr, heq⟩ := c.sendEstablish_eq now
  rw [heq]
  refine ⟨hreplay, ?_, ?_, haddr.trans h.addr_eq, by simp [UdpChannel.sendAt],
    by simp [UdpChannel.sendAt]⟩
  · simpa [SendEvent.session?, UdpChannel.sendAt, SendAt.sessions] using hs
  · simpa [SendEvent.packet?, UdpChannel.sendAt, SendAt.packets] using hp

/-- `send` sends what the machine sends for a packet. -/
theorem sendPacket_eq (c : UdpChannel) (flow : UdpFlow) (packet : Packet) :
    c.sendPacket flow packet = { c.sendAt .looking with
      datagrams := c.datagrams ++ (SendEvent.packet flow packet).emits c.send_task.session
      events := c.events ++ [.packet flow packet] } := by
  unfold sendPacket
  cases hsession : c.send_task.session with
  | none =>
    have hsend : SendTask.send none flow packet = .ok .noSessionSendFail := rfl
    simp [hsend, SendEvent.emits]
  | some session =>
    by_cases hle : packet.len + flow.footerLen ≤ packetLen
    · rw [UdpFlow.send_of_le session hle]
      simp [SendEvent.emits, hle]
    · rw [UdpFlow.send_of_lt session (by omega)]
      simp [SendEvent.emits, hle]

/-- `send` is one input to the machine. -/
theorem SendsInOrder.sendPacket (h : c.SendsInOrder) {flow : UdpFlow} {packet : Packet}
    (hplace : c.send_task.place = .sending flow packet) :
    (c.sendPacket flow packet).SendsInOrder := by
  obtain ⟨hs, hp⟩ := h.inHand hplace
  have hreplay := replay_snoc c.events (.packet flow packet)
  rw [h.replay_eq] at hreplay
  rw [sendPacket_eq]
  refine ⟨hreplay, ?_, ?_, h.addr_eq, by simp [UdpChannel.sendAt], by simp [UdpChannel.sendAt]⟩
  · simpa [SendEvent.session?, UdpChannel.sendAt, SendAt.sessions] using hs
  · simpa [SendEvent.packet?, UdpChannel.sendAt, SendAt.packets] using hp

/-- A session that is taken over is one input to the machine. -/
theorem SendsInOrder.publish (h : c.SendsInOrder) {details : UdpChannelDetails}
    {should_send : Bool} (hplace : c.send_task.place = .publishing details should_send) :
    SendsInOrder { c with
      shared := { c.shared with session_tunnel_addr := some details.tunnel_addr }
      send_task := ⟨some details, c.send_task.last_establish_send,
        if should_send then .establishing else .looking⟩
      events := c.events ++ [.session details] } := by
  obtain ⟨hs, hp⟩ := h.inHand hplace
  have hreplay := replay_snoc c.events (.session details)
  rw [h.replay_eq, SendEvent.emits, List.append_nil] at hreplay
  cases should_send with
  | true =>
    refine ⟨hreplay, ?_, ?_, rfl, by simp, by simp⟩
    · simpa [SendEvent.session?, SendAt.sessions] using hs
    · simpa [SendEvent.packet?, SendAt.packets] using hp
  | false =>
    refine ⟨hreplay, ?_, ?_, rfl, by simp, by simp⟩
    · simpa [SendEvent.session?, SendAt.sessions] using hs
    · simpa [SendEvent.packet?, SendAt.packets] using hp

/-- The sending task stays the machine. -/
theorem SendsInOrder.step (h : c.SendsInOrder) (hstep : Step c a c') : c'.SendsInOrder := by
  cases hstep with
  | start hplace =>
    obtain ⟨hs, hp⟩ := h.inHand hplace
    exact ⟨h.replay_eq, hs, hp, h.addr_eq, by simp, by simp⟩
  | look hplace => exact h.sendAt hplace rfl rfl (by simp) (by simp)
  | timer hplace hle =>
    obtain ⟨hs, hp⟩ := h.inHand hplace
    exact ⟨h.replay_eq, hs, hp, h.addr_eq, by simp, by simp⟩
  | @takeSession next_send details session hplace hrecv =>
    obtain ⟨hs, hp⟩ := h.inHand hplace
    refine ⟨h.replay_eq, ?_, hp, h.addr_eq, by simp [UdpChannel.sendAt],
      by simp [UdpChannel.sendAt]⟩
    rw [hrecv.received_eq, ← hs]
    simp [SendAt.sessions, UdpChannel.sendAt]
  | @takePacket next_send flow packet send hplace hrecv =>
    obtain ⟨hs, hp⟩ := h.inHand hplace
    refine ⟨h.replay_eq, hs, ?_, h.addr_eq, by simp [UdpChannel.sendAt],
      by simp [UdpChannel.sendAt]⟩
    rw [hrecv.received_eq, ← hp]
    simp [SendAt.packets, UdpChannel.sendAt]
  | leave hplace hclosed =>
    have hdropped : c.dropped = true := by
      unfold closed at hclosed
      rw [Bool.and_eq_true] at hclosed
      exact hclosed.1
    exact h.sendAt hplace rfl rfl (by simp) fun _ => hdropped
  | handle hplace => exact h.sendAt hplace rfl rfl (by simp) (by simp)
  | publish hplace => exact h.publish hplace
  | establish hplace => exact h.sendEstablish _ hplace
  | sendPacket hplace => exact h.sendPacket hplace
  | updateSession hdropped hsend =>
    exact ⟨h.replay_eq, h.sessions_eq.trans hsend.received_eq.symm, h.packets_eq, h.addr_eq,
      h.not_panicked, h.dropped_of_ended⟩
  | send hdropped hsend =>
    exact ⟨h.replay_eq, h.sessions_eq, h.packets_eq.trans hsend.received_eq.symm, h.addr_eq,
      h.not_panicked, h.dropped_of_ended⟩
  | drop =>
    exact ⟨h.replay_eq, h.sessions_eq, h.packets_eq, h.addr_eq, h.not_panicked, fun _ => rfl⟩
  | _ =>
    exact ⟨h.replay_eq, h.sessions_eq, h.packets_eq, h.addr_eq, h.not_panicked, h.dropped_of_ended⟩

/-- The receiving task has passed on what it accepted, in order, but for the packet in hand; one
that it had in hand when the channel was dropped is lost. The addresses that it has read are those
of sessions. -/
structure ReceivesInOrder (c : UdpChannel) : Prop where
  accepted_eq : ∃ rest, c.arrivals.filterMap (·.accepted) = c.recv.sent.map payload ++ rest ∧
    (c.recv_task ≠ .ended → rest = c.recv_task.packets.map payload)
  addr_mem : ∀ a ∈ c.arrivals, ∀ addr, a.session_tunnel_addr = some addr →
    ∃ session ∈ PlayitAgent.sessions c.events, session.tunnel_addr = addr
  not_panicked : c.recv_task ≠ .panicked
  dropped_of_ended : c.recv_task = .ended → c.dropped = true

/-- While the task runs, nothing is lost. -/
theorem ReceivesInOrder.accepted_of_place (h : c.ReceivesInOrder) {place : RecvAt}
    (hplace : c.recv_task = place) (hended : place ≠ .ended) :
    c.arrivals.filterMap (·.accepted) = c.recv.sent.map payload ++ place.packets.map payload := by
  subst hplace
  obtain ⟨rest, heq, hrest⟩ := h.accepted_eq
  rw [heq, hrest hended]

/-- The task goes on with nothing in hand, as before. -/
theorem ReceivesInOrder.recvAt (h : c.ReceivesInOrder) {place place' : RecvAt}
    (hplace : c.recv_task = place) (hended : place ≠ .ended)
    (hpackets : place'.packets = place.packets) (hended' : place' ≠ .ended)
    (hpanicked : place' ≠ .panicked) : ReceivesInOrder { c with recv_task := place' } := by
  refine ⟨⟨place'.packets.map payload, ?_, fun _ => rfl⟩, h.addr_mem, hpanicked,
    fun heq => absurd heq hended'⟩
  rw [hpackets]
  exact h.accepted_of_place hplace hended

/-- More events leave the sessions that there were. -/
theorem ReceivesInOrder.addr_mem_snoc (h : c.ReceivesInOrder) (event : SendEvent) :
    ∀ a ∈ c.arrivals, ∀ addr, a.session_tunnel_addr = some addr →
      ∃ session ∈ PlayitAgent.sessions (c.events ++ [event]), session.tunnel_addr = addr := by
  intro a ha addr haddr
  obtain ⟨session, hsession, heq⟩ := h.addr_mem a ha addr haddr
  exact ⟨session, by simp [hsession], heq⟩

/-- Where a turn of the loop leads: what it accepts is in hand. -/
theorem recvAfter_of_ok (packet : Packet) (outcome : RecvOutcome) :
    (recvAfter (.ok (packet, outcome))).packets.map payload = outcome.passed.toList ∧
      recvAfter (.ok (packet, outcome)) ≠ .ended ∧
      recvAfter (.ok (packet, outcome)) ≠ .panicked := by
  cases outcome <;> exact ⟨rfl, by simp [recvAfter], by simp [recvAfter]⟩

/-- The task looks at a datagram. -/
theorem ReceivesInOrder.check (h : c.ReceivesInOrder) (hs : c.SendsInOrder) {packet : Packet}
    {datagram : List UInt8} {source : SocketAddr}
    (hplace : c.recv_task = .checking packet datagram source) :
    (c.check packet datagram source).ReceivesInOrder := by
  obtain ⟨packet', outcome, hstep, hpassed⟩ :=
    recvTask_step_passed packet datagram source c.shared.session_tunnel_addr
  obtain ⟨hpackets, hended, hpanicked⟩ := recvAfter_of_ok packet' outcome
  have hold := h.accepted_of_place hplace (by simp)
  unfold UdpChannel.check
  rw [hstep]
  refine ⟨⟨outcome.passed.toList, ?_, fun _ => hpackets.symm⟩, ?_, hpanicked,
    fun heq => absurd heq hended⟩
  · rw [List.filterMap_append, hold, hpassed]
    simp [RecvAt.packets, List.filterMap_cons]
    cases Arrival.accepted ⟨datagram, source, c.shared.session_tunnel_addr⟩ <;> rfl
  · -- The address is that of the machine's session, which was taken over last.
    intro a ha addr haddr
    rcases List.mem_append.1 ha with ha | ha
    · exact h.addr_mem a ha addr haddr
    · rw [List.mem_singleton] at ha
      subst ha
      rw [hs.addr_eq] at haddr
      obtain ⟨session, hsession, heq⟩ := Option.map_eq_some_iff.1 haddr
      have hlast := replay_session c.events
      rw [hs.replay_eq, hsession] at hlast
      exact ⟨session, List.mem_of_getLast? hlast.symm, heq⟩

/-- The receiving task keeps passing on in order. -/
theorem ReceivesInOrder.step (h : c.ReceivesInOrder) (hs : c.SendsInOrder) (hstep : Step c a c') :
    c'.ReceivesInOrder := by
  cases hstep with
  | publish hplace =>
    exact ⟨h.accepted_eq, h.addr_mem_snoc _, h.not_panicked, h.dropped_of_ended⟩
  | @establish now hplace =>
    obtain ⟨shared, haddr, heq⟩ := c.sendEstablish_eq now
    rw [heq]
    exact ⟨h.accepted_eq, h.addr_mem_snoc _, h.not_panicked, h.dropped_of_ended⟩
  | sendPacket hplace =>
    rw [sendPacket_eq]
    exact ⟨h.accepted_eq, h.addr_mem_snoc _, h.not_panicked, h.dropped_of_ended⟩
  | allocate hplace => exact h.recvAt hplace (by simp) rfl (by simp) (by simp)
  | receive hplace => exact h.recvAt hplace (by simp) rfl (by simp) (by simp)
  | check hplace => exact h.check hs hplace
  | @store packet now hplace =>
    have hnext : ReceivesInOrder { c with recv_task := .receiving packet } :=
      h.recvAt hplace (by simp) rfl (by simp) (by simp)
    exact ⟨hnext.accepted_eq, hnext.addr_mem, hnext.not_panicked, hnext.dropped_of_ended⟩
  | passEnds hplace hdropped =>
    have hold := h.accepted_of_place hplace (by simp)
    exact ⟨⟨_, hold, fun hended => absurd rfl hended⟩, h.addr_mem, by simp, fun _ => hdropped⟩
  | @pass flow packet recv hplace hdropped hsend =>
    have hold := h.accepted_of_place hplace (by simp)
    refine ⟨⟨[], ?_, fun _ => rfl⟩, h.addr_mem, by simp, by simp⟩
    rw [hold, hsend.sent_eq]
    simp [RecvAt.packets]
  | recv hdropped hrecv =>
    refine ⟨?_, h.addr_mem, h.not_panicked, h.dropped_of_ended⟩
    rw [hrecv.sent_eq]
    exact h.accepted_eq
  | drop => exact ⟨h.accepted_eq, h.addr_mem, h.not_panicked, fun _ => rfl⟩
  | _ => exact ⟨h.accepted_eq, h.addr_mem, h.not_panicked, h.dropped_of_ended⟩

/-- Nothing was relayed yet. -/
theorem sendsInOrder_new (instant : ℕ) : (new instant).SendsInOrder :=
  ⟨rfl, rfl, rfl, rfl, by simp [new], by simp [new]⟩

/-- Nothing was relayed yet. -/
theorem receivesInOrder_new (instant : ℕ) : (new instant).ReceivesInOrder :=
  ⟨⟨[], rfl, fun _ => rfl⟩, by simp [new], by simp [new], by simp [new]⟩

end UdpChannel

/-! ## How much is sent -/

/-- `send_establish` is about to be called. -/
def SendAt.tokens : SendAt → ℕ
  | .establishing => 1
  | _ => 0

/-- The event is a call of `send_establish`. -/
def SendEvent.isEstablish : SendEvent → Bool
  | .establish => true
  | _ => false

/-- How often `send_establish` was called. -/
def establishes (events : List SendEvent) : ℕ := events.countP (·.isEstablish)

/-- One more event. -/
@[simp]
theorem establishes_snoc (events : List SendEvent) (event : SendEvent) :
    establishes (events ++ [event]) = establishes events + event.isEstablish.toNat := by
  rw [establishes, List.countP_append]
  cases event <;> rfl

/-- At most one datagram is sent for a call or a packet. -/
theorem length_replay_le (events : List SendEvent) :
    (replay events).2.length ≤ establishes events + (packets events).length := by
  induction events using List.reverseRecOn with
  | nil => exact Nat.zero_le _
  | append_singleton events event ih =>
    rw [replay_snoc, List.length_append, establishes_snoc, packets_snoc, List.length_append]
    have hevent : (event.emits (replay events).1).length ≤
        event.isEstablish.toNat + event.packet?.toList.length := by
      cases event with
      | session details => exact Nat.zero_le _
      | establish =>
        simp only [SendEvent.emits]
        split <;> simp [SendEvent.isEstablish]
      | packet flow packet =>
        simp only [SendEvent.emits]
        split
        · simp
        · split <;> simp [SendEvent.packet?]
    omega

namespace UdpChannel

variable {c c' : UdpChannel} {a : Action}

/-- The timer fires every three seconds at most, and a session makes for one call of
`send_establish` at most. -/
structure Paced (start : ℕ) (c : UdpChannel) : Prop where
  last_le : c.send_task.last_establish_send ≤ c.instant
  next_ge : ∀ next_send, c.send_task.place = .selecting next_send →
    c.send_task.last_establish_send + 3000 ≤ next_send
  calls_le : start + 3000 * (establishes c.events + c.send_task.place.tokens) ≤
    c.send_task.last_establish_send + 3000 * (PlayitAgent.sessions c.events).length

/-- The timer is set three seconds behind the last time, or later. -/
theorem le_nextSend {task : SendTask} {instant : ℕ} (h : task.last_establish_send ≤ instant)
    (now last_rx : UInt64) :
    task.last_establish_send + 3000 ≤ task.nextSend instant now last_rx := by
  unfold SendTask.nextSend
  split
  · omega
  · dsimp only
    split <;> omega

/-- The calls, with the place that the task is at. -/
theorem Paced.calls_of_place {start : ℕ} (h : Paced start c) {place : SendAt}
    (hplace : c.send_task.place = place) :
    start + 3000 * (establishes c.events + place.tokens) ≤
      c.send_task.last_establish_send + 3000 * (PlayitAgent.sessions c.events).length := by
  subst hplace
  exact h.calls_le

/-- The task goes on without a call. -/
theorem Paced.sendAt {start : ℕ} (h : Paced start c) {place : SendAt} (htokens : place.tokens = 0)
    (hnext : ∀ next_send, place = .selecting next_send →
      c.send_task.last_establish_send + 3000 ≤ next_send) : Paced start (c.sendAt place) := by
  refine ⟨h.last_le, hnext, ?_⟩
  have hcalls := h.calls_le
  simp only [UdpChannel.sendAt, htokens]
  omega

/-- Every step keeps the pace. -/
theorem Paced.step {start : ℕ} (h : Paced start c) (hstep : Step c a c') : Paced start c' := by
  have hlast := h.last_le
  cases hstep with
  | start hplace =>
    have hcalls := h.calls_of_place hplace
    simp only [SendAt.tokens] at hcalls
    refine ⟨le_rfl, by simp, ?_⟩
    simp only [SendAt.tokens]
    omega
  | look hplace =>
    refine h.sendAt rfl ?_
    intro next_send heq
    cases heq
    exact le_nextSend hlast _ _
  | @timer next_send hplace hle =>
    -- The last call by the timer was three seconds ago.
    have hcalls := h.calls_of_place hplace
    have hlate : c.send_task.last_establish_send + 3000 ≤ c.instant :=
      (h.next_ge next_send hplace).trans hle
    refine ⟨le_rfl, by simp, ?_⟩
    calc start + 3000 * (establishes c.events + 1)
        = start + 3000 * (establishes c.events + 0) + 3000 := by ring
      _ ≤ c.send_task.last_establish_send + 3000 * (PlayitAgent.sessions c.events).length + 3000 :=
        Nat.add_le_add_right hcalls 3000
      _ ≤ c.instant + 3000 * (PlayitAgent.sessions c.events).length := by omega
  | @takeSession next_send details session hplace hrecv =>
    have hnext : Paced start (c.sendAt (.handling details)) := h.sendAt rfl (by simp)
    exact ⟨hnext.last_le, hnext.next_ge, hnext.calls_le⟩
  | @takePacket next_send flow packet send hplace hrecv =>
    have hnext : Paced start (c.sendAt (.sending flow packet)) := h.sendAt rfl (by simp)
    exact ⟨hnext.last_le, hnext.next_ge, hnext.calls_le⟩
  | leave hplace hclosed => exact h.sendAt rfl (by simp)
  | handle hplace => exact h.sendAt rfl (by simp)
  | @publish details should_send hplace =>
    have hcalls := h.calls_of_place hplace
    simp only [SendAt.tokens] at hcalls
    refine ⟨hlast, by cases should_send <;> simp, ?_⟩
    have htokens : (if should_send then SendAt.establishing else .looking).tokens ≤ 1 := by
      cases should_send <;> simp [SendAt.tokens]
    simp only [establishes_snoc, sessions_snoc, SendEvent.isEstablish, SendEvent.session?,
      Option.toList_some, List.length_append, List.length_singleton, Bool.toNat_false]
    omega
  | @establish now hplace =>
    have hcalls := h.calls_of_place hplace
    obtain ⟨shared, haddr, heq⟩ := c.sendEstablish_eq now
    rw [heq]
    simp only [SendAt.tokens] at hcalls
    refine ⟨hlast, by simp [UdpChannel.sendAt], ?_⟩
    simp [SendAt.tokens, UdpChannel.sendAt, SendEvent.isEstablish, SendEvent.session?]
    omega
  | sendPacket hplace =>
    have hcalls := h.calls_of_place hplace
    rw [sendPacket_eq]
    simp only [SendAt.tokens] at hcalls
    refine ⟨hlast, by simp [UdpChannel.sendAt], ?_⟩
    simp [SendAt.tokens, UdpChannel.sendAt, SendEvent.isEstablish, SendEvent.session?]
    omega
  | elapse => exact ⟨Nat.le_add_right_of_le hlast, h.next_ge, h.calls_le⟩
  | _ => exact ⟨hlast, h.next_ge, h.calls_le⟩

/-- The clock has not moved yet. -/
theorem paced_new (instant : ℕ) : Paced instant (new instant) :=
  ⟨le_rfl, by simp [new], by simp [new, establishes, SendAt.tokens]⟩

end UdpChannel

/-! ## Every run -/

/-- The datagram that the receiving task has in hand. -/
@[simp]
def RecvAt.arrived : RecvAt → List (List UInt8 × SocketAddr)
  | .checking _ datagram source => [(datagram, source)]
  | _ => []

namespace UdpChannel

/-- The session that the owner gives. -/
@[simp]
def Action.given : Action → Option UdpChannelDetails
  | .updateSession details => some details
  | _ => none

/-- The packet that the owner gives. -/
@[simp]
def Action.asked : Action → Option (UdpFlow × Packet)
  | .send flow packet => some (flow, packet)
  | _ => none

/-- The datagram that arrives at the socket, with where it comes from. -/
@[simp]
def Action.arriving : Action → Option (List UInt8 × SocketAddr)
  | .receive datagram source => some (datagram, source)
  | _ => none

/-- How long an action takes, in milliseconds. -/
@[simp]
def Action.lasts : Action → ℕ
  | .elapse ms => ms
  | _ => 0

/-- The sessions that the owner has given in a run. -/
def givenSessions (trace : List (Action × Unit)) : List UdpChannelDetails :=
  trace.filterMap (·.1.given)

/-- The packets that the owner has given in a run. -/
def askedPackets (trace : List (Action × Unit)) : List (UdpFlow × Packet) :=
  trace.filterMap (·.1.asked)

/-- The datagrams that have arrived in a run. -/
def arrivedDatagrams (trace : List (Action × Unit)) : List (List UInt8 × SocketAddr) :=
  trace.filterMap (·.1.arriving)

/-- How long a run has taken, in milliseconds. -/
def lasted (trace : List (Action × Unit)) : ℕ := (trace.map (·.1.lasts)).sum

variable {instant : ℕ} {c c' : UdpChannel} {a : Action} {trace : List (Action × Unit)}

/-- The datagrams that the receiving task was given. -/
def datagramsIn (c : UdpChannel) : List (List UInt8 × SocketAddr) :=
  c.arrivals.map (fun a => (a.datagram, a.source)) ++ c.recv_task.arrived

/-- What an action adds to the channels, the arrivals and the clock; what the owner has received is
changed by its `recv` only. -/
structure Adds (c : UdpChannel) (a : Action) (c' : UdpChannel) : Prop where
  session_eq : c'.session.sent = c.session.sent ++ a.given.toList
  send_eq : c'.send.sent = c.send.sent ++ a.asked.toList
  arrivals_eq : c'.datagramsIn = c.datagramsIn ++ a.arriving.toList
  instant_eq : c'.instant = c.instant + a.lasts
  received_eq : a ≠ .recv → c'.recv.received = c.recv.received
  dropped_eq : a ≠ .drop → c'.dropped = c.dropped

/-- A turn of the receive loop leaves no datagram in hand. -/
theorem arrived_recvAfter (r : Except Failure (Packet × RecvOutcome)) :
    (recvAfter r).arrived = [] := by
  rcases r with error | ⟨packet, outcome⟩
  · rfl
  · cases outcome <;> rfl

/-- Only the owner, the socket and the clock add anything. -/
theorem Step.adds (hstep : Step c a c') : Adds c a c' := by
  cases hstep with
  | takeSession hplace hrecv =>
    exact ⟨by simpa using hrecv.sent_eq, by simp [sendAt], by simp [datagramsIn, sendAt], rfl,
      fun _ => rfl, fun _ => rfl⟩
  | takePacket hplace hrecv =>
    exact ⟨by simp [sendAt], by simpa using hrecv.sent_eq, by simp [datagramsIn, sendAt], rfl,
      fun _ => rfl, fun _ => rfl⟩
  | updateSession hdropped hsend =>
    exact ⟨hsend.sent_eq, by simp, by simp [datagramsIn], rfl, fun _ => rfl, fun _ => rfl⟩
  | send hdropped hsend =>
    exact ⟨by simp, hsend.sent_eq, by simp [datagramsIn], rfl, fun _ => rfl, fun _ => rfl⟩
  | pass hplace hdropped hsend =>
    exact ⟨by simp, by simp, by simp [datagramsIn, hplace], rfl, fun _ => hsend.received_eq,
      fun _ => rfl⟩
  | recv hdropped hrecv =>
    exact ⟨by simp, by simp, by simp [datagramsIn], rfl, fun ha => absurd rfl ha, fun _ => rfl⟩
  | drop => exact ⟨by simp, by simp, by simp [datagramsIn], rfl, fun _ => rfl,
      fun ha => absurd rfl ha⟩
  | @establish now hplace =>
    obtain ⟨shared, haddr, heq⟩ := c.sendEstablish_eq now
    rw [heq]
    exact ⟨by simp [sendAt], by simp [sendAt], by simp [datagramsIn, sendAt], rfl, fun _ => rfl,
      fun _ => rfl⟩
  | sendPacket hplace =>
    rw [sendPacket_eq]
    exact ⟨by simp [sendAt], by simp [sendAt], by simp [datagramsIn, sendAt], rfl, fun _ => rfl,
      fun _ => rfl⟩
  | check hplace =>
    -- The datagram that was in hand is an arrival now.
    refine ⟨by simp [UdpChannel.check], by simp [UdpChannel.check], ?_, rfl, fun _ => rfl,
      fun _ => rfl⟩
    rw [datagramsIn, datagramsIn, hplace]
    simp only [UdpChannel.check, arrived_recvAfter]
    simp
  | _ =>
    exact ⟨by simp [sendAt], by simp [sendAt], by simp [datagramsIn, sendAt, *],
      by simp [sendAt], fun _ => rfl, fun _ => rfl⟩

/-- The channels, the arrivals and the clock are those of the run. -/
structure Logs (instant : ℕ) (trace : List (Action × Unit)) (c : UdpChannel) : Prop where
  session_eq : c.session.sent = givenSessions trace
  send_eq : c.send.sent = askedPackets trace
  arrivals_eq : c.datagramsIn = arrivedDatagrams trace
  instant_eq : c.instant = instant + lasted trace

/-- Every step is logged. -/
theorem Logs.step (h : Logs instant trace c) (hstep : Step c a c') :
    Logs instant (trace ++ [(a, ())]) c' := by
  have hadds := hstep.adds
  refine ⟨?_, ?_, ?_, ?_⟩
  · rw [hadds.session_eq, h.session_eq, givenSessions, givenSessions, filterMap_snoc]
  · rw [hadds.send_eq, h.send_eq, askedPackets, askedPackets, filterMap_snoc]
  · rw [hadds.arrivals_eq, h.arrivals_eq, arrivedDatagrams, arrivedDatagrams, filterMap_snoc]
  · rw [hadds.instant_eq, h.instant_eq]
    simp [lasted, Nat.add_assoc]

/-- The tasks keep their order and their pace in a run. -/
theorem relays_in_order_of_run (h : Run (ofOption next) (new instant) trace c) :
    c.SendsInOrder ∧ c.ReceivesInOrder ∧ Paced instant c ∧ Logs instant trace c := by
  refine h.invariant (I := fun trace c => c.SendsInOrder ∧ c.ReceivesInOrder ∧ Paced instant c ∧
    Logs instant trace c) ?_ ?_
  · exact ⟨sendsInOrder_new instant, receivesInOrder_new instant, paced_new instant,
      rfl, rfl, rfl, rfl⟩
  · rintro trace c c' a o ⟨hsends, hreceives, hpaced, hlogs⟩ hok
    have hstep := step_of_next (ofOption_eq_ok.1 hok)
    exact ⟨hsends.step hstep, hreceives.step hsends hstep, hpaced.step hstep, hlogs.step hstep⟩

/-- What a run relays. -/
structure Relays (instant : ℕ) (trace : List (Action × Unit)) (c : UdpChannel) : Prop where
  /-- The sending task takes the sessions in order, and one may be in its hand. -/
  sessions_eq : sessions c.events ++ c.send_task.place.sessions ++ c.session.queue =
    givenSessions trace
  /-- It takes the packets in order, and one may be in its hand. -/
  packets_eq : packets c.events ++ c.send_task.place.packets ++ c.send.queue = askedPackets trace
  /-- What it sends is what its events make of each other. -/
  datagrams_eq : c.datagrams = (replay c.events).2
  /-- It sends the tokens of sessions, and packets with their footers, to the sessions' tunnel
  addresses. -/
  to_session : ∀ d ∈ c.datagrams, ∃ session ∈ givenSessions trace, d.2 = session.tunnel_addr ∧
    (d.1 = session.token ∨ ∃ p ∈ askedPackets trace, d.1 = p.2.asRef ++ p.1.footer)
  /-- It sends one datagram at most for a session, a packet, and three seconds. -/
  rate : 3000 * c.datagrams.length ≤
    lasted trace + 3000 * ((givenSessions trace).length + (askedPackets trace).length)
  /-- The receiving task looks at the datagrams in order, and one may be in its hand. -/
  arrivals_eq : c.arrivals.map (fun a => (a.datagram, a.source)) ++ c.recv_task.arrived =
    arrivedDatagrams trace
  /-- It accepts what comes from the tunnel address of a session. -/
  from_session : ∀ a ∈ c.arrivals, ∀ p, a.accepted = some p →
    ∃ session ∈ givenSessions trace, a.source = session.tunnel_addr
  /-- The owner gets what it accepts, in order. -/
  received_prefix : c.recv.received.map payload <+: c.arrivals.filterMap (·.accepted)
  /-- Nothing that it accepts is lost while it runs. -/
  accepted_eq : c.recv_task ≠ .ended → c.arrivals.filterMap (·.accepted) =
    (c.recv.received ++ c.recv.queue ++ c.recv_task.packets).map payload
  /-- The tasks do not panic, and they end only when the owner has dropped the channel. -/
  tasks : c.send_task.place ≠ .panicked ∧ c.recv_task ≠ .panicked ∧
    (c.send_task.place = .ended ∨ c.recv_task = .ended → c.dropped = true)

/-- Every run relays. -/
theorem relays_of_run (h : Run (ofOption next) (new instant) trace c) :
    Relays instant trace c := by
  obtain ⟨hsends, hreceives, hpaced, hlogs⟩ := relays_in_order_of_run h
  have hsessions : sessions c.events ++ c.send_task.place.sessions ++ c.session.queue =
      givenSessions trace := by
    rw [hsends.sessions_eq]
    exact hlogs.session_eq
  have hpackets : packets c.events ++ c.send_task.place.packets ++ c.send.queue =
      askedPackets trace := by
    rw [hsends.packets_eq]
    exact hlogs.send_eq
  have hgiven : ∀ session ∈ sessions c.events, session ∈ givenSessions trace := by
    intro session hsession
    rw [← hsessions, List.append_assoc]
    exact List.mem_append_left _ hsession
  have hasked : ∀ p ∈ packets c.events, p ∈ askedPackets trace := by
    intro p hp
    rw [← hpackets, List.append_assoc]
    exact List.mem_append_left _ hp
  have hdatagrams : c.datagrams = (replay c.events).2 := by rw [hsends.replay_eq]
  refine ⟨hsessions, hpackets, hdatagrams, ?_, ?_, hlogs.arrivals_eq, ?_, ?_, ?_,
    hsends.not_panicked, hreceives.not_panicked, ?_⟩
  · intro d hd
    rw [hdatagrams] at hd
    obtain ⟨session, hsession, haddr, hbytes⟩ := mem_replay hd
    refine ⟨session, hgiven session hsession, haddr, ?_⟩
    rcases hbytes with htoken | ⟨p, hp, hbytes⟩
    · exact .inl htoken
    · exact .inr ⟨p, hasked p hp, hbytes⟩
  · -- The timer makes for a call every three seconds, and each session for one more.
    have hcount := length_replay_le c.events
    have hcalls := hpaced.calls_le
    have hlast := hpaced.last_le
    have hinstant := hlogs.instant_eq
    have hs := congrArg List.length hsessions
    have hp := congrArg List.length hpackets
    rw [List.length_append, List.length_append] at hs hp
    rw [hdatagrams]
    calc 3000 * (replay c.events).2.length
        ≤ 3000 * establishes c.events + 3000 * (packets c.events).length := by
          rw [← Nat.mul_add]
          exact Nat.mul_le_mul_left _ hcount
      _ ≤ lasted trace + 3000 * (sessions c.events).length + 3000 * (packets c.events).length := by
          rw [Nat.mul_add] at hcalls
          omega
      _ ≤ _ := by
          rw [Nat.mul_add]
          omega
  · intro a ha p haccepted
    obtain ⟨session, hsession, haddr⟩ :=
      hreceives.addr_mem a ha a.source (Arrival.source_of_accepted haccepted)
    exact ⟨session, hgiven session hsession, haddr.symm⟩
  · obtain ⟨rest, heq, -⟩ := hreceives.accepted_eq
    rw [heq, Channel.sent, List.map_append, List.append_assoc]
    exact List.prefix_append _ _
  · intro hended
    obtain ⟨rest, heq, hrest⟩ := hreceives.accepted_eq
    rw [heq, hrest hended, ← List.map_append, Channel.sent]
  · rintro (hended | hended)
    · exact hsends.dropped_of_ended hended
    · exact hreceives.dropped_of_ended hended

/-- In every order of the steps of a channel's tasks and its owner, the channel relays. -/
theorem udp_channel_relays (h : Run (ofOption next) (new instant) trace c) :
    Relays instant trace c :=
  relays_of_run h

end UdpChannel

namespace Sample

/-- The session that the tunnel server gives. -/
def tunnelSession : UdpChannelDetails := ⟨.v4 ⟨0x93b99d01, 5525⟩, [7, 7, 7]⟩

/-- A buffer with two bytes in use. -/
def buffer : Packet where
  buffer := List.replicate packetLen 9
  len := 2
  length_buffer := List.length_replicate
  len_le := by decide

/-- The flow of a player's packets. -/
def playerFlow : UdpFlow := .v4 ⟨0x0a141e28, 5000⟩ ⟨0x09140328, 30001⟩ none none

/-- A session is taken over, a reply is sent, a stranger's datagram and a player's arrive, and two
seconds pass. -/
def relaying : List UdpChannel.Action :=
  [.start, .allocate buffer, .updateSession tunnelSession, .send playerFlow.flip buffer, .look 1000,
    .takeSession, .handle 1000, .publish, .establish 1000, .look 1000, .takePacket, .sendPacket,
    .receive ([1, 2] ++ playerFlow.footer) playerFlow.src, .check,
    .receive ([3, 4] ++ playerFlow.footer) tunnelSession.tunnel_addr, .check, .pass, .recv,
    .elapse 2000]

end Sample

set_option maxRecDepth 10000 in
/-- The token and the reply are sent, and the player's packet is received. -/
theorem udp_channel_relays_sample :
    ∃ c, takes UdpChannel.next (.new 0) Sample.relaying = some c ∧
      UdpChannel.Relays 0 (Sample.relaying.map fun a => (a, ())) c ∧
      c.datagrams = [(Sample.tunnelSession.token, Sample.tunnelSession.tunnel_addr),
        ([9, 9] ++ Sample.playerFlow.flip.footer, Sample.tunnelSession.tunnel_addr)] ∧
      c.recv.received.map payload = [(Sample.playerFlow, [3, 4])] := by
  obtain ⟨c, hc, hdatagrams, hreceived⟩ : ∃ c,
      takes UdpChannel.next (.new 0) Sample.relaying = some c ∧
      c.datagrams = [(Sample.tunnelSession.token, Sample.tunnelSession.tunnel_addr),
        ([9, 9] ++ Sample.playerFlow.flip.footer, Sample.tunnelSession.tunnel_addr)] ∧
      c.recv.received.map payload = [(Sample.playerFlow, [3, 4])] := ⟨_, rfl, rfl, rfl⟩
  exact ⟨c, hc, UdpChannel.udp_channel_relays (Run.nil.takes hc), hdatagrams, hreceived⟩

end PlayitAgent
