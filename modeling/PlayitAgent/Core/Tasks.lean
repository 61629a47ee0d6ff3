import PlayitAgent.Core.Run
import PlayitAgent.Udp.ChannelRelay
import PlayitAgent.Udp.Replies

/-!
# The tasks of the core

What the two tasks of `PlayitAgent::run` do with what they are given. The UDP task takes one thing
in hand at a time, and what it has in hand goes to the clients or to the channel; the clients' reply
is the next thing in its hand. A reply goes to a flow that a packet has come from. The tunnel task
gives the UDP task the sessions that come, in order, and drops those that do not fit.
-/

namespace PlayitAgent

/-! ## The calls of the clients -/

namespace UdpClients

/-- The packet from the tunnel server that a call is given. -/
@[simp]
def Call.tunneled : Call → Option (UdpFlow × Packet)
  | .handleTunneledPacket _ _ flow packet => some (flow, packet)
  | _ => none

/-- The packet from an origin that a call is given. -/
@[simp]
def Call.origin : Call → Option UdpReceivedPacket
  | .dispatchOriginPacket _ packet => some packet
  | _ => none

/-- The packet for the tunnel server that a call gives. -/
@[simp]
def Returned.reply : Returned → Option (UdpFlow × Packet)
  | .dispatched (.reply flow packet) => some (flow, packet)
  | _ => none

/-- The packets from the tunnel server that some calls were given. -/
def tunneled (calls : List (Call × Returned)) : List (UdpFlow × Packet) :=
  calls.filterMap (·.1.tunneled)

/-- The packets from origins that some calls were given. -/
def origins (calls : List (Call × Returned)) : List UdpReceivedPacket :=
  calls.filterMap (·.1.origin)

/-- The packets for the tunnel server that some calls gave. -/
def replies (calls : List (Call × Returned)) : List (UdpFlow × Packet) :=
  calls.filterMap (·.2.reply)

/-- One more call. -/
theorem calls_snoc (calls : List (Call × Returned)) (call : Call) (returned : Returned) :
    tunneled (calls ++ [(call, returned)]) = tunneled calls ++ call.tunneled.toList ∧
      origins (calls ++ [(call, returned)]) = origins calls ++ call.origin.toList ∧
      replies (calls ++ [(call, returned)]) = replies calls ++ returned.reply.toList :=
  ⟨filterMap_snoc _ calls _, filterMap_snoc _ calls _, filterMap_snoc _ calls _⟩

namespace History

/-- The flows of a history are among some flows. -/
structure Knows (h : History) (flows : List UdpFlow) : Prop where
  birth_mem : ∀ birth ∈ h.births, birth.flow ∈ flows
  last_mem : ∀ i last, h.last i = some last → last ∈ flows

variable {h : History} {flows : List UdpFlow} {flow : UdpFlow}

/-- A known flow that becomes the last one of a client is known. -/
theorem last_mem_update {last : ℕ → Option UdpFlow} (h : ∀ i f, last i = some f → f ∈ flows)
    (hflow : flow ∈ flows) (i j : ℕ) (f : UdpFlow)
    (hlast : Function.update last i (some flow) j = some f) : f ∈ flows := by
  by_cases hji : j = i
  · rw [hji, Function.update_self] at hlast
    rw [← Option.some.inj hlast]
    exact hflow
  · rw [Function.update_of_ne hji] at hlast
    exact h j f hlast

/-- What handling a packet does adds its flow at most. -/
theorem Knows.effect (hk : h.Knows flows) (hflow : flow ∈ flows) (e : Effect) :
    (effect flow h e).Knows flows := by
  cases e with
  | reused slot =>
    simp only [History.effect, forward]
    split
    · exact ⟨hk.birth_mem, last_mem_update hk.last_mem hflow _⟩
    · exact hk
  | created slot id =>
    refine ⟨fun birth hbirth => ?_, last_mem_update hk.last_mem hflow _⟩
    rcases List.mem_append.1 hbirth with hbirth | hbirth
    · exact hk.birth_mem birth hbirth
    · rw [List.mem_singleton.1 hbirth]
      exact hflow
  | _ => exact ⟨hk.birth_mem, hk.last_mem⟩

/-- Clearing old clients adds no flow. -/
theorem Knows.clear (hk : h.Knows flows) (e : Effect) : (clear h e).Knows flows := by
  cases e <;> exact ⟨hk.birth_mem, hk.last_mem⟩

/-- A property that each of some effects keeps is kept by all of them. -/
theorem knows_foldl {step : History → Effect → History} (effects : List Effect)
    (hstep : ∀ h e, Knows h flows → Knows (step h e) flows) (hk : h.Knows flows) :
    (effects.foldl step h).Knows flows := by
  induction effects generalizing h with
  | nil => exact hk
  | cons e effects ih => exact ih (hstep h e hk)

/-- More flows are known. -/
theorem Knows.mono {flows' : List UdpFlow} (hk : h.Knows flows) (hsub : flows ⊆ flows') :
    h.Knows flows' :=
  ⟨fun birth hbirth => hsub (hk.birth_mem birth hbirth),
    fun i last hlast => hsub (hk.last_mem i last hlast)⟩

/-- A call adds the flow that it is given at most. -/
theorem Knows.record (hk : h.Knows flows) (call : Call) (returned : Returned) :
    (h.record (call, returned)).Knows (flows ++ call.tunneled.toList.map (·.1)) := by
  have hmono := hk.mono (List.subset_append_left flows (call.tunneled.toList.map (·.1)))
  unfold History.record
  split
  · next heq =>
    cases heq
    exact knows_foldl _ (fun h e hk => hk.effect (by simp) e) hmono
  · exact knows_foldl _ (fun h e hk => hk.clear e) hmono
  · exact hmono

/-- The flows of a run's history are those of the packets from the tunnel server. -/
theorem knows_history (calls : List (Call × Returned)) :
    (history calls).Knows ((tunneled calls).map (·.1)) := by
  induction calls using List.reverseRecOn with
  | nil => exact ⟨by simp [history, empty], by simp [history, empty]⟩
  | append_singleton calls x ih =>
    obtain ⟨call, returned⟩ := x
    obtain ⟨htunneled, -, -⟩ := calls_snoc calls call returned
    rw [htunneled, List.map_append, history, List.foldl_append]
    exact ih.record call returned

end History

section
variable {σ : Type} [Slab σ Client] {c : UdpClients σ} {calls : List (Call × Returned)}

/-- A reply goes to a flow that a packet has come from, with the client id of a packet, and carries
what an origin has sent. -/
def Returns (calls : List (Call × Returned)) (p : UdpFlow × Packet) : Prop :=
  ∃ from_ ∈ tunneled calls, ∃ last ∈ tunneled calls, ∃ ext, last.1.extension = some ext ∧
    p.1 = from_.1.flip.updateClientServerId ext.client_server_id ∧
    ∃ packet ∈ origins calls, packet.packet = p.2

/-- Only a call for an origin's packet gives a reply. -/
theorem exists_dispatch_of_reply {c' : UdpClients σ} {call : Call} {returned : Returned}
    {p : UdpFlow × Packet} (hstep : c.step call = .ok (c', returned))
    (hp : returned.reply = some p) :
    ∃ now_ms packet, call = .dispatchOriginPacket now_ms packet ∧
      c.dispatchOriginPacket now_ms packet = .ok (c', .reply p.1 p.2) := by
  cases call with
  | handleTunneledPacket io now_ms flow packet =>
    obtain ⟨r, -, hr⟩ := except_bind_eq_ok.1 hstep
    cases hr
    cases hp
  | dispatchOriginPacket now_ms packet =>
    obtain ⟨r, hr, heq⟩ := except_bind_eq_ok.1 hstep
    cases heq
    obtain ⟨c', outcome⟩ := r
    cases outcome with
    | reply flow packet =>
      cases hp
      exact ⟨_, _, rfl, hr⟩
    | _ => cases hp
  | clearOld io now_ms =>
    obtain ⟨r, -, hr⟩ := except_bind_eq_ok.1 hstep
    cases hr
    cases hp

/-- What a reply goes back to stays there. -/
theorem Returns.mono {calls' : List (Call × Returned)} {p : UdpFlow × Packet}
    (h : Returns calls p) (ht : tunneled calls ⊆ tunneled calls')
    (ho : origins calls ⊆ origins calls') : Returns calls' p := by
  obtain ⟨from_, hfrom, last, hlast, ext, hext, hflow, packet, hpacket, heq⟩ := h
  exact ⟨from_, ht hfrom, last, ht hlast, ext, hext, hflow, packet, ho hpacket, heq⟩

/-- Every reply of a run goes back to where a packet has come from. -/
theorem returns_of_run (h : Run step new calls c) : ∀ p ∈ replies calls, Returns calls p := by
  induction h with
  | nil => simp [replies]
  | @snoc calls c c' call returned hrun hstep ih =>
    obtain ⟨htunneled, horigins, hreplies⟩ := calls_snoc calls call returned
    intro p hp
    rw [hreplies, List.mem_append] at hp
    rcases hp with hp | hp
    · exact (ih p hp).mono (by simp [htunneled]) (by simp [horigins])
    · -- The reply is that of a client, and clients are opened by packets.
      rw [Option.mem_toList] at hp
      obtain ⟨now_ms, packet, rfl, hok⟩ := exists_dispatch_of_reply hstep hp
      rcases dispatchOriginPacket_cases hok with ⟨-, hreject⟩ |
        ⟨client, flow, hget, -, -, hflow, hreply, -⟩
      · exact absurd rfl (hreject p.1 p.2)
      · obtain ⟨i, birth, ext, last_ext, ho⟩ := (tracks_history hrun).client _ client hget
        have hknows := History.knows_history calls
        obtain ⟨from_, hfrom, hfrom_eq⟩ :=
          List.mem_map.1 (hknows.birth_mem birth (List.mem_of_getElem? ho.birth_eq))
        obtain ⟨last, hlast, hlast_ext⟩ := ho.last_eq
        obtain ⟨last', hlast', hlast_eq⟩ := List.mem_map.1 (hknows.last_mem i last hlast)
        obtain ⟨hp₁, hp₂⟩ := Dispatched.reply.inj hreply
        refine ⟨from_, by simp [htunneled, hfrom], last', by simp [htunneled, hlast'], last_ext,
          by rw [hlast_eq, hlast_ext], ?_, packet, by simp [horigins], hp₂.symm⟩
        rw [hp₁, hfrom_eq]
        exact ho.reply_flow hflow

end

end UdpClients

/-! ## What the UDP task does -/

namespace UdpAt

/-- The packet of an origin that the task has in hand. -/
@[simp]
def origins : UdpAt → List UdpReceivedPacket
  | .dispatching packet => [packet]
  | _ => []

/-- The packet for the tunnel server that the task has in hand. -/
@[simp]
def replies : UdpAt → List (UdpFlow × Packet)
  | .sending flow packet => [(flow, packet)]
  | _ => []

/-- The packet from the tunnel server that the task has in hand. -/
@[simp]
def tunneled : UdpAt → List (UdpFlow × Packet)
  | .handling flow packet => [(flow, packet)]
  | _ => []

/-- The session that the task has in hand. -/
@[simp]
def sessions : UdpAt → List UdpChannelDetails
  | .updating details => [details]
  | _ => []

/-- The task has nothing in hand. -/
def Free : UdpAt → Prop
  | .dispatching _ | .sending _ _ | .handling _ _ | .updating _ => False
  | _ => True

/-- The task is at a call of the clients. -/
inductive Calls : UdpAt → UdpClients.Call → Prop
  | dispatch {packet : UdpReceivedPacket} {now : UInt64} :
      Calls (.dispatching packet) (.dispatchOriginPacket now packet)
  | handle {flow : UdpFlow} {packet : Packet} {io : TunneledIo} {now : UInt64} :
      Calls (.handling flow packet) (.handleTunneledPacket io now flow packet)
  | clear {io : UdpClients.ClearIo} {now : UInt64} : Calls .clearing (.clearOld io now)

/-- With nothing in hand. -/
theorem Free.lists {place : UdpAt} (h : place.Free) :
    place.origins = [] ∧ place.replies = [] ∧ place.tunneled = [] ∧ place.sessions = [] := by
  cases place with
  | dispatching packet | sending flow packet | handling flow packet | updating details => cases h
  | _ => exact ⟨rfl, rfl, rfl, rfl⟩

end UdpAt

namespace UdpTask

variable {σ : Type} [Slab σ Client] {shared shared' : CoreShared} {task task' : UdpTask σ}
  {tunnel_over : Bool} {a : UdpAction}

/-- Why the task panics: a call of the clients does, or a task of the channel has ended. -/
def Panics (task : UdpTask σ) : Prop :=
  (∃ call failure, task.clients.step call = .error failure) ∨
    task.udp_channel.sendOver = true ∨ task.udp_channel.recvOver = true

/-- The steps, by what they do with what is relayed. -/
inductive Step (shared : CoreShared) (task : UdpTask σ) : CoreShared → UdpTask σ → Prop
  /-- The task goes on with nothing in hand. -/
  | moves {should_renew : Bool} {place : UdpAt} {next_clear : ℕ} (hfrom : task.place.Free)
      (hto : place.Free) :
      Step shared task { shared with should_renew } { task with place, next_clear }
  /-- The task ends. -/
  | ends {result : Except JoinError Unit} (hpanics : result = taskPanicked → task.Panics) :
      Step shared task shared (task.finish result)
  /-- It takes a packet of an origin. -/
  | origin {packet : UdpReceivedPacket} {origin : Channel UdpReceivedPacket}
      (hplace : task.place = .selecting) (hrecv : Channel.Receives task.origin origin packet) :
      Step shared task shared { task.goto (.dispatching packet) with origin }
  /-- It calls the clients. -/
  | call {call : UdpClients.Call} {clients : UdpClients σ} {returned : UdpClients.Returned}
      (hplace : task.place.Calls call) (hok : task.clients.step call = .ok (clients, returned)) :
      Step shared task shared { task with
        clients, calls := task.calls ++ [(call, returned)], place := afterCall returned }
  /-- It gives the channel a packet. -/
  | send {flow : UdpFlow} {packet : Packet} {udp_channel : UdpChannel}
      (hplace : task.place = .sending flow packet)
      (hnext : task.udp_channel.next (.send flow packet) = some udp_channel) :
      Step shared task shared { task with udp_channel, place := .looking }
  /-- It takes a packet from the channel. -/
  | tunneled {flow : UdpFlow} {packet : Packet} {udp_channel : UdpChannel}
      (hplace : task.place = .selecting) (hnext : task.udp_channel.next .recv = some udp_channel)
      (hrecv : Channel.Receives task.udp_channel.recv udp_channel.recv (flow, packet)) :
      Step shared task shared { task with udp_channel, place := .handling flow packet }
  /-- It takes a session. -/
  | session {details : UdpChannelDetails} {udp_session : Channel UdpChannelDetails}
      (hplace : task.place = .selecting)
      (hrecv : Channel.Receives shared.udp_session udp_session details) :
      Step shared task { shared with udp_session } (task.goto (.updating details))
  /-- It gives the channel a session. -/
  | update {details : UdpChannelDetails} {udp_channel : UdpChannel}
      (hplace : task.place = .updating details)
      (hnext : task.udp_channel.next (.updateSession details) = some udp_channel) :
      Step shared task shared { task with udp_channel, place := .looking }

/-- A call of the clients returns, or the task ends. -/
theorem step_call {call : UdpClients.Call} (hplace : task.place.Calls call) :
    Step shared task shared (task.call call) := by
  unfold UdpTask.call
  cases hstep : task.clients.step call with
  | error failure => exact .ends fun _ => .inl ⟨call, failure, hstep⟩
  | ok r => exact .call hplace hstep

/-- The channel gives the packet that waits. -/
theorem receives_of_next_recv {c c' : UdpChannel} {value : UdpFlow × Packet}
    {recv : Channel (UdpFlow × Packet)} (hnext : c.next .recv = some c')
    (hrecv : c.recv.recv = some (value, recv)) : Channel.Receives c.recv c'.recv value := by
  simp only [UdpChannel.next] at hnext
  split at hnext
  · cases hnext
  · rw [hrecv] at hnext
    cases hnext
    exact Channel.receives_of_recv hrecv

omit [Slab σ Client] in
/-- The channel makes a step, and the task goes on. -/
theorem of_onChannel {action : UdpChannel.Action} {place : UdpAt}
    (h : ((task.onChannel action place).map fun task => (shared, task)) = some (shared', task')) :
    ∃ udp_channel, task.udp_channel.next action = some udp_channel ∧
      shared = shared' ∧ { task with udp_channel, place } = task' := by
  obtain ⟨task₁, hchannel, heq⟩ := Option.map_eq_some_iff.1 h
  obtain ⟨udp_channel, hnext, rfl⟩ := Option.map_eq_some_iff.1 hchannel
  obtain ⟨hshared, htask⟩ := Prod.mk.inj heq
  exact ⟨udp_channel, hnext, hshared, htask⟩

/-- A step is one of these, of a task that has not ended. -/
theorem step_of_next (h : UdpTask.next shared task tunnel_over a = some (shared', task')) :
    task.handle.result = none ∧ Step shared task shared' task' := by
  unfold UdpTask.next at h
  split at h
  · cases h
  next hrunning =>
  rw [Option.not_isSome_iff_eq_none] at hrunning
  refine ⟨hrunning, ?_⟩
  cases a with
  | start | yielded | idle | look now | store =>
    dsimp only at h
    split at h
    · next hplace =>
      cases h
      exact .moves (by rw [hplace]; trivial) trivial
    · cases h
  | cancelled =>
    dsimp only at h
    split at h
    · cases h
    · split at h
      · cases h
        exact .ends (by simp [taskPanicked])
      · cases h
        exact .ends (by simp [taskPanicked])
      · cases h
  | aborts =>
    dsimp only at h
    split at h
    · cases h
      exact .ends (by simp [taskAborted, taskPanicked])
    · cases h
  | origin =>
    dsimp only at h
    split at h
    · next hplace =>
      obtain ⟨⟨packet, origin⟩, hrecv, heq⟩ := Option.map_eq_some_iff.1 h
      cases heq
      exact .origin hplace (Channel.receives_of_recv hrecv)
    · cases h
  | dispatch now =>
    dsimp only at h
    split at h
    · next packet hplace =>
      cases h
      exact step_call (hplace ▸ .dispatch)
    · cases h
  | handle io now =>
    dsimp only at h
    split at h
    · next flow packet hplace =>
      cases h
      exact step_call (hplace ▸ .handle)
    · cases h
  | clearOld io now =>
    dsimp only at h
    split at h
    · next hplace =>
      cases h
      exact step_call (hplace ▸ .clear)
    · cases h
  | send =>
    dsimp only at h
    split at h
    · next flow packet hplace =>
      split at h
      · next hover =>
        cases h
        exact .ends fun _ => .inr (.inl hover)
      · obtain ⟨udp_channel, hnext, rfl, rfl⟩ := of_onChannel h
        exact .send hplace hnext
    · cases h
  | update =>
    dsimp only at h
    split at h
    · next details hplace =>
      split at h
      · next hover =>
        cases h
        exact .ends fun _ => .inr (.inl hover)
      · obtain ⟨udp_channel, hnext, rfl, rfl⟩ := of_onChannel h
        exact .update hplace hnext
    · cases h
  | tunneled =>
    dsimp only at h
    split at h
    · next hplace =>
      split at h
      · next flow packet recv hrecv =>
        obtain ⟨udp_channel, hnext, rfl, rfl⟩ := of_onChannel h
        exact .tunneled hplace hnext (receives_of_next_recv hnext hrecv)
      · split at h
        · next hover =>
          cases h
          exact .ends fun _ => .inr (.inr hover)
        · cases h
    · cases h
  | session =>
    dsimp only at h
    split at h
    · next hplace =>
      split at h
      · next details udp_session hrecv =>
        cases h
        exact .session hplace (Channel.receives_of_recv hrecv)
      · split at h
        · cases h
          exact .ends (by simp [taskPanicked])
        · cases h
    · cases h
  | clear =>
    dsimp only at h
    split at h
    · next hplace =>
      split at h
      · cases h
        exact .moves (by rw [hplace]; trivial) trivial
      · cases h
    · cases h

/-- What the task has relayed: the calls of the clients make a run, the channel's steps make a run,
and between them and the task's queues nothing but what is in its hand is missing. -/
structure InOrder (instant : ℕ) (udp_session : Channel UdpChannelDetails) (task : UdpTask σ) :
    Prop where
  clients_run : Run UdpClients.step .new task.calls task.clients
  channel_run : Reachable (ofOption UdpChannel.next) (.new instant) task.udp_channel
  origins_eq : UdpClients.origins task.calls ++ task.place.origins = task.origin.received
  replies_eq : UdpClients.replies task.calls = task.udp_channel.send.sent ++ task.place.replies
  tunneled_eq : UdpClients.tunneled task.calls ++ task.place.tunneled =
    task.udp_channel.recv.received
  sessions_eq : task.udp_channel.session.sent ++ task.place.sessions = udp_session.received
  dropped_iff : task.udp_channel.dropped = true ↔ task.handle.result.isSome = true
  panics : task.handle.result = some taskPanicked →
    ∃ call failure, task.clients.step call = .error failure

variable {instant : ℕ} {udp_session : Channel UdpChannelDetails}

/-- The task was just spawned. -/
theorem inOrder_spawned (instant capacity : ℕ) :
    InOrder instant (.new capacity) (spawned instant : UdpTask σ) :=
  ⟨.nil, ⟨[], .nil⟩, rfl, rfl, rfl, rfl, by simp [spawned, UdpChannel.new, JoinHandle.spawned],
    by simp [spawned, JoinHandle.spawned]⟩

/-- While the task runs, the tasks of the channel do. -/
theorem InOrder.not_over (h : InOrder instant udp_session task)
    (hrunning : task.handle.result = none) :
    task.udp_channel.sendOver = false ∧ task.udp_channel.recvOver = false := by
  obtain ⟨trace, hrun⟩ := h.channel_run
  obtain ⟨hsend, hrecv, hended⟩ := (UdpChannel.relays_of_run hrun).tasks
  have hdropped : task.udp_channel.dropped ≠ true := by
    rw [ne_eq, h.dropped_iff, hrunning]
    simp
  constructor
  · unfold UdpChannel.sendOver
    split
    · next hplace => exact absurd (hended (.inl hplace)) hdropped
    · next hplace => exact absurd hplace hsend
    · rfl
  · unfold UdpChannel.recvOver
    split
    · next hplace => exact absurd (hended (.inr hplace)) hdropped
    · next hplace => exact absurd hplace hrecv
    · rfl

/-- So it panics in a call of the clients only. -/
theorem InOrder.call_of_panics (h : InOrder instant udp_session task)
    (hrunning : task.handle.result = none) (hpanics : task.Panics) :
    ∃ call failure, task.clients.step call = .error failure := by
  obtain ⟨hsend, hrecv⟩ := h.not_over hrunning
  rcases hpanics with hcall | hover | hover
  · exact hcall
  · rw [hsend] at hover
    cases hover
  · rw [hrecv] at hover
    cases hover

/-- What the task has in hand, by its place. -/
theorem InOrder.inHand (h : InOrder instant udp_session task) {place : UdpAt}
    (hplace : task.place = place) :
    UdpClients.origins task.calls ++ place.origins = task.origin.received ∧
      UdpClients.replies task.calls = task.udp_channel.send.sent ++ place.replies ∧
      UdpClients.tunneled task.calls ++ place.tunneled = task.udp_channel.recv.received ∧
      task.udp_channel.session.sent ++ place.sessions = udp_session.received := by
  subst hplace
  exact ⟨h.origins_eq, h.replies_eq, h.tunneled_eq, h.sessions_eq⟩

/-- A step of the channel makes its run longer. -/
theorem reachable_channel {c c' : UdpChannel} {a : UdpChannel.Action}
    (h : Reachable (ofOption UdpChannel.next) (.new instant) c) (hnext : c.next a = some c') :
    Reachable (ofOption UdpChannel.next) (.new instant) c' ∧ UdpChannel.Adds c a c' := by
  have hok : ofOption UdpChannel.next c a = .ok (c', ()) := ofOption_eq_ok.2 hnext
  exact ⟨h.snoc hok, (UdpChannel.step_of_next hnext).adds⟩

/-- The channel takes a step of its own. -/
theorem InOrder.channel (h : InOrder instant udp_session task) {a : UdpChannel.Action}
    {udp_channel : UdpChannel} (hof : a.ofTask = true)
    (hnext : task.udp_channel.next a = some udp_channel) :
    InOrder instant udp_session { task with udp_channel } := by
  obtain ⟨hrun, hadds⟩ := reachable_channel h.channel_run hnext
  have hgiven : a.given = none ∧ a.asked = none ∧ a ≠ .recv ∧ a ≠ .drop := by
    cases a <;> simp_all [UdpChannel.Action.ofTask]
  obtain ⟨hgiven, hasked, hrecv, hdrop⟩ := hgiven
  have hsession := hadds.session_eq
  have hsend := hadds.send_eq
  rw [hgiven, Option.toList_none, List.append_nil] at hsession
  rw [hasked, Option.toList_none, List.append_nil] at hsend
  refine ⟨h.clients_run, hrun, h.origins_eq, ?_, ?_, ?_, ?_, h.panics⟩
  · dsimp only
    rw [hsend]
    exact h.replies_eq
  · dsimp only
    rw [hadds.received_eq hrecv]
    exact h.tunneled_eq
  · dsimp only
    rw [hsession]
    exact h.sessions_eq
  · dsimp only
    rw [hadds.dropped_eq hdrop]
    exact h.dropped_iff

/-- The task goes on with nothing in hand. -/
theorem InOrder.moves (h : InOrder instant udp_session task) {place : UdpAt} {next_clear : ℕ}
    (hfrom : task.place.Free) (hto : place.Free) :
    InOrder instant udp_session { task with place, next_clear } := by
  obtain ⟨ho, hr, ht, hs⟩ := hfrom.lists
  obtain ⟨ho', hr', ht', hs'⟩ := hto.lists
  refine ⟨h.clients_run, h.channel_run, ?_, ?_, ?_, ?_, h.dropped_iff, h.panics⟩
  · exact (congrArg _ (ho'.trans ho.symm)).trans h.origins_eq
  · exact h.replies_eq.trans (congrArg _ (hr.trans hr'.symm))
  · exact (congrArg _ (ht'.trans ht.symm)).trans h.tunneled_eq
  · exact (congrArg _ (hs'.trans hs.symm)).trans h.sessions_eq

/-- The task ends, and drops the channel. -/
theorem InOrder.ends (h : InOrder instant udp_session task) (hrunning : task.handle.result = none)
    {result : Except JoinError Unit} (hpanics : result = taskPanicked → task.Panics) :
    InOrder instant udp_session (task.finish result) := by
  have hdrop : task.udp_channel.next .drop = some { task.udp_channel with dropped := true } := rfl
  obtain ⟨hrun, -⟩ := reachable_channel h.channel_run hdrop
  refine ⟨h.clients_run, hrun, h.origins_eq, h.replies_eq, h.tunneled_eq, h.sessions_eq,
    by simp [finish, JoinHandle.finish], fun heq => ?_⟩
  exact h.call_of_panics hrunning (hpanics (Option.some.inj heq))

/-- The clients are called with what the task has in hand, and it has their reply in hand then. -/
theorem InOrder.call (h : InOrder instant udp_session task) (hrunning : task.handle.result = none)
    {call : UdpClients.Call} {clients : UdpClients σ} {returned : UdpClients.Returned}
    (hplace : task.place.Calls call) (hok : task.clients.step call = .ok (clients, returned)) :
    InOrder instant udp_session { task with
      clients, calls := task.calls ++ [(call, returned)], place := afterCall returned } := by
  obtain ⟨ht, ho, hr⟩ := UdpClients.calls_snoc task.calls call returned
  have hgiven : task.place.origins = call.origin.toList ∧ task.place.replies = [] ∧
      task.place.tunneled = call.tunneled.toList ∧ task.place.sessions = [] := by
    generalize task.place = place at hplace
    cases hplace <;> exact ⟨rfl, rfl, rfl, rfl⟩
  obtain ⟨hgo, hgr, hgt, hgs⟩ := hgiven
  have hgives : (afterCall returned).origins = [] ∧
      (afterCall returned).replies = returned.reply.toList ∧
      (afterCall returned).tunneled = [] ∧ (afterCall returned).sessions = [] := by
    rcases returned with effects | outcome | effects
    · exact ⟨rfl, rfl, rfl, rfl⟩
    · cases outcome <;> exact ⟨rfl, rfl, rfl, rfl⟩
    · exact ⟨rfl, rfl, rfl, rfl⟩
  obtain ⟨hno, hnr, hnt, hns⟩ := hgives
  refine ⟨h.clients_run.snoc hok, h.channel_run, ?_, ?_, ?_, ?_, h.dropped_iff, ?_⟩
  · dsimp only
    rw [ho, hno, List.append_nil, ← hgo]
    exact h.origins_eq
  · dsimp only
    rw [hr, hnr, h.replies_eq, hgr, List.append_nil]
  · dsimp only
    rw [ht, hnt, List.append_nil, ← hgt]
    exact h.tunneled_eq
  · dsimp only
    rw [hns, ← hgs]
    exact h.sessions_eq
  · intro heq
    rw [hrunning] at heq
    cases heq

/-- Every step keeps the order. -/
theorem InOrder.step (h : InOrder instant shared.udp_session task)
    (hrunning : task.handle.result = none) (hstep : Step shared task shared' task') :
    InOrder instant shared'.udp_session task' := by
  cases hstep with
  | moves hfrom hto => exact h.moves hfrom hto
  | ends hpanics => exact h.ends hrunning hpanics
  | @origin packet origin hplace hrecv =>
    obtain ⟨ho, hr, ht, hs⟩ := h.inHand hplace
    simp only [UdpAt.origins, List.append_nil] at ho
    refine ⟨h.clients_run, h.channel_run, ?_, hr, ht, hs, h.dropped_iff, h.panics⟩
    simpa [goto, ho] using hrecv.received_eq.symm
  | call hplace hok => exact h.call hrunning hplace hok
  | @send flow packet udp_channel hplace hnext =>
    obtain ⟨ho, hr, ht, hs⟩ := h.inHand hplace
    obtain ⟨hrun, hadds⟩ := reachable_channel h.channel_run hnext
    refine ⟨h.clients_run, hrun, ho, ?_, ?_, ?_, ?_, h.panics⟩
    · simpa [hr] using hadds.send_eq.symm
    · simpa [hadds.received_eq] using ht
    · simpa [hadds.session_eq] using hs
    · simpa [hadds.dropped_eq] using h.dropped_iff
  | @tunneled flow packet udp_channel hplace hnext hrecv =>
    obtain ⟨ho, hr, ht, hs⟩ := h.inHand hplace
    obtain ⟨hrun, hadds⟩ := reachable_channel h.channel_run hnext
    refine ⟨h.clients_run, hrun, ho, ?_, ?_, ?_, ?_, h.panics⟩
    · simpa [hadds.send_eq] using hr
    · simp only [UdpAt.tunneled, List.append_nil] at ht
      simpa [ht] using hrecv.received_eq.symm
    · simpa [hadds.session_eq] using hs
    · simpa [hadds.dropped_eq] using h.dropped_iff
  | @session details udp_session hplace hrecv =>
    obtain ⟨ho, hr, ht, hs⟩ := h.inHand hplace
    simp only [UdpAt.sessions, List.append_nil] at hs
    refine ⟨h.clients_run, h.channel_run, ho, hr, ht, ?_, h.dropped_iff, h.panics⟩
    simpa [goto, hs] using hrecv.received_eq.symm
  | @update details udp_channel hplace hnext =>
    obtain ⟨ho, hr, ht, hs⟩ := h.inHand hplace
    obtain ⟨hrun, hadds⟩ := reachable_channel h.channel_run hnext
    refine ⟨h.clients_run, hrun, ho, ?_, ?_, ?_, ?_, h.panics⟩
    · simpa [hadds.send_eq] using hr
    · simpa [hadds.received_eq] using ht
    · simpa [hadds.session_eq] using hs
    · simpa [hadds.dropped_eq] using h.dropped_iff

/-- Only how the task has ended matters of its handle. -/
theorem InOrder.withHandle (h : InOrder instant udp_session task) {handle : JoinHandle Unit}
    (hresult : handle.result = task.handle.result) :
    InOrder instant udp_session { task with handle } := by
  refine ⟨h.clients_run, h.channel_run, h.origins_eq, h.replies_eq, h.tunneled_eq, h.sessions_eq,
    ?_, ?_⟩
  · dsimp only
    rw [hresult]
    exact h.dropped_iff
  · dsimp only
    rw [hresult]
    exact h.panics

/-- Only what was received matters of the sessions. -/
theorem InOrder.withSession (h : InOrder instant udp_session task)
    {udp_session' : Channel UdpChannelDetails}
    (hreceived : udp_session'.received = udp_session.received) :
    InOrder instant udp_session' task :=
  ⟨h.clients_run, h.channel_run, h.origins_eq, h.replies_eq, h.tunneled_eq,
    h.sessions_eq.trans hreceived.symm, h.dropped_iff, h.panics⟩

/-- What a step leaves of what the others have: the task was running, and its result is not taken;
and the step adds nothing to what the task is given. -/
structure Leaves (shared : CoreShared) (task : UdpTask σ) (shared' : CoreShared)
    (task' : UdpTask σ) : Prop where
  running : task.handle.result = none
  taken_eq : task'.handle.taken = task.handle.taken
  cancelled_eq : shared'.cancelled = shared.cancelled
  sent_eq : shared'.udp_session.sent = shared.udp_session.sent
  origin_eq : task'.origin.sent = task.origin.sent
  arrivals_eq : task'.udp_channel.datagramsIn = task.udp_channel.datagramsIn
  instant_eq : task'.udp_channel.instant = task.udp_channel.instant

/-- Every step leaves this. -/
theorem Step.leaves (hstep : Step shared task shared' task')
    (hrunning : task.handle.result = none) : Leaves shared task shared' task' := by
  have hadds : ∀ {a : UdpChannel.Action} {c : UdpChannel}, task.udp_channel.next a = some c →
      UdpChannel.Adds task.udp_channel a c := fun hnext => (UdpChannel.step_of_next hnext).adds
  cases hstep with
  | origin hplace hrecv => exact ⟨hrunning, rfl, rfl, rfl, hrecv.sent_eq, rfl, rfl⟩
  | session hplace hrecv => exact ⟨hrunning, rfl, rfl, hrecv.sent_eq, rfl, rfl, rfl⟩
  | send hplace hnext | update hplace hnext =>
    have harrivals := (hadds hnext).arrivals_eq
    have hinstant := (hadds hnext).instant_eq
    exact ⟨hrunning, rfl, rfl, rfl, rfl, by simpa using harrivals, hinstant⟩
  | tunneled hplace hnext hrecv =>
    have harrivals := (hadds hnext).arrivals_eq
    have hinstant := (hadds hnext).instant_eq
    exact ⟨hrunning, rfl, rfl, rfl, rfl, by simpa using harrivals, hinstant⟩
  | _ => exact ⟨hrunning, rfl, rfl, rfl, rfl, rfl, rfl⟩

end UdpTask

/-! ## What the tunnel task does -/

/-- The session that comes over the control connection. -/
@[simp]
def TunnelAction.announced : TunnelAction → Option UdpChannelDetails
  | .update (some (.udpChannelDetails details)) => some details
  | _ => none

namespace TunnelTask

variable {shared shared' : CoreShared} {task task' : TunnelTask} {udp_over : Bool}
  {a : TunnelAction}

/-- What a step leaves of what the others have: the task was running, and its result is not taken;
and a session that comes is given to the UDP task, or dropped. -/
structure Leaves (shared : CoreShared) (task : TunnelTask) (a : TunnelAction)
    (shared' : CoreShared) (task' : TunnelTask) : Prop where
  running : task.handle.result = none
  taken_eq : task'.handle.taken = task.handle.taken
  cancelled_eq : shared'.cancelled = shared.cancelled
  received_eq : shared'.udp_session.received = shared.udp_session.received
  sent_eq : ∃ sent : List UdpChannelDetails, sent.Sublist a.announced.toList ∧
    shared'.udp_session.sent = shared.udp_session.sent ++ sent

/-- A step that gives the UDP task nothing. -/
theorem leaves_of_eq (hrunning : task.handle.result = none)
    (htaken : task'.handle.taken = task.handle.taken)
    (hcancelled : shared'.cancelled = shared.cancelled)
    (hsession : shared'.udp_session = shared.udp_session) :
    Leaves shared task a shared' task' :=
  ⟨hrunning, htaken, hcancelled, by rw [hsession], [], List.nil_sublist _, by simp [hsession]⟩

/-- What follows an event leaves this. -/
theorem leaves_onEvent (hrunning : task.handle.result = none)
    (event : Option TunnelControlEvent) :
    Leaves shared task (.update event) (onEvent shared task udp_over event).1
      (onEvent shared task udp_over event).2 := by
  rcases event with _ | new_client | details
  · exact leaves_of_eq hrunning rfl rfl rfl
  · exact leaves_of_eq hrunning rfl rfl rfl
  · cases hsent : (if udp_over then none else shared.udp_session.send details) with
    | none => exact leaves_of_eq hrunning rfl rfl (by simp [onEvent, hsent])
    | some udp_session =>
      have hsend : Channel.Sends shared.udp_session udp_session details := by
        split at hsent
        · cases hsent
        · exact Channel.sends_of_send hsent
      exact ⟨hrunning, rfl, rfl, by simp [onEvent, hsent, hsend.received_eq],
        [details], by simp, by simp [onEvent, hsent, hsend.sent_eq]⟩

/-- Every step leaves this. -/
theorem leaves_of_next (h : TunnelTask.next shared task udp_over a = some (shared', task')) :
    Leaves shared task a shared' task' := by
  unfold TunnelTask.next at h
  split at h
  · cases h
  next hrunning =>
  rw [Option.not_isSome_iff_eq_none] at hrunning
  cases a with
  | update event =>
    dsimp only at h
    split at h
    · have heq := Option.some.inj h
      have hleaves : Leaves shared task (.update event) (onEvent shared task udp_over event).1
          (onEvent shared task udp_over event).2 := leaves_onEvent hrunning event
      rw [heq] at hleaves
      exact hleaves
    · cases h
  | cancelled =>
    dsimp only at h
    split at h
    · cases h
    · split at h <;> cases h <;> exact leaves_of_eq hrunning rfl rfl rfl
  | check now force_reload =>
    dsimp only at h
    split at h
    · split at h <;> cases h <;> exact leaves_of_eq hrunning rfl rfl rfl
    · cases h
  | _ =>
    dsimp only at h
    split at h
    · cases h
      exact leaves_of_eq hrunning rfl rfl rfl
    · cases h

end TunnelTask

end PlayitAgent
