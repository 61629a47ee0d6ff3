import PlayitAgent.Core.Tasks

/-!
# What the core relays

`PlayitAgent::run` between the tunnel server and the origins, in every order of the steps of its
tasks. What comes from the tunnel address of a session goes to the clients, and what the clients
make of the origins' packets goes back to such an address: nothing is lost, doubled or reordered
between the sockets and the calls of the clients. `run` itself polls no handle a second time, and
when it returns both tasks have ended.
-/

namespace PlayitAgent

open JoinHandle (Untaken)

/-! ## `run` -/

/-- The handles that `run` has still to await. -/
@[simp]
def CoreAt.awaited : CoreAt → List CoreTask
  | .selecting => [.tunnel, .udp]
  | .cancelling rest | .awaiting rest | .aborting rest | .joining rest => rest
  | .returned | .dropped | .panicked => []

/-- `run` has cancelled the token. -/
@[simp]
def CoreAt.cancels : CoreAt → Bool
  | .awaiting _ | .aborting _ | .joining _ | .returned => true
  | _ => false

namespace AgentCore

variable {σ : Type} {s s' : AgentCore σ} {task : CoreTask} {place : CoreAt}

/-- A task of the core has ended. -/
def Ended (s : AgentCore σ) (task : CoreTask) : Prop := (s.handle task).result.isSome = true

/-- Why `run` stops: somebody has cancelled the token, or a task has ended. -/
def Stops (s : AgentCore σ) : Prop := s.requested = true ∨ ∃ task, s.Ended task

/-- `run` awaits each handle once: those that it has still to await have their results, and the
tasks of the others have ended. -/
structure Waits (s : AgentCore σ) : Prop where
  not_panicked : s.main ≠ .panicked
  nodup : s.main.awaited.Nodup
  untaken : Untaken s.handle s.main.awaited
  ended : s.main ≠ .dropped → ∀ task ∉ s.main.awaited, s.Ended task
  cancelled : s.main.cancels = true → s.shared.cancelled = true
  stops : s.main ≠ .selecting → s.main ≠ .dropped → s.Stops
  stops_of_cancelled : s.shared.cancelled = true → s.main ≠ .dropped → s.Stops

/-- `run` waits, as before, while the tasks go on. -/
theorem Waits.congr (h : s.Waits) (hmain : s'.main = s.main)
    (htaken : ∀ task, (s'.handle task).taken = (s.handle task).taken)
    (hended : ∀ task, s.Ended task → s'.Ended task)
    (hcancelled : s'.shared.cancelled = s.shared.cancelled)
    (hrequested : s'.requested = s.requested) : s'.Waits := by
  have hstops : s.Stops → s'.Stops := by
    rintro (hrequest | ⟨task, htask⟩)
    · exact .inl (hrequested.trans hrequest)
    · exact .inr ⟨task, hended task htask⟩
  refine ⟨?_, ?_, ?_, ?_, ?_, ?_, ?_⟩
  · rw [hmain]
    exact h.not_panicked
  · rw [hmain]
    exact h.nodup
  · rw [hmain]
    exact (Untaken.congr htaken).2 h.untaken
  · rw [hmain]
    exact fun hdropped task htask => hended task (h.ended hdropped task htask)
  · rw [hmain, hcancelled]
    exact h.cancelled
  · rw [hmain]
    exact fun hselecting hdropped => hstops (h.stops hselecting hdropped)
  · rw [hmain, hcancelled]
    exact fun hc hdropped => hstops (h.stops_of_cancelled hc hdropped)

/-- The tunnel task takes a step. -/
theorem Waits.tunnel (h : s.Waits) {a : TunnelAction} {shared : CoreShared} {tunnel : TunnelTask}
    (hleaves : TunnelTask.Leaves s.shared s.tunnel a shared tunnel) :
    Waits { s with shared, tunnel } := by
  refine h.congr rfl (fun task => ?_) (fun task hended => ?_) hleaves.cancelled_eq rfl
  · cases task with
    | tunnel => exact hleaves.taken_eq
    | udp => rfl
  · cases task with
    | tunnel =>
      -- It has not ended before.
      unfold Ended handle at hended
      rw [hleaves.running] at hended
      cases hended
    | udp => exact hended

/-- The UDP task takes a step. -/
theorem Waits.udp (h : s.Waits) {shared : CoreShared} {udp : UdpTask σ}
    (hleaves : UdpTask.Leaves s.shared s.udp shared udp) : Waits { s with shared, udp } := by
  refine h.congr rfl (fun task => ?_) (fun task hended => ?_) hleaves.cancelled_eq rfl
  · cases task with
    | tunnel => rfl
    | udp => exact hleaves.taken_eq
  · cases task with
    | tunnel => exact hended
    | udp =>
      unfold Ended handle at hended
      rw [hleaves.running] at hended
      cases hended

/-- The handle of one task has changed. -/
theorem handle_setHandle (s : AgentCore σ) (task : CoreTask) (handle : JoinHandle Unit) :
    (s.setHandle task handle).handle = Function.update s.handle task handle := by
  funext task'
  cases task <;> cases task' <;> rfl

/-- What `run` does leaves the tasks: only which results are given away, and what is aborted. -/
structure MainLeaves (s s' : AgentCore σ) : Prop where
  udp_eq : ∃ handle, s'.udp = { s.udp with handle } ∧ handle.result = s.udp.handle.result
  udp_session_eq : s'.shared.udp_session = s.shared.udp_session

/-- The handle of one task changes, but not its result. -/
theorem mainLeaves_setHandle {handle : JoinHandle Unit}
    (hresult : handle.result = (s.handle task).result) :
    MainLeaves s { s.setHandle task handle with main := place } := by
  cases task with
  | tunnel => exact ⟨⟨s.udp.handle, rfl, rfl⟩, rfl⟩
  | udp => exact ⟨⟨handle, rfl, hresult⟩, rfl⟩

/-- The same tasks have ended then. -/
theorem ended_setHandle {handle : JoinHandle Unit}
    (hresult : handle.result = (s.handle task).result) (task' : CoreTask) :
    (s.setHandle task handle).Ended task' ↔ s.Ended task' := by
  unfold Ended
  rw [handle_setHandle]
  by_cases htask : task' = task
  · rw [htask, Function.update_self, hresult]
  · rw [Function.update_of_ne htask]

/-- `run` waits, as before, when a handle changes whose result stays. -/
theorem Waits.setHandle (h : s.Waits) {handle : JoinHandle Unit}
    (hresult : handle.result = (s.handle task).result)
    (htaken : handle.taken = (s.handle task).taken) : (s.setHandle task handle).Waits := by
  refine h.congr (by cases task <;> rfl) (fun task' => ?_)
    (fun task' => (ended_setHandle hresult task').2) (by cases task <;> rfl) (by cases task <;> rfl)
  rw [handle_setHandle]
  by_cases heq : task' = task
  · rw [heq, Function.update_self, htaken]
  · rw [Function.update_of_ne heq]

/-- The first handle gives its result, and `run` goes on to await the others. -/
theorem Waits.poll (h : s.Waits) (hpoll : s.poll task place = some s')
    (hawaited : ∀ task', task' ∈ s.main.awaited ↔ task' ∈ task :: place.awaited)
    (hnodup : (task :: place.awaited).Nodup) (hpanicked : place ≠ .panicked)
    (hdropped : s.main ≠ .dropped) (hcancels : place.cancels = true → s.main.cancels = true) :
    s'.Waits ∧ MainLeaves s s' := by
  have huntaken : Untaken s.handle (task :: place.awaited) :=
    fun task' htask => h.untaken task' ((hawaited task').2 htask)
  have htaken : (s.handle task).taken = false := huntaken task (List.mem_cons_self ..)
  unfold AgentCore.poll at hpoll
  split at hpoll
  · cases hpoll
  · next result hready =>
    obtain ⟨-, hresult⟩ := JoinHandle.poll_eq_ready.1 hready
    cases hpoll
    have hsame : ∀ task', (s.setHandle task (s.handle task).take).Ended task' ↔ s.Ended task' :=
      ended_setHandle rfl
    have hended : s.Ended task := Option.isSome_of_eq_some hresult
    have hstops : Stops { s.setHandle task (s.handle task).take with main := place } :=
      .inr ⟨task, (hsame task).2 hended⟩
    have hshared : (s.setHandle task (s.handle task).take).shared = s.shared := by
      cases task <;> rfl
    refine ⟨⟨hpanicked, (List.nodup_cons.1 hnodup).2, ?_, ?_, ?_, fun _ _ => hstops,
      fun _ _ => hstops⟩, mainLeaves_setHandle rfl⟩
    · have hrest : Untaken s.handle place.awaited :=
        fun task' htask => huntaken task' (List.mem_cons_of_mem _ htask)
      have hupdate := (JoinHandle.untaken_take hnodup).2 hrest
      rw [← handle_setHandle] at hupdate
      exact hupdate
    · -- The task that is not awaited any more is the one that has ended.
      intro _ task' htask
      refine (hsame task').2 ?_
      by_cases heq : task' = task
      · rw [heq]
        exact hended
      · refine h.ended hdropped task' fun hmem => ?_
        rcases List.mem_cons.1 ((hawaited task').1 hmem) with htask' | hmem
        · exact heq htask'
        · exact htask hmem
    · intro hc
      rw [hshared]
      exact h.cancelled (hcancels hc)
  · next hpanics =>
    rw [JoinHandle.poll_eq_panics.1 hpanics] at htaken
    cases htaken

/-- `run` goes from one statement to another, and awaits the same handles. -/
theorem Waits.goes (h : s.Waits) (hawaited : place.awaited = s.main.awaited)
    (hpanicked : place ≠ .panicked) (hdropped : s.main ≠ .dropped)
    (hcancels : place.cancels = true → s.main.cancels = true)
    (hstops : place ≠ .selecting → s.Stops) : Waits { s with main := place } := by
  refine ⟨hpanicked, ?_, ?_, ?_, fun hc => h.cancelled (hcancels hc), fun hs _ => hstops hs,
    fun hc _ => h.stops_of_cancelled hc hdropped⟩
  · dsimp only
    rw [hawaited]
    exact h.nodup
  · dsimp only
    rw [hawaited]
    exact h.untaken
  · dsimp only
    rw [hawaited]
    exact fun _ => h.ended hdropped

/-- `run` keeps awaiting each handle once. -/
theorem Waits.main (h : s.Waits) {a : CoreMainAction} (hnext : s.mainNext a = some s') :
    s'.Waits ∧ MainLeaves s s' := by
  have hleaves : ∀ place, MainLeaves s { s with main := place } :=
    fun place => ⟨⟨s.udp.handle, rfl, rfl⟩, rfl⟩
  have hnodup := h.nodup
  have hstops := h.stops
  cases a with
  | ends task =>
    simp only [mainNext] at hnext
    split at hnext
    · next hmain =>
      cases task with
      | tunnel =>
        exact h.poll hnext (by simp [hmain, others]) (by simp [others]) (by simp) (by simp [hmain])
          (by simp)
      | udp =>
        refine h.poll hnext (fun task => ?_) (by simp [others]) (by simp) (by simp [hmain])
          (by simp)
        rw [hmain]
        cases task <;> simp [others]
    · cases hnext
  | cancelled =>
    simp only [mainNext] at hnext
    split at hnext
    · next hmain =>
      split at hnext
      · next hcancelled =>
        cases hnext
        exact ⟨h.goes (by simp [hmain]) (by simp) (by simp [hmain]) (by simp)
          (fun _ => h.stops_of_cancelled hcancelled (by simp [hmain])), hleaves _⟩
      · cases hnext
    · cases hnext
  | cancel =>
    simp only [mainNext] at hnext
    split at hnext
    · next rest hmain =>
      cases hnext
      have hs := hstops (by simp [hmain]) (by simp [hmain])
      have huntaken := h.untaken
      have hended := h.ended (by simp [hmain])
      rw [hmain] at hnodup huntaken hended
      exact ⟨⟨by simp, hnodup, huntaken, fun _ => hended, fun _ => rfl, fun _ _ => hs,
        fun _ _ => hs⟩, ⟨s.udp.handle, rfl, rfl⟩, rfl⟩
    · cases hnext
  | awaited | joined =>
    simp only [mainNext] at hnext
    split at hnext
    · next task rest hmain =>
      rw [hmain] at hnodup
      exact h.poll hnext (by simp [hmain]) hnodup (by simp) (by simp [hmain]) (by simp [hmain])
    · cases hnext
  | timesOut =>
    simp only [mainNext] at hnext
    split at hnext
    · next task rest hmain =>
      split at hnext
      · cases hnext
        exact ⟨h.goes (by simp [hmain]) (by simp) (by simp [hmain]) (by simp [hmain])
          (fun _ => hstops (by simp [hmain]) (by simp [hmain])), hleaves _⟩
      · cases hnext
    · cases hnext
  | abort =>
    simp only [mainNext] at hnext
    split at hnext
    · next task rest hmain =>
      cases hnext
      have habort : (s.setHandle task (s.handle task).abort).Waits := h.setHandle rfl rfl
      have hmain' : (s.setHandle task (s.handle task).abort).main = s.main := by
        cases task <;> rfl
      have hs := habort.stops
      rw [hmain', hmain] at hs
      refine ⟨habort.goes ?_ (by simp) ?_ ?_ fun _ => hs (by simp) (by simp),
        mainLeaves_setHandle rfl⟩
      · rw [hmain', hmain]
        rfl
      · simp [hmain', hmain]
      · simp [hmain', hmain]
    · cases hnext
  | returns =>
    simp only [mainNext] at hnext
    split at hnext
    · next hmain =>
      cases hnext
      exact ⟨h.goes (by simp [hmain]) (by simp) (by simp [hmain]) (by simp [hmain])
        (fun _ => hstops (by simp [hmain]) (by simp [hmain])), hleaves _⟩
    · cases hnext
  | aborts =>
    have hdropped : s' = { s with main := .dropped } := by
      simp only [mainNext] at hnext
      split at hnext <;> cases hnext <;> rfl
    rw [hdropped]
    exact ⟨⟨by simp, by simp, by simp [Untaken], by simp, by simp, by simp, by simp⟩, hleaves _⟩

/-! ## Every run -/

/-- The session that comes over the control connection. -/
@[simp]
def Action.announced : Action → Option UdpChannelDetails
  | .tunnel a => a.announced
  | _ => none

/-- The packet that the task of a client sends. -/
@[simp]
def Action.fromOrigin : Action → Option UdpReceivedPacket
  | .received packet => some packet
  | _ => none

/-- The datagram that arrives at the socket of the channel, with where it comes from. -/
@[simp]
def Action.arriving : Action → Option (List UInt8 × SocketAddr)
  | .channel a => a.arriving
  | _ => none

/-- How long an action takes, in milliseconds. -/
@[simp]
def Action.lasts : Action → ℕ
  | .channel a => a.lasts
  | _ => 0

/-- The sessions that have come over the control connection in a run. -/
def announcedSessions (trace : List (Action × Unit)) : List UdpChannelDetails :=
  trace.filterMap (·.1.announced)

/-- The packets that the tasks of the clients have sent in a run. -/
def originPackets (trace : List (Action × Unit)) : List UdpReceivedPacket :=
  trace.filterMap (·.1.fromOrigin)

/-- The datagrams that have arrived from the tunnel server in a run. -/
def arrivedDatagrams (trace : List (Action × Unit)) : List (List UInt8 × SocketAddr) :=
  trace.filterMap (·.1.arriving)

/-- How long a run has taken, in milliseconds. -/
def lasted (trace : List (Action × Unit)) : ℕ := (trace.map (·.1.lasts)).sum

variable {instant : ℕ} {cancelled : Bool} {trace : List (Action × Unit)} {a : Action}

/-- What an action adds to what the core is given. A session that comes may be dropped. -/
structure Adds (s : AgentCore σ) (a : Action) (s' : AgentCore σ) : Prop where
  sent_eq : ∃ sent : List UdpChannelDetails, sent.Sublist a.announced.toList ∧
    s'.shared.udp_session.sent = s.shared.udp_session.sent ++ sent
  origin_eq : s'.udp.origin.sent = s.udp.origin.sent ++ a.fromOrigin.toList
  arrivals_eq : s'.udp.udp_channel.datagramsIn =
    s.udp.udp_channel.datagramsIn ++ a.arriving.toList
  instant_eq : s'.udp.udp_channel.instant = s.udp.udp_channel.instant + a.lasts

/-- Nothing is added. -/
theorem adds_none (hsession : s'.shared.udp_session.sent = s.shared.udp_session.sent)
    (horigin : s'.udp.origin.sent = s.udp.origin.sent)
    (harrivals : s'.udp.udp_channel.datagramsIn = s.udp.udp_channel.datagramsIn)
    (hinstant : s'.udp.udp_channel.instant = s.udp.udp_channel.instant)
    (ha : a.fromOrigin = none ∧ a.arriving = none ∧ a.lasts = 0) : Adds s a s' := by
  obtain ⟨ho, har, hl⟩ := ha
  refine ⟨⟨[], List.nil_sublist _, by simp [hsession]⟩, ?_, ?_, ?_⟩
  · rw [horigin, ho]
    simp
  · rw [harrivals, har]
    simp
  · rw [hinstant, hl]
    rfl

variable [Slab σ Client]

/-- One step keeps everything. -/
theorem step_of_next (hwaits : s.Waits) (hin : s.udp.InOrder instant s.shared.udp_session)
    (hnext : s.next a = some s') :
    s'.Waits ∧ s'.udp.InOrder instant s'.shared.udp_session ∧ Adds s a s' := by
  cases a with
  | cancel =>
    cases hnext
    refine ⟨?_, hin, adds_none rfl rfl rfl rfl ⟨rfl, rfl, rfl⟩⟩
    have hstops : Stops { s with
        shared := { s.shared with cancelled := true }, requested := true } := .inl rfl
    exact ⟨hwaits.not_panicked, hwaits.nodup, hwaits.untaken, hwaits.ended, fun _ => rfl,
      fun _ _ => hstops, fun _ _ => hstops⟩
  | tunnel a =>
    obtain ⟨⟨shared, tunnel⟩, htask, rfl⟩ := Option.map_eq_some_iff.1 hnext
    have hleaves := TunnelTask.leaves_of_next htask
    refine ⟨hwaits.tunnel hleaves, ?_, hleaves.sent_eq, by simp, by simp, rfl⟩
    exact hin.withSession hleaves.received_eq
  | udp a =>
    obtain ⟨⟨shared, udp⟩, htask, rfl⟩ := Option.map_eq_some_iff.1 hnext
    obtain ⟨hrunning, hstep⟩ := UdpTask.step_of_next htask
    have hleaves := hstep.leaves hrunning
    exact ⟨hwaits.udp hleaves, hin.step hrunning hstep, adds_none hleaves.sent_eq hleaves.origin_eq
      hleaves.arrivals_eq hleaves.instant_eq ⟨rfl, rfl, rfl⟩⟩
  | main a =>
    obtain ⟨hwaits', ⟨handle, hudp, hresult⟩, hsession⟩ := hwaits.main hnext
    refine ⟨hwaits', ?_, ?_⟩
    · rw [hudp, hsession]
      exact hin.withHandle hresult
    · exact adds_none (by rw [hsession]) (by rw [hudp]) (by rw [hudp]) (by rw [hudp])
        ⟨rfl, rfl, rfl⟩
  | received packet =>
    simp only [next] at hnext
    split at hnext
    · cases hnext
    · obtain ⟨origin, hsend, rfl⟩ := Option.map_eq_some_iff.1 hnext
      have hsends := Channel.sends_of_send hsend
      refine ⟨hwaits.congr rfl (fun task => by cases task <;> rfl)
        (fun task hended => by cases task <;> exact hended) rfl rfl, ?_,
        ⟨[], List.nil_sublist _, by simp⟩, hsends.sent_eq, by simp, rfl⟩
      exact ⟨hin.clients_run, hin.channel_run, hin.origins_eq.trans hsends.received_eq.symm,
        hin.replies_eq, hin.tunneled_eq, hin.sessions_eq, hin.dropped_iff, hin.panics⟩
  | channel a =>
    simp only [next] at hnext
    split at hnext
    · next hof =>
      obtain ⟨udp_channel, hchannel, rfl⟩ := Option.map_eq_some_iff.1 hnext
      have hadds := (UdpChannel.step_of_next hchannel).adds
      exact ⟨hwaits.congr rfl (fun task => by cases task <;> rfl)
        (fun task hended => by cases task <;> exact hended) rfl rfl, hin.channel hof hchannel,
        ⟨[], List.nil_sublist _, by simp⟩, by simp, hadds.arrivals_eq, hadds.instant_eq⟩
    · cases hnext

/-- The core after a run: `run` and the UDP task are in order, and what the core was given is in the
trace. -/
structure Carries (instant : ℕ) (trace : List (Action × Unit)) (s : AgentCore σ) : Prop where
  waits : s.Waits
  in_order : s.udp.InOrder instant s.shared.udp_session
  sessions_sublist : s.shared.udp_session.sent.Sublist (announcedSessions trace)
  origin_eq : s.udp.origin.sent = originPackets trace
  arrivals_eq : s.udp.udp_channel.datagramsIn = arrivedDatagrams trace
  instant_eq : s.udp.udp_channel.instant = instant + lasted trace

/-- Every step carries on. -/
theorem Carries.step (h : Carries instant trace s) (hnext : s.next a = some s') :
    Carries instant (trace ++ [(a, ())]) s' := by
  obtain ⟨hwaits, hin, hadds⟩ := step_of_next h.waits h.in_order hnext
  obtain ⟨sent, hsub, hsent⟩ := hadds.sent_eq
  refine ⟨hwaits, hin, ?_, ?_, ?_, ?_⟩
  · have hannounced : announcedSessions (trace ++ [(a, ())]) =
        announcedSessions trace ++ a.announced.toList := by
      rw [announcedSessions, announcedSessions, filterMap_snoc]
    rw [hsent, hannounced]
    exact h.sessions_sublist.append hsub
  · rw [hadds.origin_eq, h.origin_eq, originPackets, originPackets, filterMap_snoc]
  · rw [hadds.arrivals_eq, h.arrivals_eq, arrivedDatagrams, arrivedDatagrams, filterMap_snoc]
  · rw [hadds.instant_eq, h.instant_eq, lasted, lasted, List.map_append, List.sum_append,
      Nat.add_assoc]
    rfl

/-- The tasks were just spawned. -/
theorem carries_spawned (instant : ℕ) (cancelled : Bool) :
    Carries instant [] (spawned instant cancelled : AgentCore σ) := by
  have hwaits : (spawned instant cancelled : AgentCore σ).Waits := by
    refine ⟨by simp [spawned], by simp [spawned], ?_, fun _ task htask => ?_, by simp [spawned],
      fun hs => absurd rfl hs, fun hc _ => .inl hc⟩
    · intro task _
      cases task <;> rfl
    · cases task <;> simp [spawned] at htask
  exact ⟨hwaits, UdpTask.inOrder_spawned instant 8, List.nil_sublist _, rfl, rfl, rfl⟩

/-- Every run carries on. -/
theorem carries_of_run (h : Run (ofOption next) (spawned instant cancelled) trace s) :
    Carries instant trace s :=
  h.invariant (I := Carries instant) (carries_spawned instant cancelled)
    fun _ _ _ _ _ hcarries hok => hcarries.step (ofOption_eq_ok.1 hok)

/-- What a run relays. -/
structure Relays (trace : List (Action × Unit)) (s : AgentCore σ) : Prop where
  /-- The calls of the clients follow one another. -/
  clients_run : Run UdpClients.step .new s.udp.calls s.udp.clients
  /-- The sessions of the channel came over the control connection, in this order. -/
  sessions_sublist : (sessions s.udp.udp_channel.events).Sublist (announcedSessions trace)
  /-- The datagrams are looked at as they have arrived, and one may be in hand. -/
  arrivals_eq : s.udp.udp_channel.arrivals.map (fun a => (a.datagram, a.source)) ++
    s.udp.udp_channel.recv_task.arrived = arrivedDatagrams trace
  /-- A datagram that is accepted comes from the tunnel address of a session. -/
  from_session : ∀ a ∈ s.udp.udp_channel.arrivals, ∀ p, a.accepted = some p →
    ∃ session ∈ announcedSessions trace, a.source = session.tunnel_addr
  /-- The clients are given what is accepted, in order. -/
  tunneled_prefix : (UdpClients.tunneled s.udp.calls).map payload <+:
    s.udp.udp_channel.arrivals.filterMap (·.accepted)
  /-- Nothing that is accepted is lost while the UDP task runs. -/
  tunneled_eq : s.udp.handle.result = none →
    s.udp.udp_channel.arrivals.filterMap (·.accepted) =
      (UdpClients.tunneled s.udp.calls ++ s.udp.place.tunneled ++
        s.udp.udp_channel.recv.queue ++ s.udp.udp_channel.recv_task.packets).map payload
  /-- The clients are given what the origins send, in order. -/
  origins_eq : UdpClients.origins s.udp.calls ++ s.udp.place.origins ++ s.udp.origin.queue =
    originPackets trace
  /-- A reply carries what an origin sent, to a flow that a packet came from. -/
  returns : ∀ p ∈ UdpClients.replies s.udp.calls, UdpClients.Returns s.udp.calls p
  /-- The channel is given the replies, in order. -/
  replies_eq : packets s.udp.udp_channel.events ++ s.udp.udp_channel.send_task.place.packets ++
    s.udp.udp_channel.send.queue ++ s.udp.place.replies = UdpClients.replies s.udp.calls
  /-- What is sent is what the events of the sending task make of each other. -/
  datagrams_eq : s.udp.udp_channel.datagrams = (replay s.udp.udp_channel.events).2
  /-- Tokens of sessions and replies with their footers are sent, to the sessions' tunnel
  addresses. -/
  to_session : ∀ d ∈ s.udp.udp_channel.datagrams, ∃ session ∈ announcedSessions trace,
    d.2 = session.tunnel_addr ∧ (d.1 = session.token ∨
      ∃ p ∈ UdpClients.replies s.udp.calls, d.1 = p.2.asRef ++ p.1.footer)
  /-- One datagram at most is sent for a session, a reply, and three seconds. -/
  rate : 3000 * s.udp.udp_channel.datagrams.length ≤ lasted trace +
    3000 * ((announcedSessions trace).length + (UdpClients.replies s.udp.calls).length)
  /-- The UDP task panics in a call of the clients only. -/
  panics : s.udp.handle.result = some taskPanicked →
    ∃ call failure, s.udp.clients.step call = .error failure

/-- In every order of the steps of `run`, of its tasks and of those of the channel, and whatever the
control connection and the sockets do, the core relays. -/
theorem core_relays (h : Run (ofOption next) (spawned instant cancelled) trace s) :
    Relays trace s := by
  have hcarries := carries_of_run h
  have hin := hcarries.in_order
  obtain ⟨steps, hrun⟩ := hin.channel_run
  have hchannel := UdpChannel.relays_of_run hrun
  obtain ⟨-, -, -, hlogs⟩ := UdpChannel.relays_in_order_of_run hrun
  -- The sessions and the packets of the channel are those that the UDP task was given.
  have hgiven : (UdpChannel.givenSessions steps).Sublist (announcedSessions trace) := by
    refine List.Sublist.trans ?_ hcarries.sessions_sublist
    rw [← hlogs.session_eq]
    have hreceived : s.shared.udp_session.received.Sublist s.shared.udp_session.sent :=
      (Channel.received_prefix _).sublist
    rw [← hin.sessions_eq] at hreceived
    exact (List.sublist_append_left _ _).trans hreceived
  have hasked : UdpChannel.askedPackets steps ++ s.udp.place.replies =
      UdpClients.replies s.udp.calls := by
    rw [← hlogs.send_eq, hin.replies_eq]
  have hlasted : UdpChannel.lasted steps = lasted trace := by
    have hinstant := hcarries.instant_eq
    rw [hlogs.instant_eq] at hinstant
    omega
  refine ⟨hin.clients_run, ?_, hcarries.arrivals_eq, ?_, ?_, fun hrunning => ?_, ?_,
    UdpClients.returns_of_run hin.clients_run, ?_, hchannel.datagrams_eq, ?_, ?_, hin.panics⟩
  · refine List.Sublist.trans ?_ hgiven
    rw [← hchannel.sessions_eq, List.append_assoc]
    exact List.sublist_append_left _ _
  · intro a ha p haccepted
    obtain ⟨session, hsession, hsource⟩ := hchannel.from_session a ha p haccepted
    exact ⟨session, hgiven.subset hsession, hsource⟩
  · refine List.IsPrefix.trans ?_ hchannel.received_prefix
    rw [← hin.tunneled_eq, List.map_append]
    exact List.prefix_append _ _
  · -- The channel has not been dropped, so its receiving task runs, too.
    have hended : s.udp.udp_channel.recv_task ≠ .ended := by
      intro hended
      have hdropped := hchannel.tasks.2.2 (.inr hended)
      rw [hin.dropped_iff, hrunning] at hdropped
      cases hdropped
    rw [hchannel.accepted_eq hended, hin.tunneled_eq]
  · rw [hin.origins_eq]
    exact hcarries.origin_eq
  · rw [hchannel.packets_eq, hasked]
  · intro d hd
    obtain ⟨session, hsession, haddr, hbytes⟩ := hchannel.to_session d hd
    refine ⟨session, hgiven.subset hsession, haddr, ?_⟩
    rcases hbytes with htoken | ⟨p, hp, hbytes⟩
    · exact .inl htoken
    · refine .inr ⟨p, ?_, hbytes⟩
      rw [← hasked]
      exact List.mem_append_left _ hp
  · have hrate := hchannel.rate
    have hsessions := hgiven.length_le
    have hpackets := congrArg List.length hasked
    rw [List.length_append] at hpackets
    rw [hlasted] at hrate
    calc 3000 * s.udp.udp_channel.datagrams.length
        ≤ lasted trace + 3000 * ((UdpChannel.givenSessions steps).length +
          (UdpChannel.askedPackets steps).length) := hrate
      _ ≤ _ := by gcongr; omega

end AgentCore

namespace Sample

/-- A session comes, is taken over, and its token is sent. -/
def established : List AgentCore.Action :=
  [.tunnel (.start 1000), .tunnel .yielded, .tunnel .load, .tunnel (.check 1000 false),
    .tunnel (.update (some (.udpChannelDetails tunnelSession))), .udp .start, .udp .yielded,
    .udp .session, .udp .update, .udp (.look 1000), .udp .store, .channel .start,
    .channel (.look 1000), .channel .takeSession, .channel (.handle 1000), .channel .publish,
    .channel (.establish 1000), .channel (.look 1000)]

/-- A player's packet arrives and opens a client. -/
def forwarded : List AgentCore.Action :=
  [.channel (.allocate buffer),
    .channel (.receive ([1] ++ (flow 30001 1 none).footer) tunnelSession.tunnel_addr),
    .channel .check, .channel .pass, .udp .yielded, .udp .tunneled, .udp (.handle io 1000),
    .udp (.look 1000), .udp .store]

/-- The origin answers, and the reply is sent. -/
def answered : List AgentCore.Action :=
  [.received (UdpReceiver.received (packClientId 0 1) buffer (.v4 ⟨0x7f000001, 25566⟩)),
    .udp .yielded, .udp .origin, .udp (.dispatch 1000), .udp .send, .channel .takePacket,
    .channel .sendPacket]

end Sample

set_option maxRecDepth 10000 in
/-- The token of the session and the reply of the origin are sent. -/
theorem AgentCore.core_relays_sample :
    ∃ s, takes next (spawned 0 false : AgentCore (SlabVec Client))
        (Sample.established ++ Sample.forwarded ++ Sample.answered) = some s ∧
      Relays ((Sample.established ++ Sample.forwarded ++ Sample.answered).map fun a => (a, ())) s ∧
      s.udp.udp_channel.datagrams = [(Sample.tunnelSession.token, Sample.tunnelSession.tunnel_addr),
        ([9, 9] ++ (Sample.flow 30001 1 none).flip.footer, Sample.tunnelSession.tunnel_addr)] := by
  obtain ⟨s, hs, hdatagrams⟩ : ∃ s, takes next (spawned 0 false : AgentCore (SlabVec Client))
        (Sample.established ++ Sample.forwarded ++ Sample.answered) = some s ∧
      s.udp.udp_channel.datagrams = [(Sample.tunnelSession.token, Sample.tunnelSession.tunnel_addr),
        ([9, 9] ++ (Sample.flow 30001 1 none).flip.footer, Sample.tunnelSession.tunnel_addr)] :=
    ⟨_, rfl, rfl⟩
  exact ⟨s, hs, core_relays (Run.nil.takes hs), hdatagrams⟩

namespace AgentCore

variable {σ : Type} [Slab σ Client] {s : AgentCore σ} {instant : ℕ} {cancelled : Bool}
  {trace : List (Action × Unit)}

/-- In every order of the steps, `run` polls no handle that has given its result. It stops only when
somebody has cancelled the token or a task has ended. When it returns, both tasks have ended, the
token is cancelled, and the UDP task has dropped the channel, so that its tasks can end. -/
theorem core_run_joins (h : Run (ofOption next) (spawned instant cancelled) trace s) :
    s.main ≠ .panicked ∧
    (s.main ≠ .selecting → s.main ≠ .dropped →
      s.requested = true ∨ ∃ task, (s.handle task).result.isSome = true) ∧
    (s.main = .returned → (∀ task, (s.handle task).result.isSome = true) ∧
      s.shared.cancelled = true ∧ s.udp.udp_channel.dropped = true) := by
  have hcarries := carries_of_run h
  have hwaits := hcarries.waits
  refine ⟨hwaits.not_panicked, hwaits.stops, fun hreturned => ?_⟩
  have hended : ∀ task, s.Ended task := by
    intro task
    refine hwaits.ended (by simp [hreturned]) task ?_
    simp [hreturned]
  refine ⟨hended, hwaits.cancelled (by simp [hreturned]), ?_⟩
  exact hcarries.in_order.dropped_iff.2 (hended .udp)

end AgentCore

namespace Sample

/-- The token is cancelled, the tunnel task ends first, and `run` waits for the UDP task. -/
def joined : List AgentCore.Action :=
  [.tunnel (.start 1000), .udp .start, .cancel, .tunnel .cancelled, .main (.ends .tunnel),
    .main .cancel, .udp .cancelled, .main .awaited, .main .returns]

end Sample

/-- `run` returns. -/
theorem AgentCore.core_run_joins_sample :
    ∃ s, takes next (spawned 0 false : AgentCore (SlabVec Client)) Sample.joined = some s ∧
      s.main = .returned ∧ s.udp.udp_channel.dropped = true := by
  obtain ⟨s, hs, hmain⟩ : ∃ s,
      takes next (spawned 0 false : AgentCore (SlabVec Client)) Sample.joined = some s ∧
      s.main = .returned := ⟨_, rfl, rfl⟩
  exact ⟨s, hs, hmain, ((core_run_joins (Run.nil.takes hs)).2.2 hmain).2.2⟩

end PlayitAgent
