import PlayitAgent.Udp.ClientsInvariant

/-!
# Shutting a receiver down

The task behind a `UdpReceiver` announces its end on a `oneshot` channel, which two functions read:
`is_closed` polls it and `shutdown` awaits it. A poll that finds the end gives the channel up, and
an await panics from then on. So a receiver whose end has been seen cannot be shut down, and this is
what `clear_old` does with each such client.
-/

namespace PlayitAgent

/-! ## The task -/

/-- Where the task is, in `Task::start`. -/
inductive ReceiverTask where
  /-- At the first `select!`: it waits for a packet of the pool. -/
  | allocating
  /-- At the second `select!`: it waits for a datagram. -/
  | receiving
  /-- It waits for room in the output channel. -/
  | sending
  /-- Behind the loop. -/
  | ending
  /-- The end has been announced. -/
  | ended
  /-- It has panicked or was dropped, and its end of the `oneshot` channel is gone. -/
  | panicked
  deriving DecidableEq

/-- What the task does next. -/
inductive ReceiverTask.Action where
  /-- A packet is allocated. -/
  | allocated
  /-- A datagram of a length is received. -/
  | received (bytes : ℕ)
  /-- Receiving fails. -/
  | failed
  /-- The packet is sent to the clients. -/
  | sent
  /-- The packet cannot be sent: the clients are gone. -/
  | outputClosed
  /-- The cancellation is seen. -/
  | cancelled
  /-- The end is announced. -/
  | announce
  /-- The code that is called panics, or the task is dropped. -/
  | panics

namespace ReceiverTask

/-- The task is in its loop. -/
def inLoop : ReceiverTask → Bool
  | .allocating | .receiving | .sending => true
  | _ => false

/-- What `try_recv` or an await of the channel finds: a value, or that the sender is gone. -/
def hasEnded : ReceiverTask → Bool
  | .ended | .panicked => true
  | _ => false

/-- One step of `Task::start`, when the token is cancelled or not. -/
def next (task : ReceiverTask) (cancel : Bool) : Action → Option ReceiverTask
  | .allocated => if task = .allocating then some .receiving else none
  | .received bytes =>
    -- `packet.set_len(bytes).unwrap()`.
    if task = .receiving then some (if bytes ≤ packetLen then .sending else .panicked) else none
  | .failed => if task = .receiving then some .allocating else none
  | .sent => if task = .sending then some .allocating else none
  | .outputClosed => if task = .sending then some .ending else none
  | .cancelled => if task.inLoop && cancel then some .ending else none
  | .announce => if task = .ending then some .ended else none
  | .panics => if task.inLoop then some .panicked else none

/-- A task whose token is cancelled can end. -/
theorem can_end (task : ReceiverTask) :
    ∃ (as : List Action) (task' : ReceiverTask),
      as.foldlM (fun task a => task.next true a) task = some task' ∧ task'.hasEnded = true := by
  cases task with
  | allocating => exact ⟨[.cancelled, .announce], .ended, rfl, rfl⟩
  | receiving => exact ⟨[.cancelled, .announce], .ended, rfl, rfl⟩
  | sending => exact ⟨[.cancelled, .announce], .ended, rfl, rfl⟩
  | ending => exact ⟨[.announce], .ended, rfl, rfl⟩
  | ended => exact ⟨[], .ended, rfl, rfl⟩
  | panicked => exact ⟨[], .panicked, rfl, rfl⟩

end ReceiverTask

/-! ## The handle -/

/-- `UdpReceiver::shutdown`, one poll: the channel is looked at first and then the timer, which has
`elapsed` or not. -/
def UdpReceiver.pollShutdown (receiver : UdpReceiver) (ended elapsed : Bool) :
    Option (Except Panic Unit) :=
  match receiver.end_rx with
  | .taken => some (throw .polledAfterCompletion)
  | .waiting => if ended then some (return ()) else if elapsed then some (throw .explicit) else none

/-- A poll that is ready gives the result of the shutdown. -/
theorem UdpReceiver.pollShutdown_eq_some {receiver : UdpReceiver} {ended elapsed : Bool}
    {r : Except Panic Unit} (h : receiver.pollShutdown ended elapsed = some r) :
    receiver.shutdown (!ended) = r := by
  unfold pollShutdown at h
  unfold UdpReceiver.shutdown
  cases hend : receiver.end_rx with
  | taken =>
    rw [hend] at h
    exact Option.some.inj h
  | waiting =>
    simp only [hend] at h
    cases ended with
    | true => exact Option.some.inj h
    | false =>
      cases elapsed with
      | true => exact Option.some.inj h
      | false => cases h

/-- The one call of `shutdown`. -/
inductive ShutdownCall where
  | notCalled
  | waiting
  | returned
  | panicked (p : Panic)
  deriving DecidableEq

/-- A receiver with its task. -/
structure ReceiverSystem where
  task : ReceiverTask
  /-- The token is cancelled. -/
  cancel : Bool
  receiver : UdpReceiver
  call : ShutdownCall

namespace ReceiverSystem

/-- What happens to a receiver: a step of the task, a call of `is_closed`, the call of `shutdown`,
or a poll of it. -/
inductive Action where
  | task (a : ReceiverTask.Action)
  | isClosed
  | shutdown
  | pollShutdown (elapsed : Bool)

/-- `UdpReceiverSetup::create`. -/
def create (id : UInt64) : ReceiverSystem := ⟨.allocating, false, UdpReceiver.create id, .notCalled⟩

/-- The outcome of a poll of `shutdown`. -/
def finish : Option (Except Panic Unit) → ShutdownCall
  | none => .waiting
  | some (.ok _) => .returned
  | some (.error p) => .panicked p

/-- One step, with what `is_closed` has returned. -/
def step (s : ReceiverSystem) : Action → Except Unit (ReceiverSystem × Option Bool)
  | .task a =>
    match s.task.next s.cancel a with
    | some task => .ok ({ s with task }, none)
    | none => .error ()
  | .isClosed =>
    if s.call = .notCalled then
      let (closed, receiver) := s.receiver.isClosed s.task.hasEnded
      .ok ({ s with receiver }, some closed)
    else .error ()
  | .shutdown =>
    if s.call = .notCalled then .ok ({ s with cancel := true, call := .waiting }, none)
    else .error ()
  | .pollShutdown elapsed =>
    if s.call = .waiting then
      .ok ({ s with call := finish (s.receiver.pollShutdown s.task.hasEnded elapsed) }, none)
    else .error ()

/-! ## Runs -/

/-- The condition for a step not to make `shutdown` panic: no call of `is_closed` has taken the end,
and the task has ended when the timer fires. -/
def Safe (s : ReceiverSystem) : Action → Prop
  | .pollShutdown elapsed =>
    s.receiver.end_rx = .waiting ∧ (elapsed = true → s.task.hasEnded = true)
  | _ => True

variable {s s' : ReceiverSystem} {a : Action} {o : Option Bool}

/-- What a step does. -/
theorem step_cases (h : s.step a = .ok (s', o)) :
    (∃ b task, a = .task b ∧ s.task.next s.cancel b = some task ∧ s' = { s with task } ∧
      o = none) ∨
    (a = .isClosed ∧ s.call = .notCalled ∧
      s' = { s with receiver := (s.receiver.isClosed s.task.hasEnded).2 } ∧
      o = some (s.receiver.isClosed s.task.hasEnded).1) ∨
    (a = .shutdown ∧ s.call = .notCalled ∧ s' = { s with cancel := true, call := .waiting } ∧
      o = none) ∨
    ∃ elapsed, a = .pollShutdown elapsed ∧ s.call = .waiting ∧
      s' = { s with call := finish (s.receiver.pollShutdown s.task.hasEnded elapsed) } ∧
      o = none := by
  cases a with
  | task b =>
    simp only [step] at h
    cases hnext : s.task.next s.cancel b with
    | none =>
      rw [hnext] at h
      cases h
    | some task =>
      rw [hnext] at h
      cases h
      exact .inl ⟨b, task, rfl, hnext, rfl, rfl⟩
  | isClosed =>
    simp only [step] at h
    split at h
    · next hcall =>
      cases h
      exact .inr (.inl ⟨rfl, hcall, rfl, rfl⟩)
    · cases h
  | shutdown =>
    simp only [step] at h
    split at h
    · next hcall =>
      cases h
      exact .inr (.inr (.inl ⟨rfl, hcall, rfl, rfl⟩))
    · cases h
  | pollShutdown elapsed =>
    simp only [step] at h
    split at h
    · next hcall =>
      cases h
      exact .inr (.inr (.inr ⟨elapsed, rfl, hcall, rfl, rfl⟩))
    · cases h

/-- A poll of `shutdown` panics exactly when the end was taken, or the timer fires too early. -/
theorem finish_pollShutdown_iff (receiver : UdpReceiver) (ended elapsed : Bool) :
    (∀ p, finish (receiver.pollShutdown ended elapsed) ≠ .panicked p) ↔
      receiver.end_rx = .waiting ∧ (elapsed = true → ended = true) := by
  unfold UdpReceiver.pollShutdown
  cases receiver.end_rx <;> cases ended <;> cases elapsed <;> simp [finish, throw, throwThe,
    MonadExceptOf.throw, pure, Except.pure]

/-- A call that has panicked takes no further step, and a step panics unless it is safe. -/
theorem not_panicked_iff (h : s.step a = .ok (s', o)) (hs : ∀ p, s.call ≠ .panicked p) :
    (∀ p, s'.call ≠ .panicked p) ↔ s.Safe a := by
  rcases step_cases h with ⟨b, task, rfl, -, rfl, -⟩ | ⟨rfl, -, rfl, -⟩ | ⟨rfl, -, rfl, -⟩ |
    ⟨elapsed, rfl, -, rfl, -⟩
  · exact iff_of_true hs trivial
  · exact iff_of_true hs trivial
  · exact iff_of_true (fun p hp => nomatch hp) trivial
  · exact finish_pollShutdown_iff s.receiver s.task.hasEnded elapsed

/-! ### The end, once seen -/

/-- The end has been seen exactly when it was taken from the channel. -/
def Coherent (s : ReceiverSystem) : Prop :=
  s.receiver.closed = true ↔ s.receiver.end_rx = .taken

/-- What a call of `is_closed` does to a coherent receiver. -/
theorem isClosed_coherent {receiver : UdpReceiver}
    (h : receiver.closed = true ↔ receiver.end_rx = .taken) (ended : Bool) :
    ((receiver.isClosed ended).2.closed = true ↔ (receiver.isClosed ended).2.end_rx = .taken) ∧
      ((receiver.isClosed ended).1 = true ↔ (receiver.isClosed ended).2.end_rx = .taken) ∧
      (receiver.end_rx = .taken → (receiver.isClosed ended).2.end_rx = .taken) := by
  obtain ⟨id, end_rx, closed⟩ := receiver
  cases end_rx <;> cases closed <;> cases ended <;> simp_all [UdpReceiver.isClosed]

/-- Of two calls of `is_closed`, in the order of a trace, the second has returned true if the first
one has. -/
def StaysClosed (x y : Action × Option Bool) : Prop :=
  x = (.isClosed, some true) → y.1 = .isClosed → y.2 = some true

/-- The end was taken exactly when some call of `is_closed` has returned true; and no call after
such a one has returned anything else. -/
theorem taken_of_run {id : UInt64} {trace : List (Action × Option Bool)}
    (h : Run step (create id) trace s) :
    s.Coherent ∧ (s.receiver.end_rx = .taken ↔ (.isClosed, some true) ∈ trace) ∧
      trace.Pairwise StaysClosed := by
  refine h.invariant (I := fun trace s => s.Coherent ∧
    (s.receiver.end_rx = .taken ↔ (.isClosed, some true) ∈ trace) ∧
      trace.Pairwise StaysClosed) ?_ ?_
  · refine ⟨by simp [Coherent, create, UdpReceiver.create], ?_, .nil⟩
    simp [create, UdpReceiver.create]
  · rintro trace s s' a o ⟨hco, hmem, hstays⟩ hstep
    -- Other steps leave the receiver alone.
    have hother (ha : a ≠ .isClosed) (hr : s'.receiver = s.receiver) :
        s'.Coherent ∧ (s'.receiver.end_rx = .taken ↔ (.isClosed, some true) ∈ trace ++ [(a, o)]) ∧
          (trace ++ [(a, o)]).Pairwise StaysClosed := by
      refine ⟨by rw [Coherent, hr]; exact hco, ?_, ?_⟩
      · rw [hr, hmem]
        simp [ha.symm]
      · refine List.pairwise_append.2 ⟨hstays, List.pairwise_singleton _ _, ?_⟩
        intro x _ y hy _ hy'
        rw [List.mem_singleton.1 hy] at hy'
        exact absurd hy' ha
    rcases step_cases hstep with ⟨b, task, rfl, -, rfl, rfl⟩ | ⟨rfl, -, rfl, rfl⟩ |
      ⟨rfl, -, rfl, rfl⟩ | ⟨elapsed, rfl, -, rfl, rfl⟩
    · exact hother (by simp) rfl
    · obtain ⟨hco', hret, htaken⟩ := isClosed_coherent hco s.task.hasEnded
      refine ⟨hco', ?_, ?_⟩
      · show (s.receiver.isClosed s.task.hasEnded).2.end_rx = .taken ↔ _
        rw [List.mem_append, ← hmem, ← hret, List.mem_singleton]
        constructor
        · intro htrue
          exact .inr (by rw [htrue])
        · rintro (ht | ht)
          · exact hret.2 (htaken ht)
          · exact (Option.some.inj (Prod.mk.inj ht).2).symm
      · refine List.pairwise_append.2 ⟨hstays, List.pairwise_singleton _ _, ?_⟩
        rintro x hx y hy rfl -
        rw [List.mem_singleton.1 hy]
        show some (s.receiver.isClosed s.task.hasEnded).1 = _
        rw [hret.2 (htaken (hmem.2 hx))]
    · exact hother (by simp) rfl
    · exact hother (by simp) rfl

/-! ### The return -/

/-- A safe poll, when the timer has fired or the task has ended, returns. -/
theorem returns_of_safe {elapsed : Bool} (hcall : s.call = .waiting)
    (hready : elapsed = true ∨ s.task.hasEnded = true) (hsafe : s.Safe (.pollShutdown elapsed)) :
    s.step (.pollShutdown elapsed) = .ok ({ s with call := .returned }, none) := by
  obtain ⟨hwaiting, helapsed⟩ := hsafe
  have hended : s.task.hasEnded = true := hready.elim helapsed id
  simp only [step, hcall, if_true, UdpReceiver.pollShutdown, hwaiting, hended]
  rfl

/-- While `shutdown` waits, the token is cancelled. -/
theorem cancel_of_run {id : UInt64} {trace : List (Action × Option Bool)}
    (h : Run step (create id) trace s) (hcall : s.call ≠ .notCalled) : s.cancel = true := by
  refine h.invariant (I := fun _ s => s.call ≠ .notCalled → s.cancel = true) ?_ ?_ hcall
  · intro hcall
    exact absurd rfl hcall
  · intro trace s s' a o hs hstep
    rcases step_cases hstep with ⟨b, task, rfl, -, rfl, -⟩ | ⟨rfl, -, rfl, -⟩ | ⟨rfl, -, rfl, -⟩ |
      ⟨elapsed, rfl, hcall, rfl, -⟩
    · exact hs
    · exact hs
    · exact fun _ => rfl
    · exact fun _ => hs (by rw [hcall]; simp)

end ReceiverSystem

/-! ## Old clients -/

section
variable {σ : Type} [Slab σ Client]

namespace UdpReceiver

/-- No call of `is_closed` has returned true. -/
def Unpolled (receiver : UdpReceiver) : Prop :=
  receiver.end_rx = .waiting ∧ receiver.closed = false

/-- A call of `is_closed` that returns false changes nothing, and one that returns true takes
the end. -/
theorem Unpolled.isClosed {receiver : UdpReceiver} (h : receiver.Unpolled) (ended : Bool) :
    (receiver.isClosed ended).1 = ended ∧
      (receiver.isClosed ended).2.end_rx = if ended then .taken else .waiting := by
  obtain ⟨id, end_rx, closed⟩ := receiver
  obtain ⟨rfl, rfl⟩ := h
  cases ended <;> exact ⟨rfl, rfl⟩

/-- A shutdown returns unless the end was taken or the task does not end in time. -/
theorem shutdown_eq_ok_iff (receiver : UdpReceiver) (timedout : Bool) :
    receiver.shutdown timedout = .ok () ↔ receiver.end_rx = .waiting ∧ timedout = false := by
  unfold shutdown
  cases receiver.end_rx <;> cases timedout <;> simp [throw, throwThe, MonadExceptOf.throw, pure,
    Except.pure]

end UdpReceiver

namespace UdpClients

variable {c c' : UdpClients σ} {io : ClearIo} {now_ms : UInt64}

/-- The client after a poll of its receiver. -/
def polled (io : ClearIo) (slot : ℕ) (client : Client) : Client :=
  { client with receiver := (client.receiver.isClosed (io.ended slot)).2 }

/-- One turn of the first loop of `clear_old` polls one receiver, and collects its slot if the
client is old. -/
theorem get_pollOld (acc : UdpClients σ × List ℕ) (slot k : ℕ) :
    Slab.get (pollOld io now_ms acc slot).1.virtual_clients k =
      (Slab.get acc.1.virtual_clients k).map fun client =>
        if k = slot then polled io k client else client := by
  unfold pollOld
  cases hget : Slab.get acc.1.virtual_clients slot with
  | none =>
    by_cases hk : k = slot
    · rw [hk, hget]
      rfl
    · simp [hk]
  | some client =>
    have hsome : (Slab.get acc.1.virtual_clients slot).isSome := Option.isSome_of_eq_some hget
    simp only [pollReceiver, hget]
    rw [Slab.get_set _ _ _ _ hsome]
    by_cases hk : k = slot
    · rw [if_pos hk, hk, hget]
      simp [polled]
    · simp [hk]

/-- The slots that one turn collects. -/
theorem mem_pollOld (acc : UdpClients σ × List ℕ) (slot k : ℕ) :
    k ∈ (pollOld io now_ms acc slot).2 ↔ k ∈ acc.2 ∨ k = slot ∧
      ∃ client, Slab.get acc.1.virtual_clients k = some client ∧
        isOld now_ms client (client.receiver.isClosed (io.ended k)).1 = true := by
  unfold pollOld
  cases hget : Slab.get acc.1.virtual_clients slot with
  | none =>
    constructor
    · exact .inl
    · rintro (h | ⟨rfl, client, hclient, -⟩)
      · exact h
      · rw [hget] at hclient
        cases hclient
  | some client =>
    simp only [pollReceiver, hget]
    by_cases hold : isOld now_ms client (client.receiver.isClosed (io.ended slot)).1 = true
    · rw [if_pos hold, List.mem_append, List.mem_singleton]
      refine or_congr_right ⟨?_, And.left⟩
      rintro rfl
      exact ⟨rfl, client, hget, hold⟩
    · rw [if_neg hold]
      constructor
      · exact .inl
      · rintro (h | ⟨rfl, client', hclient, hold'⟩)
        · exact h
        · rw [hget] at hclient
          cases hclient
          exact absurd hold' hold

/-- The first loop of `clear_old` polls every receiver once, and collects the old clients. -/
theorem foldl_pollOld_spec (io : ClearIo) (now_ms : UInt64) (slots : List ℕ)
    (hnodup : slots.Nodup) (acc : UdpClients σ × List ℕ) (k : ℕ) :
    (Slab.get (slots.foldl (pollOld io now_ms) acc).1.virtual_clients k =
      (Slab.get acc.1.virtual_clients k).map fun client =>
        if k ∈ slots then polled io k client else client) ∧
    (k ∈ (slots.foldl (pollOld io now_ms) acc).2 ↔ k ∈ acc.2 ∨ k ∈ slots ∧
      ∃ client, Slab.get acc.1.virtual_clients k = some client ∧
        isOld now_ms client (client.receiver.isClosed (io.ended k)).1 = true) := by
  induction slots generalizing acc with
  | nil => simp
  | cons slot slots ih =>
    obtain ⟨hnot, hnodup⟩ := List.nodup_cons.1 hnodup
    obtain ⟨hget, hmem⟩ := ih hnodup (pollOld io now_ms acc slot)
    rw [List.foldl_cons, hget, hmem, get_pollOld, mem_pollOld]
    by_cases hk : k = slot
    · rw [hk]
      simp [hnot, Function.comp_def]
    · simp [hk]

/-- The second loop of `clear_old` returns exactly when every shutdown does, and then the clients
are gone. -/
theorem foldlM_removeOld_iff (io : ClearIo) (slots : List ℕ)
    (h : Indexed c.virtual_client_lookup c.virtual_clients) (hnodup : slots.Nodup)
    (hsome : ∀ k ∈ slots, (Slab.get c.virtual_clients k).isSome) :
    ((∃ c', slots.foldlM (removeOld io) c = .ok c') ↔
      ∀ k ∈ slots, ∀ client, Slab.get c.virtual_clients k = some client →
        client.receiver.shutdown (io.timedout k) = .ok ()) ∧
    ∀ c', slots.foldlM (removeOld io) c = .ok c' → ∀ k,
      Slab.get c'.virtual_clients k = if k ∈ slots then none else Slab.get c.virtual_clients k := by
  induction slots generalizing c with
  | nil =>
    refine ⟨iff_of_true ⟨c, rfl⟩ (by simp), ?_⟩
    rintro c' ⟨⟩ k
    simp
  | cons slot slots ih =>
    obtain ⟨client, hget⟩ := Option.isSome_iff_exists.1 (hsome slot List.mem_cons_self)
    obtain ⟨hnot, hnodup'⟩ := List.nodup_cons.1 hnodup
    have hremove := fun j =>
      Slab.get_remove c.virtual_clients slot j (hsome slot List.mem_cons_self)
    rw [List.foldlM_cons, removeOld_eq io h hget]
    cases hdown : client.receiver.shutdown (io.timedout slot) with
    | error p =>
      refine ⟨iff_of_false ?_ ?_, ?_⟩
      · rintro ⟨c', hc'⟩
        cases hc'
      · intro hall
        rw [hall slot List.mem_cons_self client hget] at hdown
        cases hdown
      · intro c' hc'
        cases hc'
    | ok u =>
      -- What is left is the loop over the other slots, without this client.
      have hrest : ∀ k ∈ slots, (Slab.get (Slab.remove c.virtual_clients slot) k).isSome := by
        intro k hk
        have hne : k ≠ slot := fun heq => hnot (heq ▸ hk)
        rw [hremove, if_neg hne]
        exact hsome k (List.mem_cons_of_mem _ hk)
      obtain ⟨hiff, hgone⟩ := ih (c := { c with
        virtual_client_lookup := Function.update c.virtual_client_lookup client.key none
        virtual_clients := Slab.remove c.virtual_clients slot }) (h.remove hget) hnodup' hrest
      simp only [ok_bind, pure, Except.pure]
      refine ⟨hiff.trans ⟨?_, ?_⟩, ?_⟩
      · intro hall k hk client' hclient'
        rcases List.mem_cons.1 hk with rfl | hk
        · rw [hget] at hclient'
          cases hclient'
          exact hdown
        · have hne : k ≠ slot := fun heq => hnot (heq ▸ hk)
          refine hall k hk client' ?_
          rw [hremove, if_neg hne]
          exact hclient'
      · intro hall k hk client' hclient'
        have hne : k ≠ slot := fun heq => hnot (heq ▸ hk)
        simp only [hremove, if_neg hne] at hclient'
        exact hall k (List.mem_cons_of_mem _ hk) client' hclient'
      · intro c' hc' k
        rw [hgone c' hc' k, hremove]
        by_cases hk : k = slot <;> simp [hk]

/-- No stored receiver has been found closed. -/
def Unpolled (c : UdpClients σ) : Prop :=
  ∀ slot client, Slab.get c.virtual_clients slot = some client → client.receiver.Unpolled

/-- The condition for `clear_old` not to panic: no task has ended, and the task of each client that
is removed ends in time. -/
def Clearable (c : UdpClients σ) (io : ClearIo) (now_ms : UInt64) : Prop :=
  ∀ slot client, Slab.get c.virtual_clients slot = some client →
    io.ended slot = false ∧ (isOld now_ms client false = true → io.timedout slot = false)

/-- A client whose task has ended is old. -/
theorem isOld_true (now_ms : UInt64) (client : Client) : isOld now_ms client true = true := by
  simp [isOld]

/-- A poll takes the end of a task that has ended. -/
theorem end_rx_polled {client : Client} (h : client.receiver.Unpolled) (io : ClearIo) (slot : ℕ) :
    (polled io slot client).receiver.end_rx = if io.ended slot then .taken else .waiting :=
  (h.isClosed (io.ended slot)).2

/-- What the first loop of `clear_old` comes to when no receiver has been found closed: each one has
been polled, and `slots` are those of the old clients. -/
structure Polls (c : UdpClients σ) (io : ClearIo) (now_ms : UInt64) (polledAll : UdpClients σ)
    (slots : List ℕ) : Prop where
  indexed : Indexed polledAll.virtual_client_lookup polledAll.virtual_clients
  nodup : slots.Nodup
  get : ∀ k, Slab.get polledAll.virtual_clients k =
    (Slab.get c.virtual_clients k).map (polled io k)
  mem : ∀ k, k ∈ slots ↔ ∃ client, Slab.get c.virtual_clients k = some client ∧
    isOld now_ms client (io.ended k) = true

/-- `clear_old` removes the old clients when it has polled all of them. -/
theorem exists_polls (h : c.Valid) (hfresh : c.Unpolled) (io : ClearIo) (now_ms : UInt64) :
    ∃ polledAll slots, c.Polls io now_ms polledAll slots ∧
      c.clearOld io now_ms = do
        let c' ← slots.foldlM (removeOld io) polledAll
        return (setUdp c', slots.map Effect.removed) := by
  have hspec := foldl_pollOld_spec io now_ms (Slab.keys c.virtual_clients) (Slab.nodup_keys _)
    (c, [])
  obtain ⟨hframe, old, hold, hsub⟩ :=
    foldl_pollOld io now_ms (Slab.keys c.virtual_clients) (c, []) h.indexed
  rw [List.nil_append] at hold
  simp only [hold, List.not_mem_nil, false_or] at hspec
  refine ⟨((Slab.keys c.virtual_clients).foldl (pollOld io now_ms) (c, [])).1,
    (old.mergeSort (· ≤ ·)).reverse, ⟨hframe.indexed, ?_, fun k => ?_, fun k => ?_⟩, ?_⟩
  · rw [List.nodup_reverse, (List.mergeSort_perm old _).nodup_iff]
    exact hsub.nodup (Slab.nodup_keys _)
  · rw [(hspec k).1]
    cases hget : Slab.get c.virtual_clients k with
    | none => rfl
    | some client =>
      have hkey := (Slab.mem_keys c.virtual_clients k).2 (Option.isSome_of_eq_some hget)
      simp [hkey]
  · rw [List.mem_reverse, List.mem_mergeSort, (hspec k).2]
    constructor
    · rintro ⟨-, client, hget, hisOld⟩
      rw [((hfresh k client hget).isClosed (io.ended k)).1] at hisOld
      exact ⟨client, hget, hisOld⟩
    · rintro ⟨client, hget, hisOld⟩
      refine ⟨(Slab.mem_keys _ _).2 (Option.isSome_of_eq_some hget), client, hget, ?_⟩
      rw [((hfresh k client hget).isClosed (io.ended k)).1]
      exact hisOld
  · unfold clearOld
    simp only [hold]

namespace Polls

variable {polledAll : UdpClients σ} {slots : List ℕ}

/-- A client is there afterwards, as it was polled. -/
theorem get_some (h : c.Polls io now_ms polledAll slots) {k : ℕ} {client : Client}
    (hget : Slab.get c.virtual_clients k = some client) :
    Slab.get polledAll.virtual_clients k = some (polled io k client) := by
  rw [h.get, hget]
  rfl

/-- The clients that are to be removed are there. -/
theorem isSome (h : c.Polls io now_ms polledAll slots) {k : ℕ} (hk : k ∈ slots) :
    (Slab.get polledAll.virtual_clients k).isSome := by
  obtain ⟨client, hget, -⟩ := (h.mem k).1 hk
  exact Option.isSome_of_eq_some (h.get_some hget)

/-- A client whose task has ended is removed. -/
theorem mem_of_ended (h : c.Polls io now_ms polledAll slots) {k : ℕ} {client : Client}
    (hget : Slab.get c.virtual_clients k = some client) (hended : io.ended k = true) :
    k ∈ slots := by
  refine (h.mem k).2 ⟨client, hget, ?_⟩
  rw [hended]
  exact isOld_true now_ms client

/-- The second loop returns exactly when the clients are clearable. -/
theorem returns_iff (h : c.Polls io now_ms polledAll slots) (hfresh : c.Unpolled) :
    (∃ c', slots.foldlM (removeOld io) polledAll = .ok c') ↔ c.Clearable io now_ms := by
  rw [(foldlM_removeOld_iff io slots h.indexed h.nodup fun k hk => h.isSome hk).1]
  constructor
  · intro hall slot client hget
    have hdown (hk : slot ∈ slots) := (UdpReceiver.shutdown_eq_ok_iff _ _).1
      (hall slot hk _ (h.get_some hget))
    have hopen : io.ended slot = false := by
      by_contra hended
      rw [Bool.not_eq_false] at hended
      -- A client whose task has ended is removed, and its end has been taken.
      have hwaiting := (hdown (h.mem_of_ended hget hended)).1
      rw [end_rx_polled (hfresh slot client hget), hended] at hwaiting
      cases hwaiting
    refine ⟨hopen, fun hold => (hdown ?_).2⟩
    rw [← hopen] at hold
    exact (h.mem slot).2 ⟨client, hget, hold⟩
  · intro hclear k hk client' hget'
    obtain ⟨client, hget, hold⟩ := (h.mem k).1 hk
    obtain ⟨hopen, htime⟩ := hclear k client hget
    obtain rfl := Option.some.inj ((h.get_some hget).symm.trans hget')
    rw [hopen] at hold
    rw [UdpReceiver.shutdown_eq_ok_iff, end_rx_polled (hfresh k client hget), hopen]
    exact ⟨rfl, htime hold⟩

/-- A client that stays was not found closed, so its receiver is as it was. -/
theorem unpolled (h : c.Polls io now_ms polledAll slots) (hfresh : c.Unpolled)
    (hok : slots.foldlM (removeOld io) polledAll = .ok c') : c'.Unpolled := by
  intro slot client' hget'
  have hstay := (foldlM_removeOld_iff io slots h.indexed h.nodup fun k hk => h.isSome hk).2 c' hok
    slot
  rw [hget'] at hstay
  by_cases hk : slot ∈ slots
  · rw [if_pos hk] at hstay
    cases hstay
  · rw [if_neg hk, h.get] at hstay
    obtain ⟨client, hget, rfl⟩ := Option.map_eq_some_iff.1 hstay.symm
    have hopen : io.ended slot = false := by
      by_contra hended
      rw [Bool.not_eq_false] at hended
      exact hk (h.mem_of_ended hget hended)
    have hpoll : client.receiver.isClosed (io.ended slot) =
        (false, (client.receiver.isClosed (io.ended slot)).2) :=
      Prod.ext (((hfresh slot client hget).isClosed _).1.trans hopen) rfl
    show UdpReceiver.Unpolled (client.receiver.isClosed (io.ended slot)).2
    rw [UdpReceiver.isClosed_eq_false hpoll]
    exact hfresh slot client hget

end Polls

/-- What `clear_old` comes to when no receiver has been polled: it returns exactly when the clients
are clearable, and then the receivers that stay have not been found closed either. -/
theorem clearOld_eq_ok_iff (h : c.Valid) (hfresh : c.Unpolled) :
    ((∃ r, c.clearOld io now_ms = .ok r) ↔ c.Clearable io now_ms) ∧
      ∀ c' effects, c.clearOld io now_ms = .ok (c', effects) → c'.Unpolled := by
  obtain ⟨polledAll, slots, hpolls, hclear⟩ := exists_polls h hfresh io now_ms
  rw [hclear, ← hpolls.returns_iff hfresh]
  refine ⟨⟨?_, ?_⟩, ?_⟩
  · rintro ⟨r, hr⟩
    obtain ⟨c', hc', -⟩ := except_bind_eq_ok.1 hr
    exact ⟨c', hc'⟩
  · rintro ⟨c', hc'⟩
    rw [hc']
    exact ⟨_, rfl⟩
  · intro c' effects hok
    obtain ⟨c₁, hc₁, hr⟩ := except_bind_eq_ok.1 hok
    cases hr
    have hleft : c₁.Unpolled := hpolls.unpolled hfresh hc₁
    exact hleft

/-- Dropping a client that was found closed leaves the others as they are. -/
theorem Found.none_unpolled {key : UdpClientKey} {ended : Bool} {removed : List Effect}
    (h : c.Unpolled) (hfound : Found c key ended (none, c', removed)) : c'.Unpolled := by
  cases hfound with
  | absent hlookup => exact h
  | @dead slot client hlookup hget hclosed =>
    intro k client' hget'
    have hsome := Option.isSome_of_eq_some (Slab.get_set_self hget { client with
      receiver := (client.receiver.isClosed ended).2 })
    have hsome' : (Slab.get c.virtual_clients slot).isSome := Option.isSome_of_eq_some hget
    simp only [discard, setUdp, setClient, hsome, if_true] at hget'
    rw [Slab.get_remove _ _ _ hsome] at hget'
    split at hget'
    · cases hget'
    · next hne =>
      rw [Slab.get_set _ _ _ _ hsome', if_neg hne] at hget'
      exact h k client' hget'

/-- In every reachable state no stored receiver has been found closed. -/
theorem unpolled_of_reachable (h : Reachable step new c) : c.Unpolled := by
  suffices hboth : c.Valid ∧ c.Unpolled from hboth.2
  refine h.invariant (I := fun c => c.Valid ∧ c.Unpolled) ⟨new_valid, ?_⟩ ?_
  · intro slot client hget
    have hempty : Slab.get (Slab.empty : σ) slot = none := Slab.get_empty slot
    rw [show Slab.get (new : UdpClients σ).virtual_clients slot = none from hempty] at hget
    cases hget
  · rintro c c' call returned ⟨hv, hfresh⟩ hstep
    refine ⟨step_valid hv hstep, ?_⟩
    cases call with
    | handleTunneledPacket io now_ms flow packet =>
      obtain ⟨⟨c₁, effects⟩, hcall, hret⟩ := except_bind_eq_ok.1 hstep
      cases hret
      cases handled_of_eq_ok hv hcall with
      | ignored hnone => exact hfresh
      | @reused ext origin slot client hext horigin hlookup hget hopen =>
        intro k client' hget'
        have hsome : (Slab.get c.virtual_clients slot).isSome := Option.isSome_of_eq_some hget
        have hsome' := Option.isSome_of_eq_some (Slab.get_set_self hget client)
        simp only [setClient] at hget'
        rw [Slab.get_set _ _ _ _ hsome'] at hget'
        split at hget'
        · cases hget'
          exact hfresh slot client hget
        · next hne =>
          rw [Slab.get_set _ _ _ _ hsome, if_neg hne] at hget'
          exact hfresh k client' hget'
      | refused hext hfound heffects => exact hfound.none_unpolled hfresh
      | @opened ext origin c₂ removed header target_addr socket flow' hext horigin hopens hfound
          htarget hlen hslot hflow hheader =>
        intro k client' hget'
        simp only [insertClient, setUdp, Slab.get_insert] at hget'
        split at hget'
        · cases hget'
          exact ⟨rfl, rfl⟩
        · exact hfound.none_unpolled hfresh k client' hget'
    | dispatchOriginPacket now_ms packet =>
      obtain ⟨⟨c₁, outcome⟩, hcall, hret⟩ := except_bind_eq_ok.1 hstep
      cases hret
      rcases dispatchOriginPacket_cases hcall with ⟨rfl, -⟩ | ⟨client, flow, hget, -, -, -, -, rfl⟩
      · exact hfresh
      · intro k client' hget'
        have hsome := Option.isSome_of_eq_some hget
        simp only [setClient] at hget'
        rw [Slab.get_set _ _ _ _ hsome] at hget'
        split at hget'
        · cases hget'
          exact hfresh _ client hget
        · exact hfresh k client' hget'
    | clearOld io now_ms =>
      obtain ⟨⟨c₁, effects⟩, hcall, hret⟩ := except_bind_eq_ok.1 hstep
      cases hret
      exact (clearOld_eq_ok_iff hv hfresh).2 _ _ hcall

end UdpClients

end

/-- In every run of a receiver with its task, `is_closed` stays true once it was, and the end has
been taken exactly when it was true before. No call of `shutdown` has panicked exactly when none was
polled after the end had been taken, or after 15 seconds while the task was still running; and such
a call returns, at the latest when the timer fires, while the task can always end. Clearing old
clients, in every reachable state, does not panic exactly when no task has ended and those that are
told to end do so in time; the shutdown that it awaits comes to what its last poll gives. -/
theorem receiver_shutdown_iff {id : UInt64} {trace : List (ReceiverSystem.Action × Option Bool)}
    {s : ReceiverSystem} (hrun : Run ReceiverSystem.step (.create id) trace s) {σ : Type}
    [Slab σ Client] {c : UdpClients σ} (hreach : Reachable UdpClients.step .new c) :
    (trace.Pairwise ReceiverSystem.StaysClosed ∧
      (s.receiver.end_rx = .taken ↔ (.isClosed, some true) ∈ trace) ∧
      (Throughout ReceiverSystem.step (fun s => ∀ p, s.call ≠ .panicked p) (.create id) trace ↔
        Along ReceiverSystem.step ReceiverSystem.Safe (.create id) trace) ∧
      (s.call = .waiting →
        (∃ (as : List ReceiverTask.Action) (task : ReceiverTask),
          as.foldlM (fun task a => task.next s.cancel a) s.task = some task ∧
            task.hasEnded = true) ∧
        ∀ elapsed, elapsed = true ∨ s.task.hasEnded = true → s.Safe (.pollShutdown elapsed) →
          s.step (.pollShutdown elapsed) = .ok ({ s with call := .returned }, none))) ∧
    (∀ io now_ms, (∃ r, c.clearOld io now_ms = .ok r) ↔ c.Clearable io now_ms) ∧
    ∀ (receiver : UdpReceiver) (ended elapsed : Bool) (r : Except Panic Unit),
      receiver.pollShutdown ended elapsed = some r → receiver.shutdown (!ended) = r := by
  refine ⟨?_, fun io now_ms => ?_, fun _ _ _ _ h => UdpReceiver.pollShutdown_eq_some h⟩
  · obtain ⟨-, htaken, hstays⟩ := ReceiverSystem.taken_of_run hrun
    refine ⟨hstays, htaken, ?_, fun hcall => ⟨?_, ?_⟩⟩
    · refine hrun.throughout_iff_along (I := fun _ => True) (fun p hp => nomatch hp) trivial
        (fun _ _ _ _ _ _ => trivial) fun s s' a o _ hs hstep => ?_
      exact ReceiverSystem.not_panicked_iff hstep hs
    · have hcancel := ReceiverSystem.cancel_of_run hrun (by rw [hcall]; simp)
      rw [hcancel]
      exact s.task.can_end
    · intro elapsed hready hsafe
      exact ReceiverSystem.returns_of_safe hcall hready hsafe
  · exact (UdpClients.clearOld_eq_ok_iff (UdpClients.valid_of_reachable hreach)
      (UdpClients.unpolled_of_reachable hreach)).1

namespace Sample

/-- A task that ends on its own: its first packet finds the clients gone. -/
def endsItself : List (ReceiverSystem.Action × Option Bool) :=
  [(.task .allocated, none), (.task (.received 10), none), (.task .outputClosed, none),
    (.task .announce, none)]

set_option maxRecDepth 10000 in
/-- A packet opens a client. -/
theorem reachable_after : Reachable UdpClients.step .new (after .new (call 30001 1)) := by
  have hstep : (UdpClients.new : UdpClients (SlabVec Client)).step (call 30001 1) =
      .ok (after .new (call 30001 1), .handled [.created 0 (packClientId 0 1),
        .sent 5 [1] (.v4 ⟨0x7f000001, 25566⟩)]) := rfl
  exact ⟨_, Run.nil.snoc hstep⟩

end Sample

set_option maxRecDepth 10000 in
/-- A receiver whose task ends on its own, and whose end is seen, cannot be shut down; and clearing
old clients panics when it finds such a client. -/
theorem not_receiver_shutdown :
    (∃ s, Run ReceiverSystem.step (.create 1) (Sample.endsItself ++
      [(.isClosed, some true), (.shutdown, none), (.pollShutdown false, none)]) s ∧
      s.call = .panicked .polledAfterCompletion) ∧
    ∃ c : UdpClients (SlabVec Client), Reachable UdpClients.step .new c ∧
      ¬∃ r, c.clearOld ⟨fun _ => true, fun _ => false⟩ 1000 = .ok r := by
  refine ⟨⟨⟨.ended, true, ⟨1, .taken, true⟩, .panicked .polledAfterCompletion⟩, ?_, rfl⟩,
    Sample.after .new (Sample.call 30001 1), ?_⟩
  · have h₁ : Run ReceiverSystem.step (.create 1) Sample.endsItself
        ⟨.ended, false, ⟨1, .waiting, false⟩, .notCalled⟩ :=
      (((Run.nil.snoc rfl).snoc rfl).snoc rfl).snoc rfl
    exact ((h₁.snoc rfl).snoc rfl).snoc rfl
  · refine ⟨Sample.reachable_after, fun hok => ?_⟩
    rw [(UdpClients.clearOld_eq_ok_iff (UdpClients.valid_of_reachable Sample.reachable_after)
      (UdpClients.unpolled_of_reachable Sample.reachable_after)).1] at hok
    have hslot : (Slab.get (Sample.after .new (Sample.call 30001 1)).virtual_clients 0).isSome :=
      rfl
    obtain ⟨client, hget⟩ := Option.isSome_iff_exists.1 hslot
    cases (hok 0 client hget).1

/-- A receiver that is told to end, after its end was looked for in vain; and a client whose task
runs is cleared. -/
theorem receiver_shutdown_sample :
    (∃ s, Run ReceiverSystem.step (.create 1) [(.isClosed, some false), (.shutdown, none),
        (.task .cancelled, none), (.task .announce, none)] s ∧
      s.step (.pollShutdown false) = .ok ({ s with call := .returned }, none)) ∧
    ∃ c : UdpClients (SlabVec Client), Reachable UdpClients.step .new c ∧
      ∃ r, c.clearOld ⟨fun _ => false, fun _ => false⟩ 1000000 = .ok r := by
  have hrun : Run ReceiverSystem.step (.create 1) [(.isClosed, some false), (.shutdown, none),
      (.task .cancelled, none), (.task .announce, none)]
      ⟨.ended, true, ⟨1, .waiting, false⟩, .waiting⟩ :=
    (((Run.nil.snoc rfl).snoc rfl).snoc rfl).snoc rfl
  obtain ⟨⟨-, -, -, hreturns⟩, hclear, -⟩ := receiver_shutdown_iff hrun Sample.reachable_after
  refine ⟨⟨_, hrun, ?_⟩, _, Sample.reachable_after, ?_⟩
  · exact (hreturns rfl).2 false (.inr rfl) ⟨rfl, fun h => nomatch h⟩
  · exact (hclear _ _).2 fun slot client _ => ⟨rfl, fun _ => rfl⟩

end PlayitAgent
