import Mathlib.Data.Nat.Log
import PlayitAgent.Lib.Run
import PlayitAgent.Udp.Packets

/-!
# The pool of packets

`Packets` of `agent_core/src/network/udp/packets.rs`: one buffer, cut into slots of `PACKET_LEN`
bytes, a queue of the slots that are free, and a queue of the wakers of the tasks that wait for one.
Every operation on one of the two queues is one step, as the queues of the crate `crossbeam`
promise; between two such steps any other task can take any number of its own.

A pointer into the buffer is its distance from the start of the buffer. The clones of a `Packets`
share the two queues and the buffer, which lives as long as any of them or any packet does.
-/

namespace PlayitAgent

/-! ## The target -/

/-- What `Packets::new` is compiled for, and runs on. -/
structure Target where
  /-- The width of a `usize`. -/
  bits : ℕ
  /-- The build checks for overflows, and panics; otherwise it wraps. -/
  overflow_checks : Bool
  /-- The allocator grants that many bytes. -/
  allocates : ℕ → Bool

/-- Why `Packets::new` does not return. -/
inductive NewFailure where
  /-- An arithmetic overflow, with overflow checks. -/
  | overflow
  /-- More bytes than an `isize` can count. -/
  | capacityOverflow
  /-- The allocator refuses, and the process is aborted. -/
  | outOfMemory
  /-- An `ArrayQueue` of no capacity. -/
  | zeroCapacity
  /-- "free packet queue too small". -/
  | freeQueueTooSmall
  deriving DecidableEq

/-- `usize::next_power_of_two`, over the integers. -/
def roundUp (n : ℕ) : ℕ := 2 ^ Nat.clog 2 n

namespace Target

variable (t : Target)

/-- `usize::next_power_of_two`, which wraps to zero. -/
def nextPowerOfTwo (n : ℕ) : Except NewFailure ℕ :=
  if roundUp n < 2 ^ t.bits then .ok (roundUp n)
  else if t.overflow_checks then .error .overflow
  else .ok 0

/-- `a * b` on `usize`. -/
def mul (a b : ℕ) : Except NewFailure ℕ :=
  if a * b < 2 ^ t.bits then .ok (a * b)
  else if t.overflow_checks then .error .overflow
  else .ok (a * b % 2 ^ t.bits)

/-- An allocation. -/
def alloc (bytes : ℕ) : Except NewFailure Unit :=
  if ¬bytes < 2 ^ (t.bits - 1) then .error .capacityOverflow
  else if bytes = 0 ∨ t.allocates bytes then .ok ()
  else .error .outOfMemory

/-- `ArrayQueue::new`, with a stamp and an element of so many words in each place. -/
def arrayQueue (capacity words : ℕ) : Except NewFailure Unit :=
  if capacity = 0 then .error .zeroCapacity
  else t.alloc (capacity * ((words + 1) * (t.bits / 8)))

end Target

/-- `ArrayQueue::push`. -/
def ArrayQueue.push {α : Type} (capacity : ℕ) (queue : List α) (a : α) : Option (List α) :=
  if queue.length < capacity then some (queue ++ [a]) else none

/-- A queue takes an element at its end, when it has room. -/
theorem ArrayQueue.push_eq_some {α : Type} {capacity : ℕ} {queue queue' : List α} {a : α}
    (h : ArrayQueue.push capacity queue a = some queue') :
    queue.length < capacity ∧ queue' = queue ++ [a] := by
  unfold ArrayQueue.push at h
  split at h
  · next hroom => exact ⟨hroom, (Option.some.inj h).symm⟩
  · cases h

/-! ## The state -/

/-- A packet that was allocated and is not yet dropped. -/
structure LivePacket where
  ptr : ℕ
  len : ℕ
  deriving DecidableEq

/-- Where a task is, in `allocate_wait`. -/
inductive WaitState where
  /-- Not in it. -/
  | idle
  /-- In a poll that has found no free slot, before its waker is in the queue. -/
  | registering
  /-- Behind a poll that has returned `Pending`. -/
  | suspended
  deriving DecidableEq

/-- A pool, with the packets and the tasks that belong to it. Tasks are numbered, and so are
their wakers. -/
structure PacketPool where
  packet_count : ℕ
  /-- The length of the buffer. -/
  buffer_len : ℕ
  free_packets : List ℕ
  waiting : List ℕ
  live : List LivePacket
  task : ℕ → WaitState
  /-- The task was woken, and has not been polled since. -/
  woken : ℕ → Bool
  /-- The number of drops that have pushed their slot and not yet looked for a waker. -/
  pushed : ℕ
  /-- The wakers that drops have taken from the queue and not yet woken. -/
  held : List ℕ

/-- The capacity of `waiting`. -/
def maxWaiting : ℕ := 1024

/-- One turn of the loop of `Packets::new` over the slots. -/
def pushSlot (t : Target) (packet_count : ℕ) (free_packets : List ℕ) (i : ℕ) :
    Except NewFailure (List ℕ) := do
  let ptr ← t.mul i packetLen
  match ArrayQueue.push packet_count free_packets ptr with
  | some free_packets => .ok free_packets
  | none => .error .freeQueueTooSmall

/-- The loop of `Packets::new` over the slots. -/
def pushSlots (t : Target) (packet_count : ℕ) : Except NewFailure (List ℕ) :=
  (List.range packet_count).foldlM (pushSlot t packet_count) []

namespace PacketPool

/-- `Packets::new`. -/
def new (t : Target) (packet_count : ℕ) : Except NewFailure PacketPool := do
  let packet_count ← t.nextPowerOfTwo packet_count
  let bytes ← t.mul packet_count packetLen
  t.alloc bytes
  t.arrayQueue packet_count 1
  let free_packets ← pushSlots t packet_count
  t.arrayQueue maxWaiting 2
  return {
    packet_count
    buffer_len := bytes
    free_packets
    waiting := []
    live := []
    task _ := .idle
    woken _ := false
    pushed := 0
    held := [] }

/-! ## Steps -/

/-- One step of one of the tasks that use a pool. -/
inductive Action where
  /-- `Packets::allocate`. -/
  | allocate
  /-- A poll of `allocate_wait` in a task, the first one or a later one, up to the pop. -/
  | poll (task : ℕ)
  /-- The rest of a poll that has found no free slot. -/
  | register (task : ℕ)
  /-- The future of `allocate_wait` is dropped, in a poll of its task or with its task. -/
  | cancel (task : ℕ)
  /-- `Packet::set_len` of a packet. -/
  | setLen (i len : ℕ)
  /-- `Packet::drop`, up to the push. -/
  | drop (i : ℕ)
  /-- `Packet::drop`, the pop of a waker. -/
  | takeWaker
  /-- `Packet::drop`, the call of the waker. -/
  | wake (task : ℕ)

/-- What a step returns. -/
inductive Returned where
  /-- Nothing. -/
  | unit
  /-- The packet, or `None`. -/
  | allocated (packet : Option LivePacket)
  /-- `Poll::Ready`, or nothing yet. -/
  | polled (packet : Option LivePacket)
  /-- The result of `set_len`. -/
  | lenSet (result : Except IoError Unit)

/-- Why there is no step. -/
inductive Stuck where
  /-- Nothing is there to take it. -/
  | disabled
  /-- "free packet queue full". -/
  | freeQueueFull
  deriving DecidableEq

/-- A pop of a free slot: the packet with it, and the pool that has the packet. -/
def popFree (s : PacketPool) : Option (LivePacket × PacketPool) :=
  match s.free_packets with
  | [] => none
  | ptr :: free_packets =>
    let packet : LivePacket := ⟨ptr, packetLen⟩
    some (packet, { s with free_packets, live := s.live ++ [packet] })

/-- The pool in which a task is somewhere else. -/
def setTask (s : PacketPool) (task : ℕ) (state : WaitState) : PacketPool :=
  { s with task := Function.update s.task task state }

/-- The pool in which a wake of a task is pending or not. -/
def setWoken (s : PacketPool) (task : ℕ) (woken : Bool) : PacketPool :=
  { s with woken := Function.update s.woken task woken }

/-- One step. -/
def step (s : PacketPool) : Action → Except Stuck (PacketPool × Returned)
  | .allocate =>
    match s.popFree with
    | some (packet, s') => .ok (s', .allocated (some packet))
    | none => .ok (s, .allocated none)
  | .poll task =>
    if s.task task = .registering then .error .disabled
    else
      -- A poll consumes the wakes before it.
      match (s.setWoken task false).popFree with
      | some (packet, s') => .ok (s'.setTask task .idle, .polled (some packet))
      | none => .ok ((s.setWoken task false).setTask task .registering, .polled none)
  | .register task =>
    if s.task task = .registering then
      match ArrayQueue.push maxWaiting s.waiting task with
      | some waiting => .ok ({ s.setTask task .suspended with waiting }, .unit)
      | none => .ok ((s.setTask task .suspended).setWoken task true, .unit)
    else .error .disabled
  | .cancel task =>
    if s.task task = .suspended then .ok ((s.setTask task .idle).setWoken task false, .unit)
    else .error .disabled
  | .setLen i len =>
    match s.live[i]? with
    | none => .error .disabled
    | some packet =>
      if packetLen < len then
        .ok (s, .lenSet (.error ⟨.invalidInput, "packet len too large"⟩))
      else .ok ({ s with live := s.live.set i { packet with len } }, .lenSet (.ok ()))
  | .drop i =>
    match s.live[i]? with
    | none => .error .disabled
    | some packet =>
      match ArrayQueue.push s.packet_count s.free_packets packet.ptr with
      | some free_packets =>
        .ok ({ s with free_packets, live := s.live.eraseIdx i, pushed := s.pushed + 1 }, .unit)
      | none => .error .freeQueueFull
  | .takeWaker =>
    if s.pushed = 0 then .error .disabled
    else
      match s.waiting with
      | [] => .ok ({ s with pushed := s.pushed - 1 }, .unit)
      | waker :: waiting =>
        .ok ({ s with pushed := s.pushed - 1, waiting, held := waker :: s.held }, .unit)
  | .wake task =>
    if task ∈ s.held then
      .ok ({ s.setWoken task true with held := s.held.erase task }, .unit)
    else .error .disabled

/-- A pop takes the first free slot. -/
theorem popFree_eq_some {s s' : PacketPool} {packet : LivePacket}
    (h : s.popFree = some (packet, s')) :
    ∃ ptr rest, s.free_packets = ptr :: rest ∧
      s' = { s with free_packets := rest, live := s.live ++ [⟨ptr, packetLen⟩] } := by
  unfold popFree at h
  split at h
  · cases h
  · next ptr rest hfree =>
    cases h
    exact ⟨ptr, rest, hfree, rfl⟩

/-- A pop finds nothing when there is nothing. -/
theorem popFree_eq_none {s : PacketPool} (h : s.popFree = none) : s.free_packets = [] := by
  unfold popFree at h
  split at h
  · next hfree => exact hfree
  · cases h

/-- What a step does. -/
inductive Step (s : PacketPool) : Action → PacketPool → Prop
  | allocated {ptr : ℕ} {rest : List ℕ} : s.free_packets = ptr :: rest →
    Step s .allocate { s with free_packets := rest, live := s.live ++ [⟨ptr, packetLen⟩] }
  | allocatedNone : Step s .allocate s
  | polled {task ptr : ℕ} {rest : List ℕ} : s.free_packets = ptr :: rest →
    Step s (.poll task)
      { (s.setTask task .idle).setWoken task false with
        free_packets := rest
        live := s.live ++ [⟨ptr, packetLen⟩] }
  | polledNone {task : ℕ} : s.free_packets = [] →
    Step s (.poll task) ((s.setWoken task false).setTask task .registering)
  | registered {task : ℕ} : s.task task = .registering → s.waiting.length < maxWaiting →
    Step s (.register task) { s.setTask task .suspended with waiting := s.waiting ++ [task] }
  | registeredFull {task : ℕ} : s.task task = .registering →
    Step s (.register task) ((s.setTask task .suspended).setWoken task true)
  | cancelled {task : ℕ} : Step s (.cancel task) ((s.setTask task .idle).setWoken task false)
  | lenTooLarge {i len : ℕ} : Step s (.setLen i len) s
  | lenSet {i len : ℕ} {packet : LivePacket} : s.live[i]? = some packet → len ≤ packetLen →
    Step s (.setLen i len) { s with live := s.live.set i { packet with len } }
  | dropped {i : ℕ} {packet : LivePacket} : s.live[i]? = some packet →
    Step s (.drop i)
      { s with
        free_packets := s.free_packets ++ [packet.ptr]
        live := s.live.eraseIdx i
        pushed := s.pushed + 1 }
  | noWaker : s.waiting = [] → Step s .takeWaker { s with pushed := s.pushed - 1 }
  | tookWaker {waker : ℕ} {waiting : List ℕ} : s.pushed ≠ 0 → s.waiting = waker :: waiting →
    Step s .takeWaker { s with pushed := s.pushed - 1, waiting, held := waker :: s.held }
  | woke {task : ℕ} : task ∈ s.held →
    Step s (.wake task) { s.setWoken task true with held := s.held.erase task }

/-- A step is one of those. -/
theorem step_cases {s s' : PacketPool} {a : Action} {o : Returned} (h : s.step a = .ok (s', o)) :
    Step s a s' := by
  cases a with
  | allocate =>
    simp only [step] at h
    split at h
    · next packet s₁ hpop =>
      cases h
      obtain ⟨ptr, rest, hfree, rfl⟩ := popFree_eq_some hpop
      exact .allocated hfree
    · cases h
      exact .allocatedNone
  | poll task =>
    simp only [step] at h
    split at h
    · cases h
    · split at h
      · next packet s₁ hpop =>
        cases h
        obtain ⟨ptr, rest, hfree, rfl⟩ := popFree_eq_some hpop
        exact .polled hfree
      · next hpop =>
        cases h
        have hfree : (s.setWoken task false).free_packets = [] := popFree_eq_none hpop
        exact .polledNone hfree
  | register task =>
    simp only [step] at h
    split at h
    · next htask =>
      split at h
      · next waiting hpush =>
        cases h
        obtain ⟨hroom, rfl⟩ := ArrayQueue.push_eq_some hpush
        exact .registered htask hroom
      · cases h
        exact .registeredFull htask
    · cases h
  | cancel task =>
    simp only [step] at h
    split at h
    · cases h
      exact .cancelled
    · cases h
  | setLen i len =>
    simp only [step] at h
    split at h
    · cases h
    · next packet hget =>
      split at h
      · cases h
        exact .lenTooLarge
      · next hlen =>
        cases h
        exact .lenSet hget (Nat.le_of_not_lt hlen)
  | drop i =>
    simp only [step] at h
    split at h
    · cases h
    · next packet hget =>
      split at h
      · next free_packets hpush =>
        cases h
        obtain ⟨-, rfl⟩ := ArrayQueue.push_eq_some hpush
        exact .dropped hget
      · cases h
  | takeWaker =>
    simp only [step] at h
    split at h
    · cases h
    · next hpushed =>
      split at h
      · next hwaiting =>
        cases h
        exact .noWaker hwaiting
      · next waker waiting hwaiting =>
        cases h
        exact .tookWaker hpushed hwaiting
  | wake task =>
    simp only [step] at h
    split at h
    · next hheld =>
      cases h
      exact .woke hheld
    · cases h

end PacketPool

end PlayitAgent
