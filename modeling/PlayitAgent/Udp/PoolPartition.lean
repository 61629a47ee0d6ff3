import Mathlib.Algebra.Order.Group.Multiset
import Mathlib.Data.List.Perm.Basic
import PlayitAgent.Udp.PacketPool

/-!
# The slots of a pool

The slots of a pool are the free ones together with those of the live packets, each once, through
every run: a step moves a slot from one side to the other or leaves both as they are. What a pool
starts with is right exactly when the length of the buffer was computed without an overflow.
-/

namespace PlayitAgent

namespace PacketPool

/-- The free slots and the slots of the live packets. -/
def slots (s : PacketPool) : Multiset ℕ := ↑s.free_packets + ↑(s.live.map LivePacket.ptr)

/-- The slots of a buffer. -/
def slotsOf (packet_count : ℕ) : List ℕ := (List.range packet_count).map (· * packetLen)

/-- Two slots have no byte in common. -/
def Disjoint (p q : ℕ) : Prop := p + packetLen ≤ q ∨ q + packetLen ≤ p

/-- The pool is cut into so many slots. -/
structure Partitioned (packet_count : ℕ) (s : PacketPool) : Prop where
  /-- The free slots and those of the live packets are the slots of the buffer, each once. -/
  slots_eq : s.slots = ↑(slotsOf packet_count)
  /-- The slots lie in the buffer. -/
  in_buffer : ∀ p ∈ slotsOf packet_count, p + packetLen ≤ s.buffer_len
  /-- No two live packets share a byte. -/
  disjoint : (s.live.map LivePacket.ptr).Pairwise Disjoint
  /-- What is in use of a packet lies in its slot. -/
  len_le : ∀ packet ∈ s.live, packet.len ≤ packetLen
  /-- The push of a drop does not fail. -/
  drop_returns : ∀ i packet, s.live[i]? = some packet → ∃ s', s.step (.drop i) = .ok (s', .unit)
  /-- There is no packet to allocate only when all slots are held. -/
  allocate_none : ∀ s', s.step .allocate = .ok (s', .allocated none) →
    s.live.length = packet_count

/-! ## Steps -/

variable {s s' : PacketPool} {a : Action} {o : Returned}

/-- What a step does to the slots: nothing; a slot goes to a packet; the length of a packet is set;
or the slot of a packet comes back. -/
inductive Moves (s s' : PacketPool) : Prop
  | same (hfree : s'.free_packets = s.free_packets) (hlive : s'.live = s.live)
  | take (ptr : ℕ) (rest : List ℕ) (hfree : s.free_packets = ptr :: rest)
      (hrest : s'.free_packets = rest) (hlive : s'.live = s.live ++ [⟨ptr, packetLen⟩])
  | setLen (i len : ℕ) (packet : LivePacket) (hget : s.live[i]? = some packet)
      (hlen : len ≤ packetLen) (hfree : s'.free_packets = s.free_packets)
      (hlive : s'.live = s.live.set i { packet with len })
  | give (i : ℕ) (packet : LivePacket) (hget : s.live[i]? = some packet)
      (hfree : s'.free_packets = s.free_packets ++ [packet.ptr])
      (hlive : s'.live = s.live.eraseIdx i)

/-- What a step does to the slots, and that it leaves the size of the pool alone. -/
theorem moves_of_step (h : s.step a = .ok (s', o)) :
    Moves s s' ∧ s'.packet_count = s.packet_count ∧ s'.buffer_len = s.buffer_len := by
  cases step_cases h with
  | @allocated ptr rest hfree => exact ⟨.take ptr rest hfree rfl rfl, rfl, rfl⟩
  | @polled task ptr rest hfree => exact ⟨.take ptr rest hfree rfl rfl, rfl, rfl⟩
  | @lenSet i len packet hget hlen => exact ⟨.setLen i len packet hget hlen rfl rfl, rfl, rfl⟩
  | @dropped i packet hget => exact ⟨.give i packet hget rfl rfl, rfl, rfl⟩
  | allocatedNone | polledNone | registered | registeredFull | cancelled | lenTooLarge | noWaker
  | tookWaker | woke => exact ⟨.same rfl rfl, rfl, rfl⟩

/-- A step keeps the slots together. -/
theorem Moves.slots_eq (h : Moves s s') : s'.slots = s.slots := by
  unfold slots
  cases h with
  | same hfree hlive => rw [hfree, hlive]
  | take ptr rest hfree hrest hlive =>
    rw [hfree, hrest, hlive, List.map_append, ← Multiset.coe_add, ← Multiset.cons_coe]
    simp only [List.map_cons, List.map_nil, Multiset.coe_singleton]
    rw [← Multiset.singleton_add, ← add_assoc]
    exact add_comm _ _
  | setLen i len packet hget hlen hfree hlive =>
    have hmap : (s.live.set i { packet with len }).map LivePacket.ptr =
        s.live.map LivePacket.ptr := by
      obtain ⟨hi, rfl⟩ := List.getElem?_eq_some_iff.1 hget
      rw [List.map_set]
      have hi' : i < (s.live.map LivePacket.ptr).length := by
        rw [List.length_map]
        exact hi
      have hsame := List.set_getElem_self hi'
      rw [List.getElem_map] at hsame
      exact hsame
    rw [hfree, hlive, hmap]
  | give i packet hget hfree hlive =>
    obtain ⟨hi, hpacket⟩ := List.getElem?_eq_some_iff.1 hget
    have hperm := (List.getElem_cons_eraseIdx_perm hi).map LivePacket.ptr
    have hlist := Multiset.coe_eq_coe.2 hperm
    rw [List.map_cons, hpacket, ← Multiset.cons_coe, ← Multiset.singleton_add] at hlist
    rw [hfree, hlive, ← Multiset.coe_add, Multiset.coe_singleton, add_assoc, hlist]

/-- A step keeps the lengths of the packets within their slots. -/
theorem Moves.len_le (h : Moves s s') (hs : ∀ packet ∈ s.live, packet.len ≤ packetLen) :
    ∀ packet ∈ s'.live, packet.len ≤ packetLen := by
  intro packet hmem
  cases h with
  | same hfree hlive =>
    rw [hlive] at hmem
    exact hs packet hmem
  | take ptr rest hfree hrest hlive =>
    rw [hlive, List.mem_append, List.mem_singleton] at hmem
    rcases hmem with hmem | rfl
    · exact hs packet hmem
    · exact le_rfl
  | setLen i len packet' hget hlen hfree hlive =>
    rw [hlive] at hmem
    rcases List.mem_or_eq_of_mem_set hmem with hmem | rfl
    · exact hs packet hmem
    · exact hlen
  | give i packet' hget hfree hlive =>
    rw [hlive] at hmem
    exact hs packet (List.mem_of_mem_eraseIdx hmem)

/-! ## The whole pool -/

/-- There are so many slots. -/
theorem length_add_length {n : ℕ} (h : s.slots = ↑(slotsOf n)) :
    s.free_packets.length + s.live.length = n := by
  have hcard := congrArg Multiset.card h
  simpa [slots, slotsOf] using hcard

/-- The slots of a buffer are disjoint. -/
theorem pairwise_slotsOf (n : ℕ) : (slotsOf n).Pairwise Disjoint := by
  unfold slotsOf
  rw [List.pairwise_map]
  refine List.pairwise_lt_range.imp fun {i j} hij => .inl ?_
  have hmul := Nat.mul_le_mul_right packetLen hij
  rw [Nat.succ_mul] at hmul
  exact hmul

/-- Disjointness is symmetric. -/
theorem Disjoint.symm {p q : ℕ} (h : Disjoint p q) : Disjoint q p := Or.symm h

/-- What makes a pool partitioned. -/
theorem partitioned_of_slots {n : ℕ} (hcount : s.packet_count = n) (hslots : s.slots = ↑(slotsOf n))
    (hbuffer : ∀ p ∈ slotsOf n, p + packetLen ≤ s.buffer_len)
    (hlen : ∀ packet ∈ s.live, packet.len ≤ packetLen) : s.Partitioned n := by
  have htotal := length_add_length hslots
  refine ⟨hslots, hbuffer, ?_, hlen, ?_, ?_⟩
  · -- The slots of the live packets are among those of the buffer, in some order.
    have hperm : (s.free_packets ++ s.live.map LivePacket.ptr).Perm (slotsOf n) :=
      Multiset.coe_eq_coe.1 hslots
    have hall := hperm.symm.pairwise (pairwise_slotsOf n) fun h => h.symm
    exact (List.pairwise_append.1 hall).2.1
  · intro i packet hget
    obtain ⟨hi, -⟩ := List.getElem?_eq_some_iff.1 hget
    have hroom : s.free_packets.length < s.packet_count := by omega
    simp only [step, hget, ArrayQueue.push, if_pos hroom]
    exact ⟨_, rfl⟩
  · intro s' hnone
    simp only [step] at hnone
    split at hnone
    · cases hnone
    · next hpop =>
      rw [popFree_eq_none hpop, List.length_nil] at htotal
      omega

/-- A pool that starts right stays right. -/
theorem partitioned_of_run {n : ℕ} {init : PacketPool} {trace : List (Action × Returned)}
    (h : Run step init trace s) (hcount : init.packet_count = n)
    (hslots : init.slots = ↑(slotsOf n))
    (hbuffer : ∀ p ∈ slotsOf n, p + packetLen ≤ init.buffer_len) (hlive : init.live = []) :
    s.Partitioned n := by
  have hinv : s.packet_count = n ∧ s.slots = ↑(slotsOf n) ∧ s.buffer_len = init.buffer_len ∧
      ∀ packet ∈ s.live, packet.len ≤ packetLen := by
    refine h.invariant (I := fun _ s => s.packet_count = n ∧ s.slots = ↑(slotsOf n) ∧
      s.buffer_len = init.buffer_len ∧ ∀ packet ∈ s.live, packet.len ≤ packetLen) ?_ ?_
    · refine ⟨hcount, hslots, rfl, ?_⟩
      rw [hlive]
      simp
    · rintro trace s s' a o ⟨hc, hs, hb, hl⟩ hstep
      obtain ⟨hmoves, hcount', hbuffer'⟩ := moves_of_step hstep
      exact ⟨hcount'.trans hc, hmoves.slots_eq.trans hs, hbuffer'.trans hb, hmoves.len_le hl⟩
  obtain ⟨hc, hs, hb, hl⟩ := hinv
  refine partitioned_of_slots hc hs ?_ hl
  rw [hb]
  exact hbuffer

/-! ## A new pool -/

variable {t : Target}

/-- A product that is returned is right up to the width of the target. -/
theorem mul_eq_ok {a b r : ℕ} (h : t.mul a b = .ok r) : r = a * b % 2 ^ t.bits := by
  unfold Target.mul at h
  split at h
  · next hlt =>
    cases h
    exact (Nat.mod_eq_of_lt hlt).symm
  · split at h
    · cases h
    · cases h
      rfl

/-- A turn of the loop puts the next slot at the end of the queue. -/
theorem pushSlot_eq_ok {n i : ℕ} {queue queue' : List ℕ} (h : pushSlot t n queue i = .ok queue') :
    queue' = queue ++ [i * packetLen % 2 ^ t.bits] := by
  obtain ⟨ptr, hptr, hpush⟩ := except_bind_eq_ok.1 h
  split at hpush
  · next hsome =>
    cases hpush
    rw [(ArrayQueue.push_eq_some hsome).2, mul_eq_ok hptr]
  · cases hpush

/-- The slots that a new pool starts with. -/
theorem pushSlots_eq_ok {n : ℕ} {free_packets : List ℕ} (h : pushSlots t n = .ok free_packets) :
    free_packets = (List.range n).map fun i => i * packetLen % 2 ^ t.bits := by
  have hloop (is queue result : List ℕ) (hrun : is.foldlM (pushSlot t n) queue = .ok result) :
      result = queue ++ is.map fun i => i * packetLen % 2 ^ t.bits := by
    induction is generalizing queue with
    | nil =>
      cases hrun
      simp
    | cons i is ih =>
      rw [List.foldlM_cons] at hrun
      obtain ⟨queue', hturn, hrest⟩ := except_bind_eq_ok.1 hrun
      rw [ih _ hrest, pushSlot_eq_ok hturn]
      simp
  have hresult := hloop _ _ _ h
  simpa using hresult

/-- What a new pool starts with. -/
theorem new_eq_ok {packet_count : ℕ} (h : new t packet_count = .ok s) :
    s.packet_count = roundUp packet_count ∧
      s.buffer_len = roundUp packet_count * packetLen % 2 ^ t.bits ∧
      s.free_packets = ((List.range (roundUp packet_count)).map fun i =>
        i * packetLen % 2 ^ t.bits) ∧ s.live = [] := by
  obtain ⟨n, hround, h⟩ := except_bind_eq_ok.1 h
  obtain ⟨bytes, hbytes, h⟩ := except_bind_eq_ok.1 h
  obtain ⟨_, -, h⟩ := except_bind_eq_ok.1 h
  obtain ⟨_, hqueue, h⟩ := except_bind_eq_ok.1 h
  obtain ⟨free_packets, hfree, h⟩ := except_bind_eq_ok.1 h
  obtain ⟨_, -, h⟩ := except_bind_eq_ok.1 h
  cases h
  -- A power of two that wraps to zero leaves no capacity for the queue.
  have hn : n = roundUp packet_count := by
    unfold Target.nextPowerOfTwo at hround
    split at hround
    · cases hround
      rfl
    · split at hround
      · cases hround
      · cases hround
        cases hqueue
  rw [hn] at hbytes hfree
  exact ⟨hn, mul_eq_ok hbytes, pushSlots_eq_ok hfree, rfl⟩

/-- A turn of the loop finds room in the queue. -/
theorem pushSlot_returns (hchecks : t.overflow_checks = false) {n : ℕ} {queue : List ℕ} (i : ℕ)
    (hroom : queue.length < n) : ∃ ptr, pushSlot t n queue i = .ok (queue ++ [ptr]) := by
  have hmul : ∃ ptr, t.mul i packetLen = .ok ptr := by
    unfold Target.mul
    rw [hchecks]
    split
    · exact ⟨_, rfl⟩
    · exact ⟨_, rfl⟩
  obtain ⟨ptr, hptr⟩ := hmul
  have hpush : ArrayQueue.push n queue ptr = some (queue ++ [ptr]) := if_pos hroom
  refine ⟨ptr, ?_⟩
  unfold pushSlot
  rw [hptr, ok_bind, hpush]

/-- A build that does not check for overflows pushes all slots. -/
theorem pushSlots_returns (hchecks : t.overflow_checks = false) (n : ℕ) :
    ∃ free_packets, pushSlots t n = .ok free_packets := by
  have hloop (is queue : List ℕ) (hroom : queue.length + is.length ≤ n) :
      ∃ result, is.foldlM (pushSlot t n) queue = .ok result := by
    induction is generalizing queue with
    | nil => exact ⟨queue, rfl⟩
    | cons i is ih =>
      rw [List.length_cons] at hroom
      obtain ⟨ptr, hptr⟩ := pushSlot_returns hchecks i (by omega : queue.length < n)
      obtain ⟨result, hresult⟩ := ih (queue ++ [ptr]) (by simp; omega)
      refine ⟨result, ?_⟩
      rw [List.foldlM_cons, hptr, ok_bind]
      exact hresult
  exact hloop (List.range n) [] (by simp)

/-- Such a build returns a pool when its allocations are granted. -/
theorem new_returns {packet_count : ℕ} (bytes : ℕ) (hchecks : t.overflow_checks = false)
    (hround : roundUp packet_count < 2 ^ t.bits)
    (hbytes : roundUp packet_count * packetLen % 2 ^ t.bits = bytes)
    (halloc : t.alloc bytes = .ok ()) (hfree : t.arrayQueue (roundUp packet_count) 1 = .ok ())
    (hwaiting : t.arrayQueue maxWaiting 2 = .ok ()) :
    ∃ pool, new t packet_count = .ok pool := by
  have hmul : t.mul (roundUp packet_count) packetLen = .ok bytes := by
    unfold Target.mul
    split
    · next hlt => rw [← hbytes, Nat.mod_eq_of_lt hlt]
    · rw [hchecks, hbytes]
      rfl
  obtain ⟨free_packets, hpush⟩ := pushSlots_returns hchecks (roundUp packet_count)
  unfold new Target.nextPowerOfTwo
  rw [if_pos hround, ok_bind, hmul, ok_bind, halloc, ok_bind, hfree, ok_bind, hpush, ok_bind,
    hwaiting]
  exact ⟨_, rfl⟩

end PacketPool

open PacketPool

/-- For every packet count that `Packets::new` returns a pool for, the pool is cut into that many
slots, rounded up to a power of two, in every state of every run, if and only if the length of the
buffer in bytes is a `usize`. -/
theorem packets_partitioned_iff (t : Target) (packet_count : ℕ) (pool : PacketPool)
    (hnew : PacketPool.new t packet_count = .ok pool) :
    (∀ trace s, Run PacketPool.step pool trace s → s.Partitioned (roundUp packet_count)) ↔
      roundUp packet_count * packetLen < 2 ^ t.bits := by
  obtain ⟨hcount, hbuffer, hfree, hlive⟩ := new_eq_ok hnew
  have hpos : 0 < roundUp packet_count := Nat.two_pow_pos _
  constructor
  · intro hall
    -- The last slot ends with the buffer, whose length is below `2^bits`.
    have hlast : (roundUp packet_count - 1) * packetLen ∈ slotsOf (roundUp packet_count) := by
      unfold slotsOf
      rw [List.mem_map]
      exact ⟨roundUp packet_count - 1, by rw [List.mem_range]; omega, rfl⟩
    have hend := (hall [] pool .nil).in_buffer _ hlast
    have hmod := Nat.mod_lt (roundUp packet_count * packetLen) (Nat.two_pow_pos t.bits)
    rw [hbuffer, ← Nat.succ_mul, Nat.succ_eq_add_one, Nat.sub_add_cancel hpos] at hend
    exact lt_of_le_of_lt hend hmod
  · intro hlt trace s hrun
    have hsmall (i : ℕ) (hi : i < roundUp packet_count) :
        i * packetLen + packetLen ≤ roundUp packet_count * packetLen := by
      rw [← Nat.succ_mul]
      exact Nat.mul_le_mul_right _ hi
    refine partitioned_of_run hrun hcount ?_ ?_ hlive
    · unfold slots slotsOf
      rw [hfree, hlive, List.map_nil, Multiset.coe_nil, add_zero]
      refine congrArg _ (List.map_congr_left fun i hi => Nat.mod_eq_of_lt ?_)
      have hi' := hsmall i (List.mem_range.1 hi)
      have hpacket : 0 < packetLen := by decide
      omega
    · intro p hp
      obtain ⟨i, hi, rfl⟩ := List.mem_map.1 hp
      rw [hbuffer, Nat.mod_eq_of_lt hlt]
      exact hsmall i (List.mem_range.1 hi)

namespace Sample

/-- A target with words of a width, and an allocator that grants up to a gibibyte at a time. -/
def target (bits : ℕ) (overflow_checks : Bool) : Target :=
  ⟨bits, overflow_checks, fun bytes => decide (bytes ≤ 2 ^ 30)⟩

end Sample

/-- A release build for a target of 32 bits: for `2^22` packets the length of the buffer wraps to
zero, and so does the offset of every slot from the `2^21`st on, which is the slot of another. -/
theorem not_packets_partitioned :
    ∃ pool, PacketPool.new (Sample.target 32 false) (2 ^ 22) = .ok pool ∧
      pool.buffer_len = 0 ∧ ¬pool.slots.Nodup ∧ ¬pool.Partitioned (roundUp (2 ^ 22)) := by
  have hround : roundUp (2 ^ 22) = 2 ^ 22 := by
    unfold roundUp
    rw [Nat.clog_pow 2 22 (by decide)]
  have hnew : ∃ pool, PacketPool.new (Sample.target 32 false) (2 ^ 22) = .ok pool := by
    refine new_returns 0 rfl ?_ ?_ rfl ?_ rfl
    · rw [hround]
      decide
    · rw [hround]
      rfl
    · rw [hround]
      rfl
  obtain ⟨pool, hpool⟩ := hnew
  obtain ⟨-, hbuffer, hslots, hlive⟩ := new_eq_ok hpool
  rw [hround] at hbuffer hslots
  have hzero : pool.buffer_len = 0 := hbuffer.trans rfl
  refine ⟨pool, hpool, hzero, ?_, fun hpart => ?_⟩
  · -- The slots of the packets 0 and `2^21` are the same.
    intro hnodup
    unfold slots at hnodup
    rw [hslots, hlive, List.map_nil, Multiset.coe_nil, add_zero, Multiset.coe_nodup] at hnodup
    have hfirst : 0 ∈ List.range (2 ^ 22) := List.mem_range.2 (by decide)
    have hsecond : 2 ^ 21 ∈ List.range (2 ^ 22) := List.mem_range.2 (by decide)
    have hsame := List.inj_on_of_nodup_map hnodup hfirst hsecond rfl
    exact absurd hsame (by decide)
  · have hin := hpart.in_buffer 0 (by
      unfold slotsOf
      rw [hround, List.mem_map]
      exact ⟨0, List.mem_range.2 (by decide), by decide⟩)
    rw [hzero] at hin
    exact absurd hin (by decide)

/-- For three packets, a pool of four slots. -/
theorem packets_partitioned_sample :
    ∃ pool, PacketPool.new (Sample.target 64 false) 3 = .ok pool ∧
      ∀ trace s, Run PacketPool.step pool trace s → s.Partitioned 4 := by
  have hround : roundUp 3 = 4 := rfl
  have hnew : ∃ pool, PacketPool.new (Sample.target 64 false) 3 = .ok pool := by
    refine new_returns 8192 rfl ?_ ?_ rfl ?_ rfl
    · rw [hround]
      decide
    · rw [hround]
      rfl
    · rw [hround]
      rfl
  obtain ⟨pool, hpool⟩ := hnew
  have hiff := packets_partitioned_iff (Sample.target 64 false) 3 pool hpool
  rw [hround] at hiff
  exact ⟨pool, hpool, hiff.2 (by decide)⟩

end PlayitAgent
