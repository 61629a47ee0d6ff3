import PlayitAgent.Udp.PoolPartition

/-!
# Wakeups of the pool

A task that finds no free slot puts its waker into a queue, and each drop that has pushed its slot
takes one waker from there. Nothing ties the two queues together: a slot can come back between the
look for it and the waker, and a waker can be that of a task that is gone. The invariant is that
while some waiting task has no wake coming, at least as many others have one as slots are free.
-/

namespace PlayitAgent

namespace PacketPool

/-- A wake of the task is pending, or a drop in progress will still call its waker: it holds the
waker, or the waker is among those that the drops behind their push will take. -/
def Credited (s : PacketPool) (t : ℕ) : Prop :=
  s.woken t = true ∨ t ∈ s.held ∨ t ∈ s.waiting.take s.pushed

/-- The task waits, and no wake is coming. -/
def Starving (s : PacketPool) (t : ℕ) : Prop := s.task t = .suspended ∧ ¬s.Credited t

/-- A slot is free, some task waits, and none of those that wait has a wake coming. -/
def LostWakeup (s : PacketPool) : Prop :=
  s.free_packets ≠ [] ∧ (∃ t, s.task t = .suspended) ∧
    ∀ t, s.task t = .suspended → ¬s.Credited t

/-- At least `k` of the tasks that wait have a wake coming. -/
def Covers (s : PacketPool) (k : ℕ) : Prop :=
  ∃ tasks : List ℕ, tasks.Nodup ∧ (∀ t ∈ tasks, s.task t = .suspended ∧ s.Credited t) ∧
    k ≤ tasks.length

/-- The condition for a step not to lose a wakeup.

A task that has found no slot comes to wait only when enough tasks have a wake coming for the slots
that are free by then, unless it has one itself: one that is pending, or that of a drop in progress.
When a slot comes back while some task starves, the next waker in the queue is that of a task that
starves, and not of one that is gone or has been polled since, or enough tasks have a wake coming
anyway. A task with a wake coming is cancelled only when no slot is free, no task starves, or enough
others have one. -/
def WakeSafe (s : PacketPool) : Action → Prop
  | .register t =>
    s.Credited t ∨ s.waiting.length < s.pushed ∨ maxWaiting ≤ s.waiting.length ∨
      s.Covers s.free_packets.length
  | .drop _ =>
    (∃ t, s.Starving t) → (∃ t, s.waiting[s.pushed]? = some t ∧ s.Starving t) ∨
      s.Covers (s.free_packets.length + 1)
  | .cancel t =>
    s.Credited t → s.free_packets = [] ∨ (∀ t', ¬s.Starving t') ∨
      s.Covers (s.free_packets.length + 1)
  | _ => True

/-- While some task starves, as many others have a wake coming as slots are free. -/
def Covered (s : PacketPool) : Prop := (∃ t, s.Starving t) → s.Covers s.free_packets.length

variable {s s' : PacketPool} {a : Action} {o : Returned}

/-- A pool whose free slots are covered has lost no wakeup. -/
theorem Covered.not_lostWakeup (h : s.Covered) : ¬s.LostWakeup := by
  rintro ⟨hfree, ⟨t, ht⟩, hall⟩
  obtain ⟨tasks, -, hcredited, hlen⟩ := h ⟨t, ht, hall t ht⟩
  -- The list is not empty, and each of its tasks has a wake coming.
  cases tasks with
  | nil =>
    have hpos := List.length_pos_of_ne_nil hfree
    rw [List.length_nil] at hlen
    omega
  | cons t' rest =>
    obtain ⟨hsuspended, hc⟩ := hcredited t' List.mem_cons_self
    exact hall t' hsuspended hc

/-- Nothing has to be covered. -/
theorem covers_zero (s : PacketPool) : s.Covers 0 := ⟨[], .nil, by simp, le_rfl⟩

/-- Less is covered too. -/
theorem Covers.mono {k l : ℕ} (h : s.Covers l) (hkl : k ≤ l) : s.Covers k := by
  obtain ⟨tasks, hnodup, hcredited, hlen⟩ := h
  exact ⟨tasks, hnodup, hcredited, hkl.trans hlen⟩

/-- What is covered stays covered when the tasks with a wake coming keep it. -/
theorem Covers.keep {k : ℕ} (h : s.Covers k)
    (hkeep : ∀ t, s.task t = .suspended → s.Credited t →
      s'.task t = .suspended ∧ s'.Credited t) : s'.Covers k := by
  obtain ⟨tasks, hnodup, hcredited, hlen⟩ := h
  exact ⟨tasks, hnodup, fun t ht => hkeep t (hcredited t ht).1 (hcredited t ht).2, hlen⟩

/-- When one task no longer waits, one less is covered. -/
theorem Covers.leave {k t₀ : ℕ} (h : s.Covers (k + 1))
    (hkeep : ∀ t, t ≠ t₀ → s.task t = .suspended → s.Credited t →
      s'.task t = .suspended ∧ s'.Credited t) : s'.Covers k := by
  obtain ⟨tasks, hnodup, hcredited, hlen⟩ := h
  refine ⟨tasks.erase t₀, hnodup.erase t₀, fun t ht => ?_, ?_⟩
  · obtain ⟨hne, hmem⟩ := hnodup.mem_erase_iff.1 ht
    exact hkeep t hne (hcredited t hmem).1 (hcredited t hmem).2
  · have herase := List.le_length_erase (a := t₀) (l := tasks)
    omega

/-- When one more task has a wake coming, one more is covered. -/
theorem Covers.join {k t₀ : ℕ} (h : s.Covers k) (hstarving : s.Starving t₀)
    (hkeep : ∀ t, s.task t = .suspended → s.Credited t ∨ t = t₀ →
      s'.task t = .suspended ∧ s'.Credited t) : s'.Covers (k + 1) := by
  obtain ⟨tasks, hnodup, hcredited, hlen⟩ := h
  have hnot : t₀ ∉ tasks := fun hmem => hstarving.2 (hcredited t₀ hmem).2
  refine ⟨t₀ :: tasks, List.nodup_cons.2 ⟨hnot, hnodup⟩, fun t ht => ?_, ?_⟩
  · rcases List.mem_cons.1 ht with rfl | hmem
    · exact hkeep t hstarving.1 (.inr rfl)
    · exact hkeep t (hcredited t hmem).1 (.inl (hcredited t hmem).2)
  · rw [List.length_cons]
    omega

/-! ## Steps -/

/-- Where only the free slots become fewer, they stay covered. -/
theorem Covered.fewer (h : s.Covered) (htask : s'.task = s.task)
    (hcredited : ∀ t, s'.Credited t ↔ s.Credited t)
    (hfree : s'.free_packets.length ≤ s.free_packets.length) : s'.Covered := by
  rintro ⟨t, hsuspended, hnot⟩
  rw [htask] at hsuspended
  rw [hcredited] at hnot
  refine ((h ⟨t, hsuspended, hnot⟩).mono hfree).keep fun t' ht' hc' => ?_
  rw [htask, hcredited]
  exact ⟨ht', hc'⟩

/-- A task that is elsewhere says nothing about the wakes of the others. -/
theorem credited_of_ne {t t' : ℕ} (hne : t' ≠ t) (state : WaitState) (woken : Bool) :
    ((s.setTask t state).setWoken t woken).Credited t' ↔ s.Credited t' := by
  unfold Credited setTask setWoken
  simp only [Function.update_of_ne hne]

/-- Nor does it move them. -/
theorem task_of_ne {t t' : ℕ} (hne : t' ≠ t) (state : WaitState) (woken : Bool) :
    ((s.setTask t state).setWoken t woken).task t' = s.task t' := by
  unfold setTask setWoken
  simp only [Function.update_of_ne hne]

/-- So they starve as before. -/
theorem starving_of_ne {t t' : ℕ} (hne : t' ≠ t) (state : WaitState) (woken : Bool) :
    ((s.setTask t state).setWoken t woken).Starving t' ↔ s.Starving t' := by
  unfold Starving
  rw [task_of_ne hne, credited_of_ne hne]

/-- A task that no longer waits does not starve. -/
theorem ne_of_starving_idle {t t' : ℕ} {woken : Bool}
    (h : ((s.setTask t .idle).setWoken t woken).Starving t') : t' ≠ t := by
  rintro rfl
  have hidle : (Function.update s.task t' WaitState.idle) t' = .suspended := h.1
  rw [Function.update_self] at hidle
  cases hidle

/-- A task that takes a slot. -/
theorem Covered.poll (h : s.Covered) {t ptr : ℕ} {rest : List ℕ}
    (hfree : s.free_packets = ptr :: rest) (live : List LivePacket) :
    Covered { (s.setTask t .idle).setWoken t false with free_packets := rest, live } := by
  rintro ⟨t', hstarving⟩
  have hne : t' ≠ t := ne_of_starving_idle hstarving
  have hcovers := h ⟨t', (starving_of_ne hne _ _).1 hstarving⟩
  rw [hfree, List.length_cons] at hcovers
  exact hcovers.leave fun t'' hne' hs hc =>
    ⟨(task_of_ne hne' .idle false).trans hs, (credited_of_ne hne' .idle false).2 hc⟩

/-- A task that comes to wait. -/
theorem Covered.register (h : s.Covered) {t : ℕ} (htask : s.task t = .registering)
    (hsafe : s.Credited t ∨ s.waiting.length < s.pushed ∨ s.Covers s.free_packets.length) :
    Covered { s.setTask t .suspended with waiting := s.waiting ++ [t] } := by
  rintro ⟨t', hsuspended, hnot⟩
  -- Whoever has a wake coming keeps it.
  have hgrow (t'' : ℕ) (hc : s.Credited t'') :
      Credited { s.setTask t .suspended with waiting := s.waiting ++ [t] } t'' := by
    rcases hc with hc | hc | hc
    · exact .inl hc
    · exact .inr (.inl hc)
    · refine .inr (.inr ?_)
      show t'' ∈ (s.waiting ++ [t]).take s.pushed
      rw [List.take_append]
      exact List.mem_append_left _ hc
  have hcovers : s.Covers s.free_packets.length := by
    by_cases hne : t' = t
    · rcases hsafe with hc | hlt | hcovers
      · rw [hne] at hnot
        exact absurd (hgrow t hc) hnot
      · -- A drop in progress will take the new waker.
        refine absurd (Or.inr (Or.inr ?_)) hnot
        show t' ∈ (s.waiting ++ [t]).take s.pushed
        rw [hne, List.take_of_length_le (by rw [List.length_append, List.length_singleton]; omega)]
        simp
      · exact hcovers
    · refine h ⟨t', ?_, fun hc => hnot (hgrow t' hc)⟩
      simpa [setTask, Function.update_of_ne hne] using hsuspended
  refine hcovers.keep fun t'' hs hc => ⟨?_, hgrow t'' hc⟩
  have hne : t'' ≠ t := by
    rintro rfl
    rw [htask] at hs
    cases hs
  simpa [setTask, Function.update_of_ne hne] using hs

/-- A task whose waker finds no room is woken at once. -/
theorem Covered.registerFull (h : s.Covered) {t : ℕ} (htask : s.task t = .registering) :
    Covered ((s.setTask t .suspended).setWoken t true) := by
  rintro ⟨t', hstarving⟩
  have hne : t' ≠ t := by
    rintro rfl
    exact hstarving.2 (.inl (Function.update_self _ _ _))
  refine (h ⟨t', (starving_of_ne hne _ _).1 hstarving⟩).keep fun t'' hs hc => ?_
  have hne' : t'' ≠ t := by
    rintro rfl
    rw [htask] at hs
    cases hs
  exact ⟨(task_of_ne hne' _ _).trans hs, (credited_of_ne hne' _ _).2 hc⟩

/-- A task that is cancelled. -/
theorem Covered.cancel (h : s.Covered) {t : ℕ} (hsafe : s.WakeSafe (.cancel t)) :
    Covered ((s.setTask t .idle).setWoken t false) := by
  rintro ⟨t', hstarving'⟩
  have hne : t' ≠ t := ne_of_starving_idle hstarving'
  have hstarving := (starving_of_ne hne _ _).1 hstarving'
  have hkeep (t'' : ℕ) (hne' : t'' ≠ t) (hs : s.task t'' = .suspended) (hc : s.Credited t'') :
      ((s.setTask t .idle).setWoken t false).task t'' = .suspended ∧
        ((s.setTask t .idle).setWoken t false).Credited t'' :=
    ⟨(task_of_ne hne' _ _).trans hs, (credited_of_ne hne' _ _).2 hc⟩
  by_cases hcredited : s.Credited t
  · rcases hsafe hcredited with hfree | hnone | hcovers
    · show Covers _ s.free_packets.length
      rw [hfree]
      exact covers_zero _
    · exact absurd hstarving (hnone t')
    · exact hcovers.leave hkeep
  · -- It was none of those with a wake coming.
    refine (h ⟨t', hstarving⟩).keep fun t'' hs hc => hkeep t'' ?_ hs hc
    rintro rfl
    exact hcredited hc

/-- A slot that comes back. -/
theorem Covered.drop (h : s.Covered) {i ptr : ℕ} (hsafe : s.WakeSafe (.drop i))
    (live : List LivePacket) :
    Covered { s with free_packets := s.free_packets ++ [ptr], live, pushed := s.pushed + 1 } := by
  rintro ⟨t', hsuspended, hnot⟩
  have hgrow (t : ℕ) (hc : s.Credited t) : Credited { s with
      free_packets := s.free_packets ++ [ptr], live, pushed := s.pushed + 1 } t := by
    rcases hc with hc | hc | hc
    · exact .inl hc
    · exact .inr (.inl hc)
    · exact .inr (.inr (List.take_subset_take_left _ (Nat.le_succ _) hc))
  have hstarving : s.Starving t' := ⟨hsuspended, fun hc => hnot (hgrow t' hc)⟩
  show Covers _ (s.free_packets ++ [ptr]).length
  rw [List.length_append, List.length_singleton]
  rcases hsafe ⟨t', hstarving⟩ with ⟨t, hnext, hstarving'⟩ | hcovers
  · refine (h ⟨t', hstarving⟩).join hstarving' fun t'' hs hc => ⟨hs, ?_⟩
    rcases hc with hc | rfl
    · exact hgrow t'' hc
    · refine .inr (.inr ?_)
      rw [List.take_add_one, hnext]
      simp
  · exact hcovers.keep fun t hs hc => ⟨hs, hgrow t hc⟩

/-- A waker goes from the queue to a drop, which looks for no other. -/
theorem credited_tookWaker {waker : ℕ} {waiting : List ℕ} (hpushed : s.pushed ≠ 0)
    (hwaiting : s.waiting = waker :: waiting) (t : ℕ) :
    Credited { s with pushed := s.pushed - 1, waiting, held := waker :: s.held } t ↔
      s.Credited t := by
  obtain ⟨k, hk⟩ := Nat.exists_eq_succ_of_ne_zero hpushed
  unfold Credited
  rw [hwaiting, hk, List.take_succ_cons, List.mem_cons, List.mem_cons]
  simp only [Nat.succ_eq_add_one, Nat.add_sub_cancel]
  tauto

/-- A drop calls the waker that it held. -/
theorem credited_woke {task : ℕ} (hheld : task ∈ s.held) (t : ℕ) :
    Credited { s.setWoken task true with held := s.held.erase task } t ↔ s.Credited t := by
  unfold Credited setWoken
  by_cases hne : t = task
  · rw [hne]
    simp [hheld]
  · simp [Function.update_of_ne hne, List.mem_erase_of_ne hne]

/-- A safe step keeps the free slots covered. -/
theorem Covered.step (h : s.Covered) (hsafe : s.WakeSafe a) (hstep : s.step a = .ok (s', o)) :
    s'.Covered := by
  cases step_cases hstep with
  | allocated hfree =>
    refine h.fewer rfl (fun _ => Iff.rfl) ?_
    rw [hfree]
    exact Nat.le_succ _
  | allocatedNone | lenTooLarge => exact h
  | polled hfree => exact h.poll hfree _
  | @polledNone task hfree =>
    -- No slot is free, so none has to be covered.
    intro _
    show Covers _ s.free_packets.length
    rw [hfree]
    exact covers_zero _
  | registered htask hroom =>
    refine h.register htask ?_
    rcases hsafe with hc | hlt | hfull | hcovers
    · exact .inl hc
    · exact .inr (.inl hlt)
    · omega
    · exact .inr (.inr hcovers)
  | registeredFull htask => exact h.registerFull htask
  | cancelled => exact h.cancel hsafe
  | lenSet => exact h.fewer rfl (fun _ => Iff.rfl) le_rfl
  | dropped => exact h.drop hsafe _
  | noWaker hwaiting =>
    refine h.fewer rfl (fun t => ?_) le_rfl
    unfold Credited
    rw [hwaiting, List.take_nil, List.take_nil]
  | tookWaker hpushed hwaiting => exact h.fewer rfl (credited_tookWaker hpushed hwaiting) le_rfl
  | woke hheld => exact h.fewer rfl (credited_woke hheld) le_rfl

/-- At first no task waits. -/
theorem covered_new {t : Target} {packet_count : ℕ} (h : new t packet_count = .ok s) :
    s.Covered := by
  obtain ⟨n, -, h⟩ := except_bind_eq_ok.1 h
  obtain ⟨bytes, -, h⟩ := except_bind_eq_ok.1 h
  obtain ⟨_, -, h⟩ := except_bind_eq_ok.1 h
  obtain ⟨_, -, h⟩ := except_bind_eq_ok.1 h
  obtain ⟨free_packets, -, h⟩ := except_bind_eq_ok.1 h
  obtain ⟨_, -, h⟩ := except_bind_eq_ok.1 h
  cases h
  rintro ⟨t', hsuspended, -⟩
  cases hsuspended

end PacketPool

open PacketPool

/-- In every run of a new pool whose steps are all safe, no wakeup is lost in any state reached: it
does not come to pass that a slot is free, that some task waits for one, and that no task that waits
has a wake pending or coming from a drop in progress. -/
theorem no_lost_wakeup {t : Target} {packet_count : ℕ} {pool s : PacketPool}
    {trace : List (PacketPool.Action × PacketPool.Returned)}
    (hnew : PacketPool.new t packet_count = .ok pool) (hrun : Run PacketPool.step pool trace s)
    (hsafe : Along PacketPool.step PacketPool.WakeSafe pool trace) : ¬s.LostWakeup := by
  have hcovered : s.Covered := by
    refine hrun.invariant_along hsafe (covered_new hnew) fun s s' a o hs ha hstep => ?_
    exact hs.step ha hstep
  exact hcovered.not_lostWakeup

namespace Sample

/-- A pool of one slot. -/
def pool : PacketPool where
  packet_count := 1
  buffer_len := 2048
  free_packets := [0]
  waiting := []
  live := []
  task _ := .idle
  woken _ := false
  pushed := 0
  held := []

set_option maxRecDepth 20000 in
/-- It is a new one. -/
theorem pool_new : PacketPool.new (target 32 false) 1 = .ok pool := rfl

/-- The one packet is allocated, and a task looks for another. -/
def taken : List (PacketPool.Action × PacketPool.Returned) :=
  [(.allocate, .allocated (some ⟨0, 2048⟩)), (.poll 7, .polled none)]

/-- The pool then. -/
def looking : PacketPool :=
  { pool with
    free_packets := []
    live := [⟨0, 2048⟩]
    task := Function.update pool.task 7 .registering
    woken := Function.update pool.woken 7 false }

/-- It comes to that. -/
theorem run_taken : Run PacketPool.step pool taken looking := (Run.nil.snoc rfl).snoc rfl

end Sample

/-- The packet is dropped between the look of a task for it and the task's waker: the drop finds no
waker, and the task waits next to the free slot. -/
theorem not_no_lost_wakeup :
    ∃ s, Run PacketPool.step Sample.pool (Sample.taken ++
        [(.drop 0, .unit), (.takeWaker, .unit), (.register 7, .unit)]) s ∧ s.LostWakeup := by
  refine ⟨_, ((Sample.run_taken.snoc rfl).snoc rfl).snoc rfl, ?_, ⟨7, ?_⟩, ?_⟩
  · simp [PacketPool.setTask, Sample.looking]
  · simp [PacketPool.setTask]
  · rintro t - (hc | hc | hc)
    · simp [PacketPool.setTask, Sample.looking, Sample.pool] at hc
    · simp [PacketPool.setTask, Sample.looking, Sample.pool] at hc
    · simp [PacketPool.setTask, Sample.looking, Sample.pool] at hc

/-- When the waker is in the queue first, the drop takes it. -/
theorem no_lost_wakeup_sample :
    ∃ s, Run PacketPool.step Sample.pool (Sample.taken ++
        [(.register 7, .unit), (.drop 0, .unit), (.takeWaker, .unit)]) s ∧ ¬s.LostWakeup := by
  have h₀ := Sample.run_taken
  have h₁ := h₀.snoc (a := .register 7) (o := .unit) rfl
  have h₂ := h₁.snoc (a := .drop 0) (o := .unit) rfl
  have h₃ := h₂.snoc (a := .takeWaker) (o := .unit) rfl
  refine ⟨_, h₃, no_lost_wakeup Sample.pool_new h₃ ?_⟩
  rw [along_snoc h₂, along_snoc h₁, along_snoc h₀]
  refine ⟨⟨⟨?_, ?_⟩, ?_⟩, trivial⟩
  · refine along_of_forall fun x hx s => ?_
    rcases List.mem_cons.1 hx with rfl | hx
    · trivial
    · rw [List.mem_singleton.1 hx]
      trivial
  · exact .inr (.inr (.inr (covers_zero _)))
  · intro _
    refine .inl ⟨7, rfl, rfl, ?_⟩
    rintro (hc | hc | hc)
    · cases hc
    · cases hc
    · cases hc

end PlayitAgent
