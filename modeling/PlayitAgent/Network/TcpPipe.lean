import PlayitAgent.Lib.Run
import PlayitAgent.Network.Stats

/-!
# The TCP pipe

`TcpPipe` and its `Worker` of `agent_core/src/network/tcp/tcp_pipe.rs`, with the counters of
`stats.rs` and `now_milli` of `utils/mod.rs`. The worker takes a step at each of its awaits: the
`select!` at the head of the loop, the read, and the write, which is not cancelled. What the two
sockets do, the cancellation, and the clock are the events.

The worker keeps one buffer, and writes the front of it that the last read has filled. Beside its
fields, the state records what was read, what the sink has taken, and the chunks that were written
in full.
-/

namespace PlayitAgent

/-- `now_milli`, given the milliseconds since 1970: before that, the `unwrap` panics. -/
def nowMilli (time : ℤ) : Option UInt64 := if time < 0 then none else some (.ofNat time.toNat)

/-- `u64::MAX`. -/
def u64Max : UInt64 := .ofNat (2 ^ 64 - 1)

/-- `TCP_PIPE_BUFFER_SIZE`. -/
def tcpPipeBufferSize : ℕ := 16 * 1024

/-- `PipeDirection`. -/
inductive PipeDirection where
  | tunnelToOrigin
  | originToTunnel
  deriving DecidableEq

/-- `add_bytes_in` and `add_bytes_out`, by the direction. -/
def AgentStats.add (stats : AgentStats) (bytes : UInt64) : PipeDirection → AgentStats
  | .tunnelToOrigin => stats.addBytesIn bytes
  | .originToTunnel => stats.addBytesOut bytes

/-- Why the worker leaves its loop. -/
inductive PipeEnd where
  | cancelled
  | readFailed
  | eof
  | writeFailed
  deriving DecidableEq

/-- Where the worker is. -/
inductive WorkerAt where
  /-- At the `select!` of the cancellation and `yield_now`. -/
  | selecting
  | reading
  /-- In `write_all`, with so many bytes of the buffer. -/
  | writing (byteCount : ℕ)
  /-- Behind the loop. -/
  | ended (reason : PipeEnd)
  /-- The task has panicked. -/
  | panicked
  deriving DecidableEq

/-- A pipe with its worker. -/
structure TcpPipe where
  worker : WorkerAt
  buffer : List UInt8
  lastActivity : UInt64
  bytesWritten : UInt64
  stats : Option AgentStats
  direction : PipeDirection
  /-- What was read. -/
  received : List UInt8
  /-- What the sink has taken. -/
  delivered : List UInt8
  /-- The chunks that were written in full. -/
  chunks : List (List UInt8)
  deriving DecidableEq

namespace TcpPipe

/-- A pipe whose worker has just started. -/
def start (now : UInt64) (stats : Option AgentStats) (direction : PipeDirection) : TcpPipe where
  worker := .selecting
  buffer := List.replicate tcpPipeBufferSize 0
  lastActivity := now
  bytesWritten := 0
  stats := stats
  direction := direction
  received := []
  delivered := []
  chunks := []

/-- `TcpPipe::new_with_stats`, which reads the clock. -/
def newWithStats (time : ℤ) (stats : Option AgentStats) (direction : PipeDirection) :
    Option TcpPipe :=
  (nowMilli time).map fun now => start now stats direction

/-- `TcpPipe::last_activity`. -/
def readLastActivity (s : TcpPipe) : UInt64 := if s.lastActivity = u64Max then 0 else s.lastActivity

/-- `TcpPipe::is_closed`. -/
def isClosed (s : TcpPipe) : Bool := s.lastActivity = u64Max

/-- What can happen to a pipe. -/
inductive Event where
  /-- The `select!` goes on. -/
  | yielded
  /-- The cancellation is seen. -/
  | cancelled
  | readFailed
  /-- The read gives these bytes; none at the end of the stream. -/
  | read (chunk : List UInt8)
  /-- The write fails after so many bytes. -/
  | writeFailed (taken : ℕ)
  /-- The write succeeds, at this time. -/
  | written (time : ℤ)
  deriving DecidableEq

/-- The end of `Worker::start`, behind the loop. -/
def finish (s : TcpPipe) (reason : PipeEnd) : TcpPipe :=
  { s with worker := .ended reason, lastActivity := u64Max }

/-- The read fills the front of the buffer. -/
def fill (s : TcpPipe) (chunk : List UInt8) : TcpPipe :=
  { s with buffer := chunk ++ s.buffer.drop chunk.length, received := s.received ++ chunk }

/-- The sink takes bytes. -/
def deliver (s : TcpPipe) (bytes : List UInt8) : TcpPipe :=
  { s with delivered := s.delivered ++ bytes }

/-- `Worker::start`, from the end of a write on: the clock is read, and the bytes are counted. -/
def account (s : TcpPipe) (byteCount : ℕ) (time : ℤ) : TcpPipe :=
  match nowMilli time with
  | none => { s with worker := .panicked }
  | some now =>
    { s with
      worker := .selecting
      lastActivity := now
      bytesWritten := s.bytesWritten + .ofNat byteCount
      stats := s.stats.map (·.add (.ofNat byteCount) s.direction) }

/-- One step, if it is possible. A read gives no more than the buffer holds, and a write that fails
has not written all. -/
def next (s : TcpPipe) : Event → Option TcpPipe
  | .yielded => match s.worker with
    | .selecting => some { s with worker := .reading }
    | _ => none
  | .cancelled => match s.worker with
    | .selecting | .reading => some (s.finish .cancelled)
    | _ => none
  | .readFailed => match s.worker with
    | .reading => some (s.finish .readFailed)
    | _ => none
  | .read chunk => match s.worker with
    | .reading =>
      -- `read` fills the buffer at most, and gives nothing at the end of the stream.
      if tcpPipeBufferSize < chunk.length then none
      else if chunk.length = 0 then some ((s.fill chunk).finish .eof)
      else some { s.fill chunk with worker := .writing chunk.length }
    | _ => none
  | .writeFailed taken => match s.worker with
    | .writing byteCount =>
      if taken < byteCount then
        some ((s.deliver ((s.buffer.take byteCount).take taken)).finish .writeFailed)
      else none
    | _ => none
  | .written time => match s.worker with
    | .writing byteCount =>
      let chunk := s.buffer.take byteCount
      some ({ s.deliver chunk with chunks := s.chunks ++ [chunk] }.account byteCount time)
    | _ => none

/-- A pipe as a system that takes a step at a time. -/
def step : TcpPipe → Event → Except Unit (TcpPipe × Unit) := ofOption next

/-- What every event does. -/
inductive Step (s : TcpPipe) : Event → TcpPipe → Prop where
  | yielded (h : s.worker = .selecting) : Step s .yielded { s with worker := .reading }
  | cancelled (h : s.worker = .selecting ∨ s.worker = .reading) :
    Step s .cancelled (s.finish .cancelled)
  | readFailed (h : s.worker = .reading) : Step s .readFailed (s.finish .readFailed)
  | eof (h : s.worker = .reading) : Step s (.read []) ((s.fill []).finish .eof)
  | read {chunk : List UInt8} (h : s.worker = .reading) :
    Step s (.read chunk) { s.fill chunk with worker := .writing chunk.length }
  | writeFailed {byteCount taken : ℕ} (h : s.worker = .writing byteCount) :
    Step s (.writeFailed taken)
      ((s.deliver ((s.buffer.take byteCount).take taken)).finish .writeFailed)
  | written {byteCount : ℕ} {time : ℤ} (h : s.worker = .writing byteCount) :
    Step s (.written time)
      ({ s.deliver (s.buffer.take byteCount) with
        chunks := s.chunks ++ [s.buffer.take byteCount] }.account byteCount time)

/-- A step does one of these things. -/
theorem step_of_next {s s' : TcpPipe} {e : Event} (h : s.next e = some s') : s.Step e s' := by
  -- Each event is possible at one await only, the cancellation at two.
  cases e with
  | yielded =>
    cases hw : s.worker <;> simp only [next, hw] at h <;> cases h
    exact .yielded hw
  | cancelled =>
    cases hw : s.worker <;> simp only [next, hw] at h <;> cases h
    · exact .cancelled (.inl hw)
    · exact .cancelled (.inr hw)
  | readFailed =>
    cases hw : s.worker <;> simp only [next, hw] at h <;> cases h
    exact .readFailed hw
  | read chunk =>
    cases hw : s.worker <;> simp only [next, hw] at h <;> try cases h
    split_ifs at h with hlen hempty
    · obtain rfl := List.eq_nil_of_length_eq_zero hempty
      cases h
      exact .eof hw
    · cases h
      exact .read hw
  | writeFailed taken =>
    cases hw : s.worker <;> simp only [next, hw] at h <;> try cases h
    split_ifs at h
    cases h
    exact .writeFailed hw
  | written time =>
    cases hw : s.worker <;> simp only [next, hw] at h <;> cases h
    exact .written hw

/-! ## What is delivered -/

/-- Everything that was read was written in full. -/
def Settled (s : TcpPipe) : Prop := s.delivered = s.chunks.flatten ∧ s.received = s.delivered

/-- How what is delivered stands to what was read: between two writes they are the same, and
during a write the front of the buffer is what is missing. -/
def Relayed (s : TcpPipe) : Prop :=
  match s.worker with
  | .writing byteCount =>
    s.delivered = s.chunks.flatten ∧ s.received = s.delivered ++ s.buffer.take byteCount ∧
      byteCount ≤ s.buffer.length
  | .ended .writeFailed => s.chunks.flatten <+: s.delivered ∧ s.delivered <+: s.received
  | _ => s.Settled

/-- The end of the loop keeps what was settled, unless a write has failed. -/
theorem Settled.finish {s : TcpPipe} (h : s.Settled) {reason : PipeEnd}
    (hreason : reason ≠ .writeFailed) : (s.finish reason).Relayed := by
  cases reason with
  | writeFailed => exact absurd rfl hreason
  | cancelled => exact h
  | readFailed => exact h
  | eof => exact h

/-- Counting the bytes of a chunk delivers nothing. -/
theorem Settled.account {s : TcpPipe} (h : s.Settled) (byteCount : ℕ) (time : ℤ) :
    (s.account byteCount time).Relayed := by
  unfold TcpPipe.account
  split
  · exact h
  · exact h

/-- Every step keeps the relation. -/
theorem Step.relayed {s s' : TcpPipe} {e : Event} (h : s.Step e s') (hs : s.Relayed) :
    s'.Relayed := by
  unfold Relayed at hs
  cases h with
  | yielded hw =>
    rw [hw] at hs
    exact hs
  | cancelled hw =>
    rcases hw with hw | hw
    · rw [hw] at hs
      exact Settled.finish hs (by decide)
    · rw [hw] at hs
      exact Settled.finish hs (by decide)
  | readFailed hw =>
    rw [hw] at hs
    exact Settled.finish hs (by decide)
  | eof hw =>
    rw [hw] at hs
    have hsettled : (s.fill []).Settled := by
      rw [fill, List.append_nil]
      exact hs
    exact hsettled.finish (by decide)
  | @read chunk hw =>
    rw [hw] at hs
    refine ⟨hs.1, ?_, by simp [fill]⟩
    -- The buffer holds other bytes behind the chunk, which the write leaves out.
    have hfront : (chunk ++ s.buffer.drop chunk.length).take chunk.length = chunk := by
      rw [List.take_left]
    simp only [fill, hfront, hs.2]
  | @writeFailed byteCount taken hw =>
    rw [hw] at hs
    -- Some of the chunk was taken, which is a beginning of what is missing.
    obtain ⟨hdelivered, hreceived, -⟩ := hs
    refine ⟨?_, ?_⟩
    · simp only [finish, deliver, ← hdelivered]
      exact List.prefix_append _ _
    · simp only [finish, deliver, hreceived, List.prefix_append_right_inj]
      exact List.take_prefix _ _
  | @written byteCount time hw =>
    rw [hw] at hs
    obtain ⟨hdelivered, hreceived, -⟩ := hs
    refine Settled.account ⟨?_, ?_⟩ byteCount time
    · simp [deliver, hdelivered]
    · simp [deliver, hreceived]

/-! ## What is counted -/

/-- How many bytes the chunks that were written in full have together. -/
def total (s : TcpPipe) : ℕ := s.chunks.flatten.length

/-- The counters have counted the chunks that were written in full, modulo `2^64`. -/
def Counted (stats : Option AgentStats) (direction : PipeDirection) (s : TcpPipe) : Prop :=
  s.bytesWritten = .ofNat s.total ∧ s.stats = stats.map (·.add (.ofNat s.total) direction)

/-- Counting twice is counting the sum. -/
theorem AgentStats.add_add (stats : AgentStats) (m n : ℕ) (direction : PipeDirection) :
    (stats.add (.ofNat m) direction).add (.ofNat n) direction =
      stats.add (.ofNat (m + n)) direction := by
  cases direction with
  | tunnelToOrigin => simp [AgentStats.add, AgentStats.addBytesIn, UInt64.add_assoc]
  | originToTunnel => simp [AgentStats.add, AgentStats.addBytesOut, UInt64.add_assoc]

/-- Every step keeps the direction, and the counters unless the task panics. -/
theorem Step.counted {stats : Option AgentStats} {direction : PipeDirection} {s s' : TcpPipe}
    {e : Event} (h : s.Step e s') (hrelayed : s.Relayed)
    (hs : s.direction = direction ∧ (s.worker ≠ .panicked → s.Counted stats direction)) :
    s'.direction = direction ∧ (s'.worker ≠ .panicked → s'.Counted stats direction) := by
  obtain ⟨hdirection, hcounted⟩ := hs
  cases h with
  | yielded hw => exact ⟨hdirection, fun _ => hcounted (by simp [hw])⟩
  | cancelled hw =>
    have hrunning : s.worker ≠ .panicked := by rcases hw with hw | hw <;> simp [hw]
    exact ⟨hdirection, fun _ => hcounted hrunning⟩
  | readFailed hw => exact ⟨hdirection, fun _ => hcounted (by simp [hw])⟩
  | eof hw => exact ⟨hdirection, fun _ => hcounted (by simp [hw])⟩
  | read hw => exact ⟨hdirection, fun _ => hcounted (by simp [hw])⟩
  | writeFailed hw => exact ⟨hdirection, fun _ => hcounted (by simp [hw])⟩
  | @written byteCount time hw =>
    obtain ⟨hbytes, hstats⟩ := hcounted (by simp [hw])
    unfold Relayed at hrelayed
    rw [hw] at hrelayed
    -- The buffer is long enough, so the chunk has as many bytes as are counted.
    have htotal : (s.chunks ++ [s.buffer.take byteCount]).flatten.length = s.total + byteCount := by
      simp [total, hrelayed.2.2]
    unfold account
    split
    · -- The clock is read before the bytes are counted, and its `unwrap` has panicked.
      exact ⟨hdirection, fun hne => absurd rfl hne⟩
    · refine ⟨hdirection, fun _ => ⟨?_, ?_⟩⟩
      · simp only [total, htotal, deliver, hbytes, UInt64.ofNat_add]
      · simp only [total, htotal, deliver, hstats, hdirection, Option.map_map]
        congr 1
        funext before
        exact AgentStats.add_add before _ _ _

/-! ## The time of the last activity -/

/-- The worker has neither left its loop nor panicked. -/
def Running (s : TcpPipe) : Prop :=
  s.worker = .selecting ∨ s.worker = .reading ∨ ∃ byteCount, s.worker = .writing byteCount

/-- The times at which the clock was read. -/
def clockTimes (trace : List (Event × Unit)) : List ℤ :=
  trace.filterMap fun x => match x.1 with
    | .written time => some time
    | _ => none

/-- What is stored is the sentinel once the worker has left its loop, and before that the reading of
the clock at one of the times. -/
def Stamped (times : List ℤ) (s : TcpPipe) : Prop :=
  (∀ reason, s.worker = .ended reason → s.lastActivity = u64Max) ∧
    (s.Running → ∃ time ∈ times, nowMilli time = some s.lastActivity)

/-- The end of the loop stores the sentinel. -/
theorem stamped_finish (times : List ℤ) (s : TcpPipe) (reason : PipeEnd) :
    (s.finish reason).Stamped times := by
  refine ⟨fun _ _ => rfl, fun hrunning => ?_⟩
  simp [Running, finish] at hrunning

/-- Every step stores the sentinel, a reading of the clock, or nothing. -/
theorem Step.stamped {times : List ℤ} {s s' : TcpPipe} {e : Event} (h : s.Step e s')
    (hs : s.Stamped times) : s'.Stamped (times ++ clockTimes [(e, ())]) := by
  have hstored : s.Running → ∃ time ∈ times ++ clockTimes [(e, ())],
      nowMilli time = some s.lastActivity := by
    intro hrunning
    obtain ⟨time, hmem, htime⟩ := hs.2 hrunning
    exact ⟨time, List.mem_append_left _ hmem, htime⟩
  -- Only the end of the loop and the end of a write store anything.
  cases h with
  | yielded hw => exact ⟨fun reason hr => (nomatch hr), fun _ => hstored (.inl hw)⟩
  | cancelled hw => exact stamped_finish _ _ _
  | readFailed hw => exact stamped_finish _ _ _
  | eof hw => exact stamped_finish _ _ _
  | read hw => exact ⟨fun reason hr => (nomatch hr), fun _ => hstored (.inr (.inl hw))⟩
  | writeFailed hw => exact stamped_finish _ _ _
  | @written byteCount time hw =>
    unfold account
    split
    · refine ⟨fun reason hr => (nomatch hr), fun hrunning => ?_⟩
      simp [Running] at hrunning
    · next now hnow =>
      refine ⟨fun reason hr => (nomatch hr), fun _ => ⟨time, ?_, hnow⟩⟩
      simp [clockTimes]

/-! ## Whole runs -/

section
variable {time : ℤ} {stats : Option AgentStats} {direction : PipeDirection} {init s : TcpPipe}
  {trace : List (Event × Unit)}

/-- The relation between the state and the script that every run keeps. -/
structure Invariant (time : ℤ) (stats : Option AgentStats) (direction : PipeDirection)
    (trace : List (Event × Unit)) (s : TcpPipe) : Prop where
  relayed : s.Relayed
  counted : s.direction = direction ∧ (s.worker ≠ .panicked → s.Counted stats direction)
  stamped : s.Stamped (time :: clockTimes trace)

/-- A new pipe has relayed and counted nothing. -/
theorem invariant_newWithStats (hnew : newWithStats time stats direction = some init) :
    init.Invariant time stats direction [] := by
  unfold newWithStats at hnew
  obtain ⟨now, hnow, rfl⟩ := Option.map_eq_some_iff.1 hnew
  refine ⟨⟨rfl, rfl⟩, ⟨rfl, fun _ => ⟨rfl, ?_⟩⟩, fun reason hr => (nomatch hr), fun _ => ?_⟩
  · cases stats with
    | none => rfl
    | some before => cases direction <;> simp [start, AgentStats.add, AgentStats.addBytesIn,
        AgentStats.addBytesOut, total]
  · exact ⟨time, by simp, hnow⟩

/-- Every run keeps the invariant. -/
theorem invariant_of_run (hnew : newWithStats time stats direction = some init)
    (hrun : Run step init trace s) : s.Invariant time stats direction trace := by
  refine hrun.invariant (I := fun trace s => s.Invariant time stats direction trace)
    (invariant_newWithStats hnew) ?_
  intro trace s s' e o hI hs
  have hstep := step_of_next (ofOption_eq_ok.1 hs)
  refine ⟨hstep.relayed hI.relayed, hstep.counted hI.relayed hI.counted, ?_⟩
  have hstamped := hstep.stamped hI.stamped
  simp only [clockTimes, List.filterMap_append, List.cons_append] at hstamped ⊢
  exact hstamped

/-- What is delivered begins with the chunks that were written in full, and is the beginning of
what was read. -/
theorem Relayed.prefixes (h : s.Relayed) :
    s.chunks.flatten <+: s.delivered ∧ s.delivered <+: s.received := by
  have hsettled : s.Settled → s.chunks.flatten <+: s.delivered ∧ s.delivered <+: s.received := by
    rintro ⟨hdelivered, hreceived⟩
    rw [hreceived, hdelivered]
    exact ⟨List.prefix_refl _, List.prefix_refl _⟩
  unfold Relayed at h
  split at h
  · obtain ⟨hdelivered, hreceived, -⟩ := h
    rw [hreceived, ← hdelivered]
    exact ⟨List.prefix_refl _, List.prefix_append _ _⟩
  · exact h
  · exact hsettled h

/-- Outside of a write, and unless one has failed, everything that was read is delivered. -/
theorem Relayed.delivered_eq (h : s.Relayed) (hw : ∀ byteCount, s.worker ≠ .writing byteCount)
    (hfailed : s.worker ≠ .ended .writeFailed) : s.delivered = s.received := by
  unfold Relayed at h
  split at h
  · next byteCount hworker => exact absurd hworker (hw byteCount)
  · next hworker => exact absurd hworker hfailed
  · exact h.2.symm

/-- Along every run, what is delivered is the beginning of what was read, and all of it outside of a
write that is not done or has failed. The counters are the length of the chunks that were written in
full, modulo `2^64`. Once the worker has left its loop the pipe is closed and its last activity
reads as zero, and before that it is not closed, unless the clock reads as the sentinel. -/
theorem tcp_pipe_relays (hnew : newWithStats time stats direction = some init)
    (hrun : Run step init trace s) :
    (s.chunks.flatten <+: s.delivered ∧ s.delivered <+: s.received) ∧
    ((∀ byteCount, s.worker ≠ .writing byteCount) → s.worker ≠ .ended .writeFailed →
      s.delivered = s.received) ∧
    (s.worker ≠ .panicked → s.bytesWritten.toNat = s.total % 2 ^ 64 ∧
      s.stats = stats.map (·.add (.ofNat s.total) direction)) ∧
    (∀ reason, s.worker = .ended reason → s.isClosed ∧ s.readLastActivity = 0) ∧
    (s.Running → (∀ t ∈ time :: clockTimes trace, nowMilli t ≠ some u64Max) →
      s.isClosed = false) := by
  obtain ⟨hrelayed, ⟨-, hcounted⟩, hended, hrunning⟩ := invariant_of_run hnew hrun
  refine ⟨hrelayed.prefixes, hrelayed.delivered_eq, fun hne => ?_, fun reason hr => ?_,
    fun hr htimes => ?_⟩
  · obtain ⟨hbytes, hstats⟩ := hcounted hne
    refine ⟨?_, hstats⟩
    rw [hbytes, UInt64.toNat_ofNat']
  · have hlast := hended reason hr
    simp [isClosed, readLastActivity, hlast]
  · obtain ⟨t, hmem, ht⟩ := hrunning hr
    simp only [isClosed, decide_eq_false_iff_not]
    intro hlast
    exact htimes t hmem (hlast ▸ ht)

/-- A run that ends with a write that fails after one of two bytes. -/
theorem tcp_pipe_relays_until_failure :
    ∃ s : TcpPipe, Reachable step (start 5 none .tunnelToOrigin) s ∧
      s.received = [1, 2, 3, 4, 5] ∧ s.delivered = [1, 2, 3, 4] ∧
      s.delivered <+: s.received ∧ s.bytesWritten.toNat = 3 % 2 ^ 64 ∧ s.isClosed := by
  have hrun : Run step (start 5 none .tunnelToOrigin) _ _ := Run.takes .nil
    (show takes next _ [.yielded, .read [1, 2, 3], .written 7, .yielded, .read [4, 5],
      .writeFailed 1] = some _ from rfl)
  have hnew : newWithStats 5 none .tunnelToOrigin = some (start 5 none .tunnelToOrigin) := rfl
  obtain ⟨⟨-, hpre⟩, -, hcounted, hended, -⟩ := tcp_pipe_relays hnew hrun
  exact ⟨_, ⟨_, hrun⟩, rfl, rfl, hpre, (hcounted (by decide)).1, (hended _ rfl).1⟩

/-- One turn of the loop, in which a chunk is read and written. -/
theorem exists_turn {chunk : List UInt8} (hlen : chunk.length ≤ tcpPipeBufferSize)
    (hne : chunk.length ≠ 0) (hw : s.worker = .selecting) :
    ∃ s', takes next s [.yielded, .read chunk, .written 0] = some s' ∧
      s'.worker = .selecting ∧ s'.total = s.total + chunk.length := by
  have hfits : ¬tcpPipeBufferSize < chunk.length := by omega
  have hyielded : s.next .yielded = some { s with worker := .reading } := by simp only [next, hw]
  have hread : next { s with worker := .reading } (.read chunk) =
      some { s.fill chunk with worker := .writing chunk.length } := by
    simp only [next, hfits, hne, if_false, fill]
  simp only [takes, hyielded, hread, Option.bind_some]
  refine ⟨_, rfl, rfl, ?_⟩
  simp [total, account, nowMilli, deliver, fill]

/-- So many turns one after the other. -/
theorem exists_turns (init : TcpPipe) {chunk : List UInt8}
    (hlen : chunk.length ≤ tcpPipeBufferSize) (hne : chunk.length ≠ 0)
    (hinit : init.worker = .selecting) (hzero : init.total = 0) (n : ℕ) :
    ∃ trace s, Run step init trace s ∧ s.worker = .selecting ∧ s.total = n * chunk.length := by
  induction n with
  | zero => exact ⟨[], init, .nil, hinit, by simpa using hzero⟩
  | succ n ih =>
    obtain ⟨trace, s, hrun, hw, htotal⟩ := ih
    obtain ⟨s', htakes, hw', htotal'⟩ := exists_turn hlen hne hw
    refine ⟨_, s', hrun.takes htakes, hw', ?_⟩
    rw [htotal', htotal, Nat.succ_mul]

/-- After `2^50` full chunks the counter of a pipe is at zero again. A pipe whose clock reads as the
sentinel seems closed while it runs, and one whose clock stands before 1970 when a chunk was written
has ended without being closed. -/
theorem tcp_pipe_wraps_or_misreads_clock :
    (∃ s, Reachable step (start 0 none .tunnelToOrigin) s ∧ s.worker = .selecting ∧
      s.bytesWritten.toNat ≠ s.total) ∧
    (∃ s, newWithStats (2 ^ 64 - 1) none .tunnelToOrigin = some s ∧ s.Running ∧ s.isClosed) ∧
    ∃ s, Reachable step (start 0 none .tunnelToOrigin) s ∧ s.worker = .panicked ∧
      s.isClosed = false := by
  refine ⟨?_, ⟨start u64Max none .tunnelToOrigin, rfl, .inl rfl, by decide⟩, ?_⟩
  · have hchunk : (List.replicate tcpPipeBufferSize (0 : UInt8)).length = tcpPipeBufferSize :=
      List.length_replicate
    obtain ⟨trace, s, hrun, hw, htotal⟩ := exists_turns (start 0 none .tunnelToOrigin)
      hchunk.le (by rw [hchunk]; decide) rfl rfl (2 ^ 50)
    have hnew : newWithStats 0 none .tunnelToOrigin = some (start 0 none .tunnelToOrigin) := rfl
    obtain ⟨hbytes, -⟩ := (invariant_of_run hnew hrun).counted.2 (by simp [hw])
    refine ⟨s, ⟨trace, hrun⟩, hw, ?_⟩
    -- `2^50` chunks of `2^14` bytes.
    rw [hbytes, htotal, hchunk, UInt64.toNat_ofNat']
    decide
  · have hrun : Run step (start 0 none .tunnelToOrigin) _ _ := Run.takes .nil
      (show takes next _ [.yielded, .read [1], .written (-1)] = some _ from rfl)
    exact ⟨_, ⟨_, hrun⟩, rfl, by decide⟩

end

end TcpPipe

end PlayitAgent
