import Mathlib.Data.List.Basic
import PlayitAgent.Lib.BigEndian
import PlayitAgent.Lib.Fallible

/-!
# Byte streams

Writers and readers in the shape of Rust's `std::io`. A writer appends to a `Sink`, which is a
growable buffer or the front of a fixed slice, and a reader consumes the front of a byte string;
both may stop with an I/O error or a panic.

Three judgements carry the proofs about encoders and decoders, each with rules for `pure`, `bind`,
and the primitives:

- `Writes w Q`: whenever `w` succeeds it has appended some bytes `bs`, with `Q` of its result and
  `bs`;
- `Emits w a bs`: wherever `bs` fits, `w` succeeds with the result `a` and appends `bs`; and
- `Decodes r a bs`: on `bs` followed by anything, `r` returns `a` and leaves exactly what follows.

More judgements say of whole encoders what their parts say: `ReadsBack w r a` that `r` undoes
`w`, `Counts acc w P` that `w` adds the number of its bytes to `acc`, and `Succeeds w` and `Fails w`
that `w` succeeds where there is room, and that it succeeds nowhere.
-/

namespace PlayitAgent

/-! ## Failures -/

/-- The ways a Rust computation panics. -/
inductive Panic where
  /-- A slice or an index out of range. -/
  | index
  /-- `unwrap` or `expect` on a failure. -/
  | unwrap
  /-- `assert!` or `assert_eq!`. -/
  | assertion
  /-- `unreachable!`. -/
  | unreachable
  /-- An arithmetic overflow, which a build without overflow checks wraps instead. -/
  | overflow
  /-- A one-shot future polled after it completed. -/
  | polledAfterCompletion
  /-- An explicit `panic!`. -/
  | explicit
  deriving DecidableEq, Repr

/-- The kinds of I/O error that the modelled code makes. -/
inductive ErrorKind where
  | unexpectedEof
  | invalidData
  | invalidInput
  | writeZero
  | unsupported
  | other
  deriving DecidableEq, Repr

/-- An I/O error: its kind and its text. -/
structure IoError where
  /-- The kind. -/
  kind : ErrorKind
  /-- The text. -/
  message : String
  deriving DecidableEq, Repr

/-- Why a stream computation stops without a result. -/
inductive Failure where
  | io (error : IoError)
  | panic (reason : Panic)
  deriving DecidableEq, Repr

/-- A sequence of stream computations succeeds when its first part does, and then its second. -/
theorem bind_eq_ok {σ α β : Type} {x : StateT σ (Except Failure) α}
    {f : α → StateT σ (Except Failure) β} {s : σ} {r : β × σ} :
    (x >>= f) s = .ok r ↔ ∃ a s', x s = .ok (a, s') ∧ f a s' = .ok r := by
  cases hx : x s with
  | error e => simp [bind, StateT.bind, hx, Except.bind]
  | ok p => simp [bind, StateT.bind, hx, Except.bind, Prod.ext_iff]

/-- `unwrap` of a fallible stream computation: an I/O error becomes a panic. -/
def unwrap {σ α : Type} (x : StateT σ (Except Failure) α) : StateT σ (Except Failure) α :=
  fun s => match x s with
  | .error (.io _) => .error (.panic .unwrap)
  | r => r

/-- `unwrap` of a success is that success. -/
theorem unwrap_ok {σ α : Type} {x : StateT σ (Except Failure) α} {s s' : σ} {a : α}
    (h : x s = .ok (a, s')) : unwrap x s = .ok (a, s') := by
  simp [unwrap, h]

/-! ## Writers -/

/-- Where a writer puts its bytes: those written so far, and what is left of the slice under it.
`none` stands for a buffer that grows, a `Vec<u8>`. -/
structure Sink where
  /-- The bytes written so far. -/
  written : List UInt8
  /-- The bytes of the slice that are still to be overwritten, if the sink is a slice. -/
  rest : Option (List UInt8)
  deriving DecidableEq

/-- An empty growable buffer. -/
def Sink.vec : Sink := ⟨[], none⟩

/-- A slice, of which nothing is written yet. -/
def Sink.slice (bytes : List UInt8) : Sink := ⟨[], some bytes⟩

/-- `n` more bytes fit. -/
def Sink.Fits (s : Sink) (n : ℕ) : Prop := ∀ r, s.rest = some r → n ≤ r.length

/-- The sink after the bytes `bs` have been written. -/
def Sink.push (s : Sink) (bs : List UInt8) : Sink :=
  ⟨s.written ++ bs, s.rest.map (·.drop bs.length)⟩

/-- Writers: computations that append to a sink. -/
abbrev WriteM := StateT Sink (Except Failure)

/-- `write_all`: the bytes go in whole, or the write fails. -/
def writeAll (bs : List UInt8) : WriteM Unit := fun s =>
  match s.rest with
  | none => .ok ((), s.push bs)
  | some r =>
    if bs.length ≤ r.length then .ok ((), s.push bs)
    else .error (.io ⟨.writeZero, "failed to write whole buffer"⟩)

/-- `write`: as many of the bytes as fit, and how many those are. -/
def write (bs : List UInt8) : WriteM ℕ := fun s =>
  match s.rest with
  | none => .ok (bs.length, s.push bs)
  | some r => .ok (min bs.length r.length, s.push (bs.take r.length))

/-- Writing nothing changes nothing. -/
@[simp]
theorem Sink.push_nil (s : Sink) : s.push [] = s := by
  cases s with
  | mk written rest => cases rest <;> simp [Sink.push]

/-- Writing twice is writing the concatenation. -/
@[simp]
theorem Sink.push_push (s : Sink) (bs cs : List UInt8) :
    (s.push bs).push cs = s.push (bs ++ cs) := by
  cases s with
  | mk written rest => cases rest <;> simp [Sink.push]

/-- Everything fits in a growable buffer. -/
theorem Sink.fits_of_rest_none {s : Sink} (h : s.rest = none) (n : ℕ) : s.Fits n := by
  intro r hr
  simp [h] at hr

/-- A concatenation fits when its parts fit one after the other. -/
theorem Sink.fits_append {s : Sink} {bs cs : List UInt8} (h : s.Fits (bs ++ cs).length) :
    s.Fits bs.length ∧ (s.push bs).Fits cs.length := by
  constructor
  · intro r hr
    have := h r hr
    simp only [List.length_append] at this
    omega
  · intro r hr
    obtain ⟨r', hr', rfl⟩ : ∃ r', s.rest = some r' ∧ r'.drop bs.length = r := by
      simpa [Sink.push, Option.map_eq_some_iff] using hr
    have := h r' hr'
    simp only [List.length_append, List.length_drop] at this ⊢
    omega

/-- A write that fits succeeds. -/
theorem writeAll_fits {bs : List UInt8} {s : Sink} (h : s.Fits bs.length) :
    writeAll bs s = .ok ((), s.push bs) := by
  unfold writeAll
  cases hr : s.rest with
  | none => rfl
  | some r => simp [h r hr]

/-- Whenever `w` succeeds it has appended some bytes, which stand in the relation `Q` to its
result. -/
def Writes {α : Type} (w : WriteM α) (Q : α → List UInt8 → Prop) : Prop :=
  ∀ s a s', w s = .ok (a, s') → ∃ bs, s' = s.push bs ∧ Q a bs

/-- Wherever `bs` fits, `w` succeeds with the result `a` and appends `bs`. -/
def Emits {α : Type} (w : WriteM α) (a : α) (bs : List UInt8) : Prop :=
  ∀ s, s.Fits bs.length → w s = .ok (a, s.push bs)

namespace Writes

variable {α β : Type} {w : WriteM α} {f : α → WriteM β}

/-- A computation that writes nothing. -/
protected theorem pure {a : α} {Q : α → List UInt8 → Prop} (h : Q a []) :
    Writes (pure a) Q := by
  rintro s a' s' ⟨⟩
  exact ⟨[], by simp, h⟩

/-- Two writers in sequence append the bytes of the first, then those of the second. -/
protected theorem bind {P : α → List UInt8 → Prop} {Q : β → List UInt8 → Prop} (hw : Writes w P)
    (hf : ∀ a bs, P a bs → Writes (f a) fun b cs => Q b (bs ++ cs)) : Writes (w >>= f) Q := by
  intro s b s'' h
  obtain ⟨a, s', hws, hfs⟩ := bind_eq_ok.1 h
  obtain ⟨bs, rfl, hP⟩ := hw _ _ _ hws
  obtain ⟨cs, rfl, hQ⟩ := hf a bs hP _ _ _ hfs
  exact ⟨bs ++ cs, by simp, hQ⟩

/-- The relation may be weakened. -/
protected theorem mono {P Q : α → List UInt8 → Prop} (hw : Writes w P)
    (h : ∀ a bs, P a bs → Q a bs) : Writes w Q := by
  intro s a s' hs
  obtain ⟨bs, hb, hP⟩ := hw s a s' hs
  exact ⟨bs, hb, h a bs hP⟩

/-- A computation that always fails appends nothing that anything could be said of. -/
protected theorem throw {e : Failure} {Q : α → List UInt8 → Prop} :
    Writes (throw e) Q := by
  rintro s a s' ⟨⟩

/-- A write that succeeds has appended its bytes. -/
protected theorem writeAll (bs : List UInt8) : Writes (writeAll bs) fun _ cs => cs = bs := by
  intro s a s' h
  unfold PlayitAgent.writeAll at h
  refine ⟨bs, ?_, rfl⟩
  split at h
  · simp_all
  · split at h <;> simp_all

/-- A partial write that reports the full length has appended all its bytes. -/
protected theorem write (bs : List UInt8) :
    Writes (write bs) fun n cs => n = cs.length ∧ (n = bs.length → cs = bs) := by
  intro s n s' h
  unfold PlayitAgent.write at h
  split at h
  · cases h
    exact ⟨bs, rfl, rfl, fun _ => rfl⟩
  · rename_i r _
    cases h
    refine ⟨bs.take r.length, rfl, by simp [Nat.min_comm], fun hn => ?_⟩
    rw [List.take_of_length_le (by omega)]

end Writes

namespace Emits

variable {α β : Type} {w : WriteM α} {f : α → WriteM β}

/-- A computation that writes nothing. -/
protected theorem pure (a : α) : Emits (pure a) a [] := by
  intro s _
  rw [Sink.push_nil]
  rfl

/-- Two writers in sequence emit the bytes of the first, then those of the second. -/
protected theorem bind {a : α} {b : β} {bs cs : List UInt8} (hw : Emits w a bs)
    (hf : Emits (f a) b cs) : Emits (w >>= f) b (bs ++ cs) := by
  intro s hs
  obtain ⟨h1, h2⟩ := Sink.fits_append hs
  simp [bind, StateT.bind, hw s h1, Except.bind, hf _ h2]

/-- `write_all` emits its bytes. -/
protected theorem writeAll (bs : List UInt8) : Emits (writeAll bs) () bs :=
  fun _ h => writeAll_fits h

/-- `unwrap` of a writer that succeeds emits the same. -/
protected theorem unwrap {a : α} {bs : List UInt8} (hw : Emits w a bs) :
    Emits (unwrap w) a bs :=
  fun s h => unwrap_ok (hw s h)

/-- What a writer emits into a slice that is long enough replaces the front of the slice. -/
theorem run_slice {a : α} {bs : List UInt8} (hw : Emits w a bs) {bytes : List UInt8}
    (h : bs.length ≤ bytes.length) :
    w (Sink.slice bytes) = .ok (a, ⟨bs, some (bytes.drop bs.length)⟩) := by
  rw [hw _ (by intro r hr; cases hr; exact h)]
  simp [Sink.slice, Sink.push]

/-- What a writer emits into an empty growable buffer is the buffer's contents. -/
theorem run_vec {a : α} {bs : List UInt8} (hw : Emits w a bs) :
    w Sink.vec = .ok (a, ⟨bs, none⟩) := by
  rw [hw _ (Sink.fits_of_rest_none rfl _)]
  simp [Sink.vec, Sink.push]

end Emits

/-! ## Readers -/

/-- Readers: computations that consume the front of a byte string. -/
abbrev ReadM := StateT (List UInt8) (Except Failure)

/-- `read_exact`: the next `n` bytes, or an error when there are fewer. -/
def readExact (n : ℕ) : ReadM (List UInt8) := fun b =>
  if n ≤ b.length then .ok (b.take n, b.drop n)
  else .error (.io ⟨.unexpectedEof, "failed to fill whole buffer"⟩)

/-- `read`: up to `n` bytes, as many as there are. -/
def read (n : ℕ) : ReadM (List UInt8) := fun b => .ok (b.take n, b.drop n)

/-- On `bs` followed by anything, `r` returns `a` and leaves exactly what follows. -/
def Decodes {α : Type} (r : ReadM α) (a : α) (bs : List UInt8) : Prop :=
  ∀ rest, r (bs ++ rest) = .ok (a, rest)

namespace Decodes

variable {α β : Type} {r : ReadM α} {f : α → ReadM β}

/-- A computation that reads nothing. -/
protected theorem pure (a : α) : Decodes (pure a) a [] := fun _ => rfl

/-- Two readers in sequence decode the concatenation of what each decodes. -/
protected theorem bind {a : α} {b : β} {bs cs : List UInt8} (hr : Decodes r a bs)
    (hf : Decodes (f a) b cs) : Decodes (r >>= f) b (bs ++ cs) := by
  intro rest
  have h1 := hr (cs ++ rest)
  simp [bind, StateT.bind, h1, Except.bind, hf rest]

/-- A reader followed by a function of its result. -/
protected theorem map {a : α} {bs : List UInt8} (hr : Decodes r a bs) (g : α → β) :
    Decodes (do return g (← r)) (g a) bs := by
  simpa using hr.bind (f := fun x => pure (g x)) (Decodes.pure (g a))

/-- `read_exact` decodes any string of its length as itself. -/
protected theorem readExact (bs : List UInt8) : Decodes (readExact bs.length) bs bs := by
  intro rest
  simp [PlayitAgent.readExact]

/-- `read` decodes any string of its length as itself. -/
protected theorem read (bs : List UInt8) : Decodes (read bs.length) bs bs := by
  intro rest
  simp [PlayitAgent.read]

/-- `unwrap` of a reader that succeeds decodes the same. -/
protected theorem unwrap {a : α} {bs : List UInt8} (hr : Decodes r a bs) :
    Decodes (unwrap r) a bs :=
  fun rest => unwrap_ok (hr rest)

/-- The result of a reader run for its result alone. -/
theorem run'_append {a : α} {bs : List UInt8} (hr : Decodes r a bs) (rest : List UInt8) :
    r.run' (bs ++ rest) = .ok a := by
  simp [StateT.run', hr rest, Functor.map, Except.map]

end Decodes

/-- Whenever `r` succeeds, it has consumed some bytes `bs`, with `Q` of its result and `bs`. -/
def Consumes {α : Type} (r : ReadM α) (Q : α → List UInt8 → Prop) : Prop :=
  ∀ b a rest, r b = .ok (a, rest) → ∃ bs, b = bs ++ rest ∧ Q a bs

namespace Consumes

variable {α β : Type} {r : ReadM α} {f : α → ReadM β}

/-- A computation that reads nothing. -/
protected theorem pure {a : α} {Q : α → List UInt8 → Prop} (h : Q a []) : Consumes (pure a) Q := by
  rintro b a' rest ⟨⟩
  exact ⟨[], rfl, h⟩

/-- Two readers in sequence consume the concatenation of what each consumes. -/
protected theorem bind {P : α → List UInt8 → Prop} {Q : β → List UInt8 → Prop}
    (hr : Consumes r P) (hf : ∀ a bs, P a bs → Consumes (f a) fun b cs => Q b (bs ++ cs)) :
    Consumes (r >>= f) Q := by
  intro b a rest h
  obtain ⟨a', b', hrb, hfb⟩ := bind_eq_ok.1 h
  obtain ⟨bs, rfl, hP⟩ := hr _ _ _ hrb
  obtain ⟨cs, rfl, hQ⟩ := hf a' bs hP _ _ _ hfb
  exact ⟨bs ++ cs, by simp, hQ⟩

/-- The relation may be weakened. -/
protected theorem mono {P Q : α → List UInt8 → Prop} (hr : Consumes r P)
    (h : ∀ a bs, P a bs → Q a bs) : Consumes r Q := by
  intro b a rest hb
  obtain ⟨bs, hbs, hP⟩ := hr b a rest hb
  exact ⟨bs, hbs, h a bs hP⟩

/-- A computation that always fails. -/
protected theorem throw {e : Failure} {Q : α → List UInt8 → Prop} : Consumes (throw e) Q := by
  rintro b a rest ⟨⟩

/-- `read_exact` consumes what it returns. -/
protected theorem readExact (n : ℕ) :
    Consumes (readExact n) fun a bs => bs = a ∧ bs.length = n := by
  intro b a rest h
  unfold PlayitAgent.readExact at h
  split at h
  · next hn =>
    cases h
    exact ⟨b.take n, (List.take_append_drop n b).symm, rfl, List.length_take_of_le hn⟩
  · cases h

end Consumes

/-- `ok` of a fallible read: no result when there is an I/O error. Then nothing is said of what is
left, and a slice is at its end. -/
def attemptRead {α : Type} (r : ReadM α) : ReadM (Option α) := fun b =>
  match r b with
  | .ok (a, rest) => .ok (some a, rest)
  | .error (.io _) => .ok (none, [])
  | .error (.panic p) => .error (.panic p)

/-- A read that succeeds has a result. -/
theorem Decodes.attemptRead {α : Type} {r : ReadM α} {a : α} {bs : List UInt8}
    (hr : Decodes r a bs) : Decodes (attemptRead r) (some a) bs := by
  intro rest
  simp [PlayitAgent.attemptRead, hr rest]

/-- A read with a result has consumed what the read consumes. -/
theorem Consumes.attemptRead {α : Type} {r : ReadM α} {Q : α → List UInt8 → Prop}
    (hr : Consumes r Q) :
    Consumes (attemptRead r) fun o bs => ∀ a, o = some a → Q a bs := by
  intro b o rest h
  unfold PlayitAgent.attemptRead at h
  split at h
  · next a rest' hrb =>
    cases h
    obtain ⟨bs, hb, hQ⟩ := hr b a rest hrb
    refine ⟨bs, hb, fun a' ha' => ?_⟩
    rw [← Option.some.inj ha']
    exact hQ
  · cases h
    exact ⟨b, (List.append_nil b).symm, fun a ha => nomatch ha⟩
  · cases h

/-- A reader over bytes that were read before, which leaves the stream alone. -/
def readSlab {α : Type} (slab : List UInt8) (r : ReadM α) : ReadM α := fun b =>
  match r slab with
  | .ok (a, _) => .ok (a, b)
  | .error e => .error e

/-- What a slab decodes as. -/
theorem readSlab_eq {α : Type} {slab rest : List UInt8} {r : ReadM α} {a : α}
    (h : r slab = .ok (a, rest)) : readSlab slab r = pure a := by
  funext b
  unfold readSlab
  rw [h]
  rfl

/-- `r` returns a result on every byte string. -/
def Returns {α : Type} (r : ReadM α) : Prop := ∀ b, ∃ a rest, r b = .ok (a, rest)

namespace Returns

variable {α β : Type} {r : ReadM α} {f : α → ReadM β}

/-- A computation that reads nothing. -/
protected theorem pure (a : α) : Returns (pure a) := fun b => ⟨a, b, rfl⟩

/-- Two readers in sequence, of which the second sees only what the first can give. -/
protected theorem bind {P : α → List UInt8 → Prop} (hr : Returns r) (hP : Consumes r P)
    (hf : ∀ a bs, P a bs → Returns (f a)) : Returns (r >>= f) := by
  intro b
  obtain ⟨a, b', hb⟩ := hr b
  obtain ⟨bs, -, hbs⟩ := hP b a b' hb
  obtain ⟨a', rest, hb'⟩ := hf a bs hbs b'
  exact ⟨a', rest, bind_eq_ok.2 ⟨a, b', hb, hb'⟩⟩

/-- `ok` of a `read_exact`. -/
protected theorem attemptRead_readExact (n : ℕ) : Returns (attemptRead (readExact n)) := by
  intro b
  unfold PlayitAgent.attemptRead readExact
  split_ifs
  · exact ⟨_, _, rfl⟩
  · exact ⟨_, _, rfl⟩

end Returns

/-! ## Encoders -/

/-- Whatever `w` appends when it succeeds, `r` reads back as `c`. -/
def ReadsBack {α γ : Type} (w : WriteM α) (r : ReadM γ) (c : γ) : Prop :=
  Writes w fun _ bs => Decodes r c bs

/-- Whenever `w` succeeds, its result is `acc` and the number of bytes that it appended, and has the
property `P`. -/
def Counts (acc : ℕ) (w : WriteM ℕ) (P : ℕ → Prop) : Prop :=
  Writes w fun n bs => n = acc + bs.length ∧ P n

/-- Into a sink with room, `w` fails neither with an error nor with a panic. -/
def Succeeds {α : Type} (w : WriteM α) : Prop := ∃ a bs, Emits w a bs

/-- `w` fails into every sink. -/
def Fails {α : Type} (w : WriteM α) : Prop := ∀ s, ∃ x, w s = .error x

namespace ReadsBack

variable {α β γ δ : Type} {w : WriteM α} {f : α → WriteM β} {r : ReadM γ} {g : γ → ReadM δ}

/-- A writer and a reader of nothing. -/
protected theorem pure (a : α) (c : γ) : ReadsBack (pure a) (pure c) c :=
  Writes.pure (Decodes.pure c)

/-- Two writers in sequence and two readers in sequence. -/
protected theorem bind {c : γ} {d : δ} (hw : ReadsBack w r c) (hf : ∀ a, ReadsBack (f a) (g c) d) :
    ReadsBack (w >>= f) (r >>= g) d :=
  Writes.bind hw fun a _ hbs => (hf a).mono fun _ _ hcs => hbs.bind hcs

/-- A reader that only looks at what was read back. -/
protected theorem result {c : γ} {d : δ} (hw : ReadsBack w r c) (hg : g c = pure d) :
    ReadsBack w (r >>= g) d := by
  refine hw.mono fun _ bs hbs => ?_
  have hd := hbs.bind (f := g) (hg ▸ Decodes.pure d)
  rwa [List.append_nil] at hd

/-- Bytes that are written whole are read whole. -/
protected theorem writeAll (bs : List UInt8) :
    ReadsBack (writeAll bs) (readExact bs.length) bs :=
  (Writes.writeAll bs).mono fun _ _ hbs => hbs ▸ Decodes.readExact bs

/-- A writer that fails. -/
protected theorem throw {x : Failure} {c : γ} : ReadsBack (throw x : WriteM α) r c := Writes.throw

/-- What was emitted reads back. -/
theorem decodes {a : α} {c : γ} {bs : List UInt8} (h : ReadsBack w r c) (hs : Emits w a bs) :
    Decodes r c bs := by
  obtain ⟨bs', hb, hd⟩ := h _ _ _ hs.run_vec
  obtain rfl : bs = bs' := by simpa [Sink.vec, Sink.push] using hb
  exact hd

end ReadsBack

namespace Counts

variable {acc : ℕ} {w : WriteM ℕ} {f : ℕ → WriteM ℕ} {P Q : ℕ → Prop}

/-- The sum so far, when nothing is left to write. -/
protected theorem pure (h : P acc) : Counts acc (pure acc) P := Writes.pure ⟨rfl, h⟩

/-- A part adds the number of its bytes to the sum so far. -/
protected theorem bind (hw : Counts 0 w Q) (hf : ∀ n, Q n → Counts (acc + n) (f n) P) :
    Counts acc (w >>= f) P := by
  refine Writes.bind hw fun n bs ⟨hn, hQ⟩ => (hf n hQ).mono fun m cs ⟨hm, hP⟩ => ⟨?_, hP⟩
  simp only [List.length_append]
  omega

/-- Bytes whose number is then added to the sum so far. -/
protected theorem writeAll {bs : List UInt8} (h : P (acc + bs.length)) :
    Counts acc (do writeAll bs; return acc + bs.length) P :=
  (Writes.writeAll bs).bind fun _ _ hcs => Writes.pure ⟨by rw [hcs, List.append_nil], h⟩

/-- The property may be weakened. -/
protected theorem mono (hw : Counts acc w P) (h : ∀ n, P n → Q n) : Counts acc w Q :=
  Writes.mono hw fun n _ ⟨hn, hP⟩ => ⟨hn, h n hP⟩

/-- A writer that fails. -/
protected theorem throw {x : Failure} : Counts acc (throw x) P := Writes.throw

end Counts

namespace Succeeds

variable {α β : Type} {w : WriteM α} {f : α → WriteM β}

/-- Nothing is written. -/
protected theorem pure (a : α) : Succeeds (pure a) := ⟨a, [], Emits.pure a⟩

/-- Two writers in sequence. -/
protected theorem bind (hw : Succeeds w) (hf : ∀ a, Succeeds (f a)) : Succeeds (w >>= f) := by
  obtain ⟨a, bs, ha⟩ := hw
  obtain ⟨b, cs, hb⟩ := hf a
  exact ⟨b, bs ++ cs, ha.bind hb⟩

/-- `write_all` succeeds. -/
protected theorem writeAll (bs : List UInt8) : Succeeds (writeAll bs) := ⟨(), bs, Emits.writeAll bs⟩

end Succeeds

namespace Fails

variable {α β : Type} {w : WriteM α} {f : α → WriteM β}

/-- A writer that fails at once. -/
protected theorem throw {x : Failure} : Fails (throw x : WriteM α) := fun _ => ⟨x, rfl⟩

/-- A sequence whose first part fails. -/
protected theorem bind_left (hw : Fails w) : Fails (w >>= f) := by
  intro s
  obtain ⟨x, hx⟩ := hw s
  exact ⟨x, by simp [bind, StateT.bind, hx, Except.bind]⟩

/-- A sequence whose second part fails. -/
protected theorem bind_right (hf : ∀ a, Fails (f a)) : Fails (w >>= f) := by
  intro s
  cases hws : w s with
  | error x => exact ⟨x, by simp [bind, StateT.bind, hws, Except.bind]⟩
  | ok r =>
    obtain ⟨x, hx⟩ := hf r.1 r.2
    exact ⟨x, by simp [bind, StateT.bind, hws, Except.bind, hx]⟩

/-- A writer that fails does not succeed. -/
theorem not_succeeds (hw : Fails w) : ¬Succeeds w := by
  rintro ⟨a, bs, hs⟩
  obtain ⟨x, hx⟩ := hw Sink.vec
  cases hx.symm.trans hs.run_vec

end Fails

/-! ## Words -/

/-- A fixed-width word, with its width in bytes and its value as a number. -/
class Word (α : Type) where
  /-- The width in bytes. -/
  size : ℕ
  /-- The value. -/
  val : α → ℕ
  /-- The word of a value. -/
  ofVal : ℕ → α
  /-- A value fits in the width. -/
  val_lt : ∀ a, val a < 256 ^ size
  /-- The word of a word's value. -/
  ofVal_val : ∀ a, ofVal (val a) = a
  /-- The value of the word of a value that fits. -/
  val_ofVal : ∀ n, n < 256 ^ size → val (ofVal n) = n

instance : Word UInt8 where
  size := 1
  val := UInt8.toNat
  ofVal := UInt8.ofNat
  val_lt a := a.toNat_lt
  ofVal_val a := UInt8.ofNat_toNat
  val_ofVal n h := UInt8.toNat_ofNat_of_lt' (by simpa [UInt8.size] using h)

instance : Word UInt16 where
  size := 2
  val := UInt16.toNat
  ofVal := UInt16.ofNat
  val_lt a := a.toNat_lt
  ofVal_val a := UInt16.ofNat_toNat
  val_ofVal n h := UInt16.toNat_ofNat_of_lt' (by simpa [UInt16.size] using h)

instance : Word UInt32 where
  size := 4
  val := UInt32.toNat
  ofVal := UInt32.ofNat
  val_lt a := a.toNat_lt
  ofVal_val a := UInt32.ofNat_toNat
  val_ofVal n h := UInt32.toNat_ofNat_of_lt' (by simpa [UInt32.size] using h)

instance : Word UInt64 where
  size := 8
  val := UInt64.toNat
  ofVal := UInt64.ofNat
  val_lt a := a.toNat_lt
  ofVal_val a := UInt64.ofNat_toNat
  val_ofVal n h := UInt64.toNat_ofNat_of_lt' (by simpa [UInt64.size] using h)

instance : Word (BitVec 128) where
  size := 16
  val := BitVec.toNat
  ofVal := BitVec.ofNat 128
  val_lt a := a.isLt
  ofVal_val a := by simp
  val_ofVal n h := by
    rw [BitVec.toNat_ofNat, Nat.mod_eq_of_lt]
    exact h

section
variable {α : Type} [Word α]

/-- The big-endian bytes of a word. -/
def be (a : α) : List UInt8 := beBytes (Word.size α) (Word.val a)

/-- `write_u8` to `write_u128`, big-endian. -/
def writeBE (a : α) : WriteM Unit := writeAll (be a)

/-- `read_u8` to `read_u128`, big-endian. -/
def readBE (α : Type) [Word α] : ReadM α := do
  let bs ← readExact (Word.size α)
  return Word.ofVal (beNat bs)

/-- A word takes its width. -/
@[simp]
theorem length_be (a : α) : (be a).length = Word.size α := by simp [be]

/-- A word is determined by its bytes. -/
theorem ofVal_beNat_be (a : α) : (Word.ofVal (beNat (be a)) : α) = a := by
  rw [be, beNat_beBytes, Nat.mod_eq_of_lt (Word.val_lt a), Word.ofVal_val]

/-- A byte is its own only byte. -/
theorem be_uint8 (b : UInt8) : be b = [b] := by
  simp [be, Word.size, Word.val, beBytes]

/-- Any bytes of a word's width are the bytes of a word. -/
theorem be_ofVal_beNat {bs : List UInt8} (h : bs.length = Word.size α) :
    be (Word.ofVal (beNat bs) : α) = bs := by
  rw [be, Word.val_ofVal _ (h ▸ beNat_lt bs), ← h, beBytes_beNat]

/-- Any bytes of a word's width are the bytes of some word. -/
theorem exists_be {bs : List UInt8} (h : bs.length = Word.size α) : ∃ a : α, bs = be a :=
  ⟨_, (be_ofVal_beNat h).symm⟩

/-- Different words have different bytes. -/
theorem be_injective : Function.Injective (be : α → List UInt8) := by
  intro a b h
  rw [← ofVal_beNat_be a, h, ofVal_beNat_be]

/-- A string that is long enough starts with the bytes of a word. -/
theorem exists_word (α : Type) [Word α] {t : List UInt8} (h : Word.size α ≤ t.length) :
    ∃ (a : α) (t' : List UInt8), t = be a ++ t' ∧ t'.length = t.length - Word.size α := by
  refine ⟨Word.ofVal (beNat (t.take (Word.size α))), t.drop (Word.size α), ?_, by simp⟩
  rw [be_ofVal_beNat (by simpa using h), List.take_append_drop]

/-- The word at an index of a string. -/
def wordAt (α : Type) [Word α] (b : List UInt8) (i : ℕ) : α :=
  Word.ofVal (beNat ((b.drop i).take (Word.size α)))

/-- The word at an index of what follows. -/
@[simp]
theorem wordAt_drop (b : List UInt8) (i j : ℕ) : wordAt α (b.drop i) j = wordAt α b (i + j) := by
  simp [wordAt]

/-- A word that was read stands at the front, and what follows it is left. -/
theorem readBE_eq_ok {b rest : List UInt8} {a : α} (h : readBE α b = .ok (a, rest)) :
    a = wordAt α b 0 ∧ rest = b.drop (Word.size α) := by
  obtain ⟨bs, b', hr, hp⟩ := bind_eq_ok.1 h
  unfold readExact at hr
  split at hr
  · cases hr
    cases hp
    exact ⟨by simp [wordAt], rfl⟩
  · cases hr

/-- A word is written as its bytes. -/
theorem emits_writeBE (a : α) : Emits (writeBE a) () (be a) := Emits.writeAll _

/-- Writing a word succeeds. -/
theorem succeeds_writeBE (a : α) : Succeeds (writeBE a) := ⟨(), be a, emits_writeBE a⟩

/-- A word that was written is its bytes. -/
theorem writes_writeBE (a : α) : Writes (writeBE a) fun _ bs => bs = be a := Writes.writeAll _

/-- A word's bytes decode as the word. -/
theorem decodes_readBE (a : α) : Decodes (readBE α) a (be a) := by
  have h := (Decodes.readExact (be a)).map (β := α) fun bs => Word.ofVal (beNat bs)
  rw [length_be, ofVal_beNat_be] at h
  exact h

/-- A word that was read is its bytes. -/
theorem consumes_readBE (α : Type) [Word α] : Consumes (readBE α) fun a bs => bs = be a := by
  refine (Consumes.readExact (Word.size α)).bind fun a bs hbs => Consumes.pure ?_
  obtain ⟨rfl, hlen⟩ := hbs
  rw [List.append_nil, be_ofVal_beNat hlen]

/-- `ok` of the read of a word returns. -/
theorem returns_attemptRead_readBE (α : Type) [Word α] : Returns (attemptRead (readBE α)) := by
  intro b
  by_cases hlen : Word.size α ≤ b.length
  · obtain ⟨a, rest, rfl, -⟩ := exists_word α hlen
    exact ⟨some a, rest, (decodes_readBE a).attemptRead rest⟩
  · have hread : readBE α b =
        .error (.io ⟨.unexpectedEof, "failed to fill whole buffer"⟩) := by
      simp [readBE, readExact, bind, StateT.bind, Except.bind, hlen]
    refine ⟨none, [], ?_⟩
    simp [attemptRead, hread]

/-- A word that is written reads back. -/
theorem readsBack_writeBE (a : α) : ReadsBack (writeBE a) (readBE α) a :=
  (writes_writeBE a).mono fun _ _ hbs => hbs ▸ decodes_readBE a

end

end PlayitAgent
