import PlayitAgent.Proto.Net

/-!
# The `MessageEncoding` trait

The control protocol is written in terms of the trait `MessageEncoding` of the external crate
`message_encoding`, which also encodes the integers, options, addresses, and byte vectors. An
implementation of the trait is a value of `MessageEncoding`. The crate's own implementations are a
parameter, `MessageEncodingCrate`, and what the protocol needs of them is stated as three sets of
laws: `Lawful.RoundTrips` for reading back what was written, `Lawful.Sizes` for the declared and the
returned sizes, and `Lawful.Total` for encodings that never fail. All of them rest on
`Lawful.Integers`: the crate writes integers in big-endian order, as `byteorder` does.
-/

namespace PlayitAgent

/-! ## The trait -/

/-- An implementation of the trait `MessageEncoding` for a type. -/
structure MessageEncoding (α : Type) where
  /-- `STATIC_SIZE`: the size of every encoding, when there is one size. -/
  staticSize : Option ℕ := none
  /-- `MAX_SIZE`: a bound on the size, by default the static size. -/
  maxSize : Option ℕ := staticSize
  /-- `write_to`: writes a value and returns the number of bytes written. -/
  writeTo : α → WriteM ℕ
  /-- `read_from`: reads a value. -/
  readFrom : ReadM α

namespace MessageEncoding

variable {α : Type}

/-- A write that returned `n` and appended `bs` has the size that it returned and that the type
declares. -/
structure Sized (c : MessageEncoding α) (n : ℕ) (bs : List UInt8) : Prop where
  /-- The returned size is the number of bytes. -/
  count : n = bs.length
  /-- It is the static size, if there is one. -/
  static : ∀ k, c.staticSize = some k → n = k
  /-- It is within the maximal size, if there is one. -/
  max : ∀ k, c.maxSize = some k → n ≤ k

/-- What the type declares of a returned size. -/
def Declares (c : MessageEncoding α) (n : ℕ) : Prop :=
  (∀ k, c.staticSize = some k → n = k) ∧ ∀ k, c.maxSize = some k → n ≤ k

/-- The size law at a value: every write of it that succeeds is `Sized`. -/
def SizeLaw (c : MessageEncoding α) (a : α) : Prop := Writes (c.writeTo a) c.Sized

/-- The round trip at a value: whatever a successful write of it appends reads back as the value,
followed by anything. -/
def RoundTrip (c : MessageEncoding α) (a : α) : Prop := ReadsBack (c.writeTo a) c.readFrom a

/-- A value can be sent: into a sink with room, writing it fails neither with an error nor with a
panic. -/
def Sendable (c : MessageEncoding α) (a : α) : Prop := Succeeds (c.writeTo a)

/-- The size law as a sum from zero. -/
theorem sizeLaw_iff {c : MessageEncoding α} {a : α} :
    c.SizeLaw a ↔ Counts 0 (c.writeTo a) c.Declares := by
  constructor
  · exact fun h => Writes.mono h fun n bs hs => ⟨by rw [hs.count, Nat.zero_add], hs.static, hs.max⟩
  · exact fun h => Writes.mono h fun n bs ⟨hn, hs, hm⟩ => ⟨by rw [hn, Nat.zero_add], hs, hm⟩

/-- The encoding of a word is its big-endian bytes. -/
structure BigEndian [Word α] (c : MessageEncoding α) : Prop where
  writeTo : ∀ a, c.writeTo a = do writeBE a; return Word.size α
  readFrom : c.readFrom = readBE α

namespace BigEndian

variable [Word α] {c : MessageEncoding α} (h : c.BigEndian)
include h

/-- A word is written as its bytes. -/
theorem emits (a : α) : Emits (c.writeTo a) (Word.size α) (be a) := by
  rw [h.writeTo]
  simpa using (emits_writeBE a).bind (f := fun _ => pure (Word.size α)) (Emits.pure _)

/-- A word that was written is its bytes. -/
theorem writes (a : α) : Writes (c.writeTo a) fun n bs => n = Word.size α ∧ bs = be a := by
  rw [h.writeTo]
  refine (writes_writeBE a).bind fun _ bs hbs => Writes.pure ⟨rfl, ?_⟩
  rw [List.append_nil, hbs]

/-- A word's bytes read back as the word. -/
theorem decodes (a : α) : Decodes c.readFrom a (be a) := by
  rw [h.readFrom]
  exact decodes_readBE a

/-- Words round-trip. -/
theorem roundTrip (a : α) : c.RoundTrip a :=
  (h.writes a).mono fun _ _ hbs => hbs.2 ▸ h.decodes a

/-- Words read back with `byteorder`. -/
theorem readsBack (a : α) : ReadsBack (c.writeTo a) (readBE α) a := h.readFrom ▸ h.roundTrip a

/-- A word counts its width. -/
theorem counts (a : α) : Counts 0 (c.writeTo a) (· = Word.size α) :=
  (h.writes a).mono fun _ _ ⟨hn, hbs⟩ => ⟨by rw [hn, hbs, length_be, Nat.zero_add], hn⟩

/-- Words can be sent. -/
theorem sendable (a : α) : c.Sendable a := ⟨_, _, h.emits a⟩

end BigEndian

end MessageEncoding

/-! ## The crate's implementations -/

/-- The implementations and helpers of the external crate `message_encoding` that the protocol
uses. -/
structure MessageEncodingCrate where
  /-- `u16`. -/
  u16 : MessageEncoding UInt16
  /-- `u32`. -/
  u32 : MessageEncoding UInt32
  /-- `u64`. -/
  u64 : MessageEncoding UInt64
  /-- `Option<T>`. -/
  option : {α : Type} → MessageEncoding α → MessageEncoding (Option α)
  /-- `SocketAddr`. -/
  socketAddr : MessageEncoding SocketAddr
  /-- `IpAddr`. -/
  ipAddr : MessageEncoding IpAddr
  /-- `Vec<u8>`. -/
  vec : MessageEncoding (List UInt8)
  /-- `m_static::<T>()`: the static size of a type that has one. -/
  mStatic : {α : Type} → MessageEncoding α → ℕ
  /-- `m_max::<T>()`: the maximal size of a type that has one. -/
  mMax : {α : Type} → MessageEncoding α → ℕ
  /-- `m_max_list`: the largest of some sizes. -/
  mMaxList : List ℕ → ℕ
  /-- `m_opt_sum`: the sum of some sizes, if all of them are known. -/
  mOptSum : List (Option ℕ) → Option ℕ

namespace Lawful

/-- The crate writes and reads integers in big-endian order, at their own width. -/
structure Integers (e : MessageEncodingCrate) : Prop where
  u16 : e.u16.BigEndian
  u32 : e.u32.BigEndian
  u64 : e.u64.BigEndian

/-- What the crate encodes, it reads back. Addresses of the sixth version carry neither flow
information nor a scope on the wire. -/
structure RoundTrips (e : MessageEncodingCrate) : Prop extends Integers e where
  option : ∀ {α : Type} (c : MessageEncoding α) (o : Option α),
    (∀ a ∈ o, c.RoundTrip a) → (e.option c).RoundTrip o
  socketAddr : ∀ a : SocketAddr, a.Plain → e.socketAddr.RoundTrip a
  ipAddr : ∀ a, e.ipAddr.RoundTrip a
  vec : ∀ a, e.vec.RoundTrip a

/-- An option is a byte for its case and then the value, if there is one. Its declared sizes are
those of a value, so an absent one is shorter than the static size. -/
structure Options (e : MessageEncodingCrate) : Prop where
  none_writeTo : ∃ tag : UInt8, ∀ {α : Type} (c : MessageEncoding α),
    (e.option c).writeTo none = do
      writeBE tag
      return 1
  some_writeTo : ∃ tag : UInt8, ∀ {α : Type} (c : MessageEncoding α) (a : α),
    (e.option c).writeTo (some a) = do
      writeBE tag
      let n ← c.writeTo a
      return 1 + n
  staticSize : ∀ {α : Type} (c : MessageEncoding α),
    (e.option c).staticSize = c.staticSize.map (1 + ·)
  maxSize : ∀ {α : Type} (c : MessageEncoding α), (e.option c).maxSize = c.maxSize.map (1 + ·)

/-- The crate's encodings of integers, addresses and byte vectors obey the size law, the sizes that
the protocol's constants refer to are declared, and the helpers compute what their names say. -/
structure Sizes (e : MessageEncodingCrate) : Prop extends Integers e where
  u16_size : e.u16.staticSize = some 2 ∧ e.u16.maxSize = some 2
  u32_size : e.u32.staticSize = some 4 ∧ e.u32.maxSize = some 4
  u64_size : e.u64.staticSize = some 8 ∧ e.u64.maxSize = some 8
  option : Options e
  socketAddr : ∀ a, e.socketAddr.SizeLaw a
  socketAddr_max : e.socketAddr.maxSize.isSome
  ipAddr : ∀ a, e.ipAddr.SizeLaw a
  ipAddr_max : e.ipAddr.maxSize.isSome
  vec : ∀ a, e.vec.SizeLaw a
  mStatic : ∀ {α : Type} (c : MessageEncoding α) n, c.staticSize = some n → e.mStatic c = n
  mMax : ∀ {α : Type} (c : MessageEncoding α) n, c.maxSize = some n → e.mMax c = n
  mMaxList : ∀ sizes, ∀ n ∈ sizes, n ≤ e.mMaxList sizes
  mOptSum : ∀ sizes n, e.mOptSum sizes = some n → ∃ ns : List ℕ, sizes = ns.map some ∧ n = ns.sum

/-- The crate's encodings of options and addresses never fail, and an address that it has read
carries neither flow information nor a scope. -/
structure Total (e : MessageEncodingCrate) : Prop extends RoundTrips e where
  option_sendable : ∀ {α : Type} (c : MessageEncoding α) (o : Option α),
    (∀ a ∈ o, c.Sendable a) → (e.option c).Sendable o
  socketAddr_sendable : ∀ a, e.socketAddr.Sendable a
  ipAddr_sendable : ∀ a, e.ipAddr.Sendable a
  socketAddr_plain : ∀ b a rest, e.socketAddr.readFrom b = .ok (a, rest) → a.Plain

end Lawful

/-! ## An instance

Encodings that obey all of the laws: a tag before an option and an address, and a length before a
byte vector. -/

namespace Wire

/-- A word as its big-endian bytes. -/
def word (α : Type) [Word α] : MessageEncoding α where
  staticSize := some (Word.size α)
  writeTo a := do
    writeBE a
    return Word.size α
  readFrom := readBE α

/-- A tag and the value. -/
def option {α : Type} (c : MessageEncoding α) : MessageEncoding (Option α) where
  staticSize := c.staticSize.map (1 + ·)
  maxSize := c.maxSize.map (1 + ·)
  writeTo
    | some a => do
      writeBE (1 : UInt8)
      let n ← c.writeTo a
      return 1 + n
    | none => do
      writeBE (0 : UInt8)
      return 1
  readFrom := do
    match ← readBE UInt8 with
    | 0 => return none
    | 1 => return some (← c.readFrom)
    | _ => throw (.io ⟨.invalidData, "invalid option tag"⟩)

/-- The family and the address. -/
def ipAddr : MessageEncoding IpAddr where
  maxSize := some 17
  writeTo
    | .v4 ip => do
      writeBE (4 : UInt8)
      writeBE ip
      return 5
    | .v6 ip => do
      writeBE (6 : UInt8)
      writeBE ip
      return 17
  readFrom := do
    match ← readBE UInt8 with
    | 4 => return .v4 (← readBE UInt32)
    | 6 => return .v6 (← readBE (BitVec 128))
    | _ => throw (.io ⟨.invalidData, "invalid address family"⟩)

/-- The family, the address, and the port. -/
def socketAddr : MessageEncoding SocketAddr where
  maxSize := some 19
  writeTo
    | .v4 addr => do
      writeBE (4 : UInt8)
      writeBE addr.ip
      writeBE addr.port
      return 7
    | .v6 addr => do
      writeBE (6 : UInt8)
      writeBE addr.ip
      writeBE addr.port
      return 19
  readFrom := do
    match ← readBE UInt8 with
    | 4 => return .v4 ⟨← readBE UInt32, ← readBE UInt16⟩
    | 6 => return .v6 ⟨← readBE (BitVec 128), ← readBE UInt16, 0, 0⟩
    | _ => throw (.io ⟨.invalidData, "invalid address family"⟩)

/-- The length and the bytes. -/
def vec : MessageEncoding (List UInt8) where
  writeTo bs := do
    if ¬bs.length < 2 ^ 64 then throw (.io ⟨.invalidInput, "too long"⟩)
    writeBE (UInt64.ofNat bs.length)
    writeAll bs
    return 8 + bs.length
  readFrom := do
    let length ← readBE UInt64
    readExact length.toNat

/-- These encodings. -/
def crate : MessageEncodingCrate where
  u16 := word UInt16
  u32 := word UInt32
  u64 := word UInt64
  option := option
  socketAddr := socketAddr
  ipAddr := ipAddr
  vec := vec
  mStatic c := c.staticSize.getD 0
  mMax c := c.maxSize.getD 0
  mMaxList sizes := sizes.foldr max 0
  mOptSum sizes := sizes.foldr (fun n sum => do return (← n) + (← sum)) (some 0)

/-- The encodings of words are their big-endian bytes. -/
theorem word_bigEndian (α : Type) [Word α] : (word α).BigEndian := ⟨fun _ => rfl, rfl⟩

/-- The instance writes and reads integers in big-endian order. -/
theorem crate_integers : Lawful.Integers crate where
  u16 := word_bigEndian UInt16
  u32 := word_bigEndian UInt32
  u64 := word_bigEndian UInt64

/-- Options round-trip. -/
theorem option_roundTrip {α : Type} {c : MessageEncoding α} {o : Option α}
    (h : ∀ a ∈ o, c.RoundTrip a) : (option c).RoundTrip o := by
  cases o with
  | some a =>
    refine (readsBack_writeBE (1 : UInt8)).bind fun _ => ?_
    refine ReadsBack.bind (h a rfl) fun _ => ?_
    exact ReadsBack.pure _ (some a)
  | none =>
    refine (readsBack_writeBE (0 : UInt8)).bind fun _ => ?_
    exact ReadsBack.pure _ none

/-- Byte vectors round-trip. -/
theorem vec_roundTrip (bs : List UInt8) : vec.RoundTrip bs := by
  unfold MessageEncoding.RoundTrip vec
  by_cases hlen : bs.length < 2 ^ 64
  · simp only [hlen, not_true, if_false]
    refine (readsBack_writeBE (UInt64.ofNat bs.length)).bind fun _ => ?_
    rw [UInt64.toNat_ofNat_of_lt' (by simpa [UInt64.size] using hlen)]
    exact Writes.bind (ReadsBack.writeAll bs) fun _ cs hcs => Writes.pure (by simpa using hcs)
  · simp only [hlen, not_false_eq_true, if_true]
    exact ReadsBack.throw

/-- The instance reads back what it encodes. -/
theorem crate_roundTrips : Lawful.RoundTrips crate where
  toIntegers := crate_integers
  option _ _ h := option_roundTrip h
  socketAddr
    | .v4 addr, _ =>
      (readsBack_writeBE (4 : UInt8)).bind fun _ => (readsBack_writeBE addr.ip).bind fun _ =>
        (readsBack_writeBE addr.port).bind fun _ => ReadsBack.pure 7 (SocketAddr.v4 addr)
    | .v6 ⟨ip, port, flowinfo, scope_id⟩, hp => by
      obtain ⟨rfl, rfl⟩ : flowinfo = 0 ∧ scope_id = 0 := hp
      exact (readsBack_writeBE (6 : UInt8)).bind fun _ => (readsBack_writeBE ip).bind fun _ =>
        (readsBack_writeBE port).bind fun _ => ReadsBack.pure 19 (SocketAddr.v6 ⟨ip, port, 0, 0⟩)
  ipAddr
    | .v4 ip => (readsBack_writeBE (4 : UInt8)).bind fun _ => (readsBack_writeBE ip).bind fun _ =>
        ReadsBack.pure 5 (IpAddr.v4 ip)
    | .v6 ip => (readsBack_writeBE (6 : UInt8)).bind fun _ => (readsBack_writeBE ip).bind fun _ =>
        ReadsBack.pure 17 (IpAddr.v6 ip)
  vec := vec_roundTrip

/-- The instance encodes options as the crate does. -/
theorem crate_options : Lawful.Options crate where
  none_writeTo := ⟨0, fun _ => rfl⟩
  some_writeTo := ⟨1, fun _ _ => rfl⟩
  staticSize _ := rfl
  maxSize _ := rfl

/-- The instance obeys the size law. -/
theorem crate_sizes : Lawful.Sizes crate where
  toIntegers := crate_integers
  u16_size := ⟨rfl, rfl⟩
  u32_size := ⟨rfl, rfl⟩
  u64_size := ⟨rfl, rfl⟩
  option := crate_options
  socketAddr
    | .v4 addr => (writes_writeBE (4 : UInt8)).bind fun _ _ h₁ =>
        (writes_writeBE addr.ip).bind fun _ _ h₂ => (writes_writeBE addr.port).bind fun _ _ h₃ =>
          Writes.pure ⟨by simp [h₁, h₂, h₃, Word.size], by rintro k ⟨⟩, by rintro k ⟨⟩; decide⟩
    | .v6 addr => (writes_writeBE (6 : UInt8)).bind fun _ _ h₁ =>
        (writes_writeBE addr.ip).bind fun _ _ h₂ => (writes_writeBE addr.port).bind fun _ _ h₃ =>
          Writes.pure ⟨by simp [h₁, h₂, h₃, Word.size], by rintro k ⟨⟩, by rintro k ⟨⟩; decide⟩
  socketAddr_max := rfl
  ipAddr
    | .v4 ip => (writes_writeBE (4 : UInt8)).bind fun _ _ h₁ =>
        (writes_writeBE ip).bind fun _ _ h₂ =>
          Writes.pure ⟨by simp [h₁, h₂, Word.size], by rintro k ⟨⟩, by rintro k ⟨⟩; decide⟩
    | .v6 ip => (writes_writeBE (6 : UInt8)).bind fun _ _ h₁ =>
        (writes_writeBE ip).bind fun _ _ h₂ =>
          Writes.pure ⟨by simp [h₁, h₂, Word.size], by rintro k ⟨⟩, by rintro k ⟨⟩; decide⟩
  ipAddr_max := rfl
  vec bs := by
    unfold MessageEncoding.SizeLaw
    simp only [crate, vec]
    split
    · exact Writes.throw
    · refine (writes_writeBE (UInt64.ofNat bs.length)).bind fun _ _ h₁ => ?_
      refine (Writes.writeAll bs).bind fun _ _ h₂ => Writes.pure ⟨?_, ?_, ?_⟩
      · simp [h₁, h₂, Word.size]
      · rintro k ⟨⟩
      · rintro k ⟨⟩
  mStatic c n h := by simp [crate, h]
  mMax c n h := by simp [crate, h]
  mMaxList sizes n h := by
    induction sizes with
    | nil => cases h
    | cons k sizes ih =>
      simp only [crate, List.foldr_cons] at ih ⊢
      rcases List.mem_cons.1 h with rfl | h
      · exact le_max_left _ _
      · exact (ih h).trans (le_max_right _ _)
  mOptSum sizes n h := by
    induction sizes generalizing n with
    | nil => exact ⟨[], rfl, by simpa [crate] using h.symm⟩
    | cons k sizes ih =>
      simp only [crate, List.foldr_cons, bind, pure, Option.bind_eq_some_iff] at ih h
      obtain ⟨j, rfl, m, hm, ⟨⟩⟩ := h
      obtain ⟨ns, rfl, rfl⟩ := ih m hm
      exact ⟨j :: ns, rfl, by simp⟩

/-- An address that was read carries neither flow information nor a scope. -/
theorem socketAddr_plain {b : List UInt8} {a : SocketAddr} {rest : List UInt8}
    (h : socketAddr.readFrom b = .ok (a, rest)) : a.Plain := by
  obtain ⟨tag, b₁, -, h₁⟩ := bind_eq_ok.1 h
  split at h₁
  · obtain ⟨ip, b₂, -, h₂⟩ := bind_eq_ok.1 h₁
    obtain ⟨port, b₃, -, h₃⟩ := bind_eq_ok.1 h₂
    cases h₃
    trivial
  · obtain ⟨ip, b₂, -, h₂⟩ := bind_eq_ok.1 h₁
    obtain ⟨port, b₃, -, h₃⟩ := bind_eq_ok.1 h₂
    cases h₃
    exact ⟨rfl, rfl⟩
  · cases h₁

/-- The instance never fails on options and addresses. -/
theorem crate_total : Lawful.Total crate where
  toRoundTrips := crate_roundTrips
  option_sendable
    | _, some a, h => (succeeds_writeBE (1 : UInt8)).bind fun _ => Succeeds.bind (h a rfl) fun _ =>
        Succeeds.pure _
    | _, none, _ => (succeeds_writeBE (0 : UInt8)).bind fun _ => Succeeds.pure _
  socketAddr_sendable
    | .v4 addr => (succeeds_writeBE (4 : UInt8)).bind fun _ => (succeeds_writeBE addr.ip).bind
        fun _ => (succeeds_writeBE addr.port).bind fun _ => Succeeds.pure _
    | .v6 addr => (succeeds_writeBE (6 : UInt8)).bind fun _ => (succeeds_writeBE addr.ip).bind
        fun _ => (succeeds_writeBE addr.port).bind fun _ => Succeeds.pure _
  ipAddr_sendable
    | .v4 ip => (succeeds_writeBE (4 : UInt8)).bind fun _ => (succeeds_writeBE ip).bind fun _ =>
        Succeeds.pure _
    | .v6 ip => (succeeds_writeBE (6 : UInt8)).bind fun _ => (succeeds_writeBE ip).bind fun _ =>
        Succeeds.pure _
  socketAddr_plain _ _ _ h := socketAddr_plain h

end Wire

end PlayitAgent
