import Mathlib.Data.List.Nodup
import Mathlib.Data.UInt

/-!
# Slot maps

A slot map stores values under keys that it chooses. Unlike a slab it marks each use of a slot with
a version, which is a part of the key, so that a key whose value has been removed does not lead to
the next value of the slot. `SlotMap σ κ α` is what the documentation of such a container promises,
for a container of type `σ`. A version is a number of 32 bits, and so no container can promise that
all keys ever given out are different: that they are is said of the keys `issued` in a run, a record
that the container itself does not keep.

An operation is described by a relation between the container before and after it: `Inserted`,
`Assigned`, `Removed`, and `Alike` when nothing can be told apart. `SlotVec` is a container that
keeps the promise, with a version in each slot and a stack of free slots.
-/

namespace PlayitAgent

/-- Keys that can be passed as numbers of 64 bits. -/
class SlotKey (κ : Type) where
  /-- The number of a key. -/
  asFfi : κ → UInt64
  /-- The key of a number, which is some key when the number is not that of a key. -/
  fromFfi : UInt64 → κ
  /-- The number of a key leads back to the key. -/
  fromFfi_asFfi : ∀ k, fromFfi (asFfi k) = k

/-- A container of values of type `α` under keys of its own choice, which are not used again. -/
class SlotMap (σ : Type) (κ α : outParam Type) where
  /-- The container without values. -/
  empty : σ
  /-- The value at a key. -/
  get : σ → κ → Option α
  /-- A key for a new value and the container with it, or the panic when there is no key left. -/
  insert : σ → α → Option (κ × σ)
  /-- The container with another value at a key, as an assignment through `get_mut` leaves it. -/
  set : σ → κ → α → σ
  /-- The value at a key, and the container without it. -/
  remove : σ → κ → Option α × σ
  /-- The number of values. -/
  len : σ → ℕ
  /-- The keys that were ever given out, in their order. -/
  issued : σ → List κ
  /-- The empty container has no value. -/
  get_empty : ∀ k, get empty k = none
  /-- The empty container has no length. -/
  len_empty : len empty = 0
  /-- No key of the empty container has been given out. -/
  issued_empty : issued empty = []
  /-- There is no key left at so many values. -/
  insert_eq_none : ∀ s a, insert s a = none ↔ len s = 2 ^ 32 - 2
  /-- A new value gets a key that has none. -/
  get_of_insert : ∀ {s a k s'}, insert s a = some (k, s') → get s k = none
  /-- The new value is at its key. -/
  get_insert_self : ∀ {s a k s'}, insert s a = some (k, s') → get s' k = some a
  /-- Insertion leaves the other keys. -/
  get_insert_of_ne : ∀ {s a k s' j}, insert s a = some (k, s') → j ≠ k → get s' j = get s j
  /-- Insertion adds one to the length. -/
  len_insert : ∀ {s a k s'}, insert s a = some (k, s') → len s' = len s + 1
  /-- Insertion gives out the key. -/
  issued_insert : ∀ {s a k s'}, insert s a = some (k, s') → issued s' = issued s ++ [k]
  /-- The value that was assigned is there. -/
  get_set_self : ∀ {s k} a, (get s k).isSome → get (set s k a) k = some a
  /-- Assignment leaves the other keys. -/
  get_set_of_ne : ∀ {s k j} a, (get s k).isSome → j ≠ k → get (set s k a) j = get s j
  /-- Assignment keeps the length. -/
  len_set : ∀ {s k} a, (get s k).isSome → len (set s k a) = len s
  /-- Assignment gives out no key. -/
  issued_set : ∀ {s k} a, (get s k).isSome → issued (set s k a) = issued s
  /-- Removal returns the value. -/
  remove_fst : ∀ s k, (remove s k).1 = get s k
  /-- There is no value at the key behind a removal. -/
  get_remove_self : ∀ s k, get (remove s k).2 k = none
  /-- Removal leaves the other keys. -/
  get_remove_of_ne : ∀ {s k j}, j ≠ k → get (remove s k).2 j = get s j
  /-- Removal of a value takes one from the length. -/
  len_remove : ∀ {s k}, (get s k).isSome → len (remove s k).2 + 1 = len s
  /-- Removal of nothing keeps the length. -/
  len_remove_of_none : ∀ {s k}, get s k = none → len (remove s k).2 = len s
  /-- Removal gives out no key. -/
  issued_remove : ∀ s k, issued (remove s k).2 = issued s

namespace SlotMap

variable {σ κ α : Type} [SlotMap σ κ α] {s s' t : σ} {k j : κ} {a b : α}

/-! ## What an operation changes -/

/-- The second container has one more value than the first, at a key that was given out for it. -/
structure Inserted (s : σ) (k : κ) (a : α) (s' : σ) : Prop where
  absent : get s k = none
  get_self : get s' k = some a
  get_of_ne : ∀ j, j ≠ k → get s' j = get s j
  len : len s' = len s + 1
  issued : issued s' = issued s ++ [k]

/-- The second container has another value at a key. -/
structure Assigned (s : σ) (k : κ) (a : α) (s' : σ) : Prop where
  present : (get s k).isSome
  get_self : get s' k = some a
  get_of_ne : ∀ j, j ≠ k → get s' j = get s j
  len : SlotMap.len s' = SlotMap.len s
  issued : SlotMap.issued s' = SlotMap.issued s

/-- The second container is without a value of the first. -/
structure Removed (s : σ) (k : κ) (a : α) (s' : σ) : Prop where
  present : get s k = some a
  get_self : get s' k = none
  get_of_ne : ∀ j, j ≠ k → get s' j = get s j
  len : SlotMap.len s' + 1 = SlotMap.len s
  issued : SlotMap.issued s' = SlotMap.issued s

/-- The second container has the values of the first, and keys may have been given out in vain. -/
structure Alike (s s' : σ) : Prop where
  get : ∀ j, get s' j = get s j
  len : SlotMap.len s' = SlotMap.len s
  issued : SlotMap.issued s <+: SlotMap.issued s'

/-- A container is like itself. -/
theorem Alike.refl (s : σ) : Alike s s := ⟨fun _ => rfl, rfl, List.prefix_refl _⟩

/-- What `insert` does. -/
theorem inserted_of_insert (h : insert s a = some (k, s')) : Inserted s k a s' where
  absent := get_of_insert h
  get_self := get_insert_self h
  get_of_ne _ hj := get_insert_of_ne h hj
  len := len_insert h
  issued := issued_insert h

/-- What an assignment does. -/
theorem assigned_set (a : α) (h : (get s k).isSome) : Assigned s k a (set s k a) where
  present := h
  get_self := get_set_self a h
  get_of_ne _ hj := get_set_of_ne a h hj
  len := len_set a h
  issued := issued_set a h

/-- What `remove` does at a key with a value. -/
theorem removed_remove (h : get s k = some a) : Removed s k a (remove s k).2 where
  present := h
  get_self := get_remove_self s k
  get_of_ne _ hj := get_remove_of_ne hj
  len := len_remove (Option.isSome_of_eq_some h)
  issued := issued_remove s k

/-- What `remove` does at a key without one. -/
theorem alike_remove (h : get s k = none) : Alike s (remove s k).2 := by
  refine ⟨fun j => ?_, len_remove_of_none h, ?_⟩
  · by_cases hj : j = k
    · rw [hj, h, get_remove_self]
    · exact get_remove_of_ne hj
  · rw [issued_remove]

/-- A new value may be replaced at once. -/
theorem Inserted.assigned (h : Inserted s k a s') (ht : Assigned s' k b t) : Inserted s k b t where
  absent := h.absent
  get_self := ht.get_self
  get_of_ne j hj := (ht.get_of_ne j hj).trans (h.get_of_ne j hj)
  len := ht.len.trans h.len
  issued := ht.issued.trans h.issued

/-- A new value that is removed leaves nothing but its key. -/
theorem Inserted.removed (h : Inserted s k a s') (ht : Removed s' k a t) : Alike s t := by
  refine ⟨fun j => ?_, ?_, ?_⟩
  · by_cases hj : j = k
    · rw [hj, ht.get_self, h.absent]
    · rw [ht.get_of_ne j hj, h.get_of_ne j hj]
  · have hlen := ht.len
    rw [h.len] at hlen
    omega
  · rw [ht.issued, h.issued]
    exact List.prefix_append _ _

/-! ## Keys that were given out -/

/-- Every value has a key that was given out. -/
def Recorded (s : σ) : Prop := ∀ k, (get s k).isSome → k ∈ issued s

/-- The key was given out, and it has no value any more. -/
def Retired (s : σ) (k : κ) : Prop := k ∈ issued s ∧ get s k = none

/-- The keys of the empty container were given out. -/
theorem recorded_empty : Recorded (empty : σ) := by
  intro k hk
  rw [get_empty] at hk
  cases hk

/-- The keys that were given out stay so. -/
theorem Recorded.alike (h : Recorded s) (hs : Alike s s') : Recorded s' := by
  intro j hj
  rw [hs.get] at hj
  exact hs.issued.subset (h j hj)

/-- A change at a key that was given out. -/
theorem Recorded.of_ne (h : Recorded s) (hk : k ∈ issued s') (hissued : issued s ⊆ issued s')
    (hget : ∀ j, j ≠ k → get s' j = get s j) : Recorded s' := by
  intro j hj
  by_cases heq : j = k
  · rw [heq]
    exact hk
  · rw [hget j heq] at hj
    exact hissued (h j hj)

/-- A new key is given out. -/
theorem Recorded.inserted (h : Recorded s) (hs : Inserted s k a s') : Recorded s' := by
  refine h.of_ne (k := k) ?_ ?_ hs.get_of_ne
  · rw [hs.issued]
    simp
  · rw [hs.issued]
    exact List.subset_append_left _ _

/-- Assignment needs a key that was given out. -/
theorem Recorded.assigned (h : Recorded s) (hs : Assigned s k a s') : Recorded s' :=
  h.of_ne (hs.issued ▸ h k hs.present) (hs.issued ▸ List.Subset.refl _) hs.get_of_ne

/-- Removal takes no key back. -/
theorem Recorded.removed (h : Recorded s) (hs : Removed s k a s') : Recorded s' :=
  h.of_ne (hs.issued ▸ h k (Option.isSome_of_eq_some hs.present))
    (hs.issued ▸ List.Subset.refl _) hs.get_of_ne

/-- Nothing changes for a retired key. -/
theorem Retired.alike (h : Retired s j) (hs : Alike s s') : Retired s' j :=
  ⟨hs.issued.subset h.1, (hs.get j).trans h.2⟩

/-- A retired key is not given to a new value, when no key is given out twice. -/
theorem Retired.inserted (h : Retired s j) (hs : Inserted s k a s') (hnodup : (issued s').Nodup) :
    Retired s' j := by
  rw [hs.issued, List.nodup_append] at hnodup
  have hne : j ≠ k := hnodup.2.2 j h.1 k (List.mem_singleton_self k)
  refine ⟨?_, (hs.get_of_ne j hne).trans h.2⟩
  rw [hs.issued]
  exact List.mem_append_left _ h.1

/-- There is no assignment at a retired key. -/
theorem Retired.assigned (h : Retired s j) (hs : Assigned s k a s') : Retired s' j := by
  have hne : j ≠ k := by
    rintro rfl
    have hpresent := hs.present
    rw [h.2] at hpresent
    cases hpresent
  exact ⟨hs.issued ▸ h.1, (hs.get_of_ne j hne).trans h.2⟩

/-- A retired key stays so when another value is removed. -/
theorem Retired.removed (h : Retired s j) (hs : Removed s k a s') : Retired s' j := by
  refine ⟨hs.issued ▸ h.1, ?_⟩
  by_cases heq : j = k
  · rw [heq, hs.get_self]
  · exact (hs.get_of_ne j heq).trans h.2

/-- A key is retired by the removal of its value. -/
theorem Removed.retired (hs : Removed s k a s') (h : Recorded s) : Retired s' k :=
  ⟨hs.issued ▸ h k (Option.isSome_of_eq_some hs.present), hs.get_self⟩

end SlotMap

/-! ## An instance -/

/-- The key of a slot and of a use of it. -/
structure SlotVecKey where
  idx : UInt32
  version : UInt32
  /-- The versions of slots in use are odd. -/
  odd : version ||| 1 = version
  deriving DecidableEq

namespace SlotVecKey

/-- The version is in the upper half of the number. -/
def asFfi (k : SlotVecKey) : UInt64 := ⟨k.version.toBitVec ++ k.idx.toBitVec⟩

/-- The two halves of a number, the upper one made odd. -/
def fromFfi (n : UInt64) : SlotVecKey where
  idx := ⟨n.toBitVec.setWidth 32⟩
  version := ⟨n.toBitVec.extractLsb' 32 32⟩ ||| 1
  odd := by rw [UInt32.or_assoc, UInt32.or_self]

instance : SlotKey SlotVecKey where
  asFfi := asFfi
  fromFfi := fromFfi
  fromFfi_asFfi k := by
    obtain ⟨idx, version, odd⟩ := k
    unfold fromFfi asFfi
    simp only [BitVec.setWidth_append_eq_right, BitVec.extractLsb'_append_eq_left, odd]

end SlotVecKey

/-- A slot, with the version of its last use. -/
structure Slot (α : Type) where
  version : UInt32
  value : Option α

/-- The value in a slot, for those who have its version. -/
def Slot.read {α : Type} (slot : Slot α) (version : UInt32) : Option α :=
  if slot.version = version then slot.value else none

/-- A vector of slots, the first of which is never used, and a stack of those that are free. -/
structure SlotVec (α : Type) where
  slots : List (Slot α)
  free : List ℕ
  /-- The keys that were given out. -/
  issued : List SlotVecKey
  free_nodup : free.Nodup
  free_vacant : ∀ i ∈ free, ∃ version, slots[i]? = some ⟨version, none⟩
  /-- Every slot but the first is in use or free. -/
  length_eq : slots.length = slots.countP (·.value.isSome) + free.length + 1
  length_lt : slots.length < 2 ^ 32

namespace SlotVec

variable {α : Type} {l : List (Slot α)} {i : ℕ} {slot : Slot α}

/-- Slots with another one at an index, which may be that behind the last. -/
def write (l : List (Slot α)) (i : ℕ) (slot : Slot α) : List (Slot α) :=
  if i < l.length then l.set i slot else l ++ [slot]

/-- The slot that was written, and the others. -/
theorem getElem?_write (slot : Slot α) (h : i ≤ l.length) (j : ℕ) :
    (write l i slot)[j]? = if j = i then some slot else l[j]? := by
  unfold write
  split
  · next hlt =>
    rw [List.getElem?_set]
    split
    · next heq => simp [← heq]
    · next hne => rw [if_neg (Ne.symm hne)]
  · next hge =>
    obtain rfl : i = l.length := by omega
    rw [List.getElem?_append]
    split
    · next hlt => rw [if_neg (by omega)]
    · next hle =>
      rw [List.getElem?_singleton]
      by_cases heq : j = l.length
      · simp [heq]
      · rw [if_neg (by omega), if_neg heq, List.getElem?_eq_none (by omega)]

/-- The values behind a write to a slot that is there. -/
theorem countP_set_slot {old : Slot α} (hold : l[i]? = some old) (slot : Slot α) :
    (l.set i slot).countP (·.value.isSome) + (if old.value.isSome then 1 else 0) =
      l.countP (·.value.isSome) + if slot.value.isSome then 1 else 0 := by
  obtain ⟨hi, rfl⟩ := List.getElem?_eq_some_iff.1 hold
  rw [List.countP_set hi]
  have hpos : l[i].value.isSome → 0 < l.countP (·.value.isSome) := by
    intro h
    exact List.countP_pos_iff.2 ⟨l[i], List.getElem_mem hi, h⟩
  split
  · next h => have := hpos h; omega
  · omega

/-- The value at a key: that of the slot, when it has the version of the key. -/
def get (s : SlotVec α) (k : SlotVecKey) : Option α :=
  s.slots[k.idx.toNat]?.bind (·.read k.version)

/-- The number of values. -/
def len (s : SlotVec α) : ℕ := s.slots.countP (·.value.isSome)

/-- The slot for the next value: the one that was freed last, or a new one. -/
def vacant (s : SlotVec α) : ℕ := s.free.headD s.slots.length

/-- The key for the next value: the version of the slot, made odd. -/
def vacantKey (s : SlotVec α) : SlotVecKey where
  idx := .ofNat s.vacant
  version := (s.slots[s.vacant]?.elim 0 Slot.version) ||| 1
  odd := by rw [UInt32.or_assoc, UInt32.or_self]

/-- The slot for the next value is the first free one, or it is not there yet. -/
theorem vacant_cases (s : SlotVec α) :
    (∃ rest version, s.free = s.vacant :: rest ∧ s.slots[s.vacant]? = some ⟨version, none⟩) ∨
      s.free = [] ∧ s.vacant = s.slots.length := by
  cases hfree : s.free with
  | nil => exact Or.inr ⟨rfl, by rw [vacant, hfree]; rfl⟩
  | cons i rest =>
    have hvacant : s.vacant = i := by rw [vacant, hfree]; rfl
    obtain ⟨version, hslot⟩ := s.free_vacant i (by rw [hfree]; exact List.mem_cons_self)
    rw [hvacant]
    exact Or.inl ⟨rest, version, rfl, hslot⟩

/-- The slot for the next value is at most one behind the last. -/
theorem vacant_le (s : SlotVec α) : s.vacant ≤ s.slots.length := by
  rcases s.vacant_cases with ⟨rest, version, -, hslot⟩ | ⟨-, hvacant⟩
  · exact (List.getElem?_eq_some_iff.1 hslot).1.le
  · exact hvacant.le

/-- The index of the key is that of the slot. -/
theorem vacantKey_idx (s : SlotVec α) : s.vacantKey.idx.toNat = s.vacant :=
  UInt32.toNat_ofNat_of_lt' (lt_of_le_of_lt s.vacant_le s.length_lt)

/-- There is no value at an index where the next one goes. -/
theorem get_of_idx_vacant (s : SlotVec α) {k : SlotVecKey} (h : k.idx.toNat = s.vacant) :
    s.get k = none := by
  unfold get
  rw [h]
  rcases s.vacant_cases with ⟨rest, version, -, hslot⟩ | ⟨-, hvacant⟩
  · simp [hslot, Slot.read]
  · simp [hvacant]

/-- The slots with one more value are in use or free. -/
theorem length_write_vacant (s : SlotVec α) (version : UInt32) (a : α) :
    (write s.slots s.vacant ⟨version, some a⟩).countP (·.value.isSome) = s.len + 1 ∧
      (write s.slots s.vacant ⟨version, some a⟩).length = s.len + 1 + s.free.tail.length + 1 := by
  have hlength := s.length_eq
  unfold write len
  rcases s.vacant_cases with ⟨rest, old, hfree, hslot⟩ | ⟨hfree, hvacant⟩
  · have hcount := countP_set_slot hslot ⟨version, some a⟩
    rw [hfree] at hlength ⊢
    rw [if_pos (List.getElem?_eq_some_iff.1 hslot).1]
    simp only [Option.isSome_none, Option.isSome_some, List.length_cons, List.length_set,
      List.tail_cons] at hcount hlength ⊢
    simp only [Bool.false_eq_true, if_false, if_true] at hcount
    omega
  · rw [hfree] at hlength ⊢
    rw [hvacant, if_neg (lt_irrefl _)]
    simp only [List.countP_append, List.countP_singleton, Option.isSome_some, if_true,
      List.length_append, List.length_nil, List.length_singleton, List.tail_nil] at hlength ⊢
    exact ⟨trivial, by omega⟩

/-- The slots with a value in the next one, and its key. -/
def insert (s : SlotVec α) (a : α) : Option (SlotVecKey × SlotVec α) :=
  if h : s.len = 2 ^ 32 - 2 then none
  else some (s.vacantKey,
    { slots := write s.slots s.vacant ⟨s.vacantKey.version, some a⟩
      free := s.free.tail
      issued := s.issued ++ [s.vacantKey]
      free_nodup := s.free_nodup.tail
      free_vacant := by
        intro i hi
        obtain ⟨version, hslot⟩ := s.free_vacant i (List.mem_of_mem_tail hi)
        refine ⟨version, ?_⟩
        -- The stack has each free slot once, and so the slot that is used is no longer on it.
        have hne : i ≠ s.vacant := by
          rintro rfl
          rcases s.vacant_cases with ⟨rest, old, hfree, -⟩ | ⟨hfree, -⟩
          · have hnodup := s.free_nodup
            rw [hfree] at hnodup hi
            exact (List.nodup_cons.1 hnodup).1 hi
          · rw [hfree] at hi
            cases hi
        rw [getElem?_write _ s.vacant_le, if_neg hne, hslot]
      length_eq := by
        obtain ⟨hcount, hlength⟩ := s.length_write_vacant s.vacantKey.version a
        omega
      length_lt := by
        obtain ⟨-, hlength⟩ := s.length_write_vacant s.vacantKey.version a
        have hold := s.length_eq
        have hlt := s.length_lt
        unfold len at h hlength
        -- There is one more slot only when all of them are in use.
        rcases s.vacant_cases with ⟨rest, old, hfree, -⟩ | ⟨hfree, -⟩
        · rw [hfree] at hold hlength
          simp only [List.length_cons, List.tail_cons] at hold hlength
          omega
        · rw [hfree] at hold hlength
          simp only [List.length_nil, List.tail_nil] at hold hlength
          omega })

/-- A value is in the slot of its key. -/
theorem slot_of_get {s : SlotVec α} {k : SlotVecKey} {a : α} (h : s.get k = some a) :
    s.slots[k.idx.toNat]? = some ⟨k.version, some a⟩ := by
  obtain ⟨⟨version, value⟩, hslot, hread⟩ := Option.bind_eq_some_iff.1 h
  unfold Slot.read at hread
  split at hread
  · next heq =>
    simp only at heq hread
    rw [hslot, heq, hread]
  · cases hread

/-- The slots with another value in that of a key with a value. -/
def set (s : SlotVec α) (k : SlotVecKey) (a : α) : SlotVec α :=
  match h : s.get k with
  | none => s
  | some old =>
    { slots := s.slots.set k.idx.toNat ⟨k.version, some a⟩
      free := s.free
      issued := s.issued
      free_nodup := s.free_nodup
      free_vacant := by
        intro i hi
        obtain ⟨version, hslot⟩ := s.free_vacant i hi
        refine ⟨version, ?_⟩
        have hne : k.idx.toNat ≠ i := by
          rintro rfl
          rw [slot_of_get h] at hslot
          cases hslot
        rw [List.getElem?_set_ne hne, hslot]
      length_eq := by
        have hcount := countP_set_slot (slot_of_get h) ⟨k.version, some a⟩
        have hlength := s.length_eq
        rw [List.length_set]
        simp only [Option.isSome_some, if_true] at hcount
        omega
      length_lt := by
        rw [List.length_set]
        exact s.length_lt }

/-- The value at a key, and the slots without it: its slot gets the next version. -/
def remove (s : SlotVec α) (k : SlotVecKey) : Option α × SlotVec α :=
  match h : s.get k with
  | none => (none, s)
  | some a => (some a,
    { slots := s.slots.set k.idx.toNat ⟨k.version + 1, none⟩
      free := k.idx.toNat :: s.free
      issued := s.issued
      free_nodup := by
        refine List.nodup_cons.2 ⟨fun hi => ?_, s.free_nodup⟩
        obtain ⟨version, hslot⟩ := s.free_vacant _ hi
        rw [slot_of_get h] at hslot
        cases hslot
      free_vacant := by
        intro i hi
        by_cases heq : k.idx.toNat = i
        · obtain ⟨hlt, -⟩ := List.getElem?_eq_some_iff.1 (slot_of_get h)
          rw [← heq, List.getElem?_set_self hlt]
          exact ⟨_, rfl⟩
        · obtain ⟨version, hslot⟩ := s.free_vacant i (List.mem_of_ne_of_mem (Ne.symm heq) hi)
          exact ⟨version, by rw [List.getElem?_set_ne heq, hslot]⟩
      length_eq := by
        have hcount := countP_set_slot (slot_of_get h) ⟨k.version + 1, none⟩
        have hlength := s.length_eq
        rw [List.length_set, List.length_cons]
        simp only [Option.isSome_some, Option.isSome_none, if_true, Bool.false_eq_true,
          if_false] at hcount
        omega
      length_lt := by
        rw [List.length_set]
        exact s.length_lt })

variable {s s' : SlotVec α} {k j : SlotVecKey} {a old : α}

/-- A slot has a value for one key at most. -/
theorem get_of_slot (hslot : s.slots[k.idx.toNat]? = some slot)
    (h : slot.version = k.version ∨ slot.value = none) (hidx : j.idx = k.idx) (hne : j ≠ k) :
    s.get j = none := by
  -- Two keys of one slot differ in their versions.
  have hversion : k.version ≠ j.version := by
    intro heq
    obtain ⟨idx, version, odd⟩ := j
    obtain rfl : idx = k.idx := hidx
    obtain rfl : k.version = version := heq
    exact hne rfl
  unfold get Slot.read
  rw [hidx, hslot, Option.bind_some]
  rcases h with h | h
  · rw [if_neg (h ▸ hversion)]
  · rw [h, ite_self]

/-- A change of one slot, which neither before nor after it has a value for another key, leaves the
other keys. -/
theorem get_of_ne (hslots : ∀ i, i ≠ k.idx.toNat → s'.slots[i]? = s.slots[i]?)
    (hold : j.idx = k.idx → s.get j = none) (hnew : j.idx = k.idx → s'.get j = none) :
    s'.get j = s.get j := by
  by_cases hidx : j.idx = k.idx
  · rw [hold hidx, hnew hidx]
  · have hi : j.idx.toNat ≠ k.idx.toNat := fun heq => hidx (UInt32.toNat_inj.1 heq)
    unfold get
    rw [hslots _ hi]

/-- What was inserted, and how. -/
theorem insert_eq_some (h : s.insert a = some (k, s')) :
    k = s.vacantKey ∧ s'.slots = write s.slots s.vacant ⟨k.version, some a⟩ ∧
      s'.issued = s.issued ++ [k] := by
  unfold insert at h
  split at h
  · cases h
  · cases h
    exact ⟨rfl, rfl, rfl⟩

/-- Behind an insertion the slot of the key has the new value. -/
theorem slot_of_insert (h : s.insert a = some (k, s')) :
    s'.slots[k.idx.toNat]? = some ⟨k.version, some a⟩ := by
  obtain ⟨rfl, hslots, -⟩ := insert_eq_some h
  rw [hslots, vacantKey_idx, getElem?_write _ s.vacant_le, if_pos rfl]

/-- What an assignment does at a key with a value. -/
theorem set_eq (a : α) (h : (s.get k).isSome) :
    (s.set k a).slots = s.slots.set k.idx.toNat ⟨k.version, some a⟩ ∧
      (s.set k a).issued = s.issued := by
  unfold set
  split
  · next hnone =>
    rw [hnone] at h
    cases h
  · exact ⟨rfl, rfl⟩

/-- Behind an assignment the slot of the key has the other value. -/
theorem slot_of_set (a : α) (h : (s.get k).isSome) :
    (s.set k a).slots[k.idx.toNat]? = some ⟨k.version, some a⟩ := by
  obtain ⟨old, hold⟩ := Option.isSome_iff_exists.1 h
  obtain ⟨hlt, -⟩ := List.getElem?_eq_some_iff.1 (slot_of_get hold)
  rw [(set_eq a h).1, List.getElem?_set_self hlt]

/-- What a removal does at a key with a value. -/
theorem remove_eq (h : s.get k = some a) :
    (s.remove k).1 = some a ∧
      (s.remove k).2.slots = s.slots.set k.idx.toNat ⟨k.version + 1, none⟩ ∧
      (s.remove k).2.issued = s.issued := by
  unfold remove
  split
  · next hnone =>
    rw [hnone] at h
    cases h
  · next b hb =>
    rw [hb] at h
    exact ⟨h, rfl, rfl⟩

/-- A removal at a key without a value does nothing. -/
theorem remove_of_none (h : s.get k = none) : s.remove k = (none, s) := by
  unfold remove
  split
  · rfl
  · next b hb =>
    rw [hb] at h
    cases h

/-- Behind a removal the slot of the key is free. -/
theorem slot_of_remove (h : s.get k = some a) :
    (s.remove k).2.slots[k.idx.toNat]? = some ⟨k.version + 1, none⟩ := by
  obtain ⟨hlt, -⟩ := List.getElem?_eq_some_iff.1 (slot_of_get h)
  rw [(remove_eq h).2.1, List.getElem?_set_self hlt]

/-- The value of a slot with the version of the key. -/
theorem get_of_slot_self (h : s.slots[k.idx.toNat]? = some ⟨k.version, some a⟩) :
    s.get k = some a := by
  unfold get Slot.read
  rw [h, Option.bind_some, if_pos rfl]

instance : SlotMap (SlotVec α) SlotVecKey α where
  empty :=
    { slots := [⟨0, none⟩]
      free := []
      issued := []
      free_nodup := List.nodup_nil
      free_vacant := by simp
      length_eq := by simp
      length_lt := by simp }
  get := get
  insert := insert
  set := set
  remove := remove
  len := len
  issued := issued
  get_empty k := by
    cases hget : get _ k with
    | none => rfl
    | some a =>
      -- The one slot there is has no value.
      have hslot := slot_of_get hget
      rw [List.getElem?_singleton] at hslot
      split at hslot
      · exact absurd (congrArg Slot.value (Option.some.inj hslot)) (by simp)
      · cases hslot
  len_empty := rfl
  issued_empty := rfl
  insert_eq_none s a := by
    unfold insert
    split
    · next h => exact iff_of_true rfl h
    · next h => exact iff_of_false (Option.some_ne_none _) h
  get_of_insert h := by
    obtain ⟨rfl, -⟩ := insert_eq_some h
    exact get_of_idx_vacant _ (vacantKey_idx _)
  get_insert_self h := get_of_slot_self (slot_of_insert h)
  get_insert_of_ne {s a k s' j} h hne := by
    obtain ⟨hk, hslots, -⟩ := insert_eq_some h
    have hidx : k.idx.toNat = s.vacant := by rw [hk, vacantKey_idx]
    refine get_of_ne (k := k) (fun i hi => ?_) (fun hj => ?_) fun hj => ?_
    · rw [hslots, getElem?_write _ s.vacant_le, if_neg (hidx ▸ hi)]
    · exact get_of_idx_vacant _ (hj ▸ hidx)
    · exact get_of_slot (slot_of_insert h) (Or.inl rfl) hj hne
  len_insert {s a k s'} h := by
    obtain ⟨-, hslots, -⟩ := insert_eq_some h
    unfold len
    rw [hslots]
    exact (s.length_write_vacant k.version a).1
  issued_insert h := (insert_eq_some h).2.2
  get_set_self a h := get_of_slot_self (slot_of_set a h)
  get_set_of_ne {s k j} a h hne := by
    obtain ⟨old, hold⟩ := Option.isSome_iff_exists.1 h
    refine get_of_ne (k := k) (fun i hi => ?_) (fun hj => ?_) fun hj => ?_
    · rw [(set_eq a h).1, List.getElem?_set_ne (Ne.symm hi)]
    · exact get_of_slot (slot_of_get hold) (Or.inl rfl) hj hne
    · exact get_of_slot (slot_of_set a h) (Or.inl rfl) hj hne
  len_set {s k} a h := by
    obtain ⟨old, hold⟩ := Option.isSome_iff_exists.1 h
    have hcount := countP_set_slot (slot_of_get hold) ⟨k.version, some a⟩
    unfold len
    rw [(set_eq a h).1]
    simp only [Option.isSome_some, if_true] at hcount
    omega
  issued_set a h := (set_eq a h).2
  remove_fst s k := by
    cases hget : s.get k with
    | none => rw [remove_of_none hget]
    | some a => exact (remove_eq hget).1
  get_remove_self s k := by
    cases hget : s.get k with
    | none => rw [remove_of_none hget, hget]
    | some a =>
      unfold get Slot.read
      rw [slot_of_remove hget, Option.bind_some, ite_self]
  get_remove_of_ne {s k j} hne := by
    cases hget : s.get k with
    | none => rw [remove_of_none hget]
    | some a =>
      refine get_of_ne (k := k) (fun i hi => ?_) (fun hj => ?_) fun hj => ?_
      · rw [(remove_eq hget).2.1, List.getElem?_set_ne (Ne.symm hi)]
      · exact get_of_slot (slot_of_get hget) (Or.inl rfl) hj hne
      · exact get_of_slot (slot_of_remove hget) (Or.inr rfl) hj hne
  len_remove {s k} h := by
    obtain ⟨a, hget⟩ := Option.isSome_iff_exists.1 h
    have hcount := countP_set_slot (slot_of_get hget) ⟨k.version + 1, none⟩
    unfold len
    rw [(remove_eq hget).2.1]
    simp only [Option.isSome_some, Option.isSome_none, if_true, Bool.false_eq_true,
      if_false] at hcount
    omega
  len_remove_of_none h := by rw [remove_of_none h]
  issued_remove s k := by
    cases hget : s.get k with
    | none => rw [remove_of_none hget]
    | some a => exact (remove_eq hget).2.2

end SlotVec

end PlayitAgent
