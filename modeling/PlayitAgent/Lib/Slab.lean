import Mathlib.Data.List.Nodup

/-!
# Slabs

A slab stores values under keys that it chooses: a new value goes to a free key, and a key becomes
free again when its value is removed. `Slab σ α` is what the documentation of such a container
promises, for a container of type `σ`; `SlabVec` is one that keeps the promise, with a vector of
slots of which the first free one is used.
-/

namespace PlayitAgent

/-- A container of values of type `α` under keys of its own choice. -/
class Slab (σ : Type) (α : outParam Type) where
  /-- The container without values. -/
  empty : σ
  /-- The value at a key. -/
  get : σ → ℕ → Option α
  /-- The key that the next value will get. -/
  vacantKey : σ → ℕ
  /-- The container with one more value, at the vacant key. -/
  insert : σ → α → σ
  /-- The container with another value at a key, as an assignment through `get_mut` leaves it. -/
  set : σ → ℕ → α → σ
  /-- The container without the value at a key. -/
  remove : σ → ℕ → σ
  /-- The number of values. -/
  len : σ → ℕ
  /-- The keys that have a value, in the order of iteration. -/
  keys : σ → List ℕ
  /-- How many keys have ever been given out. -/
  slots : σ → ℕ
  /-- The empty container has no value. -/
  get_empty : ∀ k, get empty k = none
  /-- The vacant key is free. -/
  get_vacantKey : ∀ s, get s (vacantKey s) = none
  /-- Insertion sets the vacant key and leaves the others. -/
  get_insert : ∀ s a k, get (insert s a) k = if k = vacantKey s then some a else get s k
  /-- Assignment at a key with a value sets it and leaves the others. -/
  get_set : ∀ s k a j, (get s k).isSome → get (set s k a) j = if j = k then some a else get s j
  /-- Removal of a value frees its key and leaves the others. -/
  get_remove : ∀ s k j, (get s k).isSome → get (remove s k) j = if j = k then none else get s j
  /-- The iteration visits the keys that have a value. -/
  mem_keys : ∀ s k, k ∈ keys s ↔ (get s k).isSome
  /-- The iteration visits each of them once. -/
  nodup_keys : ∀ s, (keys s).Nodup
  /-- The length counts the values. -/
  len_eq : ∀ s, len s = (keys s).length
  /-- No key of the empty container has been given out. -/
  slots_empty : slots empty = 0
  /-- The vacant key was given out before, or it is the next one. -/
  vacantKey_le : ∀ s, vacantKey s ≤ slots s
  /-- A new key is given out only when all the others have a value. -/
  len_of_vacantKey_eq : ∀ s, vacantKey s = slots s → len s = slots s
  /-- Insertion gives out at most one new key. -/
  slots_insert : ∀ s a, slots (insert s a) = max (slots s) (vacantKey s + 1)
  /-- Assignment gives out no key. -/
  slots_set : ∀ s k a, slots (set s k a) = slots s
  /-- Removal takes no key back. -/
  slots_remove : ∀ s k, slots (remove s k) = slots s

namespace Slab

variable {σ α : Type} [Slab σ α]

/-- Two containers with values at the same keys have the same length. -/
theorem len_congr {s t : σ} (h : ∀ k, (get s k).isSome ↔ (get t k).isSome) : len s = len t := by
  have hperm : (keys s).Perm (keys t) := by
    rw [List.perm_ext_iff_of_nodup (nodup_keys s) (nodup_keys t)]
    intro k
    rw [mem_keys, mem_keys, h]
  rw [len_eq, len_eq, hperm.length_eq]

/-- The value that was assigned is there. -/
theorem get_set_self {s : σ} {k : ℕ} {a : α} (h : get s k = some a) (b : α) :
    get (set s k b) k = some b := by
  rw [get_set s k b k (Option.isSome_of_eq_some h), if_pos rfl]

/-- Assignment keeps the length. -/
theorem len_set {s : σ} {k : ℕ} (a : α) (h : (get s k).isSome) : len (set s k a) = len s := by
  apply len_congr
  intro j
  rw [get_set s k a j h]
  split
  · simp_all
  · rfl

/-- Insertion adds one to the length. -/
theorem len_insert (s : σ) (a : α) : len (insert s a) = len s + 1 := by
  have hperm : (keys (insert s a)).Perm (vacantKey s :: keys s) := by
    have hfree : vacantKey s ∉ keys s := by
      rw [mem_keys, get_vacantKey]
      simp
    rw [List.perm_ext_iff_of_nodup (nodup_keys _) (List.nodup_cons.2 ⟨hfree, nodup_keys s⟩)]
    intro k
    rw [mem_keys, get_insert, List.mem_cons, mem_keys]
    by_cases hk : k = vacantKey s
    · simp [hk]
    · simp [hk]
  rw [len_eq, len_eq, hperm.length_eq, List.length_cons]

/-- Removal of a value takes one from the length. -/
theorem len_remove {s : σ} {k : ℕ} (h : (get s k).isSome) : len (remove s k) + 1 = len s := by
  have hperm : (k :: keys (remove s k)).Perm (keys s) := by
    have hfree : k ∉ keys (remove s k) := by
      rw [mem_keys, get_remove s k k h]
      simp
    rw [List.perm_ext_iff_of_nodup (List.nodup_cons.2 ⟨hfree, nodup_keys _⟩) (nodup_keys s)]
    intro j
    rw [List.mem_cons, mem_keys, mem_keys, get_remove s k j h]
    by_cases hj : j = k
    · simp [hj, h]
    · simp [hj]
  rw [len_eq, len_eq, ← hperm.length_eq, List.length_cons]

end Slab

/-! ## An instance -/

/-- A vector of slots. -/
structure SlabVec (α : Type) where
  /-- The slots, each with a value or free. -/
  entries : List (Option α)

namespace SlabVec

variable {α : Type}

/-- The value in a slot. -/
def get (s : SlabVec α) (k : ℕ) : Option α := s.entries.getD k none

/-- The first free slot, or the one behind the last. -/
def vacantKey (s : SlabVec α) : ℕ := s.entries.findIdx Option.isNone

/-- The slots with a value in the first free one. -/
def insert (s : SlabVec α) (a : α) : SlabVec α :=
  ⟨if s.vacantKey < s.entries.length then s.entries.set s.vacantKey (some a)
    else s.entries ++ [some a]⟩

/-- The slots that have a value. -/
def keys (s : SlabVec α) : List ℕ :=
  (List.range s.entries.length).filter fun k => (s.get k).isSome

/-- A slot behind the last is free. -/
theorem get_of_length_le {s : SlabVec α} {k : ℕ} (h : s.entries.length ≤ k) : s.get k = none := by
  simp [get, h]

/-- A slot with another content. -/
theorem getD_set (l : List (Option α)) {k : ℕ} (v : Option α) (j : ℕ) (h : k < l.length) :
    (l.set k v).getD j none = if j = k then v else l.getD j none := by
  by_cases hj : j = k
  · subst hj
    simp [h]
  · simp [hj, List.getElem?_set_ne (Ne.symm hj)]

/-- A slot with a value is not behind the last. -/
theorem lt_length_of_isSome {s : SlabVec α} {k : ℕ} (h : (s.get k).isSome) :
    k < s.entries.length := by
  by_contra hk
  rw [get_of_length_le (by omega)] at h
  simp at h

/-- The key that is given out next is at most one beyond the slots. -/
theorem vacantKey_le (s : SlabVec α) : s.vacantKey ≤ s.entries.length := List.findIdx_le_length

/-- It is free. -/
theorem get_vacantKey (s : SlabVec α) : s.get s.vacantKey = none := by
  by_cases h : s.vacantKey < s.entries.length
  · have hfree := List.findIdx_getElem (w := h)
    rw [Option.isNone_iff_eq_none] at hfree
    rw [get, List.getD_eq_getElem?_getD, List.getElem?_eq_getElem h]
    exact hfree
  · exact get_of_length_le (by omega)

/-- A value that is inserted is at that key, and the others stay. -/
theorem get_insert (s : SlabVec α) (a : α) (k : ℕ) :
    (s.insert a).get k = if k = s.vacantKey then some a else s.get k := by
  unfold get insert
  by_cases h : s.vacantKey < s.entries.length
  · simp only [h, if_true]
    exact getD_set _ _ _ h
  · have hlen : s.vacantKey = s.entries.length := by
      have := vacantKey_le s
      omega
    simp only [hlen, Nat.lt_irrefl, if_false]
    by_cases hk : k = s.entries.length
    · subst hk
      simp
    · rcases Nat.lt_or_gt_of_ne hk with hlt | hgt
      · simp [hk, List.getElem?_append_left hlt]
      · have h₁ : (s.entries ++ [some a]).length ≤ k := by
          rw [List.length_append, List.length_singleton]
          omega
        rw [if_neg hk, List.getD_eq_getElem?_getD, List.getElem?_eq_none h₁,
          List.getD_eq_getElem?_getD, List.getElem?_eq_none (Nat.le_of_lt hgt)]

/-- The keys are those of the occupied slots. -/
theorem mem_keys (s : SlabVec α) (k : ℕ) : k ∈ s.keys ↔ (s.get k).isSome := by
  rw [keys, List.mem_filter, List.mem_range, and_iff_right_of_imp]
  exact fun h => lt_length_of_isSome h

/-- Without a free slot every slot has a key. -/
theorem length_keys_of_vacantKey_eq (s : SlabVec α) (h : s.vacantKey = s.entries.length) :
    s.keys.length = s.entries.length := by
  -- Without a free slot, the filter keeps every slot.
  have hall : ∀ k ∈ List.range s.entries.length, (s.get k).isSome = true := by
    intro k hk
    have hk := List.mem_range.1 hk
    have hlt : k < s.entries.findIdx Option.isNone := by
      unfold vacantKey at h
      omega
    have hsome := List.not_of_lt_findIdx hlt
    simpa [get, List.getD_eq_getElem?_getD, List.getElem?_eq_getElem hk] using hsome
  rw [keys, List.filter_eq_self.2 hall, List.length_range]

instance : Slab (SlabVec α) α where
  empty := ⟨[]⟩
  get := get
  vacantKey := vacantKey
  insert := insert
  set s k a := ⟨s.entries.set k (some a)⟩
  remove s k := ⟨s.entries.set k none⟩
  len s := s.keys.length
  keys := keys
  slots s := s.entries.length
  get_empty k := by simp [get]
  get_vacantKey := get_vacantKey
  get_insert := get_insert
  get_set s k a j h := getD_set _ _ _ (lt_length_of_isSome h)
  get_remove s k j h := getD_set _ _ _ (lt_length_of_isSome h)
  mem_keys := mem_keys
  nodup_keys s := List.nodup_range.filter _
  len_eq _ := rfl
  slots_empty := rfl
  vacantKey_le := vacantKey_le
  len_of_vacantKey_eq := length_keys_of_vacantKey_eq
  slots_insert s a := by
    have hle := vacantKey_le s
    simp only [insert]
    split
    · rw [List.length_set]
      omega
    · rw [List.length_append, List.length_singleton]
      omega
  slots_set s k a := List.length_set
  slots_remove s k := List.length_set

end SlabVec

end PlayitAgent
