import PlayitAgent.Lib.Fallible
import PlayitAgent.Lib.Run
import PlayitAgent.Lib.SlotMap
import PlayitAgent.Lib.Stream

/-!
# Slabs of bounded size

`IdSlab` of `agent_core/src/utils/id_slab.rs`: values under numbers that the slab chooses, over a
slot map. A value can be inserted at once, or a slot is reserved first, so that its number is known
before the value: `IdSlabVacantEntry` holds the slab until it is filled or dropped. A computation
that panics leaves the slab as it is then, behind the drop of what it held.

`Effect` is what a call does to the slab, from which the results on sequences of calls follow.
-/

namespace PlayitAgent

/-- `IdSlab`, over a slot map of type `σ`. -/
structure IdSlab (σ : Type) where
  entries : σ
  capacity : ℕ

namespace IdSlab

open Fallible SlotMap

/-- `Entry`. -/
inductive Entry (T : Type) where
  | reserved
  | occupied (value : T)

/-- What there is to see of an entry. -/
def Entry.value {T : Type} : Entry T → Option T
  | .reserved => none
  | .occupied value => some value

/-- `IdSlabVacantEntry`. The slab that it has a reference to is the state. -/
structure IdSlabVacantEntry (κ : Type) where
  slab : Option Unit
  key : κ

section
variable {σ κ T : Type} [SlotKey κ] [SlotMap σ κ (Entry T)]

/-! ## The functions of the source -/

/-- `id_from_key`. -/
def idFromKey (key : κ) : UInt64 := SlotKey.asFfi key

/-- `key_from_id`. -/
def keyFromId (id : UInt64) : κ := SlotKey.fromFfi id

/-- The number of a key leads back to the key. -/
@[simp]
theorem keyFromId_idFromKey (key : κ) : keyFromId (idFromKey key) = key :=
  SlotKey.fromFfi_asFfi key

/-- Different keys have different numbers. -/
theorem idFromKey_injective : Function.Injective (idFromKey : κ → UInt64) :=
  Function.LeftInverse.injective keyFromId_idFromKey

/-- `IdSlab::with_capacity`. -/
def withCapacity (capacity : ℕ) : IdSlab σ := ⟨SlotMap.empty, capacity⟩

/-- `IdSlab::len`. -/
def len (slab : IdSlab σ) : ℕ := SlotMap.len slab.entries

/-- `IdSlab::available`. -/
def available (slab : IdSlab σ) : ℕ := slab.capacity - slab.len

/-- `IdSlab::get`. -/
def get (slab : IdSlab σ) (id : UInt64) : Option T :=
  (SlotMap.get slab.entries (keyFromId id)).bind Entry.value

/-- `IdSlab::get_mut`: the value, and the slab behind an assignment through the reference. -/
def getMut (slab : IdSlab σ) (id : UInt64) (assign : T → T) : Option T × IdSlab σ :=
  match slab.get id with
  | none => (none, slab)
  | some value =>
    (some value,
      { slab with entries := SlotMap.set slab.entries (keyFromId id) (.occupied (assign value)) })

/-- `IdSlab::remove`. -/
def remove (slab : IdSlab σ) (id : UInt64) : Option T × IdSlab σ :=
  ((SlotMap.remove slab.entries (keyFromId id)).1.bind Entry.value,
    { slab with entries := (SlotMap.remove slab.entries (keyFromId id)).2 })

/-- `insert` of the slot map, with its panic. -/
def insertEntry (entry : Entry T) : Fallible (IdSlab σ) Panic κ :=
  call fun slab => match SlotMap.insert slab.entries entry with
    | none => .error .explicit
    | some (key, entries) => .ok (key, { slab with entries })

/-- `IdSlab::insert`. -/
def insert (value : T) : Fallible (IdSlab σ) Panic (Except T UInt64) := do
  let slab ← getThe (IdSlab σ)
  if slab.capacity ≤ slab.len then
    return .error value
  else
    let key ← insertEntry (.occupied value)
    return .ok (idFromKey key)

/-- `IdSlab::vacant_entry`. -/
def vacantEntry : Fallible (IdSlab σ) Panic (Option (IdSlabVacantEntry κ)) := do
  let slab ← getThe (IdSlab σ)
  if slab.capacity ≤ slab.len then
    return none
  else
    let key ← insertEntry .reserved
    return some { slab := some (), key }

namespace IdSlabVacantEntry

/-- `IdSlabVacantEntry::id`. -/
def id (entry : IdSlabVacantEntry κ) : UInt64 := idFromKey entry.key

/-- `IdSlabVacantEntry::insert`. It takes the reference out first, and so nothing is dropped at its
end. -/
def insert (entry : IdSlabVacantEntry κ) (value : T) : Fallible (IdSlab σ) Panic UInt64 :=
  call fun slab => match entry.slab with
    -- `vacant entry must always own its slab reference`
    | none => .error .unwrap
    | some () => match SlotMap.get slab.entries entry.key with
      -- `reserved slot must exist`
      | none => .error .unwrap
      | some _ =>
        let entries := SlotMap.set slab.entries entry.key (.occupied value)
        .ok (idFromKey entry.key, { slab with entries })

/-- `drop` of an `IdSlabVacantEntry`. -/
def drop (entry : IdSlabVacantEntry κ) (slab : IdSlab σ) : IdSlab σ :=
  match entry.slab with
  | none => slab
  | some () => { slab with entries := (SlotMap.remove slab.entries entry.key).2 }

end IdSlabVacantEntry

/-! ## Calls -/

/-- A call to a slab. Behind `vacant_entry` the caller has a value for the number of the entry, or
drops the entry, or panics. -/
inductive Call (T : Type) where
  | insert (value : T)
  | vacantEntry (use : UInt64 → Except Panic (Option T))
  | get (id : UInt64)
  | getMut (id : UInt64) (assign : T → T)
  | remove (id : UInt64)

/-- What a call returns. -/
inductive Output (T : Type) where
  /-- The number of the value, or the value. -/
  | inserted (result : Except T UInt64)
  /-- Whether there was an entry, and its number if it was filled. -/
  | entry (result : Option (Option UInt64))
  /-- The value at a number. -/
  | value (result : Option T)

/-- A call, and the drop of a vacant entry. -/
def perform : Call T → Fallible (IdSlab σ) Panic (Output T)
  | .insert value => do
    let result ← insert value
    return .inserted result
  | .vacantEntry use => do
    match ← vacantEntry with
    | none => return .entry none
    | some entry =>
      match ← (result (use entry.id)).onError entry.drop with
      | some value =>
        let id ← entry.insert value
        return .entry (some (some id))
      | none =>
        modify entry.drop
        return .entry (some none)
  | .get id => call fun slab => .ok (.value (slab.get id), slab)
  | .getMut id assign => call fun slab =>
    let (value, slab) := slab.getMut id assign
    .ok (.value value, slab)
  | .remove id => call fun slab =>
    let (value, slab) := slab.remove id
    .ok (.value value, slab)

/-- One call on a slab, which may end with a panic. -/
def step (slab : IdSlab σ) (c : Call T) :
    Except Empty (IdSlab σ × Except Panic (Output T)) :=
  .ok (((perform c).exec slab).2, ((perform c).exec slab).1)

/-! ## What a call does -/

variable {slab slab' : IdSlab σ} {s' : σ} {k : κ} {value : T} {id : UInt64}

/-- What is kept between the calls: there are no more entries than the capacity, none of them is
reserved, and their keys were given out. -/
structure Inv (slab : IdSlab σ) : Prop where
  len_le : slab.len ≤ slab.capacity
  not_reserved : ∀ k, SlotMap.get slab.entries k ≠ some .reserved
  recorded : Recorded slab.entries

/-- Nothing of a slab that can be seen is different. -/
structure Unchanged (slab slab' : IdSlab σ) : Prop where
  get : ∀ id, slab'.get id = slab.get id
  available : slab'.available = slab.available

/-- All that a call can do to a slab without reserved entries. -/
inductive Effect (slab : IdSlab σ) : Call T → Except Panic (Output T) → IdSlab σ → Prop
  /-- There is no room for a value. -/
  | full {value : T} : slab.capacity ≤ slab.len →
    Effect slab (.insert value) (.ok (.inserted (.error value))) slab
  /-- There is no room for an entry. -/
  | fullEntry {use : UInt64 → Except Panic (Option T)} : slab.capacity ≤ slab.len →
    Effect slab (.vacantEntry use) (.ok (.entry none)) slab
  /-- The slot map has no key left for a value. -/
  | exhausted {value : T} : slab.len < slab.capacity → slab.len = 2 ^ 32 - 2 →
    Effect slab (.insert value) (.error .explicit) slab
  /-- The slot map has no key left for an entry. -/
  | exhaustedEntry {use : UInt64 → Except Panic (Option T)} : slab.len < slab.capacity →
    slab.len = 2 ^ 32 - 2 → Effect slab (.vacantEntry use) (.error .explicit) slab
  /-- A value was inserted. -/
  | inserted {value : T} {k : κ} {s' : σ} : slab.len < slab.capacity →
    Inserted slab.entries k (.occupied value) s' →
    Effect slab (.insert value) (.ok (.inserted (.ok (idFromKey k)))) { slab with entries := s' }
  /-- An entry was filled. -/
  | filled {use : UInt64 → Except Panic (Option T)} {value : T} {k : κ} {s' : σ} :
    slab.len < slab.capacity → use (idFromKey k) = .ok (some value) →
    Inserted slab.entries k (.occupied value) s' →
    Effect slab (.vacantEntry use) (.ok (.entry (some (some (idFromKey k)))))
      { slab with entries := s' }
  /-- An entry was dropped. -/
  | dropped {use : UInt64 → Except Panic (Option T)} {k : κ} {s' : σ} :
    slab.len < slab.capacity → use (idFromKey k) = .ok none → Alike slab.entries s' →
    Effect slab (.vacantEntry use) (.ok (.entry (some none))) { slab with entries := s' }
  /-- An entry was dropped by a panic of its holder. -/
  | unwound {use : UInt64 → Except Panic (Option T)} {p : Panic} {k : κ} {s' : σ} :
    slab.len < slab.capacity → use (idFromKey k) = .error p → Alike slab.entries s' →
    Effect slab (.vacantEntry use) (.error p) { slab with entries := s' }
  /-- A value was looked at. -/
  | got {id : UInt64} : Effect slab (.get id) (.ok (.value (slab.get id))) slab
  /-- There was no value to be changed. -/
  | notAssigned {id : UInt64} {assign : T → T} : slab.get id = none →
    Effect slab (.getMut id assign) (.ok (.value none)) slab
  /-- A value was changed. -/
  | assigned {id : UInt64} {assign : T → T} {value : T} {s' : σ} : slab.get id = some value →
    Assigned slab.entries (keyFromId id) (.occupied (assign value)) s' →
    Effect slab (.getMut id assign) (.ok (.value (some value))) { slab with entries := s' }
  /-- There was no value to be removed. -/
  | notRemoved {id : UInt64} {s' : σ} : slab.get id = none → Alike slab.entries s' →
    Effect slab (.remove id) (.ok (.value none)) { slab with entries := s' }
  /-- A value was removed. -/
  | removed {id : UInt64} {value : T} {s' : σ} :
    Removed slab.entries (keyFromId id) (.occupied value) s' →
    Effect slab (.remove id) (.ok (.value (some value))) { slab with entries := s' }

/-- A value that can be seen is that of an occupied entry. -/
theorem get_eq_some_iff :
    slab.get id = some value ↔
      SlotMap.get slab.entries (keyFromId id) = some (.occupied value) := by
  unfold get
  constructor
  · intro h
    obtain ⟨entry, hentry, hvalue⟩ := Option.bind_eq_some_iff.1 h
    cases entry with
    | reserved => cases hvalue
    | occupied other =>
      obtain rfl := Option.some.inj hvalue
      exact hentry
  · intro h
    rw [h]
    rfl

/-- Where there is no reserved entry, what cannot be seen is not there. -/
theorem Inv.get_eq_none_iff (h : Inv slab) :
    slab.get id = none ↔ SlotMap.get slab.entries (keyFromId id) = none := by
  constructor
  · intro hnone
    rcases hget : SlotMap.get slab.entries (keyFromId id) with _ | entry
    · rfl
    · cases entry with
      | reserved => exact absurd hget (h.not_reserved _)
      | occupied value => exact nomatch hnone.symm.trans (get_eq_some_iff.2 hget)
  · intro hnone
    rw [get, hnone]
    rfl

omit [SlotKey κ] in
/-- What `insert` of the slot map does to a slab. -/
theorem wp_insertEntry {entry : Entry T} {Q : κ → IdSlab σ → Prop} {E : Panic → IdSlab σ → Prop}
    (hexhausted : slab.len = 2 ^ 32 - 2 → E .explicit slab)
    (hinserted : ∀ k s', Inserted slab.entries k entry s' → Q k { slab with entries := s' }) :
    wp (insertEntry entry) Q E slab := by
  rw [insertEntry, wp_call]
  rcases hinsert : SlotMap.insert slab.entries entry with _ | ⟨k, s'⟩
  · exact hexhausted ((insert_eq_none _ _).1 hinsert)
  · exact hinserted k s' (inserted_of_insert hinsert)

/-- What `insert` does. -/
theorem wp_insert {Q : Except T UInt64 → IdSlab σ → Prop} {E : Panic → IdSlab σ → Prop}
    (hfull : slab.capacity ≤ slab.len → Q (.error value) slab)
    (hexhausted : slab.len < slab.capacity → slab.len = 2 ^ 32 - 2 → E .explicit slab)
    (hinserted : ∀ k s', slab.len < slab.capacity →
      Inserted slab.entries k (.occupied value) s' →
      Q (.ok (idFromKey k)) { slab with entries := s' }) :
    wp (insert value) Q E slab := by
  rw [insert, wp_bind, wp_getThe]
  split
  · next h => exact wp_pure.2 (hfull h)
  · next h =>
    rw [not_le] at h
    rw [wp_bind]
    exact wp_insertEntry (hexhausted h) fun k s' hs => wp_pure.2 (hinserted k s' h hs)

omit [SlotKey κ] in
/-- What `vacant_entry` does. -/
theorem wp_vacantEntry {Q : Option (IdSlabVacantEntry κ) → IdSlab σ → Prop}
    {E : Panic → IdSlab σ → Prop} (hfull : slab.capacity ≤ slab.len → Q none slab)
    (hexhausted : slab.len < slab.capacity → slab.len = 2 ^ 32 - 2 → E .explicit slab)
    (hentry : ∀ k s', slab.len < slab.capacity → Inserted slab.entries k .reserved s' →
      Q (some ⟨some (), k⟩) { slab with entries := s' }) :
    wp vacantEntry Q E slab := by
  rw [vacantEntry, wp_bind, wp_getThe]
  split
  · next h => exact wp_pure.2 (hfull h)
  · next h =>
    rw [not_le] at h
    rw [wp_bind]
    exact wp_insertEntry (hexhausted h) fun k s' hs => wp_pure.2 (hentry k s' h hs)

/-- A slot that was just reserved is filled. -/
theorem wp_entry_insert {Q : UInt64 → IdSlab σ → Prop} {E : Panic → IdSlab σ → Prop}
    (h : Inserted slab.entries k .reserved s')
    (hfilled : ∀ t, Inserted slab.entries k (.occupied value) t →
      Q (idFromKey k) { slab with entries := t }) :
    wp (IdSlabVacantEntry.insert ⟨some (), k⟩ value) Q E { slab with entries := s' } := by
  have hpresent : (SlotMap.get s' k).isSome := Option.isSome_of_eq_some h.get_self
  rw [IdSlabVacantEntry.insert, wp_call]
  simp only [h.get_self]
  exact hfilled _ (h.assigned (assigned_set _ hpresent))

omit [SlotKey κ] in
/-- A slot that was just reserved is given up. -/
theorem alike_drop (h : Inserted slab.entries k .reserved s') :
    ∃ t, Alike slab.entries t ∧
      IdSlabVacantEntry.drop ⟨some (), k⟩ { slab with entries := s' } =
        { slab with entries := t } :=
  ⟨_, h.removed (removed_remove h.get_self), rfl⟩

/-- What `remove` does. -/
theorem Inv.remove_eq (h : Inv slab) (id : UInt64) :
    ∃ s', slab.remove id = (slab.get id, { slab with entries := s' }) ∧
      (slab.get id = none ∧ Alike slab.entries s' ∨
        ∃ value, slab.get id = some value ∧
          Removed slab.entries (keyFromId id) (.occupied value) s') := by
  refine ⟨(SlotMap.remove slab.entries (keyFromId id)).2, ?_, ?_⟩
  · rw [remove, remove_fst]
    rfl
  · rcases hget : slab.get id with _ | value
    · exact Or.inl ⟨rfl, alike_remove (h.get_eq_none_iff.1 hget)⟩
    · exact Or.inr ⟨value, rfl, removed_remove (get_eq_some_iff.1 hget)⟩

/-- A call has one of the effects. -/
theorem Inv.effect_perform (h : Inv slab) (c : Call T) :
    Effect slab c ((perform c).exec slab).1 ((perform c).exec slab).2 := by
  rw [← wp_outcome_iff (P := Effect slab c)]
  cases c with
  | insert value =>
    rw [perform, wp_bind]
    -- One goal for each way in which `insert` ends.
    refine wp_insert (fun hfull => ?_) .exhausted fun k s' hroom hs => ?_
    · exact wp_pure.2 (.full hfull)
    · exact wp_pure.2 (.inserted hroom hs)
  | vacantEntry use =>
    rw [perform, wp_bind]
    refine wp_vacantEntry (fun hfull => ?_) .exhaustedEntry fun k s' hroom hs => ?_
    · exact wp_pure.2 (.fullEntry hfull)
    · -- The entry is there, and it depends on its holder what becomes of it.
      obtain ⟨t, halike, hdrop⟩ := alike_drop hs
      simp only
      rw [wp_bind, wp_onError, wp_result]
      rcases huse : use (IdSlabVacantEntry.id ⟨some (), k⟩) with p | _ | value
      · simp only [hdrop]
        exact .unwound hroom huse halike
      · simp only
        rw [wp_bind, wp_modify, wp_pure, hdrop]
        exact .dropped hroom huse halike
      · simp only
        rw [wp_bind]
        exact wp_entry_insert hs fun t ht => wp_pure.2 (.filled hroom huse ht)
  | get id =>
    rw [perform, wp_call]
    exact .got
  | getMut id assign =>
    rw [perform, wp_call]
    unfold getMut
    rcases hget : slab.get id with _ | value
    · exact .notAssigned hget
    · have hpresent := Option.isSome_of_eq_some (get_eq_some_iff.1 hget)
      exact .assigned hget (assigned_set _ hpresent)
  | remove id =>
    rw [perform, wp_call]
    obtain ⟨s', heq, ⟨hnone, hs⟩ | ⟨value, hget, hs⟩⟩ := h.remove_eq id
    · simp only [heq, hnone]
      exact .notRemoved hnone hs
    · simp only [heq, hget]
      exact .removed hs

/-! ## What a call changes -/

/-- The ways in which a slab changes. -/
inductive Change (slab : IdSlab σ) : IdSlab σ → Prop
  /-- At most a key was given out. -/
  | alike {s' : σ} : Alike slab.entries s' → Change slab { slab with entries := s' }
  /-- There was room for one more value. -/
  | inserted {value : T} {k : κ} {s' : σ} : slab.len < slab.capacity →
    Inserted slab.entries k (.occupied value) s' → Change slab { slab with entries := s' }
  /-- A value was replaced. -/
  | assigned {value : T} {k : κ} {s' : σ} : Assigned slab.entries k (.occupied value) s' →
    Change slab { slab with entries := s' }
  /-- An entry was removed. -/
  | removed {entry : Entry T} {k : κ} {s' : σ} : Removed slab.entries k entry s' →
    Change slab { slab with entries := s' }

omit [SlotKey κ] in
/-- Nothing may be changed. -/
theorem Change.refl (slab : IdSlab σ) : Change slab slab := .alike (Alike.refl slab.entries)

/-- Every call changes the slab in one of the ways. -/
theorem Effect.change {c : Call T} {outcome : Except Panic (Output T)}
    (h : Effect slab c outcome slab') : Change slab slab' := by
  cases h with
  | full | fullEntry | exhausted | exhaustedEntry | got | notAssigned => exact Change.refl slab
  | inserted hroom hs => exact .inserted hroom hs
  | filled hroom _ hs => exact .inserted hroom hs
  | dropped _ _ hs => exact .alike hs
  | unwound _ _ hs => exact .alike hs
  | assigned _ hs => exact .assigned hs
  | notRemoved _ hs => exact .alike hs
  | removed hs => exact .removed hs

omit [SlotKey κ] in
/-- An empty slab. -/
theorem inv_withCapacity (capacity : ℕ) : Inv (withCapacity capacity : IdSlab σ) where
  len_le := by simp [len, withCapacity, len_empty]
  not_reserved k := by simp [withCapacity, get_empty]
  recorded := recorded_empty

omit [SlotKey κ] in
/-- No entry is reserved behind a change at one key that does not reserve it. -/
theorem Inv.not_reserved_of_ne (h : Inv slab) (hk : SlotMap.get s' k ≠ some .reserved)
    (hget : ∀ j, j ≠ k → SlotMap.get s' j = SlotMap.get slab.entries j) (j : κ) :
    SlotMap.get s' j ≠ some .reserved := by
  by_cases hj : j = k
  · rw [hj]
    exact hk
  · rw [hget j hj]
    exact h.not_reserved j

omit [SlotKey κ] in
/-- Every change keeps the invariant. -/
theorem Change.inv (h : Change slab slab') (hinv : Inv slab) : Inv slab' := by
  cases h with
  | alike hs =>
    refine ⟨hs.len.trans_le hinv.len_le, fun j => ?_, hinv.recorded.alike hs⟩
    rw [hs.get]
    exact hinv.not_reserved j
  | inserted hroom hs =>
    have hk := hinv.not_reserved_of_ne (by simp [hs.get_self]) hs.get_of_ne
    exact ⟨hs.len.trans_le hroom, hk, hinv.recorded.inserted hs⟩
  | assigned hs =>
    have hk := hinv.not_reserved_of_ne (by simp [hs.get_self]) hs.get_of_ne
    exact ⟨hs.len.trans_le hinv.len_le, hk, hinv.recorded.assigned hs⟩
  | removed hs =>
    have hk := hinv.not_reserved_of_ne (by simp [hs.get_self]) hs.get_of_ne
    exact ⟨(Nat.le_of_succ_le hs.len.le).trans hinv.len_le, hk, hinv.recorded.removed hs⟩

omit [SlotKey κ] in
/-- No change is one of the capacity. -/
theorem Change.capacity (h : Change slab slab') : slab'.capacity = slab.capacity := by
  cases h <;> rfl

omit [SlotKey κ] in
/-- The keys that were given out stay so. -/
theorem Change.issued (h : Change slab slab') : issued slab.entries <+: issued slab'.entries := by
  cases h with
  | alike hs => exact hs.issued
  | inserted _ hs => exact hs.issued ▸ List.prefix_append _ _
  | assigned hs => exact hs.issued ▸ List.prefix_refl _
  | removed hs => exact hs.issued ▸ List.prefix_refl _

omit [SlotKey κ] in
/-- A key whose value was removed stays without one, when no key is given out twice. -/
theorem Change.retired (h : Change slab slab') (hnodup : (SlotMap.issued slab'.entries).Nodup)
    (hk : Retired slab.entries k) : Retired slab'.entries k := by
  cases h with
  | alike hs => exact hk.alike hs
  | inserted _ hs => exact hk.inserted hs hnodup
  | assigned hs => exact hk.assigned hs
  | removed hs => exact hk.removed hs

/-! ## What holds after every sequence of calls -/

/-- Containers that are alike make slabs that look the same. -/
theorem unchanged_of_alike (hs : Alike slab.entries s') :
    Unchanged slab { slab with entries := s' } where
  get id := by simp only [get, hs.get]
  available := by simp only [available, len, hs.len]

/-- A call that found no room, one behind which a vacant entry was dropped, and one that ended with
a panic. -/
def Abandoned : Except Panic (Output T) → Prop
  | .ok (.inserted (.error _)) => True
  | .ok (.entry none) => True
  | .ok (.entry (some none)) => True
  | .error _ => True
  | _ => False

/-- An abandoned call leaves what can be seen of the slab. -/
theorem Effect.unchanged {c : Call T} {outcome : Except Panic (Output T)}
    (h : Effect slab c outcome slab') (habandoned : Abandoned outcome) :
    Unchanged slab slab' := by
  cases h with
  | full | fullEntry | exhausted | exhaustedEntry | got | notAssigned =>
    exact ⟨fun _ => rfl, rfl⟩
  | dropped _ _ hs => exact unchanged_of_alike hs
  | unwound _ _ hs => exact unchanged_of_alike hs
  | notRemoved _ hs => exact unchanged_of_alike hs
  | inserted | filled | assigned | removed => exact habandoned.elim

/-- A step is a call with its effect. -/
theorem Inv.effect_step {c : Call T} {outcome : Except Panic (Output T)} (h : Inv slab)
    (hstep : step slab c = .ok (slab', outcome)) : Effect slab c outcome slab' := by
  have heffect := h.effect_perform c
  cases hstep
  exact heffect

omit [SlotKey κ] in
/-- There is no room when there are as many entries as the capacity. -/
theorem available_eq_zero_iff : slab.available = 0 ↔ slab.capacity ≤ slab.len :=
  Nat.sub_eq_zero_iff_le

/-- A slab without room refuses a value. -/
theorem Inv.step_insert (h : Inv slab) (hfull : slab.capacity ≤ slab.len) (value : T) :
    step slab (.insert value) = .ok (slab, .ok (.inserted (.error value))) := by
  rcases hstep : step slab (.insert value) with _ | ⟨slab', outcome⟩
  · cases hstep
  · cases h.effect_step hstep with
    | full => rfl
    | exhausted hroom => omega
    | inserted hroom => omega

/-- A slab without room has no vacant entry. -/
theorem Inv.step_vacantEntry (h : Inv slab) (hfull : slab.capacity ≤ slab.len)
    (use : UInt64 → Except Panic (Option T)) :
    step slab (.vacantEntry use) = .ok (slab, .ok (.entry none)) := by
  rcases hstep : step slab (.vacantEntry use) with _ | ⟨slab', outcome⟩
  · cases hstep
  · cases h.effect_step hstep with
    | fullEntry => rfl
    | exhaustedEntry hroom => omega
    | filled hroom => omega
    | dropped hroom => omega
    | unwound hroom => omega

/-- What is promised of a slab after a sequence of calls. -/
structure Guarantees (capacity : ℕ) (trace : List (Call T × Except Panic (Output T)))
    (slab : IdSlab σ) : Prop where
  /-- There are no more entries than the capacity. -/
  len_le : slab.len ≤ capacity
  /-- No entry is reserved. -/
  not_reserved : ∀ k, SlotMap.get slab.entries k ≠ some .reserved
  /-- A slab without room refuses a value, and stays as it is. -/
  full : slab.available = 0 → ∀ value,
    step slab (.insert value) = .ok (slab, .ok (.inserted (.error value)))
  /-- A slab without room has no vacant entry, and stays as it is. -/
  full_entry : slab.available = 0 → ∀ use,
    step slab (.vacantEntry use) = .ok (slab, .ok (.entry none))
  /-- A call that was refused, or whose vacant entry was dropped, leaves the values and the room. -/
  abandoned : ∀ c slab' outcome, step slab c = .ok (slab', outcome) → Abandoned outcome →
    Unchanged slab slab'
  /-- A call panics when the holder of a vacant entry does, or when the slot map has no key. -/
  panic : ∀ c slab' p, step slab c = .ok (slab', .error p) →
    (∃ use id, c = .vacantEntry use ∧ use id = .error p) ∨ slab.len = 2 ^ 32 - 2
  /-- A number whose value was removed leads to no value, if no key was given out twice. -/
  removed : (issued slab.entries).Nodup → ∀ id value,
    (.remove id, .ok (.value (some value))) ∈ trace → slab.get id = none

/-- What is kept along a sequence of calls: the invariant and the capacity, and that the keys of the
numbers whose values were removed are retired. -/
def Kept (capacity : ℕ) (trace : List (Call T × Except Panic (Output T))) (slab : IdSlab σ) :
    Prop :=
  Inv slab ∧ slab.capacity = capacity ∧
    ((issued slab.entries).Nodup → ∀ id value,
      (.remove id, .ok (.value (some value))) ∈ trace → Retired slab.entries (keyFromId id))

/-- One more call. -/
theorem Kept.snoc {capacity : ℕ} {trace : List (Call T × Except Panic (Output T))} {c : Call T}
    {outcome : Except Panic (Output T)} (h : Kept capacity trace slab)
    (hstep : step slab c = .ok (slab', outcome)) :
    Kept capacity (trace ++ [(c, outcome)]) slab' := by
  obtain ⟨hinv, hcapacity, hretired⟩ := h
  have heffect := hinv.effect_step hstep
  have hchange := heffect.change
  refine ⟨hchange.inv hinv, hchange.capacity.trans hcapacity, fun hnodup id value hmem => ?_⟩
  rw [List.mem_append, List.mem_singleton] at hmem
  rcases hmem with hmem | hlast
  · -- The value was removed before, when no key had been given out twice either.
    have hnodup₀ := hnodup.sublist hchange.issued.sublist
    exact hchange.retired hnodup (hretired hnodup₀ id value hmem)
  · -- The value was removed just now.
    obtain ⟨rfl, rfl⟩ := Prod.mk.inj hlast
    cases heffect with
    | removed hs => exact hs.retired hinv.recorded

/-- What is kept along a sequence of calls makes good on the promise. -/
theorem Kept.guarantees {capacity : ℕ} {trace : List (Call T × Except Panic (Output T))}
    (h : Kept capacity trace slab) : Guarantees capacity trace slab := by
  obtain ⟨hinv, hcapacity, hretired⟩ := h
  refine ⟨hcapacity ▸ hinv.len_le, hinv.not_reserved, ?_, ?_, ?_, ?_, ?_⟩
  · intro havailable value
    exact hinv.step_insert (available_eq_zero_iff.1 havailable) value
  · intro havailable use
    exact hinv.step_vacantEntry (available_eq_zero_iff.1 havailable) use
  · intro c slab' outcome hstep habandoned
    exact (hinv.effect_step hstep).unchanged habandoned
  · intro c slab' p hstep
    cases hinv.effect_step hstep with
    | exhausted _ hlen => exact Or.inr hlen
    | exhaustedEntry _ hlen => exact Or.inr hlen
    | unwound _ huse _ => exact Or.inl ⟨_, _, rfl, huse⟩
  · intro hnodup id value hmem
    exact hinv.get_eq_none_iff.2 (hretired hnodup id value hmem).2

/-- The promise holds after every sequence of calls. -/
theorem guarantees_of_run {capacity : ℕ} {trace : List (Call T × Except Panic (Output T))}
    (h : Run step (withCapacity capacity) trace slab) : Guarantees capacity trace slab := by
  have hkept : Kept capacity trace slab := by
    refine h.invariant (I := Kept capacity) ⟨inv_withCapacity capacity, rfl, ?_⟩ ?_
    · intro _ id value hmem
      cases hmem
    · intro trace slab slab' c outcome hkept hstep
      exact hkept.snoc hstep
  exact hkept.guarantees

end

end IdSlab

end PlayitAgent
