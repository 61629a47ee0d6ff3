import Mathlib.Logic.Function.Basic
import PlayitAgent.Utils.IdSlab

/-!
# Numbers for keys

`KeyToId` of `agent_core/src/utils/key_to_id.rs`: a slab of values, and a table with the number of
the value of each key. The number is known before the value is made, and the table changes behind
the slab. As for the slab, `Effect` is what a call does.
-/

namespace PlayitAgent

/-- `KeyToId`, over a slot map of type `σ`. -/
structure KeyToId (K σ : Type) where
  items : IdSlab σ
  lookup : K → Option UInt64

namespace KeyToId

open Fallible SlotMap
open IdSlab (Entry Unchanged idFromKey keyFromId)

section
variable {K σ κ V : Type} [DecidableEq K] [SlotKey κ] [SlotMap σ κ (Entry V)]

/-! ## The functions of the source -/

/-- `KeyToId::default`. -/
def default : KeyToId K σ := ⟨IdSlab.withCapacity (1024 * 1024), fun _ => none⟩

/-- A computation on the slab. -/
def onItems {α : Type} (w : Fallible (IdSlab σ) Panic α) : Fallible (KeyToId K σ) Panic α :=
  onPart items (fun s items => { s with items }) w

/-- The table with another entry, or with none, for a key. -/
def setLookup (key : K) (id : Option UInt64) (s : KeyToId K σ) : KeyToId K σ :=
  { s with lookup := Function.update s.lookup key id }

/-- `KeyToId::get_or_add`. The entry is dropped when `value_fn` panics. -/
def getOrAdd (key : K) (valueFn : Except Panic V) :
    Fallible (KeyToId K σ) Panic (Option UInt64) := do
  let s ← getThe (KeyToId K σ)
  match s.lookup key with
  | some id => return some id
  | none =>
    match ← onItems IdSlab.vacantEntry with
    | none => return none
    | some entry =>
      let id := entry.id
      let value ← onItems ((result valueFn).onError entry.drop)
      let _ ← onItems (entry.insert value)
      modify (setLookup key (some id))
      return some id

/-- `KeyToId::remove`. -/
def remove (key : K) : Fallible (KeyToId K σ) Panic (Option (UInt64 × V)) := do
  let s ← getThe (KeyToId K σ)
  match s.lookup key with
  | none => return none
  | some id =>
    modify (setLookup key none)
    match ← onItems (call fun items => .ok (items.remove id)) with
    -- `item at id not found`
    | none => throw .unwrap
    | some item => return some (id, item)

/-! ## Calls -/

/-- A call, with what `value_fn` would return. -/
inductive Call (K V : Type) where
  | getOrAdd (key : K) (valueFn : Except Panic V)
  | remove (key : K)

/-- What a call returns. -/
inductive Output (V : Type) where
  | id (result : Option UInt64)
  | removed (result : Option (UInt64 × V))

/-- A call. -/
def perform : Call K V → Fallible (KeyToId K σ) Panic (Output V)
  | .getOrAdd key valueFn => do
    let result ← getOrAdd key valueFn
    return .id result
  | .remove key => do
    let result ← remove key
    return .removed result

/-- One call, which may end with a panic. -/
def step (s : KeyToId K σ) (c : Call K V) :
    Except Empty (KeyToId K σ × Except Panic (Output V)) :=
  .ok (((perform c).exec s).2, ((perform c).exec s).1)

/-! ## What a call does -/

variable {s t : KeyToId K σ} {key : K} {id : UInt64} {k : κ} {value : V} {s' : σ}

/-- The keys of the table and the occupied entries of the slab are in bijection. -/
structure Paired (s : KeyToId K σ) : Prop where
  /-- A number in the table is that of an occupied entry. -/
  resolves : ∀ key id, s.lookup key = some id →
    ∃ k value, id = idFromKey k ∧ SlotMap.get s.items.entries k = some (.occupied value)
  /-- The number of an occupied entry is in the table, for one key. -/
  owned : ∀ k value, SlotMap.get s.items.entries k = some (.occupied value) →
    ∃! key, s.lookup key = some (idFromKey k)

/-- What is kept between the calls. -/
structure Inv (s : KeyToId K σ) : Prop where
  items : IdSlab.Inv s.items
  capacity : s.items.capacity = 1024 * 1024
  paired : Paired s

/-- The state with other entries. -/
def withEntries (s : KeyToId K σ) (s' : σ) : KeyToId K σ :=
  { s with items := { s.items with entries := s' } }

/-- All that a call can do. -/
inductive Effect (s : KeyToId K σ) : Call K V → Except Panic (Output V) → KeyToId K σ → Prop
  /-- The key has a number. -/
  | known {key : K} {valueFn : Except Panic V} {id : UInt64} : s.lookup key = some id →
    Effect s (.getOrAdd key valueFn) (.ok (.id (some id))) s
  /-- There is no room for a value. -/
  | full {key : K} {valueFn : Except Panic V} : s.lookup key = none →
    s.items.capacity ≤ s.items.len → Effect s (.getOrAdd key valueFn) (.ok (.id none)) s
  /-- The value was not made, and the entry was dropped. -/
  | unwound {key : K} {p : Panic} {s' : σ} : s.lookup key = none →
    s.items.len < s.items.capacity → Alike s.items.entries s' →
    Effect s (.getOrAdd key (.error p)) (.error p) (s.withEntries s')
  /-- The key has got a number. -/
  | added {key : K} {value : V} {k : κ} {s' : σ} : s.lookup key = none →
    s.items.len < s.items.capacity → Inserted s.items.entries k (.occupied value) s' →
    Effect s (.getOrAdd key (.ok value)) (.ok (.id (some (idFromKey k))))
      ((s.withEntries s').setLookup key (some (idFromKey k)))
  /-- The key has no number. -/
  | absent {key : K} : s.lookup key = none → Effect s (.remove key) (.ok (.removed none)) s
  /-- The number of the key and its value were removed. -/
  | removed {key : K} {id : UInt64} {value : V} {s' : σ} : s.lookup key = some id →
    Removed s.items.entries (keyFromId id) (.occupied value) s' →
    Effect s (.remove key) (.ok (.removed (some (id, value))))
      ((s.withEntries s').setLookup key none)

omit [DecidableEq K] in
/-- There is a value at a number in the table. -/
theorem Paired.get_of_lookup (h : Paired s) (hlookup : s.lookup key = some id) :
    ∃ value, s.items.get id = some value := by
  obtain ⟨k, value, rfl, hget⟩ := h.resolves key id hlookup
  refine ⟨value, IdSlab.get_eq_some_iff.2 ?_⟩
  rw [IdSlab.keyFromId_idFromKey, hget]

/-- What `get_or_add` does. -/
theorem Inv.wp_getOrAdd (h : Inv s) (key : K) (valueFn : Except Panic V) :
    wp (getOrAdd key valueFn)
      (fun r => Effect s (.getOrAdd key valueFn) (.ok (.id r)))
      (fun p => Effect s (.getOrAdd key valueFn) (.error p)) s := by
  rw [getOrAdd, wp_bind, wp_getThe]
  rcases hlookup : s.lookup key with _ | id
  · simp only
    rw [wp_bind, onItems, wp_onPart]
    refine IdSlab.wp_vacantEntry (fun hfull => ?_) (fun hroom hlen => ?_) fun k s' hroom hs => ?_
    · exact wp_pure.2 (.full hlookup hfull)
    · -- The slab has far fewer entries than the slot map has keys.
      rw [h.capacity] at hroom
      omega
    · simp only
      rw [wp_bind, onItems, wp_onPart, wp_onError, wp_result]
      cases valueFn with
      | error p =>
        obtain ⟨t, halike, hdrop⟩ := IdSlab.alike_drop hs
        simp only [hdrop]
        exact .unwound hlookup hroom halike
      | ok value =>
        simp only
        rw [wp_bind, onItems, wp_onPart]
        refine IdSlab.wp_entry_insert hs fun t ht => ?_
        rw [wp_bind, wp_modify, wp_pure]
        exact .added hlookup hroom ht
  · exact wp_pure.2 (.known hlookup)

/-- What `remove` does. -/
theorem Inv.wp_remove (h : Inv s) (key : K) :
    wp (remove key)
      (fun r => Effect s (.remove key) (.ok (.removed r)))
      (fun p => Effect s (.remove key) (.error p)) s := by
  rw [remove, wp_bind, wp_getThe]
  rcases hlookup : s.lookup key with _ | id
  · exact wp_pure.2 (.absent hlookup)
  · obtain ⟨value, hget⟩ := h.paired.get_of_lookup hlookup
    obtain ⟨s', heq, ⟨hnone, -⟩ | ⟨value', hget', hs⟩⟩ := h.items.remove_eq id
    · rw [hget] at hnone
      cases hnone
    · simp only
      rw [wp_bind, wp_modify, wp_bind, onItems, wp_onPart, wp_call]
      simp only [setLookup, heq, hget']
      exact wp_pure.2 (.removed hlookup hs)

/-- A step is a call with its effect. -/
theorem Inv.effect_step {c : Call K V} {outcome : Except Panic (Output V)} (h : Inv s)
    (hstep : step s c = .ok (t, outcome)) : Effect s c outcome t := by
  cases hstep
  rw [← wp_outcome_iff (P := Effect s c)]
  cases c with
  | getOrAdd key valueFn =>
    rw [perform, wp_bind]
    exact wp_mono (h.wp_getOrAdd key valueFn) (fun _ _ he => wp_pure.2 he) fun _ _ he => he
  | remove key =>
    rw [perform, wp_bind]
    exact wp_mono (h.wp_remove key) (fun _ _ he => wp_pure.2 he) fun _ _ he => he

/-- The slab changes in one of its ways. -/
theorem Effect.change {c : Call K V} {outcome : Except Panic (Output V)}
    (h : Effect s c outcome t) : IdSlab.Change s.items t.items := by
  cases h with
  | known | full | absent => exact .refl s.items
  | unwound _ _ hs => exact .alike hs
  | added _ hroom hs => exact .inserted hroom hs
  | removed _ hs => exact .removed hs

/-! ## The bijection -/

/-- The table with another entry for a key. -/
theorem lookup_setLookup (s : KeyToId K σ) (key : K) (id : Option UInt64) (key' : K) :
    (s.setLookup key id).lookup key' = if key' = key then id else s.lookup key' :=
  Function.update_apply _ _ _ _

omit [DecidableEq K] in
/-- Nothing that can be seen is different. -/
theorem Paired.alike (h : Paired s) (hs : Alike s.items.entries s') :
    Paired (s.withEntries s') := by
  constructor
  · intro key id hlookup
    obtain ⟨k, value, hid, hget⟩ := h.resolves key id hlookup
    exact ⟨k, value, hid, (hs.get k).trans hget⟩
  · intro k value hget
    exact h.owned k value ((hs.get k).symm.trans hget)

/-- The entries away from a change of one entry and of one key keep the keys that they have. -/
theorem Paired.owned_of_ne {id' : Option UInt64} {k' : κ} {value' : V} (h : Paired s)
    (hget : SlotMap.get s.items.entries k' = some (.occupied value'))
    (hold : s.lookup key ≠ some (idFromKey k')) (hnew : id' ≠ some (idFromKey k')) :
    ∃! key', (s.setLookup key id').lookup key' = some (idFromKey k') := by
  obtain ⟨key₀, hlookup₀, hunique⟩ := h.owned k' value' hget
  have hne : key₀ ≠ key := by
    rintro rfl
    exact hold hlookup₀
  refine ⟨key₀, ?_, fun key' hlookup => ?_⟩
  · simp only [lookup_setLookup, if_neg hne]
    exact hlookup₀
  · simp only [lookup_setLookup] at hlookup
    split at hlookup
    · exact absurd hlookup hnew
    · exact hunique key' hlookup

/-- A new entry is paired with a new key. -/
theorem Paired.inserted (h : Paired s) (hnone : s.lookup key = none)
    (hs : Inserted s.items.entries k (.occupied value) s') :
    Paired ((s.withEntries s').setLookup key (some (idFromKey k))) := by
  -- The number of the new entry was in the table for no key.
  have hnew : ∀ key', s.lookup key' ≠ some (idFromKey k) := by
    intro key' hlookup
    obtain ⟨k', value', hid, hget⟩ := h.resolves key' _ hlookup
    rw [← IdSlab.idFromKey_injective hid, hs.absent] at hget
    cases hget
  constructor
  · intro key' id hlookup
    rw [lookup_setLookup] at hlookup
    split at hlookup
    · obtain rfl := Option.some.inj hlookup
      exact ⟨k, value, rfl, hs.get_self⟩
    · obtain ⟨k', value', rfl, hget⟩ := h.resolves key' id hlookup
      have hne : k' ≠ k := by
        rintro rfl
        exact hnew key' hlookup
      exact ⟨k', value', rfl, (hs.get_of_ne k' hne).trans hget⟩
  · intro k' value' hget
    by_cases hk : k' = k
    · -- The new entry has the new key, and by the above no other.
      subst hk
      refine ⟨key, ?_, fun key' hlookup => ?_⟩
      · simp only [lookup_setLookup, if_true]
      · by_contra hne
        simp only [lookup_setLookup, if_neg hne] at hlookup
        exact hnew key' hlookup
    · refine h.owned_of_ne ((hs.get_of_ne k' hk).symm.trans hget) ?_ ?_
      · rw [hnone]
        simp
      · intro hid
        exact hk (IdSlab.idFromKey_injective (Option.some.inj hid)).symm

/-- An entry is removed with its key. -/
theorem Paired.removed (h : Paired s) (hlookup : s.lookup key = some id)
    (hs : Removed s.items.entries (keyFromId id) (.occupied value) s') :
    Paired ((s.withEntries s').setLookup key none) := by
  obtain ⟨k, _, rfl, -⟩ := h.resolves key id hlookup
  rw [IdSlab.keyFromId_idFromKey] at hs
  constructor
  · intro key' id' hlookup'
    rw [lookup_setLookup] at hlookup'
    split at hlookup'
    · cases hlookup'
    · next hkey =>
      obtain ⟨k', value', rfl, hget⟩ := h.resolves key' id' hlookup'
      -- Another key has another entry, for the entry that is removed had this key only.
      have hne : k' ≠ k := by
        rintro rfl
        exact hkey ((h.owned k' value hs.present).unique hlookup' hlookup)
      exact ⟨k', value', rfl, (hs.get_of_ne k' hne).trans hget⟩
  · intro k' value' hget
    have hk : k' ≠ k := by
      rintro rfl
      cases hs.get_self.symm.trans hget
    refine h.owned_of_ne ((hs.get_of_ne k' hk).symm.trans hget) ?_ ?_
    · intro hid
      exact hk (IdSlab.idFromKey_injective (Option.some.inj (hid.symm.trans hlookup)))
    · simp

/-! ## What holds after every sequence of calls -/

omit [DecidableEq K] in
/-- The first state. -/
theorem inv_default : Inv (default : KeyToId K σ) := by
  refine ⟨IdSlab.inv_withCapacity _, rfl, ?_, ?_⟩
  · intro key id hlookup
    cases hlookup
  · intro k value hget
    cases (get_empty k).symm.trans hget

/-- Every call keeps the invariant. -/
theorem Effect.inv {c : Call K V} {outcome : Except Panic (Output V)}
    (h : Effect s c outcome t) (hinv : Inv s) : Inv t := by
  have hchange := h.change
  refine ⟨hchange.inv hinv.items, hchange.capacity.trans hinv.capacity, ?_⟩
  cases h with
  | known | full | absent => exact hinv.paired
  | unwound _ _ hs => exact hinv.paired.alike hs
  | added hnone _ hs => exact hinv.paired.inserted hnone hs
  | removed hlookup hs => exact hinv.paired.removed hlookup hs

/-- A call that found no room, or that ended with a panic, leaves the table and what can be seen of
the slab. -/
theorem Effect.unchanged {c : Call K V} {outcome : Except Panic (Output V)}
    (h : Effect s c outcome t) (habandoned : outcome = .ok (.id none) ∨ ∃ p, outcome = .error p) :
    t.lookup = s.lookup ∧ Unchanged s.items t.items := by
  cases h with
  | known | full | absent => exact ⟨rfl, fun _ => rfl, rfl⟩
  | unwound _ _ hs => exact ⟨rfl, IdSlab.unchanged_of_alike hs⟩
  | added | removed => simp at habandoned

/-- Without room `get_or_add` only looks the key up. -/
theorem Inv.step_getOrAdd (h : Inv s) (hfull : s.items.capacity ≤ s.items.len) (key : K)
    (valueFn : Except Panic V) :
    step s (.getOrAdd key valueFn) = .ok (s, .ok (.id (s.lookup key))) := by
  rcases hstep : step s (.getOrAdd key valueFn) with _ | ⟨t, outcome⟩
  · cases hstep
  · cases h.effect_step hstep with
    | known hlookup => rw [hlookup]
    | full hlookup => rw [hlookup]
    | unwound _ hroom => omega
    | added _ hroom => omega

/-- What is promised after a sequence of calls. -/
structure Guarantees (trace : List (Call K V × Except Panic (Output V))) (s : KeyToId K σ) :
    Prop where
  /-- There are no more entries than the capacity. -/
  len_le : s.items.len ≤ 1024 * 1024
  /-- No entry is reserved. -/
  not_reserved : ∀ k, SlotMap.get s.items.entries k ≠ some .reserved
  /-- The keys of the table and the occupied entries are in bijection. -/
  paired : Paired s
  /-- Without room `get_or_add` returns the number in the table, if any, and changes nothing. -/
  full : s.items.available = 0 → ∀ key valueFn,
    step s (.getOrAdd key valueFn) = .ok (s, .ok (.id (s.lookup key)))
  /-- A call that found no room, or whose vacant entry was dropped by a panic of `value_fn`, leaves
  the table, the values and the room. -/
  abandoned : ∀ c t outcome, step s c = .ok (t, outcome) →
    (outcome = .ok (.id none) ∨ ∃ p, outcome = .error p) →
    t.lookup = s.lookup ∧ Unchanged s.items t.items
  /-- The only panic is that of `value_fn`. -/
  panic : ∀ c t p, step s c = .ok (t, .error p) → ∃ key, c = .getOrAdd key (.error p)
  /-- A number that was removed leads to no value and is that of no key, if no key of the slot map
  was given out twice. -/
  removed : (issued s.items.entries).Nodup → ∀ key id value,
    (.remove key, .ok (.removed (some (id, value)))) ∈ trace →
    s.items.get id = none ∧ ∀ key', s.lookup key' ≠ some id

/-- What is kept along a sequence of calls: the invariant, and that the keys of the numbers that
were removed are retired. -/
def Kept (trace : List (Call K V × Except Panic (Output V))) (s : KeyToId K σ) : Prop :=
  Inv s ∧
    ((issued s.items.entries).Nodup → ∀ key id value,
      (.remove key, .ok (.removed (some (id, value)))) ∈ trace →
      Retired s.items.entries (keyFromId id))

/-- One more call. -/
theorem Kept.snoc {trace : List (Call K V × Except Panic (Output V))} {c : Call K V}
    {outcome : Except Panic (Output V)} (h : Kept trace s)
    (hstep : step s c = .ok (t, outcome)) : Kept (trace ++ [(c, outcome)]) t := by
  obtain ⟨hinv, hretired⟩ := h
  have heffect := hinv.effect_step hstep
  refine ⟨heffect.inv hinv, fun hnodup key id value hmem => ?_⟩
  rw [List.mem_append, List.mem_singleton] at hmem
  rcases hmem with hmem | hlast
  · have hnodup₀ := hnodup.sublist heffect.change.issued.sublist
    exact heffect.change.retired hnodup (hretired hnodup₀ key id value hmem)
  · -- The value was removed just now.
    obtain ⟨rfl, rfl⟩ := Prod.mk.inj hlast
    cases heffect with
    | removed _ hs => exact hs.retired hinv.items.recorded

/-- What is kept along a sequence of calls makes good on the promise. -/
theorem Kept.guarantees {trace : List (Call K V × Except Panic (Output V))} (h : Kept trace s) :
    Guarantees trace s := by
  obtain ⟨hinv, hretired⟩ := h
  refine ⟨hinv.capacity ▸ hinv.items.len_le, hinv.items.not_reserved, hinv.paired, ?_, ?_, ?_, ?_⟩
  · intro havailable key valueFn
    exact hinv.step_getOrAdd (IdSlab.available_eq_zero_iff.1 havailable) key valueFn
  · intro c t outcome hstep habandoned
    exact (hinv.effect_step hstep).unchanged habandoned
  · intro c t p hstep
    cases hinv.effect_step hstep with
    | unwound => exact ⟨_, rfl⟩
  · intro hnodup key id value hmem
    have hnone := hinv.items.get_eq_none_iff.2 (hretired hnodup key id value hmem).2
    refine ⟨hnone, fun key' hlookup => ?_⟩
    obtain ⟨value', hget⟩ := hinv.paired.get_of_lookup hlookup
    cases hnone.symm.trans hget

/-- After every sequence of calls, on a slab of any capacity and on a table with its slab, the
promises hold. -/
theorem guarantees_after_calls :
    (∀ (capacity : ℕ) (trace : List (IdSlab.Call V × Except Panic (IdSlab.Output V)))
        (slab : IdSlab σ), Run IdSlab.step (IdSlab.withCapacity capacity) trace slab →
        slab.Guarantees capacity trace) ∧
      ∀ (trace : List (Call K V × Except Panic (Output V))) (s : KeyToId K σ),
        Run step default trace s → s.Guarantees trace := by
  refine ⟨fun capacity trace slab h => IdSlab.guarantees_of_run h, fun trace s h => ?_⟩
  have hkept : Kept trace s := by
    refine h.invariant (I := Kept) ⟨inv_default, ?_⟩ ?_
    · intro _ key id value hmem
      cases hmem
    · intro trace s t c outcome hkept hstep
      exact hkept.snoc hstep
  exact hkept.guarantees

end

/-- A slab for one value: the second value is refused, the number of the first one is not used again
for the third, and a dropped entry leaves the room. And a key that is removed and added again: it
gets another number, in the same slot. -/
theorem guarantees_of_reuse :
    (∃ slab : IdSlab (SlotVec (Entry ℕ)),
      Run IdSlab.step (IdSlab.withCapacity 1)
        [(.insert 5, .ok (.inserted (.ok 0x100000001))),
          (.insert 6, .ok (.inserted (.error 6))),
          (.remove 0x100000001, .ok (.value (some 5))),
          (.vacantEntry fun _ => .ok none, .ok (.entry (some none))),
          (.insert 7, .ok (.inserted (.ok 0x500000001)))] slab ∧
      slab.get 0x100000001 = none ∧ slab.get 0x500000001 = some 7 ∧ slab.len ≤ 1) ∧
      ∃ s : KeyToId ℕ (SlotVec (Entry ℕ)),
        Run step default
          [(.getOrAdd 7 (.ok 70), .ok (.id (some 0x100000001))),
            (.getOrAdd 8 (.error .explicit), .error .explicit),
            (.remove 7, .ok (.removed (some (0x100000001, 70)))),
            (.getOrAdd 7 (.ok 71), .ok (.id (some 0x300000001)))] s ∧
        s.items.get 0x100000001 = none ∧ s.items.get 0x300000001 = some 71 ∧
        ∀ key, s.lookup key ≠ some 0x100000001 := by
  constructor
  · have h₀ : Run IdSlab.step (IdSlab.withCapacity 1 : IdSlab (SlotVec (Entry ℕ))) [] _ := .nil
    have h₁ := h₀.snoc (a := .insert 5) (o := .ok (.inserted (.ok 0x100000001))) rfl
    have h₂ := h₁.snoc (a := .insert 6) (o := .ok (.inserted (.error 6))) rfl
    have h₃ := h₂.snoc (a := .remove 0x100000001) (o := .ok (.value (some 5))) rfl
    have h₄ := h₃.snoc (a := .vacantEntry fun _ => .ok none) (o := .ok (.entry (some none))) rfl
    have h₅ := h₄.snoc (a := .insert 7) (o := .ok (.inserted (.ok 0x500000001))) rfl
    have hkeeps := (guarantees_after_calls (K := ℕ)).1 _ _ _ h₅
    exact ⟨_, h₅, hkeeps.removed (by decide) 0x100000001 5 (by simp), rfl, hkeeps.len_le⟩
  · have h₀ : Run step (default : KeyToId ℕ (SlotVec (Entry ℕ))) [] _ := .nil
    have h₁ := h₀.snoc (a := .getOrAdd 7 (.ok 70)) (o := .ok (.id (some 0x100000001))) rfl
    have h₂ := h₁.snoc (a := .getOrAdd 8 (.error .explicit)) (o := .error .explicit) rfl
    have h₃ := h₂.snoc (a := .remove 7) (o := .ok (.removed (some (0x100000001, 70)))) rfl
    have h₄ := h₃.snoc (a := .getOrAdd 7 (.ok 71)) (o := .ok (.id (some 0x300000001))) rfl
    have hkeeps := guarantees_after_calls.2 _ _ h₄
    obtain ⟨hget, hlookup⟩ := hkeeps.removed (by decide) 7 0x100000001 70 (by simp)
    exact ⟨_, h₄, hget, rfl, hlookup⟩

end KeyToId

end PlayitAgent
