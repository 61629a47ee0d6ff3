import Mathlib.Data.Nat.Notation

/-!
# Computations that can fail

A computation changes a state and returns a result or an error, and what it has done before an error
stays done. `wp w Q E s` says that from the state `s` the computation `w` returns with `Q` or fails
with `E`, of what it leaves behind. Since a computation has one outcome, the rules for `pure`,
`bind` and the other combinators are equivalences. Before them stand the rules for a sequence of two
results without a state.
-/

namespace PlayitAgent

/-- A success followed by `f` is `f` of its result. -/
@[simp]
theorem ok_bind {ε α β : Type} (a : α) (f : α → Except ε β) : (Except.ok a >>= f) = f a := rfl

/-- A sequence succeeds when its first part does, and then its second. -/
theorem except_bind_eq_ok {ε α β : Type} {x : Except ε α} {f : α → Except ε β} {b : β} :
    (x >>= f) = .ok b ↔ ∃ a, x = .ok a ∧ f a = .ok b := by
  cases x with
  | error e =>
    refine iff_of_false (fun h => ?_) fun h => ?_
    · cases h
    · obtain ⟨a, ha, -⟩ := h
      cases ha
  | ok a => simp

/-- Computations with a state and errors, which keep the state. -/
abbrev Fallible (σ ε : Type) := ExceptT ε (StateM σ)

namespace Fallible

variable {σ ε α β : Type}

/-- The outcome of a computation, and the state that it leaves. -/
def exec (w : Fallible σ ε α) (s : σ) : Except ε α × σ := w s

/-- The computation with a given outcome. -/
def of (f : σ → Except ε α × σ) : Fallible σ ε α := f

/-- What the computation returns has one property, and what it fails with has another. -/
def wp (w : Fallible σ ε α) (Q : α → σ → Prop) (E : ε → σ → Prop) (s : σ) : Prop :=
  match w.exec s with
  | (.ok a, s') => Q a s'
  | (.error e, s') => E e s'

variable {Q : α → σ → Prop} {E : ε → σ → Prop} {s : σ}

/-- The outcome of a computation that was given by it. -/
@[simp]
theorem exec_of (f : σ → Except ε α × σ) (s : σ) : (of f).exec s = f s := rfl

/-- The outcome of one computation after the other. -/
theorem exec_bind (w : Fallible σ ε α) (f : α → Fallible σ ε β) (s : σ) :
    (w >>= f).exec s = match w.exec s with
      | (.ok a, s') => (f a).exec s'
      | (.error e, s') => (.error e, s') := by
  change (ExceptT.bindCont f (w s).1) (w s).2 = _
  unfold exec
  rcases w s with ⟨r, s'⟩
  cases r with
  | ok a => rfl
  | error e => rfl

/-- Nothing happens. -/
@[simp]
theorem wp_pure {a : α} : wp (pure a : Fallible σ ε α) Q E s ↔ Q a s := Iff.rfl

/-- The computation fails. -/
@[simp]
theorem wp_throw {e : ε} : wp (throw e : Fallible σ ε α) Q E s ↔ E e s := Iff.rfl

/-- The state is looked at. -/
@[simp]
theorem wp_getThe {Q : σ → σ → Prop} : wp (getThe σ : Fallible σ ε σ) Q E s ↔ Q s s := Iff.rfl

/-- The state is changed. -/
@[simp]
theorem wp_modify {f : σ → σ} {Q : PUnit → σ → Prop} :
    wp (modify f : Fallible σ ε PUnit) Q E s ↔ Q ⟨⟩ (f s) := Iff.rfl

/-- The outcome is given. -/
theorem wp_of {f : σ → Except ε α × σ} :
    wp (of f) Q E s ↔ match f s with
      | (.ok a, s') => Q a s'
      | (.error e, s') => E e s' := Iff.rfl

/-- One computation after the other. -/
theorem wp_bind {w : Fallible σ ε α} {f : α → Fallible σ ε β} {Q : β → σ → Prop} :
    wp (w >>= f) Q E s ↔ wp w (fun a s' => wp (f a) Q E s') E s := by
  unfold wp
  rw [exec_bind]
  rcases w.exec s with ⟨r, s'⟩
  cases r with
  | ok a => rfl
  | error e => rfl

/-- What is to be shown of a computation that returns. -/
theorem wp_iff_of_ok {w : Fallible σ ε α} {a : α} {s' : σ} (h : w.exec s = (.ok a, s')) :
    wp w Q E s ↔ Q a s' := by rw [wp, h]

/-- What is to be shown of a computation that fails. -/
theorem wp_iff_of_error {w : Fallible σ ε α} {e : ε} {s' : σ} (h : w.exec s = (.error e, s')) :
    wp w Q E s ↔ E e s' := by rw [wp, h]

/-- A computation that has failed has an error. -/
theorem exists_error_of_wp {w : Fallible σ ε α} (h : wp w Q E s)
    (hfailed : (w.exec s).1.isOk = false) : ∃ e, E e (w.exec s).2 := by
  unfold wp at h
  split at h
  · next a s' hexec =>
    rw [hexec] at hfailed
    cases hfailed
  · next e s' hexec =>
    rw [hexec]
    exact ⟨e, h⟩

/-- What is to be shown of the outcome as a whole. -/
theorem wp_outcome_iff {w : Fallible σ ε α} {P : Except ε α → σ → Prop} :
    wp w (fun a => P (.ok a)) (fun e => P (.error e)) s ↔ P (w.exec s).1 (w.exec s).2 := by
  unfold wp
  rcases w.exec s with ⟨r, s'⟩
  cases r with
  | ok a => rfl
  | error e => rfl

/-- What is to be shown of the state alone. -/
theorem wp_state_iff {w : Fallible σ ε α} {P : σ → Prop} :
    wp w (fun _ => P) (fun _ => P) s ↔ P (w.exec s).2 := wp_outcome_iff (P := fun _ => P)

/-- The properties may be weakened. -/
theorem wp_mono {w : Fallible σ ε α} {Q' : α → σ → Prop} {E' : ε → σ → Prop} (h : wp w Q E s)
    (hQ : ∀ a s, Q a s → Q' a s) (hE : ∀ e s, E e s → E' e s) : wp w Q' E' s := by
  unfold wp at h ⊢
  split at h
  · exact hQ _ _ h
  · exact hE _ _ h

/-- What is done to the state when a computation fails, whatever comes of it. -/
def onError (w : Fallible σ ε α) (cleanup : σ → σ) : Fallible σ ε α :=
  of fun s => match w.exec s with
    | (.ok a, s') => (.ok a, s')
    | (.error e, s') => (.error e, cleanup s')

/-- A failure is followed by what is done about it. -/
theorem wp_onError {w : Fallible σ ε α} {cleanup : σ → σ} :
    wp (w.onError cleanup) Q E s ↔ wp w Q (fun e s' => E e (cleanup s')) s := by
  unfold wp onError
  rw [exec_of]
  rcases w.exec s with ⟨r, s'⟩
  cases r with
  | ok a => rfl
  | error e => rfl

/-- A call that changes the state or fails and leaves it alone. -/
def call (f : σ → Except ε (α × σ)) : Fallible σ ε α :=
  of fun s => match f s with
    | .ok (a, s') => (.ok a, s')
    | .error e => (.error e, s)

/-- A call has the outcome of its function. -/
theorem wp_call {f : σ → Except ε (α × σ)} :
    wp (call f) Q E s ↔ match f s with
      | .ok (a, s') => Q a s'
      | .error e => E e s := by
  unfold wp call
  rw [exec_of]
  rcases f s with e | ⟨a, s'⟩
  · rfl
  · rfl

/-- A result that is there already. -/
def result (r : Except ε α) : Fallible σ ε α := of fun s => (r, s)

/-- A result leaves the state alone. -/
theorem wp_result {r : Except ε α} :
    wp (result r) Q E s ↔ match r with
      | .ok a => Q a s
      | .error e => E e s := by
  unfold wp result
  rw [exec_of]
  cases r with
  | ok a => rfl
  | error e => rfl

/-- A computation on a part of a larger state. -/
def onPart {τ : Type} (part : τ → σ) (put : τ → σ → τ) (w : Fallible σ ε α) : Fallible τ ε α :=
  of fun t => ((w.exec (part t)).1, put t (w.exec (part t)).2)

/-- A computation on a part leaves the rest alone. -/
theorem wp_onPart {τ : Type} {part : τ → σ} {put : τ → σ → τ} {w : Fallible σ ε α}
    {Q : α → τ → Prop} {E : ε → τ → Prop} {t : τ} :
    wp (onPart part put w) Q E t ↔
      wp w (fun a s => Q a (put t s)) (fun e s => E e (put t s)) (part t) := by
  unfold wp onPart
  rw [exec_of]
  rcases w.exec (part t) with ⟨r, s'⟩
  cases r with
  | ok a => rfl
  | error e => rfl

-- From here on there are only the rules above.
attribute [irreducible] wp

end Fallible

end PlayitAgent
