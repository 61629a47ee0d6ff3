import Mathlib.Logic.Function.Basic
import Mathlib.Data.List.Nodup

/-!
# Handles of spawned tasks

The `JoinHandle` of a task gives the task's result once: a poll of a handle that has already given
it panics. Code that awaits several handles one after the other is safe when the handles are
distinct and none of them has given its result yet.
-/

namespace PlayitAgent

/-- Why a task has no result, with the text that shows it. -/
inductive JoinError where
  | cancelled (text : String)
  | panic (text : String)
  deriving DecidableEq

/-- The text of the error. -/
def JoinError.text : JoinError → String
  | .cancelled text => text
  | .panic text => text

/-- A handle: how the task ended, if it has ended, whether the handle has given this away, and
whether `abort` was called. -/
structure JoinHandle (α : Type) where
  result : Option (Except JoinError α)
  taken : Bool
  aborted : Bool

/-- What a poll of a handle does. -/
inductive JoinPoll (α : Type) where
  | pending
  | ready (result : Except JoinError α)
  | panics

namespace JoinHandle

variable {α ι : Type}

/-- The handle of a task that was just spawned. -/
def spawned : JoinHandle α := ⟨none, false, false⟩

/-- The task ends. -/
def finish (handle : JoinHandle α) (result : Except JoinError α) : JoinHandle α :=
  { handle with result := some result }

/-- `abort`: the task is to end where it next awaits. -/
def abort (handle : JoinHandle α) : JoinHandle α := { handle with aborted := true }

/-- A poll of the handle. -/
def poll (handle : JoinHandle α) : JoinPoll α :=
  if handle.taken then .panics
  else match handle.result with
    | none => .pending
    | some result => .ready result

/-- The result was given away. -/
def take (handle : JoinHandle α) : JoinHandle α := { handle with taken := true }

/-- A poll panics exactly when the handle has given its result. -/
theorem poll_eq_panics {handle : JoinHandle α} : handle.poll = .panics ↔ handle.taken = true := by
  unfold poll
  split
  · next h => simp [h]
  · next h => split <;> simp [h]

/-- A poll is ready when the task has ended and its result is still there. -/
theorem poll_eq_ready {handle : JoinHandle α} {result : Except JoinError α} :
    handle.poll = .ready result ↔ handle.taken = false ∧ handle.result = some result := by
  unfold poll
  split
  · next h => simp [h]
  · next h => split <;> simp_all

/-! ## Awaiting handles in order -/

/-- None of the handles in a list has given its result. -/
def Untaken (handles : ι → JoinHandle α) (rest : List ι) : Prop :=
  ∀ i ∈ rest, (handles i).taken = false

/-- What happens to the handles without a result being taken leaves them so. -/
theorem Untaken.congr {handles handles' : ι → JoinHandle α} {rest : List ι}
    (h : ∀ i, (handles' i).taken = (handles i).taken) :
    Untaken handles' rest ↔ Untaken handles rest := by
  unfold Untaken
  simp only [h]

variable [DecidableEq ι]

/-- Once the first of several distinct handles has given its result, the others still have
theirs. -/
theorem untaken_take {handles : ι → JoinHandle α} {i : ι} {rest : List ι}
    (hnodup : (i :: rest).Nodup) :
    Untaken (Function.update handles i (handles i).take) rest ↔ Untaken handles rest := by
  have hi : i ∉ rest := (List.nodup_cons.1 hnodup).1
  have hne : ∀ j ∈ rest, j ≠ i := fun j hj hji => hi (hji ▸ hj)
  constructor
  · intro h j hj
    have h' := h j hj
    rwa [Function.update_of_ne (hne j hj)] at h'
  · intro h j hj
    rw [Function.update_of_ne (hne j hj)]
    exact h j hj

/-- A handle that has given its result is among those that are not untaken. -/
theorem not_untaken_of_mem {handles : ι → JoinHandle α} {i : ι} {rest : List ι} (hi : i ∈ rest) :
    ¬ Untaken (Function.update handles i (handles i).take) rest := by
  intro h
  have h' := h i hi
  rw [Function.update_self] at h'
  cases h'

end JoinHandle

end PlayitAgent
