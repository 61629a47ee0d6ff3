import PlayitAgent.Lib.FileSystem

/-!
# Faults

One call of a run fails although it could succeed. The calls are told apart by the points at which
they stand, and a fault names a point and the error that the call there returns.
-/

namespace PlayitAgent

/-- The call that fails, and the text of its error. -/
structure Fault (ι : Type) where
  point : ι
  text : String
  deriving DecidableEq

variable {ι α : Type}

/-- The fault is at the point. -/
def FailsAt (fault : Option (Fault ι)) (point : ι) : Prop := fault.map Fault.point = some point

instance [DecidableEq ι] (fault : Option (Fault ι)) (point : ι) : Decidable (FailsAt fault point) :=
  inferInstanceAs (Decidable (_ = _))

/-- A call that may be the one that fails. -/
def failing [DecidableEq ι] (fault : Option (Fault ι)) (point : ι) (call : Except FsError α) :
    Except FsError α :=
  match fault with
  | some fault => if fault.point = point then .error (.os fault.text) else call
  | none => call

/-- `create_dir_all`, where it fails behind the first components. -/
def FileSystem.createDirAllUntil (fs : FileSystem) (n : ℕ) (text : String) (path : Path) :
    Except FsError Unit × FileSystem :=
  (.error (.os text), (fs.createDirAll { path with components := path.components.take n }).2)

/-- It has made directories on the way. -/
theorem FileSystem.makesDirs_createDirAllUntil (fs : FileSystem) (n : ℕ) (text : String)
    (path : Path) : MakesDirs fs path (fs.createDirAllUntil n text path).2 :=
  (makesDirs_createDirAll fs _).further (List.take_prefix n path.components)

/-- A fault is at one point. -/
theorem FailsAt.unique {fault : Option (Fault ι)} {point point' : ι} (h : FailsAt fault point)
    (h' : FailsAt fault point') : point = point' := Option.some.inj (h.symm.trans h')

variable [DecidableEq ι] {fault : Option (Fault ι)} {point : ι}

/-- A call does not fail when there is no fault. -/
@[simp]
theorem failing_none (point : ι) (call : Except FsError α) : failing none point call = call := rfl

/-- The call that fails. -/
theorem failing_of_failsAt (h : FailsAt fault point) (call : Except FsError α) :
    ∃ error, failing fault point call = .error error := by
  obtain ⟨f, rfl, rfl⟩ := Option.map_eq_some_iff.1 h
  exact ⟨_, if_pos rfl⟩

/-- The other calls do what they do. -/
theorem failing_of_not_failsAt (h : ¬FailsAt fault point) (call : Except FsError α) :
    failing fault point call = call := by
  cases fault with
  | none => rfl
  | some f => exact if_neg fun heq => h (congrArg some heq)

/-- The outcomes of a call: it fails, because of the fault or by itself, or it succeeds. -/
theorem failing_cases (fault : Option (Fault ι)) (point : ι) (call : Except FsError α) :
    (∃ error, failing fault point call = .error error ∧
        (FailsAt fault point ∨ ∃ error, call = .error error)) ∨
      ∃ a, failing fault point call = .ok a ∧ ¬FailsAt fault point ∧ call = .ok a := by
  by_cases hfails : FailsAt fault point
  · obtain ⟨error, herror⟩ := failing_of_failsAt hfails call
    exact .inl ⟨error, herror, .inl hfails⟩
  · rw [failing_of_not_failsAt hfails]
    cases call with
    | error error => exact .inl ⟨error, rfl, .inr ⟨error, rfl⟩⟩
    | ok a => exact .inr ⟨a, rfl, hfails, rfl⟩

/-- The fault is the same for a call that returns nothing. -/
theorem failing_map {β : Type} (call : Except FsError α) (f : α → β) :
    failing fault point (call.map f) = (failing fault point call).map f := by
  unfold failing
  split
  · split_ifs <;> rfl
  · rfl

end PlayitAgent
