import Mathlib.Data.List.Basic

/-!
# Runs of a step function

A system that takes one action at a time: `step s a` is the state after the action `a` and what the
action returned, or a failure. A run is a sequence of actions that all returned, with its trace. The
rule for invariants reduces a property of every reachable state to one step.
-/

namespace PlayitAgent

section
variable {S A O E : Type} (step : S → A → Except E (S × O))

/-- The actions of a trace, with what each returned, lead from one state to another. -/
inductive Run (init : S) : List (A × O) → S → Prop
  /-- Nothing has happened. -/
  | nil : Run init [] init
  /-- One more action returned. -/
  | snoc {trace : List (A × O)} {s s' : S} {a : A} {o : O} :
    Run init trace s → step s a = .ok (s', o) → Run init (trace ++ [(a, o)]) s'

/-- Some run leads to the state. -/
def Reachable (init s : S) : Prop := ∃ trace, Run step init trace s

variable {step} {init s : S} {trace : List (A × O)}

/-- A relation between the trace and the state that holds at first, and that every step keeps, holds
along every run. -/
theorem Run.invariant {I : List (A × O) → S → Prop} (h : Run step init trace s) (h₀ : I [] init)
    (hstep : ∀ trace s s' a o, I trace s → step s a = .ok (s', o) → I (trace ++ [(a, o)]) s') :
    I trace s := by
  induction h with
  | nil => exact h₀
  | snoc _ hs ih => exact hstep _ _ _ _ _ ih hs

/-- A property that holds at first, and that every step keeps, holds of every reachable state. -/
theorem Reachable.invariant {I : S → Prop} (h : Reachable step init s) (h₀ : I init)
    (hstep : ∀ s s' a o, I s → step s a = .ok (s', o) → I s') : I s := by
  obtain ⟨trace, hrun⟩ := h
  exact hrun.invariant (I := fun _ s => I s) h₀ fun _ _ _ _ _ hI hs => hstep _ _ _ _ hI hs

/-- A state after an action in a reachable state is reachable. -/
theorem Reachable.snoc {s' : S} {a : A} {o : O} (h : Reachable step init s)
    (hs : step s a = .ok (s', o)) : Reachable step init s' := by
  obtain ⟨trace, hrun⟩ := h
  exact ⟨_, hrun.snoc hs⟩

/-- The empty trace leads nowhere. -/
theorem run_nil_iff {s' : S} : Run (O := O) step init [] s' ↔ s' = init := by
  constructor
  · intro h
    generalize ht : ([] : List (A × O)) = t at h
    cases h with
    | nil => rfl
    | snoc hr hs => simp at ht
  · rintro rfl
    exact Run.nil

/-- A run with one more action. -/
theorem run_snoc_iff {s' : S} {a : A} {o : O} :
    Run step init (trace ++ [(a, o)]) s' ↔ ∃ s, Run step init trace s ∧ step s a = .ok (s', o) := by
  constructor
  · intro h
    generalize ht : trace ++ [(a, o)] = t at h
    cases h with
    | nil => simp at ht
    | @snoc trace₀ s₀ _ a₀ o₀ hr hs =>
      obtain ⟨rfl, hlast⟩ := List.append_inj' ht rfl
      obtain ⟨rfl, rfl⟩ : a = a₀ ∧ o = o₀ := by simpa using hlast
      exact ⟨s₀, hr, hs⟩
  · rintro ⟨s, hr, hs⟩
    exact hr.snoc hs

/-- A trace leads to one state. -/
theorem Run.unique {s' : S} (h : Run step init trace s) (h' : Run step init trace s') :
    s = s' := by
  induction h generalizing s' with
  | nil => exact (run_nil_iff.1 h').symm
  | snoc hr hs ih =>
    obtain ⟨s₀, hr₀, hs₀⟩ := run_snoc_iff.1 h'
    obtain rfl := ih hr₀
    rw [hs] at hs₀
    cases hs₀
    rfl

variable (step) in
/-- Every action of a trace has a property, in the state that the actions before it lead to. -/
def Along (P : S → A → Prop) (init : S) (trace : List (A × O)) : Prop :=
  ∀ before a o s, before ++ [(a, o)] <+: trace → Run step init before s → P s a

/-- Nothing is asked of the empty trace. -/
theorem along_nil {P : S → A → Prop} : Along (O := O) step P init [] := by
  intro before a o s hpre
  simp at hpre

/-- What holds of an action in every state holds along a trace of such actions. -/
theorem along_of_forall {P : S → A → Prop} (h : ∀ x ∈ trace, ∀ s, P s x.1) :
    Along step P init trace := by
  intro before a o s hpre _
  have hmem : (a, o) ∈ before ++ [(a, o)] := by simp
  exact h (a, o) (hpre.subset hmem) s

/-- A trace with one more action. -/
theorem along_snoc {P : S → A → Prop} (h : Run step init trace s) (a : A) (o : O) :
    Along step P init (trace ++ [(a, o)]) ↔ Along step P init trace ∧ P s a := by
  constructor
  · intro hall
    refine ⟨fun before a' o' s' hpre hrun => ?_, hall trace a o s (List.prefix_refl _) h⟩
    exact hall before a' o' s' (hpre.trans (List.prefix_append _ _)) hrun
  · rintro ⟨hall, hlast⟩ before a' o' s' hpre hrun
    rcases List.prefix_concat_iff.1 hpre with heq | hpre
    · -- The action is the last one, and the trace before it leads to the same state.
      obtain ⟨rfl, hact⟩ := List.append_inj' heq rfl
      obtain ⟨rfl, rfl⟩ : a' = a ∧ o' = o := by simpa using hact
      rw [hrun.unique h]
      exact hlast
    · exact hall before a' o' s' hpre hrun

/-- Two runs whose actions look the same agree, when no state tells such actions apart that have a
property. -/
theorem Run.agree {B : Type} {look : A → B} {P : S → A → Prop} {trace' : List (A × O)} {s' : S}
    (hlook : ∀ s a b, look a = look b → P s a → P s b → step s a = step s b)
    (h : Run step init trace s) (h' : Run step init trace' s')
    (hsame : trace.map (fun x => look x.1) = trace'.map fun x => look x.1)
    (hP : Along step P init trace) (hP' : Along step P init trace') :
    s = s' ∧ trace.map Prod.snd = trace'.map Prod.snd := by
  induction h generalizing trace' s' with
  | nil =>
    obtain rfl : trace' = [] := by simpa using hsame.symm
    exact ⟨(run_nil_iff.1 h').symm, rfl⟩
  | @snoc trace s s₁ a o hr hs ih =>
    -- The other run has a last action too, and the runs before the last actions agree.
    rw [List.map_append, eq_comm, List.map_eq_append_iff] at hsame
    obtain ⟨before, last, rfl, hbefore, hlast⟩ := hsame
    obtain ⟨⟨b, o'⟩, rfl, hb⟩ := List.map_eq_singleton_iff.1 hlast
    obtain ⟨s₀, hr', hs'⟩ := run_snoc_iff.1 h'
    obtain ⟨hP, hPa⟩ := (along_snoc hr a o).1 hP
    obtain ⟨hP', hPb⟩ := (along_snoc hr' b o').1 hP'
    obtain ⟨rfl, hsnd⟩ := ih hr' hbefore.symm hP hP'
    rw [hlook s a b hb.symm hPa hPb, hs'] at hs
    cases hs
    exact ⟨rfl, by simp [hsnd]⟩

variable (step) in
/-- Every state that the actions of a trace lead to, one after the other, has a property. -/
def Throughout (P : S → Prop) (init : S) (trace : List (A × O)) : Prop :=
  ∀ before s, before <+: trace → Run step init before s → P s

/-- The empty trace leads to the first state only. -/
theorem throughout_nil {P : S → Prop} : Throughout (O := O) step P init [] ↔ P init := by
  constructor
  · intro h
    exact h [] init (List.prefix_refl _) .nil
  · intro h before s hpre hrun
    obtain rfl := List.prefix_nil.1 hpre
    rw [run_nil_iff.1 hrun]
    exact h

/-- A trace with one more action leads to one more state. -/
theorem throughout_snoc {P : S → Prop} {s' : S} {a : A} {o : O} (h : Run step init trace s)
    (hs : step s a = .ok (s', o)) :
    Throughout step P init (trace ++ [(a, o)]) ↔ Throughout step P init trace ∧ P s' := by
  constructor
  · intro hall
    refine ⟨fun before s₀ hpre hrun => ?_, hall _ s' (List.prefix_refl _) (h.snoc hs)⟩
    exact hall before s₀ (hpre.trans (List.prefix_append _ _)) hrun
  · rintro ⟨hall, hlast⟩ before s₀ hpre hrun
    rcases List.prefix_concat_iff.1 hpre with rfl | hpre
    · rw [hrun.unique (h.snoc hs)]
      exact hlast
    · exact hall before s₀ hpre hrun

/-- When a property goes from each state to the next one exactly under a condition, given an
invariant, then it holds in every state of a run exactly when every action meets the condition. -/
theorem Run.throughout_iff_along {P I : S → Prop} {Q : S → A → Prop} (h : Run step init trace s)
    (h₀ : P init) (hI₀ : I init) (hI : ∀ s s' a o, I s → step s a = .ok (s', o) → I s')
    (hstep : ∀ s s' a o, I s → P s → step s a = .ok (s', o) → (P s' ↔ Q s a)) :
    Throughout step P init trace ↔ Along step Q init trace := by
  induction h with
  | nil => exact ⟨fun _ => along_nil, fun _ => throughout_nil.2 h₀⟩
  | @snoc trace s s' a o hr hs ih =>
    have hIs : I s :=
      hr.invariant (I := fun _ s => I s) hI₀ fun _ _ _ _ _ hIs hs => hI _ _ _ _ hIs hs
    rw [throughout_snoc hr hs, along_snoc hr, ih]
    refine and_congr_right fun hQ => ?_
    exact hstep s s' a o hIs (ih.2 hQ trace s (List.prefix_refl _) hr) hs

/-- A property that holds at first, and that every action passes on exactly under a condition, holds
after a run exactly when every action met the condition. It is enough that the actions do so on the
way to a state with `G`, which no action restores. -/
theorem Run.iff_along_of {P G I : S → Prop} {Q : S → A → Prop} (h : Run step init trace s)
    (h₀ : P init) (hI₀ : I init) (hI : ∀ s s' a o, I s → step s a = .ok (s', o) → I s')
    (hG : ∀ s s' a o, step s a = .ok (s', o) → G s' → G s)
    (hstep : ∀ s s' a o, I s → G s' → step s a = .ok (s', o) → (P s' ↔ P s ∧ Q s a)) (hs : G s) :
    P s ↔ Along step Q init trace := by
  induction h with
  | nil => exact ⟨fun _ => along_nil, fun _ => h₀⟩
  | @snoc trace s s' a o hr hnext ih =>
    have hIs : I s :=
      hr.invariant (I := fun _ s => I s) hI₀ fun _ _ _ _ _ hIs hs => hI _ _ _ _ hIs hs
    rw [along_snoc hr, hstep s s' a o hIs hs hnext, ih (hG s s' a o hnext hs)]

/-- The same for a property that every action passes on exactly under the condition. -/
theorem Run.iff_along {P I : S → Prop} {Q : S → A → Prop} (h : Run step init trace s)
    (h₀ : P init) (hI₀ : I init) (hI : ∀ s s' a o, I s → step s a = .ok (s', o) → I s')
    (hstep : ∀ s s' a o, I s → step s a = .ok (s', o) → (P s' ↔ P s ∧ Q s a)) :
    P s ↔ Along step Q init trace :=
  h.iff_along_of (G := fun _ => True) h₀ hI₀ hI (fun _ _ _ _ _ _ => trivial)
    (fun s s' a o hIs _ hs => hstep s s' a o hIs hs) trivial

/-- A property that holds at first, and that every action under a condition keeps, holds after a run
whose actions all met the condition. -/
theorem Run.invariant_along {I : S → Prop} {Q : S → A → Prop} (h : Run step init trace s)
    (hall : Along step Q init trace) (h₀ : I init)
    (hstep : ∀ s s' a o, I s → Q s a → step s a = .ok (s', o) → I s') : I s := by
  induction h with
  | nil => exact h₀
  | @snoc trace s s' a o hr hs ih =>
    obtain ⟨hall, hQ⟩ := (along_snoc hr a o).1 hall
    exact hstep s s' a o (ih hall) hQ hs

/-- What follows from a property of each action holds along a trace, too. -/
theorem Along.imp {P Q : S → A → Prop} (h : Along step P init trace) (hPQ : ∀ s a, P s a → Q s a) :
    Along step Q init trace :=
  fun before a o s hpre hrun => hPQ s a (h before a o s hpre hrun)

/-- What holds along a trace holds along the beginning of it. -/
theorem Along.of_prefix {Q : S → A → Prop} {before : List (A × O)} (h : Along step Q init trace)
    (hpre : before <+: trace) : Along step Q init before :=
  fun before' a o s hpre' hrun => h before' a o s (hpre'.trans hpre) hrun

end

/-- A system whose actions return nothing: an action is taken, or it is not possible. -/
def ofOption {S A : Type} (next : S → A → Option S) (s : S) (a : A) : Except Unit (S × Unit) :=
  match next s a with
  | some s' => .ok (s', ())
  | none => .error ()

/-- An action that was taken. -/
theorem ofOption_eq_ok {S A : Type} {next : S → A → Option S} {s s' : S} {a : A} {o : Unit} :
    ofOption next s a = .ok (s', o) ↔ next s a = some s' := by
  unfold ofOption
  split
  · next h => simp [h]
  · next h => simp [h]

/-- The state after a list of actions, when all of them are possible. -/
def takes {S A : Type} (next : S → A → Option S) : S → List A → Option S
  | s, [] => some s
  | s, a :: as => (next s a).bind fun s' => takes next s' as

/-- Actions that can be taken one after the other make a run. -/
theorem Run.takes {S A : Type} {next : S → A → Option S} {init s s' : S}
    {trace : List (A × Unit)} (h : Run (ofOption next) init trace s) {as : List A}
    (hs : PlayitAgent.takes next s as = some s') :
    Run (ofOption next) init (trace ++ as.map fun a => (a, ())) s' := by
  induction as generalizing trace s with
  | nil =>
    obtain rfl := Option.some.inj hs
    simpa using h
  | cons a as ih =>
    obtain ⟨s₁, hnext, hs⟩ := Option.bind_eq_some_iff.1 hs
    have h₁ := ih (h.snoc (ofOption_eq_ok.2 hnext) (o := ())) hs
    simpa using h₁

/-- Every one of a list of actions passes a check, in the state that the actions before it lead
to. -/
def meets {S A : Type} (next : S → A → Option S) (check : S → A → Bool) : S → List A → Bool
  | _, [] => true
  | s, a :: as => check s a && ((next s a).map fun s' => meets next check s' as).getD true

/-- Actions that pass a check one after the other pass it along the run. -/
theorem Along.takes {S A : Type} {next : S → A → Option S} {check : S → A → Bool} {init s s' : S}
    {trace : List (A × Unit)} (h : Run (ofOption next) init trace s)
    (hall : Along (ofOption next) (fun s a => check s a = true) init trace) {as : List A}
    (hs : PlayitAgent.takes next s as = some s') (hmeets : meets next check s as = true) :
    Along (ofOption next) (fun s a => check s a = true) init
      (trace ++ as.map fun a => (a, ())) := by
  induction as generalizing trace s with
  | nil => simpa using hall
  | cons a as ih =>
    obtain ⟨s₁, hnext, hs⟩ := Option.bind_eq_some_iff.1 hs
    unfold meets at hmeets
    rw [hnext, Bool.and_eq_true] at hmeets
    have hrun := h.snoc (ofOption_eq_ok.2 hnext) (o := ())
    have h₁ := ih hrun ((along_snoc h a ()).2 ⟨hall, hmeets.1⟩) hs hmeets.2
    simpa using h₁

end PlayitAgent
