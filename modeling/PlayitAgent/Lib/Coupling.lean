import PlayitAgent.Lib.Future

/-!
# Futures that run alike

A future takes answers from a script and readings from a clock, and works on a state. Two futures on
different states run alike when they take the same from both and come to the same result, and they
fail alike when this is so of their errors. What a future makes of the answers of the environment
can then be said of another one that only awaits them.
-/

namespace PlayitAgent

namespace Future

section
variable {V T A W W' S S' S₁ E F α β : Type} {R : S → S' → Prop}

/-! ## Runs side by side -/

/-- Two runs have come to the same result, have taken the same from the script and from the clock,
and have left related states. -/
structure Abreast (R : S → S' → Prop) (r : Ran V T A W S E α) (r' : Ran V T A W' S' E α) :
    Prop where
  result : r'.result = r.result
  rest : r'.rest = r.rest
  ticks : r'.config.ticks = r.config.ticks
  state : R r.config.state r'.config.state

/-- On one script and one clock, from related states, the runs of the two futures are in `Ψ`. -/
def Jointly (R : S → S' → Prop) (x : Future V T A W S E α) (x' : Future V T A W' S' F β)
    (Ψ : Ran V T A W S E α → Ran V T A W' S' F β → Prop) : Prop :=
  ∀ (env : Env T W S) (env' : Env T W' S') (script : List (Item V)) (c : Config V T A W S)
    (c' : Config V T A W' S'), env'.clock = env.clock → c'.ticks = c.ticks →
    R c.state c'.state → Ψ (x env script c) (x' env' script c')

/-- The futures run side by side. -/
def Alike (R : S → S' → Prop) (x : Future V T A W S E α) (x' : Future V T A W' S' E α) : Prop :=
  Jointly R x x' (Abreast R)

section
variable {x : Future V T A W S E α} {x' : Future V T A W' S' E α} {f : α → Future V T A W S E β}

/-- Futures that run alike, and others after them. -/
theorem jointly_bind {γ : Type} {f' : α → Future V T A W' S' E γ}
    {Ψ : Ran V T A W S E β → Ran V T A W' S' E γ → Prop} (hx : Alike R x x')
    (hf : ∀ a, Jointly R (f a) (f' a) Ψ)
    (herror : ∀ s rest c c', c'.ticks = c.ticks → R c.state c'.state →
      Ψ ⟨.error s, rest, c⟩ ⟨.error s, rest, c'⟩) :
    Jointly R (x >>= f) (x' >>= f') Ψ := by
  intro env env' script c c' hclock hticks hR
  have h := hx env env' script c c' hclock hticks hR
  show Ψ (Future.bind x f env script c) (Future.bind x' f' env' script c')
  unfold Future.bind
  rcases hrun : x env script c with ⟨result, rest, c₁⟩
  rcases hrun' : x' env' script c' with ⟨result', rest', c₁'⟩
  rw [hrun, hrun'] at h
  obtain ⟨rfl, rfl, hticks₁, hR₁⟩ := h
  cases result' with
  | error s => exact herror s _ c₁ c₁' hticks₁ hR₁
  | ok a => exact hf a env env' _ c₁ c₁' hclock hticks₁ hR₁

/-- A future that asks nothing, and another after it. -/
theorem jointly_silent {γ : Type} {a : α} {y' : Future V T A W' S' F γ}
    {Ψ : Ran V T A W S E β → Ran V T A W' S' F γ → Prop}
    (hx : Alike R x (pure a : Future V T A W' S' E α)) (hf : Jointly R (f a) y' Ψ) :
    Jointly R (x >>= f) y' Ψ := by
  intro env env' script c c' hclock hticks hR
  obtain ⟨hresult, hrest, hticks₁, hR₁⟩ := hx env env' script c c' hclock hticks hR
  show Ψ (Future.bind x f env script c) (y' env' script c')
  unfold Future.bind
  rcases hrun : x env script c with ⟨result, rest, c₁⟩
  rw [hrun] at hresult hrest hticks₁ hR₁
  have hok : result = .ok a := hresult.symm
  have hscript : rest = script := hrest.symm
  subst hok hscript
  exact hf env env' _ c₁ c' hclock hticks₁ hR₁

end

/-- A result. -/
theorem alike_pure (a : α) :
    Alike (E := E) R (pure a : Future V T A W S E α) (pure a : Future V T A W' S' E α) :=
  fun _ _ _ _ _ _ hticks hR => ⟨rfl, rfl, hticks, hR⟩

/-- One future after another. -/
theorem alike_bind {x : Future V T A W S E α} {x' : Future V T A W' S' E α}
    {f : α → Future V T A W S E β} {f' : α → Future V T A W' S' E β} (hx : Alike R x x')
    (hf : ∀ a, Alike R (f a) (f' a)) : Alike R (x >>= f) (x' >>= f') :=
  jointly_bind hx hf fun _ _ _ _ hticks hR => ⟨rfl, rfl, hticks, hR⟩

/-- An await. -/
theorem alike_await (g : V → Option α) :
    Alike R (await g : Future V T A W S E α) (await g : Future V T A W' S' E α) := by
  intro env env' script c c' _ hticks hR
  unfold await
  rcases script with _ | ⟨v | n, script⟩
  · exact ⟨rfl, rfl, hticks, hR⟩
  · cases hv : g v with
    | none =>
      simp only [hv]
      exact ⟨rfl, rfl, hticks, hR⟩
    | some a =>
      simp only [hv]
      exact ⟨rfl, rfl, hticks, hR⟩
  · exact ⟨rfl, rfl, hticks, hR⟩

/-- A reading of the clock. -/
theorem alike_now : Alike R (now : Future V T A W S E T) (now : Future V T A W' S' E T) := by
  intro env env' script c c' hclock hticks hR
  refine ⟨?_, rfl, congrArg (· + 1) hticks, hR⟩
  show Except.ok (env'.clock c'.ticks) = .ok (env.clock c.ticks)
  rw [hclock, hticks]

/-- Something that can be seen from outside. -/
theorem alike_act (a : A) :
    Alike R (act a : Future V T A W S E Unit) (act a : Future V T A W' S' E Unit) :=
  fun _ _ _ _ _ _ hticks hR => ⟨rfl, rfl, hticks, hR⟩

/-- An error. -/
theorem alike_fail (error : E) :
    Alike R (fail error : Future V T A W S E α) (fail error : Future V T A W' S' E α) :=
  fun _ _ _ _ _ _ hticks hR => ⟨rfl, rfl, hticks, hR⟩

/-- A panic. -/
theorem alike_panic (reason : Panic) :
    Alike R (panic reason : Future V T A W S E α) (panic reason : Future V T A W' S' E α) :=
  fun _ _ _ _ _ _ hticks hR => ⟨rfl, rfl, hticks, hR⟩

/-- The value of a `Result`. -/
theorem alike_ofExcept (r : Except E α) :
    Alike R (ofExcept r : Future V T A W S E α) (ofExcept r : Future V T A W' S' E α) := by
  cases r with
  | ok a => exact alike_pure a
  | error error => exact alike_fail error

/-- The same state, and futures that depend on it. -/
theorem alike_get {f : S → Future V T A W S E α} {f' : S → Future V T A W' S E α}
    (hf : ∀ s, Alike Eq (f s) (f' s)) : Alike Eq (get >>= f) (get >>= f') := by
  intro env env' script c c' hclock hticks hR
  have h := hf c.state env env' script c c' hclock hticks hR
  show Abreast Eq (f c.state env script c) (f' c'.state env' script c')
  rw [← hR]
  exact h

/-- A state that is looked at by the first future only. -/
theorem jointly_get {f : S → Future V T A W S E α} {x' : Future V T A W' S' F β}
    {Ψ : Ran V T A W S E α → Ran V T A W' S' F β → Prop}
    (hf : ∀ s t, R s t → Jointly R (f s) x' Ψ) : Jointly R (get >>= f) x' Ψ :=
  fun env env' script c c' hclock hticks hR => hf _ _ hR env env' script c c' hclock hticks hR

/-- A change of the state. -/
theorem alike_modify {f : S → S} {f' : S' → S'} (hf : ∀ s s', R s s' → R (f s) (f' s')) :
    Alike R (modify f : Future V T A W S E Unit) (modify f' : Future V T A W' S' E Unit) :=
  fun _ _ _ _ _ _ hticks hR => ⟨rfl, rfl, hticks, hf _ _ hR⟩

/-- One change of the same state. -/
theorem alike_modify_eq (f : S → S) :
    Alike Eq (modify f : Future V T A W S E Unit) (modify f : Future V T A W' S E Unit) :=
  alike_modify fun _ _ h => congrArg f h

/-- Results that are seen in another way. -/
theorem alike_mapResult {x : Future V T A W S E α} {x' : Future V T A W' S' E α}
    (g : Except (Stop E) α → Except (Stop F) β) (hx : Alike R x x') :
    Alike R (x.mapResult g) (x'.mapResult g) := by
  intro env env' script c c' hclock hticks hR
  have h := hx env env' script c c' hclock hticks hR
  exact ⟨congrArg g h.result, h.rest, h.ticks, h.state⟩

/-- Futures on values of their own. -/
theorem alike_within {t : S₁} {x : Future V T A W S₁ E α} {x' : Future V T A W' S₁ E α}
    (hx : Alike Eq x x') :
    Alike R (within t x : Future V T A W S E (α × S₁)) (within t x') := by
  intro env env' script c c' hclock hticks hR
  have h := hx ⟨env.clock, fun _ => env.look c.state⟩ ⟨env'.clock, fun _ => env'.look c'.state⟩
    script ⟨t, c.ticks, c.log⟩ ⟨t, c'.ticks, c'.log⟩ hclock hticks rfl
  unfold within
  rcases hrun : x ⟨env.clock, fun _ => env.look c.state⟩ script ⟨t, c.ticks, c.log⟩ with
    ⟨result, rest, c₁⟩
  rcases hrun' : x' ⟨env'.clock, fun _ => env'.look c'.state⟩ script ⟨t, c'.ticks, c'.log⟩ with
    ⟨result', rest', c₁'⟩
  rw [hrun, hrun'] at h
  obtain ⟨rfl, rfl, hticks₁, hstate₁⟩ := h
  cases result' with
  | error s => exact ⟨rfl, rfl, hticks₁, hR⟩
  | ok a => exact ⟨congrArg (fun t => Except.ok (a, t)) hstate₁.symm, rfl, hticks₁, hR⟩

/-- A future on a part of the state, and the future on that part alone. -/
theorem alike_zoom {view : S → S₁} {put : S₁ → S → S} {x : Future V T A W S₁ E α}
    {x' : Future V T A W' S₁ E α} (hview : ∀ t s, view (put t s) = t) (hx : Alike Eq x x') :
    Alike (fun s t => view s = t) (zoom view put x) x' := by
  intro env env' script c c' hclock hticks hR
  have h := hx ⟨env.clock, fun t => env.look (put t c.state)⟩ env' script
    ⟨view c.state, c.ticks, c.log⟩ c' hclock hticks hR
  exact ⟨h.result, h.rest, h.ticks, (hview _ _).trans h.state⟩

/-- Futures on a part of the same state. -/
theorem alike_zoom_eq {view : S → S₁} {put : S₁ → S → S} {x : Future V T A W S₁ E α}
    {x' : Future V T A W' S₁ E α} (hx : Alike Eq x x') :
    Alike Eq (zoom view put x) (zoom view put x') := by
  intro env env' script c c' hclock hticks hR
  have h := hx ⟨env.clock, fun t => env.look (put t c.state)⟩
    ⟨env'.clock, fun t => env'.look (put t c'.state)⟩ script ⟨view c.state, c.ticks, c.log⟩
    ⟨view c'.state, c'.ticks, c'.log⟩ hclock hticks (congrArg view hR)
  exact ⟨h.result, h.rest, h.ticks, congrArg₂ put h.state hR⟩

/-- Loops. -/
theorem alike_forLoop {L : Type} {body : L → Future V T A W S E (Flow L α)}
    {body' : L → Future V T A W' S' E (Flow L α)} (hbody : ∀ acc, Alike R (body acc) (body' acc))
    (n : ℕ) (acc : L) : Alike R (forLoop body n acc) (forLoop body' n acc) := by
  induction n generalizing acc with
  | zero => exact alike_pure none
  | succ n ih =>
    refine alike_bind (hbody acc) fun flow => ?_
    cases flow with
    | next acc => exact ih acc
    | leave => exact alike_pure none
    | ret a => exact alike_pure (some a)

/-! ## Failures side by side -/

/-- Both runs have failed, in the same way and at the same reading of the clock, or neither has. -/
def FailAbreast (r : Ran V T A W S E α) (r' : Ran V T A W' S' E β) : Prop :=
  ∀ s, (r.result = .error s ↔ r'.result = .error s) ∧
    (r.result = .error s → r'.config.ticks = r.config.ticks)

/-- The futures fail side by side. -/
def FailsAlike (R : S → S' → Prop) (x : Future V T A W S E α) (x' : Future V T A W' S' E β) :
    Prop :=
  Jointly R x x' FailAbreast

/-- An error is the same, whatever the result could have been. -/
theorem error_eq_error_iff {s s' : Stop E} :
    (.error s : Except (Stop E) α) = .error s' ↔ (.error s : Except (Stop E) β) = .error s' := by
  rw [Except.error.injEq, Except.error.injEq]

/-- Futures that run alike, and then futures that fail alike. -/
theorem failsAlike_bind {γ : Type} {x : Future V T A W S E γ} {x' : Future V T A W' S' E γ}
    {f : γ → Future V T A W S E α} {f' : γ → Future V T A W' S' E β} (hx : Alike R x x')
    (hf : ∀ a, FailsAlike R (f a) (f' a)) : FailsAlike R (x >>= f) (x' >>= f') :=
  jointly_bind hx hf fun _ _ _ _ hticks _ _ => ⟨error_eq_error_iff, fun _ => hticks⟩

/-- What cannot fail may follow. -/
theorem FailsAlike.bind_ok {α₁ : Type} {x : Future V T A W S E α₁} {x' : Future V T A W' S' E β}
    {f : α₁ → Future V T A W S E α} (hx : FailsAlike R x x')
    (hf : ∀ a env c, wp env (f a) c fun r _ => ∃ b, r = .ok b) :
    FailsAlike R (x >>= f) x' := by
  intro env env' script c c' hclock hticks hR
  have h := hx env env' script c c' hclock hticks hR
  show FailAbreast (Future.bind x f env script c) (x' env' script c')
  unfold Future.bind
  rcases hrun : x env script c with ⟨result, rest, c₁⟩
  rw [hrun] at h
  cases result with
  | error s' =>
    intro s
    exact ⟨error_eq_error_iff.trans (h s).1, fun hs => (h s).2 (error_eq_error_iff.1 hs)⟩
  | ok a =>
    obtain ⟨b, hb⟩ := hf a env c₁ rest
    intro s
    refine ⟨⟨fun hs => ?_, fun hs => ?_⟩, fun hs => ?_⟩
    · cases hb.symm.trans hs
    · cases (h s).1.2 hs
    · cases hb.symm.trans hs

/-- Two futures that cannot fail. -/
theorem failsAlike_ok {x : Future V T A W S E α} (b : β)
    (hx : ∀ env c, wp env x c fun r _ => ∃ a, r = .ok a) :
    FailsAlike R x (pure b : Future V T A W' S' E β) := by
  intro env env' script c c' _ _ _ s
  obtain ⟨a, ha⟩ := hx env c script
  refine ⟨⟨fun hs => ?_, fun hs => ?_⟩, fun hs => ?_⟩
  · cases ha.symm.trans hs
  · cases hs
  · cases ha.symm.trans hs

/-- `try_timeout` fails when its future does. -/
theorem FailsAlike.tryTimeout {x : Future V T A W S E α} {x' : Future V T A W' S' E β}
    (hx : FailsAlike R x x') (elapsed : E) :
    FailsAlike R (tryTimeout elapsed x) (tryTimeout elapsed x') := by
  intro env env' script c c' hclock hticks hR s
  have h := hx env env' script c c' hclock hticks hR
  unfold Future.tryTimeout mapResult
  rcases hrun : x env script c with ⟨result, rest, c₁⟩
  rcases hrun' : x' env' script c' with ⟨result', rest', c₁'⟩
  rw [hrun, hrun'] at h
  cases result with
  | error s₁ =>
    have hs₁ : result' = .error s₁ := (h s₁).1.1 rfl
    subst hs₁
    refine ⟨?_, fun _ => (h s₁).2 rfl⟩
    rcases s₁ with _ | (_ | _) | _ | _ <;> exact error_eq_error_iff
  | ok a =>
    cases result' with
    | error s₁ => cases (h s₁).1.2 rfl
    | ok b =>
      refine ⟨⟨fun hs => ?_, fun hs => ?_⟩, fun hs => ?_⟩
      · cases hs
      · cases hs
      · cases hs

end

end Future

end PlayitAgent
