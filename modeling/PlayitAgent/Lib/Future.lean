import PlayitAgent.Lib.Stream

/-!
# Futures

Asynchronous code, as a function of what its environment does. A future works on a state of type
`S`. Where it awaits, the next item of its script is the environment's answer, or says that the
timer of a `timeout` around it has fired; where the script ends it stays suspended. Between two
awaits it runs without interruption, and may read the clock, whose readings are a sequence of their
own.

Everything that happens is put on a log, newest first, each event with a view of the state at that
moment. A future that works on a part of a larger state leaves the views whole: they are taken
through the surrounding state.

`wp x c Φ` says that `x`, run from `c`, ends in `Φ` whatever the script is, and `Kept I P` is the
condition that the invariant `I` holds in the end, however that is reached, and `P` of a result.
-/

namespace PlayitAgent

/-! ## Runs -/

/-- Why a future has no result. -/
inductive Stop (E : Type) where
  /-- It returned an error. -/
  | failed (error : E)
  /-- A timer around it has fired: that of the enclosing `timeout` with this index, the innermost
  one first. -/
  | elapsed (depth : ℕ)
  /-- It is suspended. -/
  | pending
  /-- It panicked. -/
  | panicked (reason : Panic)
  deriving DecidableEq

/-- What the environment does while a future is suspended. -/
inductive Item (V : Type) where
  /-- It answers. -/
  | answer (v : V)
  /-- The timer of an enclosing `timeout` fires, the innermost one first. -/
  | elapsed (depth : ℕ)

/-- What happens in a run. -/
inductive Event (V T A : Type) where
  /-- The environment has answered. -/
  | answered (v : V)
  /-- A timer has fired. -/
  | elapsed (depth : ℕ)
  /-- The clock was read. -/
  | read (t : T)
  /-- The future has done something that can be seen from outside. -/
  | did (a : A)

/-- A future in the middle of a run. -/
structure Config (V T A W S : Type) where
  /-- The state it works on. -/
  state : S
  /-- How often the clock was read. -/
  ticks : ℕ
  /-- What has happened, newest first, each event with a view of the state at that moment. -/
  log : List (Event V T A × W)

/-- What a future runs in. -/
structure Env (T W S : Type) where
  /-- The readings of the clock. -/
  clock : ℕ → T
  /-- The view of the state that is put on the log. -/
  look : S → W

/-- The end of a run. -/
structure Ran (V T A W S E α : Type) where
  /-- The result, or why there is none. -/
  result : Except (Stop E) α
  /-- What is left of the script. -/
  rest : List (Item V)
  /-- Where the run has ended. -/
  config : Config V T A W S

/-- Futures: what they do in an environment, under a script, from a configuration. -/
def Future (V T A W S E α : Type) : Type :=
  Env T W S → List (Item V) → Config V T A W S → Ran V T A W S E α

section
variable {V T A W S E α : Type}

/-- The configuration with one more event. -/
def Config.record (env : Env T W S) (ev : Event V T A) (c : Config V T A W S) :
    Config V T A W S :=
  { c with log := (ev, env.look c.state) :: c.log }

/-- The configuration with another state. -/
def Config.update (f : S → S) (c : Config V T A W S) : Config V T A W S :=
  { c with state := f c.state }

/-- The configuration after a reading of the clock. -/
def Config.tick (env : Env T W S) (c : Config V T A W S) : Config V T A W S :=
  { c.record env (.read (env.clock c.ticks)) with ticks := c.ticks + 1 }

namespace Future

/-! ## Primitives -/

variable {F β S' : Type}

/-- A result. -/
protected def pure (a : α) : Future V T A W S E α := fun _ script c => ⟨.ok a, script, c⟩

/-- One future after another. -/
protected def bind (x : Future V T A W S E α) (f : α → Future V T A W S E β) :
    Future V T A W S E β := fun env script c =>
  match x env script c with
  | ⟨.ok a, script', c'⟩ => f a env script' c'
  | ⟨.error s, script', c'⟩ => ⟨.error s, script', c'⟩

instance : Monad (Future V T A W S E) where
  pure := Future.pure
  bind := Future.bind

/-- An await for an answer that `f` understands. -/
def await (f : V → Option α) : Future V T A W S E α := fun env script c =>
  match script with
  | [] => ⟨.error .pending, [], c⟩
  | .elapsed n :: script => ⟨.error (.elapsed n), script, c.record env (.elapsed n)⟩
  | .answer v :: script =>
    match f v with
    | some a => ⟨.ok a, script, c.record env (.answered v)⟩
    | none => ⟨.error .pending, script, c⟩

/-- A reading of the clock. -/
def now : Future V T A W S E T := fun env script c => ⟨.ok (env.clock c.ticks), script, c.tick env⟩

/-- Something that can be seen from outside. -/
def act (a : A) : Future V T A W S E Unit := fun env script c =>
  ⟨.ok (), script, c.record env (.did a)⟩

/-- The state. -/
def get : Future V T A W S E S := fun _ script c => ⟨.ok c.state, script, c⟩

/-- A change of the state. -/
def modify (f : S → S) : Future V T A W S E Unit := fun _ script c => ⟨.ok (), script, c.update f⟩

/-- An error. -/
def fail (error : E) : Future V T A W S E α := fun _ script c => ⟨.error (.failed error), script, c⟩

/-- A panic. -/
def panic (reason : Panic) : Future V T A W S E α := fun _ script c =>
  ⟨.error (.panicked reason), script, c⟩

/-- A future whose result is seen in another way. -/
def mapResult (g : Except (Stop E) α → Except (Stop F) β) (x : Future V T A W S E α) :
    Future V T A W S F β := fun env script c =>
  match x env script c with
  | ⟨result, script', c'⟩ => ⟨g result, script', c'⟩

/-- The result of a fallible future, or its error, as a value. -/
def attempt (x : Future V T A W S E α) : Future V T A W S F (Except E α) := x.mapResult fun
  | .ok a => .ok (.ok a)
  | .error (.failed error) => .ok (.error error)
  | .error (.elapsed n) => .error (.elapsed n)
  | .error .pending => .error .pending
  | .error (.panicked reason) => .error (.panicked reason)

/-- `tokio::time::timeout`: the result of a fallible future, or its error, or `none` when its timer
has fired. A timer further out is one level nearer to what follows. -/
def timeout (x : Future V T A W S E α) : Future V T A W S F (Option (Except E α)) :=
  x.mapResult fun
  | .ok a => .ok (some (.ok a))
  | .error (.failed error) => .ok (some (.error error))
  | .error (.elapsed 0) => .ok none
  | .error (.elapsed (n + 1)) => .error (.elapsed n)
  | .error .pending => .error .pending
  | .error (.panicked reason) => .error (.panicked reason)

/-- `?` across error types: an error is converted. -/
def mapErr (f : E → F) (x : Future V T A W S E α) : Future V T A W S F α := x.mapResult fun
  | .ok a => .ok a
  | .error (.failed error) => .error (.failed (f error))
  | .error (.elapsed n) => .error (.elapsed n)
  | .error .pending => .error .pending
  | .error (.panicked reason) => .error (.panicked reason)

/-- `try_timeout`: the result of a fallible future, or its error, or the given error when its timer
has fired. -/
def tryTimeout (elapsed : E) (x : Future V T A W S E α) : Future V T A W S E α := x.mapResult fun
  | .error (.elapsed 0) => .error (.failed elapsed)
  | .error (.elapsed (n + 1)) => .error (.elapsed n)
  | result => result

/-- A future on a part of the state. -/
def zoom (get : S → S') (set : S' → S → S) (x : Future V T A W S' E α) : Future V T A W S E α :=
  fun env script c =>
  match x ⟨env.clock, fun t => env.look (set t c.state)⟩ script ⟨get c.state, c.ticks, c.log⟩ with
  | ⟨result, script', c'⟩ => ⟨result, script', ⟨set c'.state c.state, c'.ticks, c'.log⟩⟩

/-- A future on a value of its own, which it returns with its result. -/
def within (t : S') (x : Future V T A W S' E α) : Future V T A W S E (α × S') :=
  fun env script c =>
  match x ⟨env.clock, fun _ => env.look c.state⟩ script ⟨t, c.ticks, c.log⟩ with
  | ⟨.ok a, script', c'⟩ => ⟨.ok (a, c'.state), script', ⟨c.state, c'.ticks, c'.log⟩⟩
  | ⟨.error s, script', c'⟩ => ⟨.error s, script', ⟨c.state, c'.ticks, c'.log⟩⟩

/-- The value of a `Result`, or its error. -/
def ofExcept (r : Except E α) : Future V T A W S E α :=
  match r with
  | .ok a => pure a
  | .error error => fail error

/-! ## Loops -/

/-- How one turn of a loop ends. -/
inductive Flow (L R : Type) where
  /-- With the next turn, `continue` or the end of the body. -/
  | next (acc : L)
  /-- Behind the loop, `break`. -/
  | leave
  /-- With the result of the surrounding function, `return`. -/
  | ret (a : R)

/-- `for _ in 0..n`, with the variables that the body changes: the result if the body returned one,
and `none` behind the loop. -/
def forLoop {L : Type} (body : L → Future V T A W S E (Flow L α)) :
    ℕ → L → Future V T A W S E (Option α)
  | 0, _ => pure none
  | n + 1, acc => do
    match ← body acc with
    | .next acc => forLoop body n acc
    | .leave => pure none
    | .ret a => pure (some a)

/-! ## Weakest preconditions -/

/-- Run from `c`, the future ends in `Φ`, whatever the script is. -/
def wp (env : Env T W S) (x : Future V T A W S E α) (c : Config V T A W S)
    (Φ : Except (Stop E) α → Config V T A W S → Prop) : Prop :=
  ∀ script, Φ (x env script c).result (x env script c).config

variable {env : Env T W S} {c : Config V T A W S} {x : Future V T A W S E α}
  {f : α → Future V T A W S E β} {Φ Ψ : Except (Stop E) α → Config V T A W S → Prop}

/-- The condition may be weakened. -/
theorem wp_mono (hx : wp env x c Φ) (h : ∀ r c', Φ r c' → Ψ r c') : wp env x c Ψ :=
  fun script => h _ _ (hx script)

/-- Two conditions at once. -/
theorem wp_and (hΦ : wp env x c Φ) (hΨ : wp env x c Ψ) :
    wp env x c fun r c' => Φ r c' ∧ Ψ r c' :=
  fun script => ⟨hΦ script, hΨ script⟩

/-- A result ends where it is. -/
theorem wp_pure {a : α} (h : Φ (.ok a) c) : wp env (pure a) c Φ := fun _ => h

/-- One future after another. -/
theorem wp_bind {Φ : Except (Stop E) β → Config V T A W S → Prop}
    {Q : Except (Stop E) α → Config V T A W S → Prop} (hx : wp env x c Q)
    (hok : ∀ a c', Q (.ok a) c' → wp env (f a) c' Φ)
    (hstop : ∀ s c', Q (.error s) c' → Φ (.error s) c') : wp env (x >>= f) c Φ := by
  intro script
  have hQ := hx script
  show Φ (Future.bind x f env script c).result (Future.bind x f env script c).config
  unfold Future.bind
  rcases hrun : x env script c with ⟨a | s, script', c'⟩
  · rw [hrun] at hQ
    exact hstop _ _ hQ
  · rw [hrun] at hQ
    exact hok _ _ hQ script'

/-- One future after another, under one script. -/
theorem run_bind {script : List (Item V)} {Φ : Except (Stop E) β → Config V T A W S → Prop}
    (hok : ∀ a, (x env script c).result = .ok a →
      Φ (f a env (x env script c).rest (x env script c).config).result
        (f a env (x env script c).rest (x env script c).config).config)
    (hstop : ∀ s, (x env script c).result = .error s → Φ (.error s) (x env script c).config) :
    Φ ((x >>= f) env script c).result ((x >>= f) env script c).config := by
  show Φ (Future.bind x f env script c).result (Future.bind x f env script c).config
  unfold Future.bind
  rcases hrun : x env script c with ⟨s | a, script', c'⟩
  · rw [hrun] at hstop
    exact hstop s rfl
  · rw [hrun] at hok
    exact hok a rfl

/-- An await ends with any answer that is understood, with a timer, or not at all. -/
theorem wp_await {g : V → Option α}
    (hok : ∀ v a, g v = some a → Φ (.ok a) (c.record env (.answered v)))
    (helapsed : ∀ n, Φ (.error (.elapsed n)) (c.record env (.elapsed n)))
    (hpending : Φ (.error .pending) c) :
    wp env (await g) c Φ := by
  intro script
  unfold await
  match script with
  | [] => exact hpending
  | .elapsed n :: script => exact helapsed n
  | .answer v :: script =>
    cases hv : g v with
    | none => simpa only [hv] using hpending
    | some a => simpa only [hv] using hok v a hv

/-- A reading of the clock. -/
theorem wp_now {Φ : Except (Stop E) T → Config V T A W S → Prop}
    (h : Φ (.ok (env.clock c.ticks)) (c.tick env)) : wp env now c Φ := fun _ => h

/-- Something that can be seen from outside. -/
theorem wp_act {a : A} {Φ : Except (Stop E) Unit → Config V T A W S → Prop}
    (h : Φ (.ok ()) (c.record env (.did a))) : wp env (act a) c Φ := fun _ => h

/-- The state. -/
theorem wp_get {Φ : Except (Stop E) S → Config V T A W S → Prop} (h : Φ (.ok c.state) c) :
    wp env get c Φ := fun _ => h

/-- A change of the state. -/
theorem wp_modify {g : S → S} {Φ : Except (Stop E) Unit → Config V T A W S → Prop}
    (h : Φ (.ok ()) (c.update g)) : wp env (modify g) c Φ := fun _ => h

/-- What follows a reading of the clock. -/
theorem wp_now_bind {f : T → Future V T A W S E β}
    {Φ : Except (Stop E) β → Config V T A W S → Prop}
    (h : wp env (f (env.clock c.ticks)) (c.tick env) Φ) : wp env (now >>= f) c Φ :=
  fun script => h script

/-- What follows something that can be seen from outside. -/
theorem wp_act_bind {a : A} {f : Unit → Future V T A W S E β}
    {Φ : Except (Stop E) β → Config V T A W S → Prop}
    (h : wp env (f ()) (c.record env (.did a)) Φ) : wp env (act a >>= f) c Φ :=
  fun script => h script

/-- What follows a look at the state. -/
theorem wp_get_bind {f : S → Future V T A W S E β}
    {Φ : Except (Stop E) β → Config V T A W S → Prop} (h : wp env (f c.state) c Φ) :
    wp env (get >>= f) c Φ :=
  fun script => h script

/-- What follows a change of the state. -/
theorem wp_modify_bind {g : S → S} {f : Unit → Future V T A W S E β}
    {Φ : Except (Stop E) β → Config V T A W S → Prop} (h : wp env (f ()) (c.update g) Φ) :
    wp env (modify g >>= f) c Φ :=
  fun script => h script

/-- What follows a result. -/
theorem wp_pure_bind {a : α} {Φ : Except (Stop E) β → Config V T A W S → Prop}
    (h : wp env (f a) c Φ) : wp env (pure a >>= f) c Φ :=
  fun script => h script

/-- An error. -/
theorem wp_fail {error : E} (h : Φ (.error (.failed error)) c) : wp env (fail error) c Φ :=
  fun _ => h

/-- A panic. -/
theorem wp_panic {reason : Panic} (h : Φ (.error (.panicked reason)) c) :
    wp env (panic reason) c Φ := fun _ => h

/-- A future on a part of the state. -/
theorem wp_zoom {get : S → S'} {set : S' → S → S} {x : Future V T A W S' E α}
    (h : wp ⟨env.clock, fun t => env.look (set t c.state)⟩ x ⟨get c.state, c.ticks, c.log⟩
      fun r c' => Φ r ⟨set c'.state c.state, c'.ticks, c'.log⟩) :
    wp env (zoom get set x) c Φ := fun script => h script

/-- A future whose result is seen in another way. -/
theorem wp_mapResult {g : Except (Stop E) α → Except (Stop F) β}
    {Φ : Except (Stop F) β → Config V T A W S → Prop} (h : wp env x c fun r => Φ (g r)) :
    wp env (x.mapResult g) c Φ := fun script => h script

/-- A future with a timer that is an error: it succeeds exactly when the future does. -/
theorem wp_tryTimeout {elapsed : E} (h : wp env x c fun r c' =>
    ∀ r', (∀ a, r' = .ok a ↔ r = .ok a) → Φ r' c') : wp env (tryTimeout elapsed x) c Φ := by
  apply wp_mapResult
  refine wp_mono h fun r c' hr => hr _ fun a => ?_
  rcases r with (_ | (_ | _) | _ | _) | b
  all_goals simp

/-- The value of a `Result`. -/
theorem wp_ofExcept {r : Except E α} (hok : ∀ a, r = .ok a → Φ (.ok a) c)
    (herror : ∀ error, r = .error error → Φ (.error (.failed error)) c) :
    wp env (ofExcept r) c Φ := by
  cases r with
  | ok a => exact wp_pure (hok a rfl)
  | error error => exact wp_fail (herror error rfl)

/-- A future on a value of its own. -/
theorem wp_within {t : S'} {x : Future V T A W S' E α}
    {Φ : Except (Stop E) (α × S') → Config V T A W S → Prop}
    (h : wp ⟨env.clock, fun _ => env.look c.state⟩ x ⟨t, c.ticks, c.log⟩ fun r c' =>
      Φ (r.map (·, c'.state)) ⟨c.state, c'.ticks, c'.log⟩) :
    wp env (within t x) c Φ := by
  intro script
  have hΦ := h script
  unfold within
  rcases hrun : x ⟨env.clock, fun _ => env.look c.state⟩ script ⟨t, c.ticks, c.log⟩ with
    ⟨s | a, script', c'⟩
  · rw [hrun] at hΦ
    exact hΦ
  · rw [hrun] at hΦ
    exact hΦ

/-- A future on a value of its own leaves the state alone. -/
theorem wp_within_state {t : S'} {x : Future V T A W S' E α} :
    wp env (within t x) c fun _ c' => c'.state = c.state :=
  wp_within fun _ => rfl

/-- An await leaves the state alone. -/
theorem wp_await_state {g : V → Option α} :
    wp env (await (E := E) g) c fun _ c' => c'.state = c.state :=
  wp_await (fun _ _ _ => rfl) (fun _ => rfl) rfl

/-! ## Invariants -/

/-- The invariant `I` holds in the end, however it is reached, and `P` of a result. -/
def Kept (I : Config V T A W S → Prop) (P : α → Config V T A W S → Prop)
    (r : Except (Stop E) α) (c : Config V T A W S) : Prop :=
  I c ∧ ∀ a, r = .ok a → P a c

variable {I : Config V T A W S → Prop} {P : α → Config V T A W S → Prop}
  {Q : β → Config V T A W S → Prop}

/-- A result keeps the invariant. -/
theorem kept_pure {a : α} (hI : I c) (hP : P a c) :
    wp env (pure a : Future V T A W S E α) c (Kept I P) := by
  apply wp_pure
  refine ⟨hI, fun b hb => ?_⟩
  cases hb
  exact hP

/-- One future after another keeps the invariant. -/
theorem kept_bind (hx : wp env x c (Kept I P))
    (hf : ∀ a c', I c' → P a c' → wp env (f a) c' (Kept I Q)) :
    wp env (x >>= f) c (Kept I Q) := by
  refine wp_bind hx (fun a c' h => hf a c' h.1 (h.2 a rfl)) fun s c' h => ⟨h.1, fun b hb => ?_⟩
  cases hb

/-- What is known of a result may be weakened. -/
theorem kept_mono {P' : α → Config V T A W S → Prop} (hx : wp env x c (Kept I P))
    (h : ∀ a c', I c' → P a c' → P' a c') : wp env x c (Kept I P') :=
  wp_mono hx fun _ c' hr => ⟨hr.1, fun a ha => h a c' hr.1 (hr.2 a ha)⟩

/-- A future that stops keeps the invariant. -/
theorem kept_error {s : Stop E} (hI : I c) :
    Kept (α := α) I P (.error s) c := ⟨hI, fun a ha => by cases ha⟩

/-- An error keeps the invariant. -/
theorem kept_fail {error : E} (hI : I c) : wp env (fail (α := α) error) c (Kept I P) :=
  wp_fail (kept_error hI)

/-- A panic keeps the invariant. -/
theorem kept_panic {reason : Panic} (hI : I c) :
    wp env (panic (α := α) (E := E) reason) c (Kept I P) :=
  wp_panic (kept_error hI)

/-- A reading of the clock. -/
theorem kept_now (hI : I (c.tick env)) :
    wp env (now (E := E)) c (Kept I fun t c' => t = env.clock c.ticks ∧ c' = c.tick env) := by
  refine wp_now ⟨hI, fun t ht => ?_⟩
  cases ht
  exact ⟨rfl, rfl⟩

/-- Something that can be seen from outside. -/
theorem kept_act {a : A} (hI : I (c.record env (.did a))) :
    wp env (act (E := E) a) c (Kept I fun _ c' => c' = c.record env (.did a)) :=
  wp_act ⟨hI, fun _ _ => rfl⟩

/-- The state. -/
theorem kept_get (hI : I c) :
    wp env (get (E := E)) c (Kept I fun s c' => s = c.state ∧ c' = c) := by
  refine wp_get ⟨hI, fun s hs => ?_⟩
  cases hs
  exact ⟨rfl, rfl⟩

/-- A change of the state. -/
theorem kept_modify {g : S → S} (hI : I (c.update g)) :
    wp env (modify (E := E) g) c (Kept I fun _ c' => c' = c.update g) :=
  wp_modify ⟨hI, fun _ _ => rfl⟩

/-- The value of a `Result`. -/
theorem kept_ofExcept {r : Except E α} (hI : I c) :
    wp env (ofExcept r) c (Kept I fun a c' => r = .ok a ∧ c' = c) := by
  refine wp_ofExcept (fun a ha => ⟨hI, fun b hb => ?_⟩) fun _ _ => kept_error hI
  cases hb
  exact ⟨ha, rfl⟩

/-- An await keeps an invariant that every answer and every timer keeps. -/
theorem kept_await {g : V → Option α} (hI : I c)
    (helapsed : ∀ n, I (c.record env (.elapsed n)))
    (hok : ∀ v a, g v = some a →
      I (c.record env (.answered v)) ∧ P a (c.record env (.answered v))) :
    wp env (await (E := E) g) c (Kept I P) := by
  refine wp_await (fun v a hv => ⟨(hok v a hv).1, fun b hb => ?_⟩)
    (fun n => kept_error (helapsed n)) (kept_error hI)
  cases hb
  exact (hok v a hv).2

/-- The result of a fallible future as a value. -/
theorem kept_attempt (hx : wp env x c (Kept I P)) :
    wp env (attempt (F := F) x) c (Kept I fun r c' => ∀ a, r = .ok a → P a c') := by
  apply wp_mapResult
  refine wp_mono hx fun r c' hr => ⟨hr.1, ?_⟩
  rcases r with (_ | _ | _ | _) | a
  all_goals
    intro b hb
    cases hb
  · intro a ha
    cases ha
  · intro b hb
    cases hb
    exact hr.2 a rfl

/-- A future with a timer. -/
theorem kept_timeout (hx : wp env x c (Kept I P)) :
    wp env (timeout (F := F) x) c (Kept I fun r c' => ∀ a, r = some (.ok a) → P a c') := by
  apply wp_mapResult
  refine wp_mono hx fun r c' hr => ⟨hr.1, ?_⟩
  rcases r with (_ | (_ | _) | _ | _) | a
  all_goals
    intro b hb
    cases hb
  · intro a ha
    cases ha
  · intro a ha
    cases ha
  · intro b hb
    cases hb
    exact hr.2 a rfl

/-- A future whose error is converted. -/
theorem kept_mapErr {g : E → F} (hx : wp env x c (Kept I P)) :
    wp env (mapErr g x) c (Kept I P) := by
  apply wp_mapResult
  refine wp_mono hx fun r c' hr => ⟨hr.1, ?_⟩
  rcases r with (_ | _ | _ | _) | a
  all_goals
    intro b hb
    cases hb
  exact hr.2 a rfl

/-- A future with a timer that is an error. -/
theorem kept_tryTimeout {elapsed : E} (hx : wp env x c (Kept I P)) :
    wp env (tryTimeout elapsed x) c (Kept I P) := by
  apply wp_tryTimeout
  refine wp_mono hx fun r c' hr r' hr' => ⟨hr.1, fun a ha => ?_⟩
  exact hr.2 a ((hr' a).1 ha)

/-- A future on a value of its own. -/
theorem kept_within {t : S'} {x : Future V T A W S' E α}
    {P : α × S' → Config V T A W S → Prop}
    (h : wp ⟨env.clock, fun _ => env.look c.state⟩ x ⟨t, c.ticks, c.log⟩
      (Kept (fun c' => I ⟨c.state, c'.ticks, c'.log⟩) fun a c' =>
        P (a, c'.state) ⟨c.state, c'.ticks, c'.log⟩)) :
    wp env (within t x) c (Kept I P) := by
  apply wp_within
  refine wp_mono h fun r c' hr => ⟨hr.1, fun a ha => ?_⟩
  cases r with
  | error s => cases ha
  | ok b =>
    cases ha
    exact hr.2 b rfl

/-- A loop keeps what every turn of its body keeps. -/
theorem kept_forLoop_all {L : Type} {body : L → Future V T A W S E (Flow L α)}
    {J : L → Config V T A W S → Prop} {K : Config V T A W S → Prop}
    (hbody : ∀ acc c, I c → J acc c → wp env (body acc) c (Kept I fun r c' =>
      (∀ acc', r = .next acc' → J acc' c') ∧ (r = .leave → K c') ∧ ∀ a, r = .ret a → P a c'))
    (hend : ∀ acc c, J acc c → K c) (n : ℕ) (acc : L) (hI : I c) (hJ : J acc c) :
    wp env (forLoop body n acc) c (Kept I fun r c' =>
      (r = none → K c') ∧ ∀ a, r = some a → P a c') := by
  induction n generalizing acc c with
  | zero =>
    unfold forLoop
    refine kept_pure hI ⟨fun _ => hend acc c hJ, fun a ha => ?_⟩
    cases ha
  | succ n ih =>
    unfold forLoop
    refine kept_bind (hbody acc c hI hJ) fun r c' hI' hr => ?_
    cases r with
    | next acc' => exact ih acc' hI' (hr.1 acc' rfl)
    | leave =>
      refine kept_pure hI' ⟨fun _ => hr.2.1 rfl, fun a ha => ?_⟩
      cases ha
    | ret a =>
      refine kept_pure hI' ⟨fun h => ?_, fun b hb => ?_⟩
      · cases h
      · cases hb
        exact hr.2.2 a rfl

/-- A loop that is only of interest when it returns. -/
theorem kept_forLoop {L : Type} {body : L → Future V T A W S E (Flow L α)}
    {J : L → Config V T A W S → Prop}
    (hbody : ∀ acc c, I c → J acc c → wp env (body acc) c (Kept I fun r c' =>
      (∀ acc', r = .next acc' → J acc' c') ∧ ∀ a, r = .ret a → P a c'))
    (n : ℕ) (acc : L) (hI : I c) (hJ : J acc c) :
    wp env (forLoop body n acc) c (Kept I fun r c' => ∀ a, r = some a → P a c') := by
  refine kept_mono (kept_forLoop_all (K := fun _ => True) ?_ (fun _ _ _ => trivial) n acc hI hJ)
    fun r c' _ hr => hr.2
  intro acc c hI hJ
  exact kept_mono (hbody acc c hI hJ) fun r c' _ hr => ⟨hr.1, fun _ => trivial, hr.2⟩

/-! ## Steps -/

/-- What a future is made of, from `c₀` on: readings of the clock, events of the kinds `R`, and
changes of the state that `U` allows where they happen. -/
inductive Steps (R : Event V T A → Prop) (U : Config V T A W S → (S → S) → Prop) (env : Env T W S)
    (c₀ : Config V T A W S) : Config V T A W S → Prop
  /-- Nothing has happened. -/
  | refl : Steps R U env c₀ c₀
  /-- The clock was read. -/
  | tick {c : Config V T A W S} : Steps R U env c₀ c → Steps R U env c₀ (c.tick env)
  /-- An event was put on the log. -/
  | record {c : Config V T A W S} {ev : Event V T A} : Steps R U env c₀ c → R ev →
    Steps R U env c₀ (c.record env ev)
  /-- The state was changed. -/
  | update {c : Config V T A W S} {f : S → S} : Steps R U env c₀ c → U c f →
    Steps R U env c₀ (c.update f)

section
variable {R : Event V T A → Prop} {U : Config V T A W S → (S → S) → Prop}
  {c₀ : Config V T A W S}

/-- What holds at first, and is kept by every step, holds in the end. -/
theorem Steps.invariant {J : Config V T A W S → Prop} (h : Steps R U env c₀ c) (h₀ : J c₀)
    (htick : ∀ c, J c → J (c.tick env)) (hrecord : ∀ c ev, J c → R ev → J (c.record env ev))
    (hupdate : ∀ c f, J c → U c f → J (c.update f)) : J c := by
  induction h with
  | refl => exact h₀
  | tick _ ih => exact htick _ ih
  | record _ hR ih => exact hrecord _ _ ih hR
  | update _ hU ih => exact hupdate _ _ ih hU

/-- More kinds of events and more changes may be allowed. -/
theorem Steps.mono {R' : Event V T A → Prop} {U' : Config V T A W S → (S → S) → Prop}
    (h : Steps R U env c₀ c) (hR : ∀ ev, R ev → R' ev) (hU : ∀ c f, U c f → U' c f) :
    Steps R' U' env c₀ c :=
  h.invariant .refl (fun _ h => h.tick) (fun _ _ h hev => h.record (hR _ hev))
    fun _ _ h hf => h.update (hU _ _ hf)

/-- Steps after steps. -/
theorem Steps.trans {c₁ : Config V T A W S} (h : Steps R U env c₀ c₁) (h' : Steps R U env c₁ c) :
    Steps R U env c₀ c :=
  h'.invariant h (fun _ h => h.tick) (fun _ _ h hev => h.record hev) fun _ _ h hf => h.update hf

/-- The log does not get shorter. -/
theorem Steps.length_le (h : Steps R U env c₀ c) : c₀.log.length ≤ c.log.length :=
  h.invariant (J := fun c : Config V T A W S => c₀.log.length ≤ c.log.length) le_rfl
    (fun _ h => h.trans (Nat.le_succ _)) (fun _ _ h _ => h.trans (Nat.le_succ _)) fun _ _ h _ => h

/-- An await. -/
theorem steps_await {g : V → Option α} (h : Steps R U env c₀ c) (hanswer : ∀ v, R (.answered v))
    (helapsed : ∀ n, R (.elapsed n)) :
    wp env (await (E := E) g) c (Kept (Steps R U env c₀) fun a c' =>
      ∃ v, g v = some a ∧ c' = c.record env (.answered v)) :=
  kept_await h (fun n => h.record (helapsed n)) fun v _ hv =>
    ⟨h.record (hanswer v), v, hv, rfl⟩

/-- Steps without a change of the state leave it alone. -/
theorem Steps.state_eq (h : Steps R (fun _ _ => False) env c₀ c) : c.state = c₀.state :=
  h.invariant (J := fun c : Config V T A W S => c.state = c₀.state) rfl (fun _ h => h)
    (fun _ _ h _ => h) fun _ _ _ hf => hf.elim

/-- Steps of a part of the state are steps of the whole. -/
theorem Steps.zoom {g : S → S'} {u : S' → S → S} (hget : ∀ t s, g (u t s) = t)
    (hset : ∀ t t' s, u t (u t' s) = u t s) {s : S}
    {U' : Config V T A W S' → (S' → S') → Prop} {t₀ t : Config V T A W S'}
    (h : Steps R U' ⟨env.clock, fun t => env.look (u t s)⟩ t₀ t)
    (hU : ∀ (t : Config V T A W S') (f : S' → S'), U' t f →
      U ⟨u t.state s, t.ticks, t.log⟩ fun s => u (f (g s)) s) :
    Steps R U env ⟨u t₀.state s, t₀.ticks, t₀.log⟩ ⟨u t.state s, t.ticks, t.log⟩ := by
  refine h.invariant (J := fun t => Steps R U env ⟨u t₀.state s, t₀.ticks, t₀.log⟩
    ⟨u t.state s, t.ticks, t.log⟩) .refl (fun _ h => h.tick) (fun _ _ h hev => h.record hev) ?_
  intro t f h hf
  have hstep := h.update (hU t f hf)
  unfold Config.update at hstep
  simp only [hget, hset] at hstep
  exact hstep

/-- Steps of a value of its own are steps that leave the state alone. -/
theorem Steps.within {s : S} {U' : Config V T A W S' → (S' → S') → Prop}
    {t₀ t : Config V T A W S'} (h : Steps R U' ⟨env.clock, fun _ => env.look s⟩ t₀ t) :
    Steps R U env ⟨s, t₀.ticks, t₀.log⟩ ⟨s, t.ticks, t.log⟩ :=
  h.invariant (J := fun t => Steps R U env ⟨s, t₀.ticks, t₀.log⟩ ⟨s, t.ticks, t.log⟩) .refl
    (fun _ h => h.tick) (fun _ _ h hev => h.record hev) fun _ _ h _ => h

end

end Future

end

end PlayitAgent
