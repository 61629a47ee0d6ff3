import PlayitAgent.Control.Answers
import PlayitAgent.Control.Published

/-!
# Never stuck in `Reconnecting`

While `Reconnecting` is published, the session should be expired, so that the next `update`
registers it again. The upkeep of a session sees to that: it tells the session to be expired
whenever it publishes `Reconnecting`. A registration that fails has published `Reconnecting` before,
and leaves the session with another latest pong, which may be on the flow of the registration again.
A reload that fails has published `Reconnecting` too, and leaves the session as it was, expired or
not. These are the two ways to be stuck, and a call goes one of them by the session before it and by
the answers of the environment.

All this is about a session with a subscriber, that is, with a receiver at every send: what is sent
without one is not stored, and the state that is published stays the old one.
-/

namespace PlayitAgent

open Future

section
variable {I A W S E : Type} {p : Platform}

/-! ## Logs grow -/

/-- Steps keep what more events keep. -/
theorem log_of_steps {K : List (ControlEvent I × W) → Prop} (hcons : ∀ e log, K log → K (e :: log))
    {R : ControlEvent I → Prop} {U : ControlConfig I W S → (S → S) → Prop} {env : Env UInt64 W S}
    {c₀ c : ControlConfig I W S} (h : K c₀.log) (hsteps : Steps R U env c₀ c) : K c.log :=
  hsteps.invariant (J := fun c : ControlConfig I W S => K c.log) h (fun _ h => hcons _ _ h)
    (fun _ _ h _ => hcons _ _ h) fun _ _ h _ => h

namespace MaintainedControl

/-- So does the upkeep of a session. -/
theorem serves_log {K : List (ControlEvent I × W) → Prop} (hcons : ∀ e log, K log → K (e :: log))
    (env : Env UInt64 W (MaintainedControl I A)) : Serves env fun c => K c.log where
  tick _ h := hcons _ _ h
  overflow _ _ h := hcons _ _ h
  stopped _ h := hcons _ _ h
  session _ _ hx h := wp_mono (onControl_steps fun env' => hx env' _) fun _ _ hr =>
    log_of_steps hcons h hr.1
  noted _ _ _ _ h := h
  expire c f _ _ h := by
    refine ⟨h, fun c' hset => ?_⟩
    show K c'.log
    rcases hset.log_eq with heq | ⟨w, heq⟩
    · rw [heq]
      exact h
    · rw [heq]
      exact hcons _ _ h

end MaintainedControl

/-! ## Registrations are signed -/

/-- What was signed stays so. -/
theorem signed_cons (e : ControlEvent I × W) (log : List (ControlEvent I × W))
    (h : signed log ≠ none) : signed (e :: log) ≠ none := by
  unfold signed at *
  rw [List.findSome?_cons]
  split
  · exact Option.some_ne_none _
  · exact h

/-- A registration is signed. -/
theorem EstablishedControl.authenticate_signed {env : Env UInt64 W (EstablishedControl I A)}
    {c : ControlConfig I W (EstablishedControl I A)} :
    wp env (authenticate p) c fun _ c' => signed c'.log ≠ none := by
  unfold authenticate
  refine wp_bind (Q := fun _ c' => signed c'.log ≠ none) ?_ ?_ fun _ _ h => h
  · apply wp_zoom
    refine wp_mono (ConnectedControl.authenticate_kept
      (ConnectedControl.conserves_tracks c.state.conn.control_addr)
      ⟨rfl, rfl, Option.some_ne_none _⟩) fun _ _ hr => hr.1.signed
  · intro registered c₁ h₁
    apply wp_onRegistered
    · intro _
      exact h₁
    · intro _ w
      exact signed_cons _ _ h₁

/-- Nothing but the buffer has changed, the clock was not read, and datagrams were exchanged at
most. -/
structure ConnectedControl.Framed (c c' : ControlConfig I W (ConnectedControl I)) : Prop where
  ticks : c'.ticks = c.ticks
  state : ∃ g, c'.state = rebuffer g c.state
  log : ∃ new, c'.log = new ++ c.log ∧ ∀ e ∈ new, e.1.Exchange

namespace ConnectedControl

variable {env : Env UInt64 W (ConnectedControl I)} {c c' : ControlConfig I W (ConnectedControl I)}

/-- One more event. -/
theorem Framed.record (h : Framed c c') {ev : ControlEvent I} (hev : ev.Exchange) :
    Framed c (c'.record env ev) := by
  obtain ⟨new, hnew, hall⟩ := h.log
  refine ⟨h.ticks, h.state, (ev, _) :: new, congrArg (List.cons _) hnew, ?_⟩
  intro e he
  rcases List.mem_cons.1 he with rfl | he
  · exact hev
  · exact hall e he

/-- The buffer is overwritten. -/
theorem Framed.buffer (h : Framed c c') (bytes : List UInt8) :
    Framed c (c'.update fun self => { self with buffer := bytes }) := by
  obtain ⟨g, hg⟩ := h.state
  refine ⟨h.ticks, ⟨fun _ => bytes, ?_⟩, h.log⟩
  show ({ c'.state with buffer := bytes } : ConnectedControl I) = _
  rw [hg]
  rfl

/-- `ConnectedControl::send`. -/
theorem send_framed (msg : WriteM ℕ) :
    wp env (send msg) c (Kept (Framed c) fun _ _ => True) := by
  have hsame : Framed c c := ⟨rfl, ⟨id, rfl⟩, [], rfl, fun e he => by cases he⟩
  unfold send encoded sendTo
  refine kept_bind (kept_modify (hsame.buffer [])) fun _ c₁ h₁ _ => ?_
  refine kept_bind (P := fun _ _ => True) ?_ fun bytes c₂ h₂ _ => ?_
  · split
    · exact kept_pure h₁ trivial
    · exact kept_fail h₁
    · exact kept_panic h₁
  refine kept_bind (kept_modify (h₂.buffer bytes)) fun _ c₃ h₃ _ => ?_
  refine kept_bind (kept_get h₃) fun self c₄ h₄ _ => ?_
  refine kept_bind (kept_act (h₄.record trivial)) fun _ c₅ h₅ _ => ?_
  refine kept_bind (kept_await (P := fun _ _ => True) h₅ (fun _ => h₅.record trivial)
    fun _ _ _ => ⟨h₅.record trivial, trivial⟩) fun res c₆ h₆ _ => ?_
  refine kept_bind (kept_ofExcept h₆) fun n c₇ h₇ _ => ?_
  exact kept_pure h₇ trivial

end ConnectedControl

/-- A request of a session does not change whether it is expired. -/
theorem EstablishedControl.send_framed {env : Env UInt64 W (EstablishedControl I A)}
    {c : ControlConfig I W (EstablishedControl I A)} (request_id : UInt64)
    (content : ControlRequest) :
    wp env (send p request_id content) c fun _ c' => c'.ticks = c.ticks ∧
      (∀ now, c'.state.isExpiredAt now = c.state.isExpiredAt now) ∧
      ∃ new, c'.log = new ++ c.log ∧ ∀ e ∈ new, e.1.Exchange := by
  unfold send mapErr
  apply wp_mapResult
  apply wp_zoom
  refine wp_mono (ConnectedControl.send_framed _) fun _ c' hr => ?_
  obtain ⟨hticks, ⟨g, hg⟩, hlog⟩ := hr.1
  refine ⟨hticks, fun now => ?_, hlog⟩
  show ({ c.state with conn := c'.state } : EstablishedControl I A).isExpiredAt now = _
  rw [hg]
  rfl

namespace MaintainedControl

/-- A future on the session, in the session that is kept alive. -/
theorem wp_onControl {α : Type} {env : Env UInt64 W (MaintainedControl I A)}
    {c : ControlConfig I W (MaintainedControl I A)}
    {x : ControlM I W (EstablishedControl I A) E α}
    {P : Except (Stop E) α → ControlConfig I W (EstablishedControl I A) → Prop}
    (hx : ∀ env' : Env UInt64 W (EstablishedControl I A),
      wp env' x ⟨c.state.control, c.ticks, c.log⟩ P) :
    wp env (onControl x) c fun r c' => P r ⟨c'.state.control, c'.ticks, c'.log⟩ ∧
      c'.state = { c.state with control := c'.state.control } := by
  apply wp_zoom
  exact wp_mono (hx _) fun _ _ hr => ⟨hr, rfl⟩

/-- `update` registers an expired session again. -/
theorem update_signed {env : Env UInt64 W (MaintainedControl I A)}
    {c : ControlConfig I W (MaintainedControl I A)}
    (hexpired : c.state.control.isExpiredAt (env.clock c.ticks) ≠ none) :
    wp env (update (E := E) p) c fun _ c' => signed c'.log ≠ none := by
  unfold update
  refine wp_bind (Q := fun _ c' => signed c'.log ≠ none) ?_ ?_ fun _ _ h => h
  · apply wp_renew
    · intro hfresh
      exact absurd hfresh hexpired
    intro _ c₁ _
    refine wp_reauthenticate (P := fun _ c' => signed c'.log ≠ none) ?_ (fun _ _ _ h _ => h) ?_ ?_
    · intro c₂ _
      exact wp_mono (wp_onControl fun _ => EstablishedControl.authenticate_signed)
        fun _ c' hr => hr.1
    · intro s c₃ h₃ c₄
      exact ⟨signed_cons _ _ h₃, fun _ => signed_cons _ _ h₃, h₃⟩
    · intro c₃ h₃ c₄ c₅ hset
      have h₄ : signed c₄.log ≠ none := signed_cons _ _ h₃
      rcases hset.log_eq with heq | ⟨w, heq⟩
      · rw [heq]
        exact h₄
      · rw [heq]
        exact signed_cons _ _ h₄
  · intro usable c₁ h₁
    split
    · exact wp_mono (serve_kept (serves_log signed_cons env) h₁) fun _ _ hr => hr.1
    · exact wp_pure h₁

/-! ## The upkeep -/

/-- The upkeep of a session publishes `Reconnecting` only when it tells the session to
be expired. -/
theorem serves_forced (env : Env UInt64 W (MaintainedControl I A)) :
    Serves (I := I) env fun c =>
      c.state.control_state.value = .reconnecting → c.state.control.force_expired = true where
  tick _ h := h
  overflow _ _ h := h
  stopped _ h := h
  session x c hx h := by
    refine wp_mono (wp_onControl fun env' => wp_mono (hx env' _) fun _ _ hr => hr.2)
      fun _ c' hr hstate => ?_
    rw [hr.2] at hstate
    exact hr.1.trans (h hstate)
  noted c f hcontrol hstate h hreconnecting := by
    show (f c.state).control.force_expired = true
    rw [hcontrol]
    refine h ?_
    rw [← hstate]
    exact hreconnecting
  expire c f hcontrol _ _ := by
    constructor
    · intro _
      show (f c.state).control.force_expired = true
      rw [hcontrol]
      rfl
    · intro c' _ _
      show (f c'.state).control.force_expired = true
      rw [hcontrol]
      rfl

/-- While there is a receiver at every send, the state that is set is published. -/
theorem StateSet.shows {env : Env UInt64 W (MaintainedControl I A)} {state : ControlConnectionState}
    {c c' : ControlConfig I W (MaintainedControl I A)} (h : StateSet env state c c')
    (hlive : c.state.control_state.Live) :
    c'.state.control_state.Live ∧ c'.state.control_state.value = state := by
  cases h with
  | same hvalue => exact ⟨hlive, hvalue⟩
  | published _ _ => exact ⟨fun n => hlive (n + 1), if_pos (hlive 0)⟩
  | lost _ hnone => cases (hlive 0).symm.trans hnone

/-- There stay receivers, whatever the upkeep does. -/
theorem serves_live (env : Env UInt64 W (MaintainedControl I A)) :
    Serves (I := I) env fun c => c.state.control_state.Live where
  tick _ h := h
  overflow _ _ h := h
  stopped _ h := h
  session x c _ h := by
    refine wp_mono (wp_onControl (P := fun _ _ => True) fun _ _ => trivial) fun _ c' hr => ?_
    rw [hr.2]
    exact h
  noted c f _ hstate h := by
    show (f c.state).control_state.Live
    rw [hstate]
    exact h
  expire c f _ hstate h := by
    constructor
    · show (f c.state).control_state.Live
      rw [hstate]
      exact h
    · intro c' hset
      show (f c'.state).control_state.Live
      rw [hstate]
      exact (hset.shows h).1

/-! ## Calls that return -/

/-- The call has returned, with a result or an error. -/
def Returned {α : Type} : Except (Stop E) α → Prop
  | .ok _ => True
  | .error (.failed _) => True
  | .error _ => False

/-- `Reconnecting` is published only while the session is expired at the next reading of
the clock. -/
def Expiring (clock : ℕ → UInt64) (c : ControlConfig I W (MaintainedControl I A)) : Prop :=
  c.state.control_state.value = .reconnecting → c.state.control.isExpiredAt (clock c.ticks) ≠ none

/-- A session that was told to be expired is. -/
theorem isExpiredAt_of_forced {self : EstablishedControl I A} (h : self.force_expired = true)
    (now : UInt64) : self.isExpiredAt now ≠ none := by
  unfold EstablishedControl.isExpiredAt
  rw [if_pos h]
  exact Option.some_ne_none _

variable {clock : ℕ → UInt64} {env : Env UInt64 W (MaintainedControl I A)}
  {c : ControlConfig I W (MaintainedControl I A)}

/-- The registration of a session that fails: the condition on the session from before under which
it is still expired, with the latest pong that has arrived, at the next reading of the clock. -/
def StillExpired (p : Platform) (clock : ℕ → UInt64) (self : EstablishedControl I A) (ticks : ℕ)
    (log : List (ControlEvent I × W)) : Prop :=
  ∀ pong, p.latestPong self.conn.control_addr log = some pong →
    (self.refreshed pong self.conn.buffer).isExpiredAt (clock ticks) ≠ none

/-- A registration that fails leaves the session from before, with the latest pong that
has arrived. -/
theorem authenticate_failed {env : Env UInt64 W (EstablishedControl I A)}
    {c : ControlConfig I W (EstablishedControl I A)} :
    wp env (EstablishedControl.authenticate p) c fun r c' => ∀ s, r = .error s →
      p.latestPong c.state.conn.control_addr c'.log = some c'.state.conn.pong_latest ∧
        c'.state = c.state.refreshed c'.state.conn.pong_latest c'.state.conn.buffer := by
  have hpong : wp env (EstablishedControl.authenticate p) c fun r c' => ∀ s, r = .error s →
      p.latestPong c.state.conn.control_addr c'.log = some c'.state.conn.pong_latest := by
    unfold EstablishedControl.authenticate
    refine wp_bind (Q := fun _ c' =>
      p.latestPong c.state.conn.control_addr c'.log = some c'.state.conn.pong_latest) ?_ ?_
      fun _ _ h _ _ => h
    · apply wp_zoom
      exact wp_mono (ConnectedControl.authenticate_kept
        (ConnectedControl.conserves_tracks c.state.conn.control_addr)
        ⟨rfl, rfl, Option.some_ne_none _⟩) fun _ _ hr => hr.1.latestPong
    · intro registered c₁ _
      apply EstablishedControl.wp_onRegistered
      · intro _ s hs
        cases hs
      · intro _ w s hs
        cases hs
  exact wp_mono (wp_and hpong EstablishedControl.authenticate_stopped) fun _ _ hr s hs =>
    ⟨hr.1 s hs, hr.2 s hs⟩

/-- A renewal that fails leaves the session from before, with the latest pong that has arrived. -/
theorem renewal_failed {env : Env UInt64 W (EstablishedControl I A)}
    {c : ControlConfig I W (EstablishedControl I A)} :
    wp env (EstablishedControl.renewal (E := E) p) c fun r c' => ∀ error,
      r = .ok (some (.error error)) →
      p.latestPong c.state.conn.control_addr c'.log = some c'.state.conn.pong_latest ∧
        c'.state = c.state.refreshed c'.state.conn.pong_latest c'.state.conn.buffer := by
  unfold EstablishedControl.renewal
  refine wp_bind (Q := fun r c₁ => (∃ reason, r = .ok reason) ∧ c₁.state = c.state) ?_ ?_
    fun s c₁ h₁ => ?_
  · refine EstablishedControl.wp_isExpired fun c₁ hc₁ => ⟨⟨_, rfl⟩, ?_⟩
    rcases hc₁ with rfl | rfl
    · rfl
    · rfl
  · rintro (_ | reason) c₁ ⟨-, hstate⟩
    · refine wp_pure fun error h => ?_
      cases h
    · rw [← hstate]
      refine wp_bind (Q := fun r c₂ => ∀ error, r = .ok (.error error) →
        p.latestPong c₁.state.conn.control_addr c₂.log = some c₂.state.conn.pong_latest ∧
          c₂.state = c₁.state.refreshed c₂.state.conn.pong_latest c₂.state.conn.buffer) ?_ ?_ ?_
      · -- An error of the timer is one of the registration.
        apply wp_mapResult
        apply wp_mapResult
        refine wp_mono authenticate_failed fun r c₂ hr error herror => ?_
        cases r with
        | error stop => exact hr stop rfl
        | ok _ => cases herror
      · intro registered c₂ h₂
        refine wp_pure fun error herror => h₂ error ?_
        cases herror
        rfl
      · intro s c₂ _ error herror
        cases herror
  · obtain ⟨⟨reason, h⟩, -⟩ := h₁
    cases h

/-- There stay receivers, whatever `renew` does. -/
theorem renew_live (hlive : c.state.control_state.Live) :
    wp env (renew (E := E) p) c fun _ c' => c'.state.control_state.Live := by
  have hread {c₁ : ControlConfig I W (MaintainedControl I A)} (hc₁ : c₁ = c ∨ c₁ = c.tick env) :
      c₁.state.control_state.Live := by
    rcases hc₁ with rfl | rfl
    · exact hlive
    · exact hlive
  refine wp_renew (fun _ _ hc₁ => hread hc₁) fun _ c₁ hc₁ => ?_
  refine wp_reauthenticate (P := fun _ c₂ => c₂.state.control_state.Live) ?_ (fun _ _ _ h _ => h)
    (fun _ _ h => ⟨h, fun _ => h, h⟩) fun _ h _ hset => (hset.shows h).1
  intro c₂ hset
  refine wp_mono (wp_onControl (P := fun _ _ => True) fun _ _ => trivial) fun _ c₃ hr => ?_
  rw [hr.2]
  exact (hset.shows (hread hc₁)).1

/-- How `renew` ends, while there is a receiver at every send: with a session that can be used, and
that is told to be expired while `Reconnecting` is published, or with `Reconnecting` published. -/
theorem renew_ends (hlive : c.state.control_state.Live) (hstart : Expiring env.clock c) :
    wp env (renew (E := E) p) c fun r c' => Returned r →
      (r = .ok true ∧ (c'.state.control_state.value = .reconnecting →
        c'.state.control.force_expired = true)) ∨
      (r = .ok false ∧ c'.state.control_state.value = .reconnecting) := by
  apply wp_renew
  · -- The session is not expired, so `Reconnecting` was not published before.
    intro hfresh c₁ hc₁ _
    have hstate : c₁.state = c.state := by
      rcases hc₁ with rfl | rfl
      · rfl
      · rfl
    rw [hstate]
    exact .inl ⟨rfl, fun hvalue => absurd hfresh (hstart hvalue)⟩
  · -- The session is expired, and registered again.
    intro _ c₁ hc₁
    have hlive₁ : c₁.state.control_state.Live := by
      rcases hc₁ with rfl | rfl
      · exact hlive
      · exact hlive
    refine wp_reauthenticate (P := fun _ c₂ => c₂.state.control_state.Live ∧
      c₂.state.control_state.value = .reconnecting) ?_ ?_ ?_ ?_
    · intro c₂ hset
      refine wp_mono (wp_onControl (P := fun _ _ => True) fun _ _ => trivial) fun _ c₃ hr => ?_
      rw [hr.2]
      exact hset.shows hlive₁
    · intro s s' c₂ h₂ hs' hreturned
      cases s' with
      | failed e => exact absurd rfl (hs' e)
      | _ => exact hreturned.elim
    · intro s c₂ h₂ c₃
      exact ⟨fun _ => .inr ⟨rfl, h₂.2⟩, fun n h => h.elim, fun h => h.elim⟩
    · intro c₂ h₂ c₃ c₄ hset _
      refine .inl ⟨rfl, fun hreconnecting => ?_⟩
      cases (hset.shows h₂.1).2.symm.trans hreconnecting

/-- `update` that returns, after a session that was expired while `Reconnecting` was published: it
is so again, except when its renewal fails and brings back the flow of the session. -/
theorem update_expiring_iff (hlive : c.state.control_state.Live) (hstart : Expiring env.clock c)
    (script : List (Item (Answer I))) :
    let ran := update (E := E) p env script c
    let renewed : Ran (Answer I) UInt64 Action Unit (EstablishedControl I A) E _ :=
      EstablishedControl.renewal p ⟨env.clock, fun _ => ()⟩ script ⟨c.state.control, c.ticks, []⟩
    Returned ran.result → (Expiring env.clock ran.config ↔ ∀ error,
      renewed.result = .ok (some (.error error)) →
      StillExpired p env.clock c.state.control renewed.config.ticks renewed.config.log) := by
  intro ran renewed
  have hends := renew_ends (p := p) (E := E) hlive hstart script
  obtain ⟨husable, hunusable⟩ := renew_jointly (p := p) (E := E) env
    (⟨env.clock, fun _ => ()⟩ : Env UInt64 Unit (EstablishedControl I A)) script c
    ⟨c.state.control, c.ticks, []⟩ rfl rfl rfl
  refine run_bind (x := renew p) (Φ := fun r c' => Returned r → (Expiring env.clock c' ↔ ∀ error,
    renewed.result = .ok (some (.error error)) →
    StillExpired p env.clock c.state.control renewed.config.ticks renewed.config.log)) ?_ ?_
  · intro usable hresult
    rw [hresult] at hends husable hunusable
    cases usable with
    | true =>
      -- The session can be used, and its upkeep tells it to be expired when that is published.
      have hforced : (renew (E := E) p env script c).config.state.control_state.value =
          .reconnecting →
          (renew (E := E) p env script c).config.state.control.force_expired = true := by
        rcases hends trivial with ⟨-, h⟩ | ⟨h, -⟩
        · exact h
        · cases h
      have hserve : wp env (serve (E := E) p) (renew (E := E) p env script c).config _ :=
        serve_kept (serves_forced env) hforced
      intro _
      refine iff_of_true (fun hstate => ?_) fun error herror => absurd herror (husable rfl error)
      exact isExpiredAt_of_forced ((hserve _).1 hstate) _
    | false =>
      -- The renewal has failed, and leaves the session that `update` leaves.
      intro _
      obtain ⟨⟨error, herror⟩, hcontrol, hticks⟩ := hunusable rfl
      have hvalue : (renew (E := E) p env script c).config.state.control_state.value =
          .reconnecting := by
        rcases hends trivial with ⟨h, -⟩ | ⟨-, h⟩
        · cases h
        · exact h
      have hrenewal : wp ⟨env.clock, fun _ => ()⟩ (EstablishedControl.renewal (E := E) p)
          ⟨c.state.control, c.ticks, []⟩ _ := renewal_failed
      obtain ⟨hpong, hrefreshed⟩ := hrenewal script error herror
      show Expiring env.clock (renew (E := E) p env script c).config ↔ _
      unfold Expiring StillExpired
      rw [hcontrol, hticks, hrefreshed]
      constructor
      · intro h _ _ pong hlatest
        cases hpong.symm.trans hlatest
        exact h hvalue
      · intro h _
        exact h error herror _ hpong
  · intro s hresult hreturned
    rw [hresult] at hends
    cases s with
    | failed e =>
      rcases hends trivial with ⟨h, -⟩ | ⟨h, -⟩
      · cases h
      · cases h
    | _ => exact hreturned.elim

/-- There stay receivers, whatever `update` does. -/
theorem update_live (hlive : c.state.control_state.Live) :
    wp env (update (E := E) p) c fun _ c' => c'.state.control_state.Live := by
  unfold update
  refine wp_bind (renew_live hlive) (fun usable c₁ h₁ => ?_) fun _ _ h₁ => h₁
  split
  · exact wp_mono (serve_kept (serves_live env) h₁) fun _ _ hr => hr.1
  · exact wp_pure h₁

/-! ## Reloads -/

/-- A reload tells of itself: it is forced, or the addresses arrive. -/
def Told (force : Bool) (script : List (Item (Answer I))) : Prop :=
  force = true ∨ ∃ addresses rest, script = .answer (.addresses (.ok addresses)) :: rest

/-- `set_control_state`, while there is a receiver at every send. -/
theorem setControlState_shows (hlive : c.state.control_state.Live)
    (state : ControlConnectionState) :
    wp env (setControlState (E := E) state) c fun r c' => r = .ok () ∧
      c'.state.control_state.Live ∧ c'.state.control_state.value = state :=
  wp_setControlState fun _ hset => ⟨rfl, hset.shows hlive⟩

/-- The end of a replacement, likewise. -/
theorem reconnected_shows (hlive : c.state.control_state.Live) :
    wp env (reconnected (E := E)) c fun r c' => r = .ok () ∧
      c'.state.control_state.Live ∧ c'.state.control_state.value = .connected := by
  refine wp_reconnected fun m w c' _ hstate _ hset => ⟨rfl, hset.shows ?_⟩
  show m.control_state.Live
  rw [hstate]
  exact hlive

/-- `replace_connection` that does not succeed has published `Reconnecting`, one that does has
published `Connected`, and one that keeps the connection has done nothing. -/
theorem replaceConnection_shows (hlive : c.state.control_state.Live)
    (connected : ConnectedControl I) (force : Bool) :
    wp env (replaceConnection p connected force) c fun r c' => c'.state.control_state.Live ∧
      (∀ s, r = .error s → c'.state.control_state.value = .reconnecting) ∧
        (r = .ok true → c'.state.control_state.value = .connected) ∧ (r = .ok false → c' = c) := by
  unfold replaceConnection
  apply wp_get_bind
  split
  · refine wp_pure ⟨hlive, fun s hs => ?_, fun h => ?_, fun _ => rfl⟩
    · cases hs
    · cases h
  refine wp_bind (setControlState_shows hlive .reconnecting) ?_ fun s c₁ h₁ => by cases h₁.1
  -- The registration is made on the new connection, so the session is not touched.
  rintro _ c₁ ⟨-, hshows₁⟩
  refine wp_bind (Q := fun _ c' => c'.state.control_state.Live ∧
    c'.state.control_state.value = .reconnecting) ?_ ?_
    fun s c₂ h₂ => ⟨h₂.1, fun _ _ => h₂.2, fun h => (by cases h), fun h => (by cases h)⟩
  · apply wp_tryTimeout
    refine wp_mono wp_within_state fun _ c' hr _ _ => ?_
    rw [hr]
    exact hshows₁
  · intro authenticated c₂ h₂
    apply wp_modify_bind
    refine wp_bind (reconnected_shows h₂.1) ?_ fun s c₃ h₃ => by cases h₃.1
    rintro _ c₃ ⟨-, hlive₃, hvalue₃⟩
    refine wp_pure ⟨hlive₃, fun s hs => ?_, fun _ => hvalue₃, fun h => ?_⟩
    · cases hs
    · cases h

/-- `reload_control_addr`, from the addresses on, that does not succeed has published
`Reconnecting`, and one that does has published `Connected`. -/
theorem reloadTo_shows (hlive : c.state.control_state.Live) (addresses : List SocketAddr)
    (force : Bool) :
    wp env (reloadTo p addresses force) c fun r c' => c'.state.control_state.Live ∧
      (∀ s, r = .error s → c'.state.control_state.value = .reconnecting) ∧
        ∀ b, r = .ok b → c'.state.control_state.value = .connected := by
  have hstopped {s : Stop SetupError} {c' : ControlConfig I W (MaintainedControl I A)}
      (h : c'.state.control_state.Live ∧ c'.state.control_state.value = .reconnecting) :
      c'.state.control_state.Live ∧ (∀ s', Except.error (α := Bool) s = .error s' →
        c'.state.control_state.value = .reconnecting) ∧
      ∀ b, Except.error (α := Bool) s = .ok b → c'.state.control_state.value = .connected :=
    ⟨h.1, fun _ _ => h.2, fun b hb => by cases hb⟩
  -- An await of the way to the new connection.
  have hawait {α : Type} {x : ControlM I W (MaintainedControl I A) SetupError α}
      {c : ControlConfig I W (MaintainedControl I A)}
      (h : c.state.control_state.Live ∧ c.state.control_state.value = .reconnecting)
      (hx : wp env x c fun _ c' => c'.state = c.state) :
      wp env (Future.tryTimeout .timeout x) c fun _ c' =>
        c'.state.control_state.Live ∧ c'.state.control_state.value = .reconnecting := by
    apply wp_tryTimeout
    refine wp_mono hx fun _ c' hr _ _ => ?_
    rw [hr]
    exact h
  unfold reloadTo
  refine wp_bind (setControlState_shows hlive .reconnecting) ?_ fun s c₁ h₁ => by cases h₁.1
  rintro _ c₁ ⟨-, h₁⟩
  refine wp_bind (hawait h₁ (await_state fun _ _ => ofExcept_state)) ?_ fun _ _ h => hstopped h
  intro new_io c₂ h₂
  refine wp_bind (hawait h₂ (connectToFirst_state _)) ?_ fun _ _ h => hstopped h
  intro connected c₃ h₃
  refine wp_bind (Q := fun r c' => c'.state.control_state.Live ∧ ∀ s, r = .error s →
    c'.state.control_state.value = .reconnecting) ?_ ?_ fun s _ h => hstopped ⟨h.1, h.2 s rfl⟩
  · -- The replacement leaves `Reconnecting` behind whenever it does not succeed.
    apply wp_tryTimeout
    refine wp_mono (replaceConnection_shows h₃.1 connected force)
      fun r c' hr r' hr' => ⟨hr.1, fun s hs => ?_⟩
    cases r with
    | error s' => exact hr.2.1 s' rfl
    | ok b => cases hs.symm.trans ((hr' b).2 rfl)
  · intro updated c₄ h₄
    apply wp_modify_bind
    refine wp_bind (reconnected_shows h₄.1) ?_ fun s c₅ h₅ => by cases h₅.1
    rintro _ c₅ ⟨-, hlive₅, hvalue₅⟩
    refine wp_pure ⟨hlive₅, fun s hs => ?_, fun _ _ => hvalue₅⟩
    cases hs

/-- What `reload_control_addr` leaves: `Reconnecting` is published when it fails once it has told of
itself, and it has done nothing before; when it succeeds, `Connected` is published, or nothing was
done. -/
structure Reloaded (m : MaintainedControl I A) (ticks : ℕ) (force : Bool)
    (script : List (Item (Answer I))) (r : Except (Stop SetupError) Bool)
    (c' : ControlConfig I W (MaintainedControl I A)) : Prop where
  live : c'.state.control_state.Live
  told : ∀ s, r = .error s → Told force script → c'.state.control_state.value = .reconnecting
  untold : ∀ s, r = .error s → ¬Told force script → c'.state = m ∧ c'.ticks = ticks
  ok : ∀ b, r = .ok b → c'.state.control_state.value = .connected ∨ c'.state = m ∧ c'.ticks = ticks

/-- A reload that goes on to other addresses has told of itself. -/
theorem Reloaded.of_reloadTo {m : MaintainedControl I A} {ticks : ℕ} {force : Bool}
    {script : List (Item (Answer I))} (htold : Told force script)
    (hlive : c.state.control_state.Live) (addresses : List SocketAddr) :
    wp env (reloadTo p addresses force) c (Reloaded m ticks force script) := by
  refine wp_mono (reloadTo_shows hlive addresses force) fun r c' hr => ⟨hr.1, ?_, ?_, ?_⟩
  · intro s hs _
    exact hr.2.1 s hs
  · intro s _ huntold
    exact absurd htold huntold
  · intro b hb
    exact .inl (hr.2.2 b hb)

/-- A forced reload. -/
theorem reloadControlAddr_forced {m : MaintainedControl I A} {ticks : ℕ}
    (hlive : m.control_state.Live) (script : List (Item (Answer I))) :
    wp env (reloadControlAddr p true) ⟨m, ticks, []⟩ (Reloaded m ticks true script) := by
  have htold : Told (I := I) true script := .inl rfl
  unfold reloadControlAddr announceReload
  refine wp_bind (setControlState_shows hlive .reconnecting) ?_ fun s c₁ h₁ => by cases h₁.1
  rintro _ c₁ ⟨-, hlive₁, hvalue₁⟩
  refine wp_bind (Q := fun _ c' => c'.state = c₁.state) ?_ ?_ fun s c₂ h₂ => ?_
  · apply wp_tryTimeout
    exact wp_mono (await_state fun _ _ => ofExcept_state) fun _ c' hr _ _ => hr
  · intro addresses c₂ h₂
    apply wp_get_bind
    refine Reloaded.of_reloadTo htold ?_ addresses
    rw [h₂]
    exact hlive₁
  · rw [← h₂] at hlive₁ hvalue₁
    refine ⟨hlive₁, fun _ _ _ => hvalue₁, fun _ _ huntold => absurd htold huntold, ?_⟩
    intro b hb
    cases hb

/-- A reload that is not forced: what it does depends on the answer to its first request. -/
theorem reloadControlAddr_unforced {m : MaintainedControl I A} {ticks : ℕ}
    (hlive : m.control_state.Live) (script : List (Item (Answer I))) :
    let ran := reloadControlAddr p false env script ⟨m, ticks, []⟩
    Reloaded m ticks false script ran.result ran.config := by
  -- Without the addresses, nothing was done and nothing is said.
  have hnothing {s : Stop SetupError} {log : List (ControlEvent I × W)}
      (huntold : ¬Told false script) :
      Reloaded m ticks false script (.error s) ⟨m, ticks, log⟩ := by
    refine ⟨hlive, fun _ _ htold => absurd htold huntold, fun _ _ _ => ⟨rfl, rfl⟩, ?_⟩
    intro b hb
    cases hb
  have hother {item : Item (Answer I)} {rest : List (Item (Answer I))}
      (hitem : ∀ addresses, item ≠ .answer (.addresses (.ok addresses))) :
      ¬Told false (item :: rest) := by
    rintro (h | ⟨addresses, rest', h⟩)
    · cases h
    · injection h with h
      exact hitem addresses h
  rcases script with _ | ⟨(res | res | (error | addresses) | res | res | _) | (_ | n), rest⟩
  case nil =>
    refine hnothing ?_
    rintro (h | ⟨_, _, h⟩)
    · cases h
    · cases h
  case cons.answer.addresses.ok =>
    -- The addresses have arrived.
    have htold : Told (I := I) false (.answer (.addresses (.ok addresses)) :: rest) :=
      .inr ⟨addresses, rest, rfl⟩
    have hrest : wp env (do
        let self ← Future.get
        if !false && decide (self.last_control_targets = addresses) then pure false
        else reloadTo p addresses false)
        ⟨m, ticks, [(.answered (.addresses (.ok addresses)), env.look m)]⟩
        (Reloaded m ticks false (.answer (.addresses (.ok addresses)) :: rest)) := by
      apply wp_get_bind
      split
      · refine wp_pure ⟨hlive, fun s hs => ?_, fun s hs => ?_, fun _ _ => .inr ⟨rfl, rfl⟩⟩
        · cases hs
        · cases hs
      · exact Reloaded.of_reloadTo htold hlive addresses
    exact hrest rest
  all_goals exact hnothing (hother fun _ h => by cases h)

/-! ## Requests -/

/-- A session that was expired still is; the clock was not read, and nothing was published. -/
structure Steadfast (c c' : ControlConfig I W (MaintainedControl I A)) : Prop where
  ticks : c'.ticks = c.ticks
  control_state : c'.state.control_state = c.state.control_state
  control : ∀ now, c.state.control.isExpiredAt now ≠ none → c'.state.control.isExpiredAt now ≠ none

/-- `send_udp_session_auth` does not cure a session of being expired. -/
theorem sendUdpSessionAuth_steadfast (now_ms min_wait_ms : UInt64) :
    wp env (sendUdpSessionAuth (E := E) p now_ms min_wait_ms) c
      (Kept (Steadfast c) fun _ _ => True) := by
  have hsame : Steadfast c c := ⟨rfl, rfl, fun _ h => h⟩
  unfold sendUdpSessionAuth sendOrExpire
  apply wp_get_bind
  refine kept_bind (addU64_kept hsame ⟨rfl, rfl, fun _ h => h⟩ _ _) fun next c₁ h₁ _ => ?_
  split
  · exact kept_pure h₁ trivial
  have hnoted : Steadfast c (c₁.update fun self => { self with last_udp_auth := now_ms }) :=
    ⟨h₁.ticks, h₁.control_state, h₁.control⟩
  refine kept_bind (kept_modify hnoted) fun _ c₂ h₂ _ => ?_
  -- The message is sent over the connection, and of the session only its buffer is written.
  have hsend : wp env (onControl (EstablishedControl.sendSetupUdpChannel p 1)) c₂
      (Kept (Steadfast c) fun _ _ => True) := by
    refine wp_mono (wp_onControl fun env' => wp_get_bind (EstablishedControl.send_framed _ _))
      fun r c' hr => ⟨⟨?_, ?_, ?_⟩, fun _ _ => trivial⟩
    · exact hr.1.1.trans h₂.ticks
    · rw [hr.2]
      exact h₂.control_state
    · intro now hexpired
      rw [hr.1.2.1 now]
      exact h₂.control now hexpired
  refine kept_bind (P := fun _ _ => True) ?_ fun _ c₄ h₄ _ => kept_pure h₄ trivial
  refine kept_bind (kept_attempt (kept_tryTimeout hsend)) fun r c₃ h₃ _ => ?_
  split
  · exact kept_pure h₃ trivial
  · -- A failure tells the session to be expired.
    refine wp_modify ⟨⟨h₃.ticks, h₃.control_state, fun now _ => ?_⟩, fun _ _ => trivial⟩
    exact isExpiredAt_of_forced rfl now

end MaintainedControl

/-! ## Runs -/

namespace ControlOp

variable (p : Platform) (clock : ℕ → UInt64)

/-- While `Reconnecting` is published, the session is expired at the next reading of the clock, and
so the next `update` registers it again, whatever the environment does. -/
def NotStuck (s : MaintainedControl I A × ℕ) : Prop :=
  s.1.control_state.value = .reconnecting → s.1.control.isExpiredAt (clock s.2) ≠ none ∧
    ∀ script, signed (ControlOp.update.ran p clock s script).config.log ≠ none

/-- What is asked of the environment fails, on its answers, only when the session is expired anyway
at the reading of the clock after that. -/
def FailsExpired (s : MaintainedControl I A × ℕ) (x : ControlM I Unit Unit SetupError Unit)
    (script : List (Item (Answer I))) : Prop :=
  let asked := x ⟨clock, id⟩ script ⟨(), s.2, []⟩
  ∀ error, asked.result = .error (.failed error) →
    s.1.control.isExpiredAt (clock asked.config.ticks) ≠ none

/-- The condition for a call not to be stuck in `Reconnecting` afterwards, on the session before it
and on the answers of the environment. When the renewal by `update` fails on these answers, the
session with the latest pong among them has to be expired; and when a reload or a replacement fails
on them, once it has told of itself, the session has to be expired. -/
def Grounded (s : MaintainedControl I A × ℕ) (a : ControlOp I × List (Item (Answer I))) : Prop :=
  match a.1 with
  | .update =>
    let renewed : Ran (Answer I) UInt64 Action Unit (EstablishedControl I A) SetupError _ :=
      EstablishedControl.renewal p ⟨clock, fun _ => ()⟩ a.2 ⟨s.1.control, s.2, []⟩
    ∀ error, renewed.result = .ok (some (.error error)) →
      MaintainedControl.StillExpired p clock s.1.control renewed.config.ticks renewed.config.log
  | .reloadControlAddr force => MaintainedControl.Told force a.2 →
      FailsExpired clock s (MaintainedControl.reload p s.1 force) a.2
  | .replaceConnection connected force =>
      FailsExpired clock s (MaintainedControl.registration p s.1 connected force) a.2
  | .sendUdpSessionAuth _ _ => True
  | .takeHardReconnectRequest => True

variable {p clock}

/-- The second half of `NotStuck` follows from the first one. -/
theorem notStuck_iff (s : MaintainedControl I A × ℕ) :
    NotStuck p clock s ↔ (s.1.control_state.value = .reconnecting →
      s.1.control.isExpiredAt (clock s.2) ≠ none) := by
  constructor
  · intro h hstate
    exact (h hstate).1
  · intro h hstate
    refine ⟨h hstate, fun script => ?_⟩
    have hwp : wp (whole clock) (ControlOp.update.run p) ⟨s.1, s.2, []⟩ fun _ c' =>
        signed c'.log ≠ none :=
      wp_bind (MaintainedControl.update_signed (h hstate)) (fun _ _ h => wp_pure h) fun _ _ h => h
    exact hwp script

/-- A call that has returned. -/
theorem step_eq {s s' : MaintainedControl I A × ℕ} {a : ControlOp I × List (Item (Answer I))}
    {o : Ran (Answer I) UInt64 Action (MaintainedControl I A) (MaintainedControl I A) SetupError
      Unit}
    (h : step p clock s a = .ok (s', o)) :
    o = a.1.ran p clock s a.2 ∧ s' = (o.config.state, o.config.ticks) ∧
      MaintainedControl.Returned o.result := by
  unfold step at h
  cases hresult : (a.1.ran p clock s a.2).result with
  | ok _ =>
    simp only [hresult] at h
    cases h
    refine ⟨rfl, rfl, ?_⟩
    rw [hresult]
    trivial
  | error stop =>
    cases stop with
    | failed error =>
      simp only [hresult] at h
      cases h
      refine ⟨rfl, rfl, ?_⟩
      rw [hresult]
      trivial
    | _ =>
      simp only [hresult] at h
      cases h

/-- A call whose result is dropped. -/
theorem discard_run {α : Type} (x : ControlM I W S E α) (env : Env UInt64 W S)
    (script : List (Item (Answer I))) (c : ControlConfig I W S)
    {Φ : Except (Stop E) Unit → ControlConfig I W S → Prop}
    (h : Φ ((x env script c).result.map fun _ => ()) (x env script c).config) :
    let ran := (do let _ ← x; pure ()) env script c
    Φ ran.result ran.config := by
  apply run_bind
  · intro a ha
    rw [ha] at h
    exact h
  · intro s hs
    rw [hs] at h
    exact h

/-- It has returned when the call has. -/
theorem returned_map_iff {α : Type} {r : Except (Stop E) α} :
    MaintainedControl.Returned (r.map fun _ => ()) ↔ MaintainedControl.Returned r := by
  rcases r with (_ | _ | _ | _) | _ <;> exact Iff.rfl

section
variable {s : MaintainedControl I A × ℕ}
  (hstart : s.1.control_state.value = .reconnecting → s.1.control.isExpiredAt (clock s.2) ≠ none)
include hstart

/-- A call that has left the session, and its state, as they were. -/
theorem expiring_of_same {c : ControlConfig I W (MaintainedControl I A)}
    (h : c.state = s.1 ∧ c.ticks = s.2) : MaintainedControl.Expiring clock c := by
  unfold MaintainedControl.Expiring
  rw [h.1, h.2]
  exact hstart

/-- A call that fails with what it asks of the environment, that has published `Reconnecting` then
and has left the session alone, is not stuck exactly when that was expired. -/
theorem expiring_iff_failsExpired {α : Type} {x : ControlM I Unit Unit SetupError Unit}
    {script : List (Item (Answer I))}
    {ran : Ran (Answer I) UInt64 Action W (MaintainedControl I A) SetupError α}
    (hreturned : MaintainedControl.Returned ran.result)
    (hfails : FailAbreast ran (x ⟨clock, id⟩ script ⟨(), s.2, []⟩))
    (huntouched : ∀ stop, ran.result = .error stop → ran.config.state.control = s.1.control)
    (herror : ∀ stop, ran.result = .error stop →
      ran.config.state.control_state.value = .reconnecting)
    (hok : ∀ b, ran.result = .ok b → ran.config.state.control_state.value = .connected ∨
      ran.config.state = s.1 ∧ ran.config.ticks = s.2) :
    MaintainedControl.Expiring clock ran.config ↔ FailsExpired clock s x script := by
  unfold FailsExpired
  rcases hresult : ran.result with (error | n | _ | reason) | b
  · obtain ⟨hiff, hticks⟩ := hfails (.failed error)
    unfold MaintainedControl.Expiring
    rw [huntouched _ hresult, ← hticks hresult]
    constructor
    · intro h _ _ _
      exact h (herror _ hresult)
    · intro h _
      exact h error (hiff.1 hresult)
  · rw [hresult] at hreturned
    exact hreturned.elim
  · rw [hresult] at hreturned
    exact hreturned.elim
  · rw [hresult] at hreturned
    exact hreturned.elim
  · refine iff_of_true ?_ fun error herror' => ?_
    · rcases hok b hresult with hvalue | hsame
      · intro hreconnecting
        cases hvalue.symm.trans hreconnecting
      · exact expiring_of_same hstart hsame
    · cases hresult.symm.trans ((hfails _).1.2 herror')

variable (hlive : s.1.control_state.Live)
include hlive

/-- A `reload_control_addr` that has returned is not stuck exactly when it is grounded. -/
theorem reloadControlAddr_expiring_iff (force : Bool) (script : List (Item (Answer I))) :
    let ran := MaintainedControl.reloadControlAddr p force (whole clock) script ⟨s.1, s.2, []⟩
    MaintainedControl.Returned ran.result → (MaintainedControl.Expiring clock ran.config ↔
      (MaintainedControl.Told force script →
        FailsExpired clock s (MaintainedControl.reload p s.1 force) script)) := by
  intro ran hreturned
  have hreloaded : MaintainedControl.Reloaded s.1 s.2 force script ran.result ran.config := by
    cases force with
    | true => exact MaintainedControl.reloadControlAddr_forced hlive script script
    | false => exact MaintainedControl.reloadControlAddr_unforced hlive script
  by_cases htold : MaintainedControl.Told force script
  · refine (expiring_iff_failsExpired hstart hreturned ?_ ?_ ?_ hreloaded.ok).trans
      ⟨fun h _ => h, fun h => h htold⟩
    · exact MaintainedControl.reloadControlAddr_fails force (whole clock) ⟨clock, id⟩ script _ _ rfl
        rfl (.refl _)
    · intro stop hstop
      exact (MaintainedControl.reloadControlAddr_untouched force script stop hstop).control
    · intro stop hstop
      exact hreloaded.told stop hstop htold
  · -- It has failed before it told of itself, and has done nothing.
    refine iff_of_true ?_ fun h => absurd h htold
    rcases hresult : ran.result with stop | b
    · exact expiring_of_same hstart (hreloaded.untold stop hresult htold)
    · rcases hreloaded.ok b hresult with hvalue | hsame
      · intro hreconnecting
        cases hvalue.symm.trans hreconnecting
      · exact expiring_of_same hstart hsame

/-- A `replace_connection` that has returned is not stuck exactly when it is grounded. -/
theorem replaceConnection_expiring_iff (connected : ConnectedControl I) (force : Bool)
    (script : List (Item (Answer I))) :
    let ran := MaintainedControl.replaceConnection p connected force (whole clock) script
      ⟨s.1, s.2, []⟩
    MaintainedControl.Returned ran.result → (MaintainedControl.Expiring clock ran.config ↔
      FailsExpired clock s (MaintainedControl.registration p s.1 connected force) script) := by
  intro ran hreturned
  have hshows : wp (whole clock) (MaintainedControl.replaceConnection p connected force)
      ⟨s.1, s.2, []⟩ _ := MaintainedControl.replaceConnection_shows hlive connected force
  obtain ⟨-, herror, htrue, hfalse⟩ := hshows script
  refine expiring_iff_failsExpired hstart hreturned ?_ ?_ herror ?_
  · exact MaintainedControl.replaceConnection_fails connected force (whole clock) ⟨clock, id⟩ script
      _ _ rfl rfl (.refl _)
  · intro stop hstop
    have huntouched : wp (whole clock) (MaintainedControl.replaceConnection p connected force)
        ⟨s.1, s.2, []⟩ _ := MaintainedControl.replaceConnection_untouched connected force
    exact ((huntouched script).1 stop hstop).control
  · intro b hb
    cases b with
    | true => exact .inl (htrue hb)
    | false =>
      -- The flow is the same, and nothing was replaced.
      have hsame : ran.config = ⟨s.1, s.2, []⟩ := hfalse hb
      rw [hsame]
      exact .inr ⟨rfl, rfl⟩

omit hlive in
/-- `send_udp_session_auth` is never stuck. -/
theorem sendUdpSessionAuth_expiring (now_ms min_wait_ms : UInt64) :
    wp (whole clock) (MaintainedControl.sendUdpSessionAuth (E := E) p now_ms min_wait_ms)
      ⟨s.1, s.2, []⟩ fun _ c' => MaintainedControl.Expiring clock c' := by
  refine wp_mono (MaintainedControl.sendUdpSessionAuth_steadfast now_ms min_wait_ms)
    fun _ c' hr hstate => ?_
  rw [hr.1.ticks]
  rw [hr.1.control_state] at hstate
  exact hr.1.control _ (hstart hstate)

/-- After a session that was expired while `Reconnecting` was published, it is so again exactly when
the call is grounded. -/
theorem step_expiring_iff {s' : MaintainedControl I A × ℕ}
    {a : ControlOp I × List (Item (Answer I))}
    {o : Ran (Answer I) UInt64 Action (MaintainedControl I A) (MaintainedControl I A) SetupError
      Unit}
    (h : step p clock s a = .ok (s', o)) :
    (s'.1.control_state.value = .reconnecting → s'.1.control.isExpiredAt (clock s'.2) ≠ none) ↔
      Grounded p clock s a := by
  obtain ⟨rfl, rfl, hreturned⟩ := step_eq h
  obtain ⟨op, script⟩ := a
  -- What a call leaves does not depend on what becomes of its result.
  have hdiscard {α : Type} {x : ControlM I (MaintainedControl I A) (MaintainedControl I A)
      SetupError α} {P : Prop} (hx : let ran := x (whole clock) script ⟨s.1, s.2, []⟩
        MaintainedControl.Returned ran.result →
          (MaintainedControl.Expiring clock ran.config ↔ P)) :
      let ran := (do let _ ← x; pure ()) (whole clock) script ⟨s.1, s.2, []⟩
      MaintainedControl.Returned ran.result → (MaintainedControl.Expiring clock ran.config ↔ P) :=
    discard_run x _ script _ (Φ := fun r c' => MaintainedControl.Returned r →
      (MaintainedControl.Expiring clock c' ↔ P)) fun hr => hx (returned_map_iff.1 hr)
  cases op with
  | update =>
    have hexpiring : MaintainedControl.Expiring (whole (I := I) (A := A) clock).clock
        (⟨s.1, s.2, []⟩ : ControlConfig I (MaintainedControl I A) (MaintainedControl I A)) := hstart
    exact hdiscard (MaintainedControl.update_expiring_iff hlive hexpiring script) hreturned
  | reloadControlAddr force =>
    exact hdiscard (reloadControlAddr_expiring_iff hstart hlive force script) hreturned
  | replaceConnection connected force =>
    exact hdiscard (replaceConnection_expiring_iff hstart hlive connected force script) hreturned
  | sendUdpSessionAuth now_ms min_wait_ms =>
    refine hdiscard (fun _ => iff_of_true ?_ trivial) hreturned
    exact sendUdpSessionAuth_expiring hstart now_ms min_wait_ms script
  | takeHardReconnectRequest => exact iff_of_true hstart trivial

end

/-- There stay receivers, whatever is called. -/
theorem step_live {s s' : MaintainedControl I A × ℕ} {a : ControlOp I × List (Item (Answer I))}
    {o : Ran (Answer I) UInt64 Action (MaintainedControl I A) (MaintainedControl I A) SetupError
      Unit} (hlive : s.1.control_state.Live) (h : step p clock s a = .ok (s', o)) :
    s'.1.control_state.Live := by
  obtain ⟨rfl, rfl, -⟩ := step_eq h
  obtain ⟨op, script⟩ := a
  have hdiscard {α : Type} {x : ControlM I (MaintainedControl I A) (MaintainedControl I A)
      SetupError α} (hx : let ran := x (whole clock) script ⟨s.1, s.2, []⟩
        ran.config.state.control_state.Live) :
      let ran := (do let _ ← x; pure ()) (whole clock) script ⟨s.1, s.2, []⟩
      ran.config.state.control_state.Live :=
    discard_run x _ script _ (Φ := fun _ c' => c'.state.control_state.Live) hx
  cases op with
  | update => exact hdiscard (MaintainedControl.update_live hlive script)
  | reloadControlAddr force =>
    refine hdiscard ?_
    cases force with
    | true => exact (MaintainedControl.reloadControlAddr_forced hlive script script).live
    | false => exact (MaintainedControl.reloadControlAddr_unforced hlive script).live
  | replaceConnection connected force =>
    exact hdiscard (MaintainedControl.replaceConnection_shows hlive connected force script).1
  | sendUdpSessionAuth now_ms min_wait_ms =>
    have hkept : wp (whole clock) (MaintainedControl.sendUdpSessionAuth (E := SetupError) p now_ms
        min_wait_ms) ⟨s.1, s.2, []⟩ _ :=
      MaintainedControl.sendUdpSessionAuth_kept (MaintainedControl.serves_live _) hlive now_ms
        min_wait_ms
    exact hdiscard (hkept script).1
  | takeHardReconnectRequest => exact hlive

/-- A session that was set up is published as `Connected`, to the receivers that will be there. -/
theorem setUp_connected {io : I} {auth : A} {receivers : ℕ → Bool}
    {script : List (Item (Answer I))} {m : MaintainedControl I A}
    (hsetUp : (setUp p clock io auth receivers script).result = .ok m) :
    m.control_state = ⟨.connected, receivers⟩ := by
  have hwp : wp (⟨clock, id⟩ : Env UInt64 Unit Unit) (MaintainedControl.setup p io auth receivers)
      ⟨(), 0, []⟩ fun r _ => ∀ m, r = .ok m → m.control_state = ⟨.connected, receivers⟩ := by
    unfold MaintainedControl.setup
    refine wp_bind (Q := fun _ _ => True) (fun _ => trivial) ?_ fun s c₁ _ m hs => by cases hs
    intro addresses c₁ _
    refine wp_bind (Q := fun _ _ => True) (fun _ => trivial) ?_ fun s c₂ _ m hs => by cases hs
    intro connected c₂ _
    refine wp_bind (Q := fun _ _ => True) (fun _ => trivial) ?_ fun s c₃ _ m hs => by cases hs
    intro established c₃ _
    apply wp_act_bind
    apply wp_now_bind
    refine wp_pure fun m hm => ?_
    cases hm
    rfl
  exact hwp script m hsetUp

/-- Along every run with a receiver at every send, whatever else the environment does, no call
returns with a session that is stuck in `Reconnecting` exactly when every call is grounded. -/
theorem never_stuck_iff {io : I} {auth : A} {receivers : ℕ → Bool}
    (hsubscribed : ∀ n, receivers n = true) {script : List (Item (Answer I))}
    {m : MaintainedControl I A} (hsetUp : (setUp p clock io auth receivers script).result = .ok m)
    {trace : List ((ControlOp I × List (Item (Answer I))) × Ran (Answer I) UInt64 Action
      (MaintainedControl I A) (MaintainedControl I A) SetupError Unit)}
    {s : MaintainedControl I A × ℕ}
    (hrun : Run (step p clock) (m, (setUp p clock io auth receivers script).config.ticks) trace s) :
    Throughout (step p clock) (NotStuck p clock)
        (m, (setUp p clock io auth receivers script).config.ticks) trace ↔
      Along (step p clock) (Grounded p clock)
        (m, (setUp p clock io auth receivers script).config.ticks) trace := by
  have hconnected := setUp_connected hsetUp
  refine hrun.throughout_iff_along (I := fun s => s.1.control_state.Live) ?_ ?_
    (fun _ _ _ _ hlive hstep => step_live hlive hstep) ?_
  · intro hstate
    rw [hconnected] at hstate
    cases hstate
  · show m.control_state.Live
    rw [hconnected]
    exact hsubscribed
  · intro s s' a o hlive hs hstep
    rw [notStuck_iff] at hs ⊢
    exact step_expiring_iff hs hlive hstep

end ControlOp

end

namespace Sample

/-- The run of `setup`, while the clock stands still. -/
def setUpRan : Ran (Answer Unit) UInt64 Action Unit Unit SetupError (MaintainedControl Unit Unit) :=
  ControlOp.setUp (platform true) (fun _ => 5) () () subscribed (maintainedSetUp (some 60000))

/-- The session that it leaves. -/
def started : MaintainedControl Unit Unit × ℕ :=
  (match setUpRan.result with
    | .ok m => m
    | .error _ => maintained session, setUpRan.config.ticks)

/-- One call on a session, while the clock stands still. -/
def ranOnce (s : MaintainedControl Unit Unit × ℕ)
    (a : ControlOp Unit × List (Item (Answer Unit))) :
    Ran (Answer Unit) UInt64 Action (MaintainedControl Unit Unit) (MaintainedControl Unit Unit)
      SetupError Unit :=
  a.1.ran (platform true) (fun _ => 5) s a.2

/-- The session after a call. -/
def stateAfter (s : MaintainedControl Unit Unit × ℕ)
    (a : ControlOp Unit × List (Item (Answer Unit))) : MaintainedControl Unit Unit × ℕ :=
  ((ranOnce s a).config.state, (ranOnce s a).config.ticks)

end Sample

/-- A forced reload of a healthy session whose ping cannot be sent leaves it stuck in
`Reconnecting`. -/
theorem ControlOp.not_notStuck_reload :
    let a := (.reloadControlAddr true, Sample.unreachable)
    Sample.setUpRan.result = .ok Sample.started.1 ∧
      Run (step (Sample.platform true) fun _ => 5) Sample.started
        [(a, Sample.ranOnce Sample.started a)] (Sample.stateAfter Sample.started a) ∧
      (Sample.stateAfter Sample.started a).1.control_state.value = .reconnecting ∧
      (Sample.stateAfter Sample.started a).1.control.isExpiredAt 5 = none ∧
      ¬NotStuck (Sample.platform true) (fun _ => 5) (Sample.stateAfter Sample.started a) := by
  refine ⟨rfl, Run.snoc .nil rfl, rfl, rfl, fun hnotStuck => ?_⟩
  exact (hnotStuck rfl).1 rfl

/-- A session that was told to be expired is not stuck after such a reload. -/
theorem ControlOp.never_stuck_sample :
    let a := (.sendUdpSessionAuth 10 0, Sample.unsent)
    let b := (.reloadControlAddr true, Sample.unreachable)
    let s := Sample.stateAfter Sample.started a
    Run (step (Sample.platform true) fun _ => 5) Sample.started
        [(a, Sample.ranOnce Sample.started a), (b, Sample.ranOnce s b)] (Sample.stateAfter s b) ∧
      (Sample.stateAfter s b).1.control_state.value = .reconnecting ∧
      NotStuck (Sample.platform true) (fun _ => 5) (Sample.stateAfter s b) := by
  intro a b s
  have hsent : Run (step (Sample.platform true) fun _ => 5) Sample.started
      [(a, Sample.ranOnce Sample.started a)] s := Run.snoc .nil rfl
  have hrun : Run (step (Sample.platform true) fun _ => 5) Sample.started
      [(a, Sample.ranOnce Sample.started a), (b, Sample.ranOnce s b)] (Sample.stateAfter s b) :=
    Run.snoc hsent rfl
  have hgrounded := (along_snoc (P := Grounded (Sample.platform true) fun _ => 5) hsent b
    (Sample.ranOnce s b)).2 ⟨(along_snoc .nil a _).2 ⟨along_nil, trivial⟩,
      fun _ _ _ => MaintainedControl.isExpiredAt_of_forced rfl _⟩
  have hsetUp : Sample.setUpRan.result = .ok Sample.started.1 := rfl
  refine ⟨hrun, rfl, ?_⟩
  exact (never_stuck_iff (fun _ => rfl) hsetUp hrun).2 hgrounded _ _ (List.prefix_refl _) hrun

end PlayitAgent
