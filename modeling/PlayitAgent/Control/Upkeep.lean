import PlayitAgent.Control.Endpoint

/-!
# The upkeep of a session

What `MaintainedControl::update` does with a session that can be used: it sends what is due,
receives messages, and looks at the time of the last pong. `Serves` lists what an invariant has to
bear for that, and `serve_kept` is the rule for invariants of the upkeep as a whole.
-/

namespace PlayitAgent

open Future

section
variable {I A W E : Type} {p : Platform}

/-! ## Work on the session -/

namespace EstablishedControl

/-- The future works on a session quietly, and does not change whether it was told to be expired. -/
def Tends {α : Type} (x : ControlM I W (EstablishedControl I A) E α) : Prop :=
  ∀ (env : Env UInt64 W (EstablishedControl I A)) (c : ControlConfig I W (EstablishedControl I A)),
    wp env x c fun _ c' =>
      Steps Event.Quiet Change env c c' ∧ c'.state.force_expired = c.state.force_expired

/-- A future on the connection does not change whether the session was told to be expired. -/
theorem onConn_force_expired {α : Type} {x : ControlM I W (ConnectedControl I) E α}
    {env : Env UInt64 W (EstablishedControl I A)}
    {c : ControlConfig I W (EstablishedControl I A)} :
    wp env (onConn x) c fun _ c' => c'.state.force_expired = c.state.force_expired :=
  wp_zoom fun _ => rfl

/-- Requests. -/
theorem send_tends (request_id : UInt64) (content : ControlRequest) :
    Tends (A := A) (W := W) (I := I) (send p request_id content) := by
  intro env c
  have hforce : wp env (send p request_id content) c fun _ c' =>
      c'.state.force_expired = c.state.force_expired := by
    unfold send mapErr
    exact wp_mapResult onConn_force_expired
  exact wp_mono (wp_and (send_steps .refl request_id content) hforce) fun _ _ hr =>
    ⟨hr.1.1, hr.2⟩

/-- What a session does with a message does not tell it to be expired. -/
theorem absorbs_force_expired (env : Env UInt64 W (EstablishedControl I A)) (feed : ControlFeed)
    (b : Bool) :
    Absorbs (I := I) env feed fun c => c.state.force_expired = b where
  tick _ h := h
  overflow _ _ _ h := h
  update c _ hf h := (hf.force_expired c.state).trans h

/-- Messages. -/
theorem recvFeedMsg_tends : Tends (A := A) (W := W) (I := I) (recvFeedMsg p) := by
  intro env c
  have hforce : wp env (recvFeedMsg p) c fun _ c' =>
      c'.state.force_expired = c.state.force_expired := by
    unfold recvFeedMsg
    refine wp_bind onConn_force_expired (fun feed c₁ h₁ => ?_) fun _ _ h => h
    refine wp_bind (onFeed_kept (absorbs_force_expired env feed c.state.force_expired) h₁) ?_
      fun _ _ h => h.1
    intro _ c₂ h₂
    exact wp_pure h₂.1
  exact wp_mono (wp_and (recvFeedMsg_steps .refl) hforce) fun _ _ hr => ⟨hr.1.1, hr.2⟩

end EstablishedControl

namespace MaintainedControl

/-- A session that is not expired can be used, and an expired one is registered again. -/
theorem wp_renew {env : Env UInt64 W (MaintainedControl I A)}
    {c : ControlConfig I W (MaintainedControl I A)}
    {Φ : Except (Stop E) Bool → ControlConfig I W (MaintainedControl I A) → Prop}
    (hfresh : c.state.control.isExpiredAt (env.clock c.ticks) = none →
      ∀ c', c' = c ∨ c' = c.tick env → Φ (.ok true) c')
    (hexpired : c.state.control.isExpiredAt (env.clock c.ticks) ≠ none →
      ∀ c', c' = c ∨ c' = c.tick env → wp env (reauthenticate p) c' Φ) :
    wp env (renew p) c Φ := by
  unfold renew
  refine wp_bind (Q := fun r c' => r = .ok (c.state.control.isExpiredAt (env.clock c.ticks)) ∧
    (c' = c ∨ c' = c.tick env)) ?_ ?_ ?_
  · apply wp_zoom
    refine EstablishedControl.wp_isExpired fun c' hc' => ⟨rfl, ?_⟩
    rcases hc' with rfl | rfl
    · exact .inl rfl
    · exact .inr rfl
  · rintro reason c₁ ⟨hreason, hc₁⟩
    injection hreason with hreason
    cases reason with
    | none => exact wp_pure (hfresh hreason.symm c₁ hc₁)
    | some reason =>
      refine hexpired ?_ c₁ hc₁
      rw [← hreason]
      exact Option.some_ne_none _
  · rintro s c₁ ⟨hs, -⟩
    cases hs

/-- The registration of an expired session: the state is set to `Reconnecting`, and what follows
depends on what the registration leads to. A failure is noted and slept on; a success is noted as a
pong, and the state is set to `Connected`. -/
theorem wp_reauthenticate {env : Env UInt64 W (MaintainedControl I A)}
    {c : ControlConfig I W (MaintainedControl I A)}
    {P : Except (Stop SetupError) Unit → ControlConfig I W (MaintainedControl I A) → Prop}
    {Φ : Except (Stop E) Bool → ControlConfig I W (MaintainedControl I A) → Prop}
    (hauth : ∀ c₁, StateSet env .reconnecting c c₁ →
      wp env (onControl (EstablishedControl.authenticate p)) c₁ P)
    (hstop : ∀ s s' c₂, P (.error s) c₂ → (∀ e, s' ≠ .failed e) → Φ (.error s') c₂)
    (hfailed : ∀ s c₂, P (.error s) c₂ →
      let c₃ := c₂.update noteControlFailure
      Φ (.ok false) (c₃.record env (.answered .slept)) ∧
        (∀ n, Φ (.error (.elapsed n)) (c₃.record env (.elapsed n))) ∧ Φ (.error .pending) c₃)
    (hok : ∀ c₂, P (.ok ()) c₂ →
      let c₃ := ((c₂.update fun self =>
        { self with soft_reconnect_failures := 0, hard_reconnect_requested := false }).tick
          env).update fun self => { self with last_pong := env.clock c₂.ticks }
      ∀ c₄, StateSet env .connected c₃ c₄ → Φ (.ok true) c₄) :
    wp env (reauthenticate p) c Φ := by
  unfold reauthenticate
  refine wp_bind (Q := fun r c₁ => r = .ok () ∧ StateSet env .reconnecting c c₁)
    (wp_setControlState fun c₁ h₁ => ⟨rfl, h₁⟩) ?_ fun s c₁ h₁ => by cases h₁.1
  rintro _ c₁ ⟨-, hset₁⟩
  -- `try_timeout` makes an error of the timer, and the `match` sees errors only.
  refine wp_bind (Q := fun r c₂ => match r with
    | .ok (.ok ()) => P (.ok ()) c₂
    | .ok (.error _) => ∃ s, P (.error s) c₂
    | .error s' => (∀ e, s' ≠ .failed e) ∧ ∃ s, P (.error s) c₂) ?_ ?_ ?_
  · unfold attempt Future.tryTimeout
    apply wp_mapResult
    apply wp_mapResult
    refine wp_mono (hauth c₁ hset₁) fun r c₂ hr => ?_
    rcases r with (_ | (_ | _) | _ | _) | _
    · exact ⟨_, hr⟩
    · exact ⟨_, hr⟩
    · exact ⟨fun _ he => (by cases he), _, hr⟩
    · exact ⟨fun _ he => (by cases he), _, hr⟩
    · exact ⟨fun _ he => (by cases he), _, hr⟩
    · exact hr
  · rintro (error | _) c₂ h₂
    · -- The registration has failed: that is noted, and the loop sleeps.
      obtain ⟨s, hs⟩ := h₂
      obtain ⟨hslept, helapsed, hpending⟩ := hfailed s c₂ hs
      apply wp_modify_bind
      unfold sleep
      refine wp_bind (wp_await (Φ := fun r c' => match r with
        | .ok () => Φ (.ok false) c'
        | .error s => Φ (.error s) c') (fun v a hv => ?_) helapsed hpending)
        (fun _ c₃ h₃ => wp_pure h₃) fun _ _ h => h
      cases v with
      | slept => exact hslept
      | _ => cases hv
    · -- It has succeeded.
      apply wp_modify_bind
      apply wp_now_bind
      apply wp_modify_bind
      refine wp_bind (wp_setControlState (Φ := fun r c' => r = .ok () ∧ Φ (.ok true) c')
        fun c₄ h₄ => ⟨rfl, hok c₂ h₂ c₄ h₄⟩) (fun _ c₃ h₃ => wp_pure h₃.2)
        fun s c₃ h₃ => by cases h₃.1
  · rintro s' c₂ ⟨hs', s, hs⟩
    exact hstop s s' c₂ hs hs'

/-- The steps of a session, in the session that is kept alive. -/
theorem onControl_steps {R : ControlEvent I → Prop} {α : Type}
    {x : ControlM I W (EstablishedControl I A) E α}
    {env : Env UInt64 W (MaintainedControl I A)} {c : ControlConfig I W (MaintainedControl I A)}
    {P : Except (Stop E) α → ControlConfig I W (EstablishedControl I A) → Prop}
    (hx : ∀ env' : Env UInt64 W (EstablishedControl I A),
      wp env' x ⟨c.state.control, c.ticks, c.log⟩ fun r c' =>
        Steps R EstablishedControl.Change env' ⟨c.state.control, c.ticks, c.log⟩ c' ∧ P r c') :
    wp env (onControl x) c fun r c' => Steps R (fun _ _ => True) env c c' ∧
      P r ⟨c'.state.control, c'.ticks, c'.log⟩ ∧
      c'.state = { c.state with control := c'.state.control } := by
  apply wp_zoom
  refine wp_mono (hx _) fun r c' hr => ⟨?_, hr.2, rfl⟩
  exact hr.1.zoom (g := control) (u := fun control self => { self with control })
    (s := c.state) (fun _ _ => rfl) (fun _ _ _ => rfl) fun _ _ _ => trivial

/-! ## Invariants of the upkeep -/

/-- What an invariant has to bear, to be one of the upkeep of a session. -/
structure Serves (env : Env UInt64 W (MaintainedControl I A))
    (J : ControlConfig I W (MaintainedControl I A) → Prop) : Prop where
  /-- A reading of the clock. -/
  tick : ∀ c, J c → J (c.tick env)
  /-- An overflow. -/
  overflow : ∀ c (site : Site), J c → J (c.record env (.did (.overflow site)))
  /-- The message that the endpoint has stopped responding. -/
  stopped : ∀ c, J c → J (c.record env (.did .stoppedResponding))
  /-- Requests and messages. -/
  session : ∀ {E α : Type} (x : ControlM I W (EstablishedControl I A) E α) c,
    EstablishedControl.Tends x → J c → wp env (onControl x) c fun _ c' => J c'
  /-- A change of the times. -/
  noted : ∀ c (f : MaintainedControl I A → MaintainedControl I A),
    (∀ self, (f self).control = self.control) →
    (∀ self, (f self).control_state = self.control_state) → J c → J (c.update f)
  /-- The session is told to be expired, after the state was set to `Reconnecting` or not. -/
  expire : ∀ c (f : MaintainedControl I A → MaintainedControl I A),
    (∀ self, (f self).control = self.control.setExpired) →
    (∀ self, (f self).control_state = self.control_state) → J c →
      J (c.update f) ∧ ∀ c', StateSet env .reconnecting c c' → J (c'.update f)

section
variable {env : Env UInt64 W (MaintainedControl I A)}
  {c : ControlConfig I W (MaintainedControl I A)}
  {J : ControlConfig I W (MaintainedControl I A) → Prop} (hJ : Serves env J)
include hJ

/-- A failure. -/
theorem failed_kept (h : J c) :
    wp env (modify (E := E) failed) c (Kept J fun _ _ => True) :=
  wp_modify ⟨(hJ.expire c failed (fun _ => rfl) (fun _ => rfl) h).1, fun _ _ => trivial⟩

/-- A request under a timer. -/
theorem sendOrExpire_kept {x : ControlM I W (EstablishedControl I A) ControlError Unit}
    (hx : EstablishedControl.Tends x) (h : J c) :
    wp env (sendOrExpire (E := E) x) c (Kept J fun _ _ => True) := by
  have hsend : wp env (onControl x) c (Kept J fun _ _ => True) :=
    wp_mono (hJ.session x c hx h) fun _ _ hr => ⟨hr, fun _ _ => trivial⟩
  unfold sendOrExpire
  refine kept_bind (kept_attempt (kept_tryTimeout hsend)) fun r c₁ h₁ _ => ?_
  split
  · exact kept_pure h₁ trivial
  · exact failed_kept hJ h₁

/-- `send_udp_session_auth`. -/
theorem sendUdpSessionAuth_kept (h : J c) (now_ms min_wait_ms : UInt64) :
    wp env (sendUdpSessionAuth (E := E) p now_ms min_wait_ms) c (Kept J fun _ _ => True) := by
  unfold sendUdpSessionAuth
  apply wp_get_bind
  refine kept_bind (addU64_kept h (hJ.overflow c _ h) _ _) fun next c₁ h₁ _ => ?_
  split
  · exact kept_pure h₁ trivial
  · refine kept_bind (kept_modify (hJ.noted c₁ _ (fun _ => rfl) (fun _ => rfl) h₁))
      fun _ c₂ h₂ _ => ?_
    refine kept_bind (sendOrExpire_kept hJ ?_ h₂) fun _ c₃ h₃ _ => kept_pure h₃ trivial
    exact fun env c => wp_get_bind (EstablishedControl.send_tends _ _ env c)

/-- A request that is sent when it is due. -/
theorem request_kept {due : Prop} [Decidable due]
    {f : MaintainedControl I A → MaintainedControl I A}
    {x : ControlM I W (EstablishedControl I A) ControlError Unit} (h : J c)
    (hcontrol : ∀ self, (f self).control = self.control)
    (hstate : ∀ self, (f self).control_state = self.control_state)
    (hx : EstablishedControl.Tends x) :
    wp env (if due then do modify (E := E) f; sendOrExpire x else pure ()) c
      (Kept J fun _ _ => True) := by
  split
  · refine kept_bind (kept_modify (hJ.noted c f hcontrol hstate h)) fun _ c₂ h₂ _ => ?_
    exact sendOrExpire_kept hJ hx h₂
  · exact kept_pure h trivial

/-- The ping. -/
theorem pingIfDue_kept (h : J c) (now : UInt64) :
    wp env (pingIfDue (E := E) p now) c (Kept J fun _ _ => True) := by
  unfold pingIfDue
  apply wp_get_bind
  refine kept_bind (subU64_kept h (hJ.overflow c _ h) _ _) fun since c₁ h₁ _ => ?_
  refine request_kept hJ h₁ (fun _ => rfl) (fun _ => rfl) fun env c => ?_
  exact wp_get_bind (EstablishedControl.send_tends _ _ env c)

/-- The keep-alive. -/
theorem keepAliveIfDue_kept (h : J c) (now : UInt64) :
    wp env (keepAliveIfDue (E := E) p now) c (Kept J fun _ _ => True) := by
  unfold keepAliveIfDue
  apply wp_get_bind
  refine kept_bind (subU64_kept h (hJ.overflow c _ h) _ _) fun since c₁ h₁ _ => ?_
  refine request_kept hJ h₁ (fun _ => rfl) (fun _ => rfl) fun env c => ?_
  exact wp_get_bind (EstablishedControl.send_tends _ _ env c)

/-- The state is set to `Reconnecting`, and the session is told to be expired. -/
theorem expire_kept {α : Type} {P : α → ControlConfig I W (MaintainedControl I A) → Prop} (h : J c)
    {f : MaintainedControl I A → MaintainedControl I A}
    {k : ControlM I W (MaintainedControl I A) E α}
    (hcontrol : ∀ self, (f self).control = self.control.setExpired)
    (hstate : ∀ self, (f self).control_state = self.control_state)
    (hk : ∀ c, J (c.update f) → wp env k c (Kept J P)) :
    wp env (do setControlState .reconnecting; k) c (Kept J P) := by
  have hexpire := hJ.expire c f hcontrol hstate h
  refine wp_bind (Q := fun r c' => r = .ok () ∧ J (c'.update f)) ?_ ?_ ?_
  · exact wp_setControlState fun c' hset => ⟨rfl, hexpire.2 c' hset⟩
  · intro _ c₁ h₁
    exact hk c₁ h₁.2
  · intro s c₁ h₁
    cases h₁.1

/-- What is done with a message. -/
theorem onUpdateFeed_kept (h : J c) (timeouts : ℕ) (feed : ControlFeed) :
    wp env (onUpdateFeed (E := E) timeouts feed) c (Kept J fun _ _ => True) := by
  unfold onUpdateFeed
  split
  · exact kept_pure h trivial
  · exact kept_pure h trivial
  · split
    · exact kept_pure h trivial
    · -- The endpoint does not know the session any more.
      refine expire_kept hJ h (f := fun self => { self with control := self.control.setExpired })
        (fun _ => rfl) (fun _ => rfl) fun c₁ h₁ => ?_
      exact wp_modify_bind (kept_pure h₁ trivial)
    · -- A pong is noted with a reading of the clock of its own.
      refine kept_bind (kept_now (hJ.tick c h)) fun now c₁ h₁ _ => ?_
      refine kept_bind (kept_modify (hJ.noted c₁ _ (fun _ => rfl) (fun _ => rfl) h₁))
        fun _ c₂ h₂ _ => ?_
      exact kept_pure h₂ trivial
    · exact kept_pure h trivial

/-- One turn of the loop. -/
theorem updateTurn_kept (h : J c) (timeouts : ℕ) :
    wp env (updateTurn (E := E) p timeouts) c (Kept J fun _ _ => True) := by
  have hrecv : wp env (onControl (EstablishedControl.recvFeedMsg p)) c (Kept J fun _ _ => True) :=
    wp_mono (hJ.session _ c EstablishedControl.recvFeedMsg_tends h) fun _ _ hr =>
      ⟨hr, fun _ _ => trivial⟩
  unfold updateTurn
  refine kept_bind (kept_timeout hrecv) fun r c₁ h₁ _ => ?_
  split
  · exact onUpdateFeed_kept hJ h₁ timeouts _
  · exact kept_pure h₁ trivial
  · split
    · exact kept_pure h₁ trivial
    · exact kept_pure h₁ trivial

/-- The end of the upkeep. -/
theorem checkPong_kept (h : J c) : wp env (checkPong (E := E) p) c (Kept J fun _ _ => True) := by
  unfold checkPong
  apply wp_get_bind
  split
  · refine kept_bind (kept_now (hJ.tick c h)) fun now c₁ h₁ _ => ?_
    refine kept_bind (subU64_kept h₁ (hJ.overflow c₁ _ h₁) _ _) fun since c₂ h₂ _ => ?_
    split
    · -- The pong is more than six seconds old.
      refine kept_bind (kept_act (hJ.stopped c₂ h₂)) fun _ c₃ h₃ _ => ?_
      refine kept_bind (kept_modify (hJ.noted c₃ _ (fun _ => rfl) (fun _ => rfl) h₃))
        fun _ c₄ h₄ _ => ?_
      refine expire_kept hJ h₄ (f := failed) (fun _ => rfl) (fun _ => rfl) fun c₅ h₅ => ?_
      exact wp_modify ⟨h₅, fun _ _ => trivial⟩
    · exact kept_pure h₂ trivial
  · exact kept_pure h trivial

/-- What `update` does with a session that can be used. -/
theorem serve_kept (h : J c) : wp env (serve (E := E) p) c (Kept J fun _ _ => True) := by
  unfold serve tend
  refine kept_bind (P := fun _ _ => True) ?_ fun event c₁ h₁ _ => ?_
  · refine kept_bind (kept_now (hJ.tick c h)) fun now c₁ h₁ _ => ?_
    refine kept_bind (pingIfDue_kept hJ h₁ now) fun _ c₂ h₂ _ => ?_
    refine kept_bind (keepAliveIfDue_kept hJ h₂ now) fun _ c₃ h₃ _ => ?_
    refine kept_mono (kept_forLoop (J := fun _ _ => True) (P := fun _ _ => True) ?_ 30 0 h₃ trivial)
      fun _ _ _ _ => trivial
    -- Each of the thirty turns keeps the invariant.
    intro timeouts c h _
    exact kept_mono (updateTurn_kept hJ h timeouts) fun _ _ _ _ =>
      ⟨fun _ _ => trivial, fun _ _ => trivial⟩
  · split
    · exact kept_pure h₁ trivial
    · exact kept_bind (checkPong_kept hJ h₁) fun _ c₂ h₂ _ => kept_pure h₂ trivial

end

end MaintainedControl

end

end PlayitAgent
