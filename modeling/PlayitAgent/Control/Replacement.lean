import PlayitAgent.Control.RegisteredFlow

/-!
# Failed reconnects

`reload_control_addr` builds a second connection, and registers on it, beside the one that is in
use. The connection in use is touched only after the last await, so whatever fails before, the
session and the times of its upkeep are what they were. A registration that does not succeed leaves
a session with another latest pong, and another content of the buffer, at most.
-/

namespace PlayitAgent

open Future

section
variable {I A W S E : Type} {p : Platform}

/-! ## Registrations on a session -/

namespace EstablishedControl

/-- The session with another latest pong and another content of the buffer. -/
def refreshed (pong : Pong) (buffer : List UInt8) (self : EstablishedControl I A) :
    EstablishedControl I A :=
  { self with conn := { self.conn with pong_latest := pong, buffer } }

/-- The steps of a connection leave it with another latest pong and another content of
the buffer. -/
theorem conn_of_steps {env : Env UInt64 W (ConnectedControl I)}
    {c₀ c : ControlConfig I W (ConnectedControl I)}
    (h : Steps Event.Routine (ConnectedControl.Change p) env c₀ c) :
    c.state = { c₀.state with pong_latest := c.state.pong_latest, buffer := c.state.buffer } := by
  obtain ⟨haddr, hio⟩ := ConnectedControl.fixed_of_steps h
  show c.state = ⟨c₀.state.control_addr, c₀.state.packet_io, _, _⟩
  rw [← haddr, ← hio]

/-- The registration on the connection of a session. -/
theorem conn_authenticate {env : Env UInt64 W (EstablishedControl I A)}
    {c : ControlConfig I W (EstablishedControl I A)} :
    wp env (onConn (ConnectedControl.authenticate p)) c fun _ c' =>
      c'.state = c.state.refreshed c'.state.conn.pong_latest c'.state.conn.buffer := by
  apply wp_zoom
  refine wp_mono (ConnectedControl.authenticate_kept ConnectedControl.conserves_steps
    (Steps.refl.record trivial)) fun r c' hr => ?_
  have hconn := conn_of_steps hr.1
  show ({ c.state with conn := c'.state } : EstablishedControl I A) = _
  rw [hconn]
  rfl

/-- `EstablishedControl::authenticate` that does not succeed leaves everything but the latest pong
and the buffer as it was. -/
theorem authenticate_stopped {env : Env UInt64 W (EstablishedControl I A)}
    {c : ControlConfig I W (EstablishedControl I A)} :
    wp env (authenticate p) c fun r c' => ∀ s, r = .error s →
      c'.state = c.state.refreshed c'.state.conn.pong_latest c'.state.conn.buffer := by
  unfold authenticate
  refine wp_bind conn_authenticate ?_ fun _ _ h _ _ => h
  intro registered c₁ _
  -- From here on nothing stops it.
  apply wp_onRegistered
  · intro _ s hs
    cases hs
  · intro _ w s hs
    cases hs

end EstablishedControl

/-! ## Replacing the connection -/

namespace MaintainedControl

/-- The session, the addresses that it was set up with, and the times of its upkeep are the same. -/
structure Untouched (m m' : MaintainedControl I A) : Prop where
  control : m'.control = m.control
  last_control_targets : m'.last_control_targets = m.last_control_targets
  last_keep_alive : m'.last_keep_alive = m.last_keep_alive
  last_ping : m'.last_ping = m.last_ping
  last_pong : m'.last_pong = m.last_pong
  last_udp_auth : m'.last_udp_auth = m.last_udp_auth

variable {env : Env UInt64 W (MaintainedControl I A)}
  {c : ControlConfig I W (MaintainedControl I A)}

/-- Nothing was done. -/
theorem Untouched.refl (m : MaintainedControl I A) : Untouched m m := ⟨rfl, rfl, rfl, rfl, rfl, rfl⟩

/-- Something was done that leaves the session alone, and then something else. -/
theorem Untouched.trans {m m' m'' : MaintainedControl I A} (h : Untouched m m')
    (h' : Untouched m' m'') : Untouched m m'' where
  control := h'.control.trans h.control
  last_control_targets := h'.last_control_targets.trans h.last_control_targets
  last_keep_alive := h'.last_keep_alive.trans h.last_keep_alive
  last_ping := h'.last_ping.trans h.last_ping
  last_pong := h'.last_pong.trans h.last_pong
  last_udp_auth := h'.last_udp_auth.trans h.last_udp_auth

/-- The state is sent on the watch channel. -/
def sent (state : ControlConnectionState) (self : MaintainedControl I A) : MaintainedControl I A :=
  { self with control_state := self.control_state.send state }

/-- What `set_control_state` leaves: nothing happens if the state is the one already, and otherwise
it is published, or lost when there is no receiver. -/
inductive StateSet (env : Env UInt64 W (MaintainedControl I A)) (state : ControlConnectionState)
    (c : ControlConfig I W (MaintainedControl I A)) :
    ControlConfig I W (MaintainedControl I A) → Prop
  | same : c.state.control_state.value = state → StateSet env state c c
  | published : c.state.control_state.value ≠ state → c.state.control_state.hasReceiver = true →
    StateSet env state c ((c.update (sent state)).record env (.did (.published state)))
  | lost : c.state.control_state.value ≠ state → c.state.control_state.hasReceiver = false →
    StateSet env state c (c.update (sent state))

namespace StateSet

variable {state : ControlConnectionState} {c' : ControlConfig I W (MaintainedControl I A)}

/-- Nothing but the watch channel changes. -/
theorem state_eq (h : StateSet env state c c') :
    c'.state = { c.state with control_state := c'.state.control_state } := by
  cases h <;> rfl

/-- Nothing is told but the state. -/
theorem log_eq (h : StateSet env state c c') :
    c'.log = c.log ∨ ∃ w, c'.log = (.did (.published state), w) :: c.log := by
  cases h with
  | same _ => exact .inl rfl
  | published _ _ => exact .inr ⟨_, rfl⟩
  | lost _ _ => exact .inl rfl

end StateSet

/-- `set_control_state` returns. -/
theorem wp_setControlState {state : ControlConnectionState}
    {Φ : Except (Stop E) Unit → ControlConfig I W (MaintainedControl I A) → Prop}
    (h : ∀ c', StateSet env state c c' → Φ (.ok ()) c') :
    wp env (setControlState state) c Φ := by
  unfold setControlState
  apply wp_get_bind
  split
  · rename_i hvalue
    apply wp_modify_bind
    split
    · rename_i hreceiver
      exact wp_act (h _ (.published hvalue hreceiver))
    · rename_i hreceiver
      exact wp_pure (h _ (.lost hvalue (Bool.eq_false_iff.2 hreceiver)))
  · rename_i hvalue
    exact wp_pure (h _ (.same (not_not.1 hvalue)))

/-- `set_control_state` leaves the session alone. -/
theorem setControlState_untouched (state : ControlConnectionState) :
    wp env (setControlState (E := E) state) c (Kept (fun c' => Untouched c.state c'.state)
      fun _ _ => True) := by
  refine wp_setControlState fun c' hset => ⟨?_, fun _ _ => trivial⟩
  show Untouched c.state c'.state
  rw [hset.state_eq]
  exact ⟨rfl, rfl, rfl, rfl, rfl, rfl⟩

/-- A future that leaves the state alone, under a timer and in the middle of others, leaves the
session alone. -/
theorem untouched_of_state {α : Type} {x : ControlM I W (MaintainedControl I A) SetupError α}
    {m : MaintainedControl I A} (h : Untouched m c.state)
    (hx : wp env x c fun _ c' => c'.state = c.state) :
    wp env (tryTimeout .timeout x) c (Kept (fun c' => Untouched m c'.state) fun _ _ => True) := by
  refine kept_tryTimeout (wp_mono hx fun r c' hr => ⟨?_, fun _ _ => trivial⟩)
  show Untouched m c'.state
  rw [hr]
  exact h

/-- An await and its result. -/
theorem await_state {α β : Type} {g : Answer I → Option (Except E α)} {env : Env UInt64 W S}
    {c : ControlConfig I W S} {f : Except E α → ControlM I W S E β}
    (hf : ∀ r c, wp env (f r) c fun _ c' => c'.state = c.state) :
    wp env (await g >>= f) c fun _ c' => c'.state = c.state := by
  refine wp_bind wp_await_state (fun r c₁ h₁ => ?_) fun _ _ h => h
  exact wp_mono (hf r c₁) fun _ c₂ h₂ => h₂.trans h₁

/-- The value of a `Result` leaves the state alone. -/
theorem ofExcept_state {α : Type} {r : Except E α} {env : Env UInt64 W S}
    {c : ControlConfig I W S} : wp env (ofExcept r) c fun _ c' => c'.state = c.state :=
  wp_ofExcept (fun _ _ => rfl) fun _ _ => rfl

/-- `connect_to_first` leaves the state alone. -/
theorem connectToFirst_state {env : Env UInt64 W S} {c : ControlConfig I W S}
    (selector : AddressSelector I) :
    wp env (selector.connectToFirst p) c fun _ c' => c'.state = c.state :=
  wp_mono (AddressSelector.connectToFirst_steps (U := fun _ _ => False) p .refl selector)
    fun _ _ hr => hr.1.state_eq

/-- The end of a replacement returns, after a reading of the clock that is noted as the time of the
last pong, and sets the state to `Connected`. -/
theorem wp_reconnected {env : Env UInt64 W (MaintainedControl I A)}
    {c : ControlConfig I W (MaintainedControl I A)}
    {Φ : Except (Stop E) Unit → ControlConfig I W (MaintainedControl I A) → Prop}
    (h : ∀ m w c', m.control = c.state.control → m.control_state = c.state.control_state →
      m.last_pong = env.clock c.ticks →
      StateSet env .connected ⟨m, c.ticks + 1, (.read (env.clock c.ticks), w) :: c.log⟩ c' →
      Φ (.ok ()) c') : wp env reconnected c Φ := by
  unfold reconnected
  apply wp_now_bind
  apply wp_modify_bind
  refine wp_setControlState fun c' hset => h _ _ c' ?_ ?_ ?_ hset
  · rfl
  · rfl
  · rfl

/-- The end of a replacement returns. -/
theorem reconnected_ok : wp env (reconnected (E := E)) c fun r _ => r = .ok () :=
  wp_reconnected fun _ _ _ _ _ _ _ => rfl

/-- `replace_connection` that does not succeed leaves the session alone, and so does one that keeps
the connection. -/
theorem replaceConnection_untouched (connected : ConnectedControl I) (force : Bool) :
    wp env (replaceConnection p connected force) c fun r c' =>
      (∀ s, r = .error s → Untouched c.state c'.state) ∧
        (r = .ok false → Untouched c.state c'.state) := by
  unfold replaceConnection
  apply wp_get_bind
  split
  · refine wp_pure ⟨fun s hs => ?_, fun _ => .refl _⟩
    cases hs
  · refine wp_bind (setControlState_untouched .reconnecting) ?_ fun s c₁ h₁ =>
      ⟨fun _ _ => h₁.1, fun h => by cases h⟩
    intro _ c₁ h₁
    refine wp_bind (untouched_of_state h₁.1 wp_within_state) ?_ fun s c₂ h₂ =>
      ⟨fun _ _ => h₂.1, fun h => by cases h⟩
    intro authenticated c₂ h₂
    apply wp_modify_bind
    refine wp_bind reconnected_ok ?_ fun s c₃ h₃ => by cases h₃
    intro _ c₃ _
    refine wp_pure ⟨fun s hs => ?_, fun h => ?_⟩
    · cases hs
    · cases h

/-- `reload_control_addr`, from the addresses on, that does not succeed leaves the session alone. -/
theorem reloadTo_untouched (addresses : List SocketAddr) (force : Bool) :
    wp env (reloadTo p addresses force) c fun r c' =>
      ∀ s, r = .error s → Untouched c.state c'.state := by
  unfold reloadTo
  refine wp_bind (setControlState_untouched .reconnecting) ?_ fun _ _ h _ _ => h.1
  intro _ c₁ h₁
  refine wp_bind (untouched_of_state h₁.1 (await_state fun _ _ => ofExcept_state)) ?_
    fun _ _ h _ _ => h.1
  intro new_io c₂ h₂
  refine wp_bind (untouched_of_state h₂.1 (connectToFirst_state _)) ?_ fun _ _ h _ _ => h.1
  intro connected c₃ h₃
  refine wp_bind (Q := fun r c' => ∀ s, r = .error s → Untouched c.state c'.state) ?_ ?_
    fun _ _ h s hs => h s hs
  · apply wp_mapResult
    refine wp_mono (replaceConnection_untouched connected force) fun r c' hr s hs => ?_
    cases r with
    | error s' => exact h₃.1.trans (hr.1 s' rfl)
    | ok b => cases hs
  · intro updated c₄ _
    apply wp_modify_bind
    refine wp_bind reconnected_ok ?_ fun s c₅ h₅ => by cases h₅
    intro _ c₅ _
    refine wp_pure fun s hs => ?_
    cases hs

/-- `reload_control_addr` that does not succeed leaves the session alone. -/
theorem reloadControlAddr_untouched (force : Bool) :
    wp env (reloadControlAddr p force) c fun r c' =>
      ∀ s, r = .error s → Untouched c.state c'.state := by
  unfold reloadControlAddr announceReload
  refine wp_bind (Q := Kept (fun c' => Untouched c.state c'.state) fun _ _ => True) ?_ ?_
    fun _ _ h _ _ => h.1
  · split
    · exact setControlState_untouched .reconnecting
    · exact kept_pure (.refl _) trivial
  intro _ c₁ h₁
  refine wp_bind (untouched_of_state h₁.1 (await_state fun _ _ => ofExcept_state)) ?_
    fun _ _ h _ _ => h.1
  intro addresses c₂ h₂
  apply wp_get_bind
  split
  · refine wp_pure fun s hs => ?_
    cases hs
  · exact wp_mono (reloadTo_untouched addresses force) fun r c' hr s hs => h₂.1.trans (hr s hs)

/-- A reload that returns an error, forced or not, leaves the session, the addresses, and the times
as they were; and a registration that fails or is cut off leaves a session with another latest pong
and another content of the buffer, at most. -/
theorem failed_reconnect_harmless :
    (∀ (self : MaintainedControl I A) (force : Bool) (env : Env UInt64 W (MaintainedControl I A))
      (ticks : ℕ) (log : List (ControlEvent I × W)) (script : List (Item (Answer I)))
      (error : SetupError),
      let ran := reloadControlAddr p force env script ⟨self, ticks, log⟩
      ran.result = .error (.failed error) → Untouched self ran.config.state) ∧
    ∀ (self : EstablishedControl I A) (env : Env UInt64 W (EstablishedControl I A)) (ticks : ℕ)
      (log : List (ControlEvent I × W)) (script : List (Item (Answer I))) (s : Stop SetupError),
      let ran := EstablishedControl.authenticate p env script ⟨self, ticks, log⟩
      ran.result = .error s →
        ∃ pong buffer, ran.config.state = self.refreshed pong buffer := by
  constructor
  · intro self force env ticks log script error ran hran
    exact reloadControlAddr_untouched force script _ hran
  · intro self env ticks log script s ran hran
    exact ⟨_, _, EstablishedControl.authenticate_stopped script s hran⟩

end MaintainedControl

end

namespace Sample

/-- A subscriber that stays. -/
def subscribed (_ : ℕ) : Bool := true

/-- A session that is kept alive. -/
def maintained (control : EstablishedControl Unit Unit) : MaintainedControl Unit Unit where
  control
  last_keep_alive := 900
  last_ping := 950
  last_pong := 990
  last_udp_auth := 0
  last_control_targets := [endpoint]
  control_state := ⟨.connected, subscribed⟩
  soft_reconnect_failures := 0
  hard_reconnect_requested := false

/-- The answers to a reload whose ping cannot be sent. -/
def unreachable : List (Item (Answer Unit)) :=
  [.answer (.addresses (.ok [endpoint])), .answer (.created (.ok ())),
    .answer (.sent (.error ⟨.other, "network is unreachable"⟩))]

end Sample

/-- A forced reload whose ping cannot be sent, and a registration that cannot be signed. -/
theorem MaintainedControl.failed_reconnect_sample :
    (let ran := reloadControlAddr (Sample.platform true) true (Sample.env 5) Sample.unreachable
        ⟨Sample.maintained Sample.session, 0, []⟩;
      ran.result = .error (.failed .failedToConnect) ∧
        Untouched (Sample.maintained Sample.session) ran.config.state) ∧
    (let ran := EstablishedControl.authenticate (Sample.platform true) (Sample.env 5)
        [.answer (.signed (.error .apiError))] ⟨Sample.session, 0, []⟩;
      ran.result = .error (.failed .apiError) ∧
        ∃ pong buffer, ran.config.state = Sample.session.refreshed pong buffer) := by
  have hharmless := failed_reconnect_harmless (I := Unit) (A := Unit) (W := Unit)
    (p := Sample.platform true)
  constructor
  · exact ⟨rfl, hharmless.1 (Sample.maintained Sample.session) true (Sample.env 5) 0 []
      Sample.unreachable .failedToConnect rfl⟩
  · exact ⟨rfl, hharmless.2 Sample.session (Sample.env 5) 0 [] _ _ rfl⟩

end PlayitAgent
