import PlayitAgent.Control.Upkeep
import PlayitAgent.Lib.Coupling

/-!
# What the answers of the environment lead to

The futures of the control code that await something, run on their own: whether an endpoint answers
and whether a registration succeeds depends on the script and on the clock, and neither on the
session in which it is tried nor on the log. So a call of `MaintainedControl` fails exactly when
what it asks of the environment does.
-/

namespace PlayitAgent

open Future

section
variable {I A W W' S S' E : Type} {R : S → S' → Prop} {p : Platform}

/-! ## Awaits -/

/-- `PacketIO::send_to`. -/
theorem sendTo_alike (bytes : List UInt8) (target : SocketAddr) :
    Alike R (sendTo (I := I) (W := W) bytes target) (sendTo (W := W') bytes target) := by
  unfold sendTo
  refine alike_bind (alike_act _) fun _ => alike_bind (alike_await _) fun res => ?_
  exact alike_bind (alike_ofExcept res) fun _ => alike_pure ()

/-- `PacketIO::recv_from`. -/
theorem recvFrom_alike (size : ℕ) :
    Alike R (recvFrom (I := I) (W := W) size) (recvFrom (W := W') size) := by
  unfold recvFrom
  exact alike_bind (alike_await _) fun res => alike_ofExcept res

/-- `AuthResource::get_control_addresses`. -/
theorem getControlAddresses_alike :
    Alike R (getControlAddresses (I := I) (W := W)) (getControlAddresses (W := W')) := by
  unfold getControlAddresses
  exact alike_bind (alike_await _) fun res => alike_ofExcept res

/-- `create_io`. -/
theorem createIo_alike : Alike R (createIo (I := I) (W := W)) (createIo (W := W')) := by
  unfold createIo
  exact alike_bind (alike_await _) fun res => alike_ofExcept res

/-- A message that is written. -/
theorem encoded_alike (msg : WriteM ℕ) :
    Alike R (encoded (I := I) (W := W) msg) (encoded (W := W') msg) := by
  unfold encoded
  split
  · exact alike_pure _
  · exact alike_fail _
  · exact alike_panic _

/-! ## The choice of an endpoint -/

namespace AddressSelector

/-- A datagram that arrives while `addr` is tried. -/
theorem pongOf_alike (addr : SocketAddr) (d : Datagram) :
    Alike R (pongOf (I := I) (W := W) (E := E) p addr d) (pongOf (W := W') p addr d) := by
  unfold pongOf
  split
  · exact alike_pure _
  · split
    · split
      · exact alike_pure _
      · split
        · exact alike_pure _
        · exact alike_pure _
    · exact alike_pure _
    · exact alike_pure _
    · exact alike_panic _

/-- One wait for the pong of `addr`. -/
theorem waitForPong_alike (addr : SocketAddr) :
    Alike R (waitForPong (I := I) (W := W) (E := E) p addr) (waitForPong (W := W') p addr) := by
  unfold waitForPong
  refine alike_bind (alike_mapResult _ (recvFrom_alike 2048)) fun r => ?_
  split
  · exact pongOf_alike addr _
  · exact alike_pure _
  · exact alike_pure _

/-- One attempt to reach `addr`. -/
theorem tryAddress_alike (self : AddressSelector I) (addr : SocketAddr) :
    Alike R (self.tryAddress (W := W) p addr) (self.tryAddress (W := W') p addr) := by
  unfold tryAddress
  refine alike_bind alike_now fun now => ?_
  refine alike_bind (alike_mapResult _ (encoded_alike _)) fun buffer => ?_
  refine alike_bind (alike_mapResult _ (sendTo_alike buffer addr)) fun r => ?_
  split
  · exact alike_pure _
  · refine alike_bind (alike_forLoop (fun _ => waitForPong_alike addr) _ ()) fun r => ?_
    split
    · exact alike_pure _
    · exact alike_pure _

/-- The loop over the options. -/
theorem connectTo_alike (self : AddressSelector I) (options : List SocketAddr) :
    Alike R (self.connectTo (W := W) p options) (self.connectTo (W := W') p options) := by
  induction options with
  | nil => exact alike_fail _
  | cons addr options ih =>
    unfold connectTo
    refine alike_bind (alike_forLoop (fun _ => tryAddress_alike self addr) _ ()) fun r => ?_
    split
    · exact alike_pure _
    · exact ih

/-- `AddressSelector::connect_to_first`. -/
theorem connectToFirst_alike (self : AddressSelector I) :
    Alike R (self.connectToFirst (W := W) p) (self.connectToFirst (W := W') p) :=
  connectTo_alike self self.options

end AddressSelector

/-! ## Registrations -/

namespace ConnectedControl

/-- `ConnectedControl::send`. -/
theorem send_alike (msg : WriteM ℕ) :
    Alike Eq (send (I := I) (W := W) msg) (send (W := W') msg) := by
  unfold send
  refine alike_bind (alike_modify_eq _) fun _ => ?_
  refine alike_bind (encoded_alike msg) fun bytes => ?_
  refine alike_bind (alike_modify_eq _) fun _ => ?_
  exact alike_get fun self => sendTo_alike bytes self.control_addr

/-- `ConnectedControl::recv`, from the datagram on. -/
theorem onDatagram_alike (d : Datagram) :
    Alike Eq (onDatagram (I := I) (W := W) p d) (onDatagram (W := W') p d) := by
  unfold onDatagram
  refine alike_bind (alike_modify_eq _) fun _ => alike_get fun self => ?_
  split
  · exact alike_fail _
  · split
    · exact alike_bind (alike_modify_eq _) fun _ => alike_pure _
    · exact alike_fail _
    · exact alike_panic _

/-- `ConnectedControl::recv`. -/
theorem recv_alike : Alike Eq (recv (I := I) (W := W) p) (recv (W := W') p) := by
  unfold recv
  refine alike_bind (alike_modify_eq _) fun _ => ?_
  exact alike_bind (alike_mapResult _ (recvFrom_alike 1024)) fun d => onDatagram_alike d

/-- What is done with the response to the registration. -/
theorem onRegisterResponse_alike (auth_pong : Pong) (request_id : UInt64)
    (content : ControlResponse) :
    Alike Eq (onRegisterResponse (I := I) (W := W) p auth_pong request_id content)
      (onRegisterResponse (W := W') p auth_pong request_id content) := by
  unfold onRegisterResponse
  split
  · exact alike_pure _
  · exact alike_fail _
  · refine alike_bind alike_now fun now => ?_
    exact alike_bind (alike_mapResult _ (send_alike _)) fun _ => alike_fail _
  · split
    · exact alike_fail _
    · exact alike_pure _
  · exact alike_bind (alike_await _) fun _ => alike_pure _
  · exact alike_pure _

/-- One wait for the response to the registration. -/
theorem waitForRegistered_alike (auth_pong : Pong) (request_id : UInt64) :
    Alike Eq (waitForRegistered (I := I) (W := W) p auth_pong request_id)
      (waitForRegistered (W := W') p auth_pong request_id) := by
  unfold waitForRegistered
  refine alike_bind (alike_mapResult _ recv_alike) fun r => ?_
  split
  · split
    · exact onRegisterResponse_alike _ _ _
    · exact alike_pure _
  · exact alike_pure _
  · exact alike_pure _
  · exact alike_pure _

/-- One attempt to register. -/
theorem tryRegister_alike (auth_pong : Pong) (request_id : UInt64) (bytes : List UInt8) :
    Alike Eq (tryRegister (I := I) (W := W) p auth_pong request_id bytes)
      (tryRegister (W := W') p auth_pong request_id bytes) := by
  unfold tryRegister
  refine alike_bind (alike_mapResult _ (send_alike _)) fun _ => ?_
  refine alike_bind (alike_forLoop (fun _ => waitForRegistered_alike auth_pong request_id) _ ())
    fun r => ?_
  split
  · exact alike_pure _
  · exact alike_pure _

/-- `ConnectedControl::authenticate`. -/
theorem authenticate_alike :
    Alike Eq (authenticate (I := I) (W := W) p) (authenticate (W := W') p) := by
  unfold authenticate authAuthenticate
  refine alike_get fun self => alike_bind ?_ fun key => ?_
  · refine alike_bind (alike_act _) fun _ => ?_
    exact alike_bind (alike_await _) fun res => alike_ofExcept res
  · split
    · exact alike_fail _
    · refine alike_bind alike_now fun request_id => ?_
      refine alike_bind (alike_forLoop (fun _ => tryRegister_alike _ _ _) _ ()) fun r => ?_
      split
      · exact alike_pure _
      · exact alike_fail _

end ConnectedControl

namespace EstablishedControl

/-- `EstablishedControl::is_expired`. -/
theorem isExpired_alike :
    Alike Eq (isExpired (I := I) (A := A) (W := W) (E := E)) (isExpired (W := W')) := by
  unfold isExpired notSetup
  refine alike_get fun self => ?_
  split
  · exact alike_pure _
  · refine alike_bind ?_ fun not_setup => ?_
    · split
      · exact alike_pure _
      · split
        · exact alike_pure _
        · exact alike_bind alike_now fun _ => alike_pure _
    · split
      · exact alike_pure _
      · split
        · exact alike_pure _
        · exact alike_pure _

/-- `EstablishedControl::authenticate`. -/
theorem authenticate_alike :
    Alike Eq (authenticate (I := I) (A := A) (W := W) p) (authenticate (W := W') p) := by
  unfold authenticate onRegistered sessionSetupDeadline
  refine alike_bind (alike_zoom_eq ConnectedControl.authenticate_alike) fun registered => ?_
  refine alike_bind (alike_modify_eq _) fun _ => ?_
  refine alike_get fun self => alike_bind (alike_modify_eq _) fun _ => ?_
  refine alike_bind ?_ fun deadline => alike_modify_eq _
  split
  · exact alike_pure _
  · exact alike_bind alike_now fun _ => alike_pure _

/-- What `update` asks of the environment first: an expired session is registered again. -/
def renewal (p : Platform) :
    ControlM I W (EstablishedControl I A) E (Option (Except SetupError Unit)) := do
  match ← isExpired with
  | none => pure none
  | some _ => do
    let registered ← attempt (tryTimeout .timeout (authenticate p))
    pure (some registered)

end EstablishedControl

/-! ## Calls -/

namespace MaintainedControl

/-- What `replace_connection` asks of the environment: a registration on the new connection, unless
that is on the flow of the session. -/
def registration (p : Platform) (self : MaintainedControl I A) (connected : ConnectedControl I)
    (force : Bool) : ControlM I W S SetupError Unit :=
  if !force && self.sameFlow connected then pure ()
  else do
    let _ ← tryTimeout .timeout (within connected (ConnectedControl.authenticate p))
    pure ()

/-- What `reload_control_addr` asks of it once it has other addresses: a socket, an endpoint that
answers, and a registration there. -/
def replacement (p : Platform) (self : MaintainedControl I A) (addresses : List SocketAddr)
    (force : Bool) : ControlM I W S SetupError Unit := do
  let new_io ← tryTimeout .timeout createIo
  let connected ← tryTimeout .timeout ((AddressSelector.mk addresses new_io).connectToFirst p)
  tryTimeout .timeout (registration p self connected force)

/-- What `reload_control_addr` asks of it. -/
def reload (p : Platform) (self : MaintainedControl I A) (force : Bool) :
    ControlM I W S SetupError Unit := do
  let addresses ← tryTimeout .timeout getControlAddresses
  if !force && decide (self.last_control_targets = addresses) then pure ()
  else replacement p self addresses force

variable {self : MaintainedControl I A}

/-- `set_control_state` asks nothing of the environment. -/
theorem setControlState_alike {R : MaintainedControl I A → S' → Prop}
    (hR : ∀ m t state, R m t → R (m.sent state) t) (state : ControlConnectionState) :
    Alike R (setControlState (W := W) (E := E) state) (pure () : ControlM I W' S' E Unit) := by
  unfold setControlState
  refine jointly_get fun m t _ => ?_
  split
  · have hmodify : Alike R (Future.modify (sent state) : ControlM I W _ E Unit)
        (pure () : ControlM I W' S' E Unit) :=
      fun _ _ _ _ _ _ hticks hstate => ⟨rfl, rfl, hticks, hR _ _ _ hstate⟩
    show Alike R _ ((pure () : ControlM I W' S' E Unit) >>= fun _ => pure ())
    refine alike_bind hmodify fun _ => ?_
    split
    · exact fun _ _ _ _ _ _ hticks hstate => ⟨rfl, rfl, hticks, hstate⟩
    · exact alike_pure ()
  · exact alike_pure ()

/-- The end of a replacement cannot fail. -/
theorem wp_end_ok {env : Env UInt64 W (MaintainedControl I A)}
    {c : ControlConfig I W (MaintainedControl I A)} (b : Bool)
    (f : MaintainedControl I A → MaintainedControl I A) :
    wp env (do Future.modify f; reconnected (E := E); pure b) c fun r _ => ∃ b, r = .ok b := by
  apply wp_modify_bind
  refine wp_bind reconnected_ok (fun _ _ _ => wp_pure ⟨b, rfl⟩) fun s c₁ h₁ => ?_
  cases h₁

/-- `replace_connection` fails exactly when the registration does. -/
theorem replaceConnection_fails (connected : ConnectedControl I) (force : Bool) :
    FailsAlike (fun m (_ : S') => Untouched self m)
      (replaceConnection (W := W) p connected force)
      (registration (W := W') p self connected force) := by
  unfold replaceConnection registration
  refine jointly_get fun m t huntouched => ?_
  have hsame : m.sameFlow connected = self.sameFlow connected := by
    unfold sameFlow
    rw [huntouched.control]
  rw [hsame]
  split
  · exact failsAlike_ok () fun _ _ => wp_pure ⟨_, rfl⟩
  · refine jointly_silent (setControlState_alike (fun m _ state h => ?_) _) ?_
    · exact h.trans ⟨rfl, rfl, rfl, rfl, rfl, rfl⟩
    · refine failsAlike_bind (alike_mapResult _ (alike_within ConnectedControl.authenticate_alike))
        fun authenticated => ?_
      exact failsAlike_ok () fun _ _ => wp_end_ok true _

/-- `reload_control_addr`, from the addresses on, fails exactly when the replacement does. -/
theorem reloadTo_fails (addresses : List SocketAddr) (force : Bool) :
    FailsAlike (fun m (_ : S') => Untouched self m) (reloadTo (W := W) p addresses force)
      (replacement (W := W') p self addresses force) := by
  unfold reloadTo replacement
  refine jointly_silent (setControlState_alike (fun m _ state h => ?_) _) ?_
  · exact h.trans ⟨rfl, rfl, rfl, rfl, rfl, rfl⟩
  refine failsAlike_bind (alike_mapResult _ createIo_alike) fun new_io => ?_
  refine failsAlike_bind (alike_mapResult _ (AddressSelector.connectToFirst_alike _))
    fun connected => ?_
  refine ((replaceConnection_fails connected force).tryTimeout .timeout).bind_ok
    fun updated _ _ => ?_
  exact wp_end_ok updated _

/-- `reload_control_addr` fails exactly when what it asks of the environment does. -/
theorem reloadControlAddr_fails (force : Bool) :
    FailsAlike (fun m (_ : S') => Untouched self m) (reloadControlAddr (W := W) p force)
      (reload (W := W') p self force) := by
  unfold reloadControlAddr announceReload reload
  have hannounce : Alike (fun m (_ : S') => Untouched self m)
      (if force then setControlState .reconnecting else pure () :
        ControlM I W (MaintainedControl I A) SetupError Unit)
      (pure () : ControlM I W' S' SetupError Unit) := by
    split
    · refine setControlState_alike (fun m _ state h => ?_) _
      exact h.trans ⟨rfl, rfl, rfl, rfl, rfl, rfl⟩
    · exact alike_pure ()
  refine jointly_silent hannounce ?_
  refine failsAlike_bind (alike_mapResult _ getControlAddresses_alike) fun addresses => ?_
  refine jointly_get fun m t huntouched => ?_
  rw [huntouched.last_control_targets]
  split
  · exact failsAlike_ok () fun _ _ => wp_pure ⟨_, rfl⟩
  · exact reloadTo_fails addresses force

/-- How `renew` and the renewal of the session end: either both say that the session can be used, or
that its registration has failed, which leaves the session that the renewal leaves. -/
def RenewsLike (r : Ran (Answer I) UInt64 Action W (MaintainedControl I A) E Bool)
    (r' : Ran (Answer I) UInt64 Action W' (EstablishedControl I A) E
      (Option (Except SetupError Unit))) : Prop :=
  (r.result = .ok true → ∀ error, r'.result ≠ .ok (some (.error error))) ∧
    (r.result = .ok false → (∃ error, r'.result = .ok (some (.error error))) ∧
      r.config.state.control = r'.config.state ∧ r.config.ticks = r'.config.ticks)

/-- `update` can use the session exactly when its renewal does not fail. -/
theorem renew_jointly :
    Jointly (fun (m : MaintainedControl I A) control => m.control = control)
      (renew (W := W) (E := E) p) (EstablishedControl.renewal (W := W') p) RenewsLike := by
  have hstopped (s : Stop E) (rest : List (Item (Answer I)))
      (c : ControlConfig I W (MaintainedControl I A))
      (c' : ControlConfig I W' (EstablishedControl I A)) :
      RenewsLike ⟨.error s, rest, c⟩ ⟨.error s, rest, c'⟩ :=
    ⟨fun h => (by cases h), fun h => (by cases h)⟩
  unfold renew EstablishedControl.renewal
  refine jointly_bind (alike_zoom (fun _ _ => rfl) EstablishedControl.isExpired_alike)
    (fun reason => ?_) fun s rest c c' _ _ => hstopped s rest c c'
  cases reason with
  | none =>
    refine fun _ _ _ _ _ _ _ _ => ⟨fun _ error h => ?_, fun h => ?_⟩
    · cases h
    · cases h
  | some reason =>
    unfold reauthenticate
    refine jointly_silent (setControlState_alike (fun _ _ _ h => h) _) ?_
    refine jointly_bind (alike_mapResult _ (alike_mapResult _ (alike_zoom (fun _ _ => rfl)
      EstablishedControl.authenticate_alike))) (fun registered => ?_)
      fun s rest c c' _ _ => hstopped s rest c c'
    intro env env' script c c' _ hticks hcontrol
    cases registered with
    | error error =>
      -- The failure is noted and slept on, which leaves the session alone.
      have hslept : wp env (do Future.modify (E := E) noteControlFailure; sleep; pure false) c
          fun r c₁ =>
          r ≠ .ok true ∧ c₁.state.control = c.state.control ∧ c₁.ticks = c.ticks := by
        apply wp_modify_bind
        unfold sleep
        refine wp_bind (Q := fun _ c₁ => c₁.state.control = c.state.control ∧ c₁.ticks = c.ticks)
          (wp_await (fun _ _ _ => ⟨rfl, rfl⟩) (fun _ => ⟨rfl, rfl⟩) ⟨rfl, rfl⟩)
          (fun _ c₁ h₁ => wp_pure ⟨fun h => (by cases h), h₁⟩) fun s c₁ h₁ => ⟨fun h => ?_, h₁⟩
        cases h
      obtain ⟨hfalse, hsame, hread⟩ := hslept script
      refine ⟨fun h => absurd h hfalse, fun _ => ⟨⟨error, rfl⟩, ?_, ?_⟩⟩
      · exact hsame.trans hcontrol
      · exact hread.trans hticks.symm
    | ok _ =>
      have hused : wp env (do
          Future.modify (E := E) fun self =>
            { self with soft_reconnect_failures := 0, hard_reconnect_requested := false }
          let now ← Future.now
          Future.modify fun self => { self with last_pong := now }
          setControlState .connected
          pure true) c fun r _ => r = .ok true := by
        apply wp_modify_bind
        apply wp_now_bind
        apply wp_modify_bind
        refine wp_bind (wp_setControlState (Φ := fun r _ => r = .ok ()) fun _ _ => rfl)
          (fun _ _ _ => wp_pure rfl) fun s _ hs => ?_
        cases hs
      have htrue := hused script
      refine ⟨fun _ error h => ?_, fun h => ?_⟩
      · cases h
      · cases htrue.symm.trans h

end MaintainedControl

end

end PlayitAgent
