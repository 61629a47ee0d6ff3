import PlayitAgent.Control.Upkeep

/-!
# What `Connected` says

`Connected` is published when a session was set up, when it was registered again, and when a reload
is over. Whether the session is unexpired at that moment is decided by what was known before and by
what has arrived meanwhile: a session whose server has told an expiry is, and so is one in its grace
period. A registration by `update` starts a new grace period. A replaced connection keeps the
deadline of the old one, and a reload that keeps the connection keeps everything, so neither
`Connected` tells anything about sessions that were expired for these reasons before.
-/

namespace PlayitAgent

open Future

section
variable {I A W S E : Type}

/-! ## Readings and pongs -/

/-- The readings of the clock, newest first. -/
def readings (log : List (ControlEvent I × W)) : List UInt64 := log.filterMap fun
  | (.read t, _) => some t
  | _ => none

/-- The latest pong of a registration with the endpoint `addr`: the last one that has arrived since
one was handed to the authentication, or that one. -/
def Platform.latestPong (p : Platform) (addr : SocketAddr) :
    List (ControlEvent I × W) → Option Pong
  | [] => none
  | (.answered (.received (.ok d)), _) :: log => (p.pongFrom addr d).or (p.latestPong addr log)
  | (.did (.authenticate pong), _) :: _ => some pong
  | _ :: log => p.latestPong addr log

/-- The pong that a session is registered with: the latest one of the registration with the endpoint
whose datagram is worked on, if there was a registration. -/
def Platform.registeredPong (p : Platform) (log : List (ControlEvent I × W)) : Option Pong :=
  match signed log, current log with
  | some _, some d => p.latestPong d.source log
  | _, _ => none

namespace ConnectedControl

variable {p : Platform} {env : Env UInt64 W (ConnectedControl I)}
  {c : ControlConfig I W (ConnectedControl I)} {addr : SocketAddr}

/-- The latest pong of the connection is the one of the registration. -/
structure Tracks (p : Platform) (addr : SocketAddr) (c : ControlConfig I W (ConnectedControl I)) :
    Prop where
  control_addr : c.state.control_addr = addr
  latestPong : p.latestPong addr c.log = some c.state.pong_latest
  signed : signed c.log ≠ none

/-- An answer other than a datagram leaves the latest pong of the registration alone. -/
theorem latestPong_answered {v : Answer I} (hv : ∀ d, v ≠ .received (.ok d)) (w : W)
    (log : List (ControlEvent I × W)) :
    p.latestPong addr ((.answered v, w) :: log) = p.latestPong addr log := by
  cases v with
  | received res =>
    cases res with
    | ok d => exact absurd rfl (hv d)
    | error e => rfl
  | _ => rfl

/-- A registration keeps track of the latest pong. -/
theorem conserves_tracks (addr : SocketAddr) : Conserves p env (Tracks (I := I) p addr) where
  tick _ h := ⟨h.control_addr, h.latestPong, h.signed⟩
  buffer _ _ h := ⟨h.control_addr, h.latestPong, h.signed⟩
  sendTo _ _ _ h := ⟨h.control_addr, h.latestPong, h.signed⟩
  elapsed _ _ h := ⟨h.control_addr, h.latestPong, h.signed⟩
  answered _ _ hv h := ⟨h.control_addr, (latestPong_answered hv _ _).trans h.latestPong, h.signed⟩
  recv c h := by
    have hheard : wp env (ConnectedControl.recv p) c _ := recv_steps .refl
    suffices hkeep : wp env (ConnectedControl.recv p) c fun _ c' => Tracks p addr c' from
      wp_mono (wp_and hheard hkeep) fun r c' hr => ⟨hr.2, hr.1.2⟩
    obtain ⟨haddr, hpong, hsigned⟩ := h
    refine wp_recv_pong ?_ (fun _ _ _ => ⟨haddr, hpong, hsigned⟩)
      (fun _ _ _ => ⟨haddr, hpong, hsigned⟩) fun _ => ⟨haddr, hpong, hsigned⟩
    -- A datagram: its pong, if it is one from the endpoint, is the latest on both sides.
    intro d w conn haddr' hpong'
    refine ⟨haddr'.trans haddr, ?_, hsigned⟩
    show (p.pongFrom addr d).or (p.latestPong addr c.log) = some conn.pong_latest
    rw [hpong', hpong, haddr]
    cases p.pongFrom addr d <;> rfl

/-- The pong that a registration leads to is the latest one of the connection. -/
theorem authenticate_registeredPong :
    wp env (authenticate p) c fun r c' => ∀ registered, r = .ok registered →
      p.registeredPong c'.log = some c'.state.pong_latest := by
  refine wp_mono (authenticate_kept (c := c) (conserves_tracks c.state.control_addr)
    ⟨rfl, rfl, Option.some_ne_none _⟩) fun r c' hr registered hregistered => ?_
  obtain ⟨htracks, hheard⟩ := hr
  obtain ⟨request_id, d, hd, hsource, -⟩ := hheard registered hregistered
  obtain ⟨pong, hpong⟩ := Option.ne_none_iff_exists'.1 htracks.signed
  -- The datagram of the answer comes from the endpoint, so `registeredPong` looks there.
  unfold Platform.registeredPong
  rw [hpong, hd]
  show p.latestPong d.source c'.log = _
  rw [hsource, htracks.control_addr]
  exact htracks.latestPong

end ConnectedControl

/-- A registration on a connection of its own, likewise. -/
theorem within_registeredPong {p : Platform} {env : Env UInt64 W S} {c : ControlConfig I W S}
    (connected : ConnectedControl I) :
    wp env (within connected (ConnectedControl.authenticate p)) c fun r c' => ∀ authenticated,
      r = .ok authenticated → p.registeredPong c'.log = some authenticated.2.pong_latest := by
  apply wp_within
  refine wp_mono ConnectedControl.authenticate_registeredPong fun r c' hr authenticated ha => ?_
  cases r with
  | error s => cases ha
  | ok registered =>
    cases ha
    exact hr registered rfl

/-! ## Sessions after a registration -/

namespace EstablishedControl

/-- When a session is not expired. -/
theorem isExpiredAt_eq_none_iff (self : EstablishedControl I A) (now : UInt64) :
    self.isExpiredAt now = none ↔ self.force_expired = false ∧
      (self.pong_at_auth.session_expire_at.isSome ∨
        ∃ deadline ∈ self.session_setup_deadline, now < deadline) ∧ self.flowChanged = false := by
  unfold isExpiredAt notSetupAt
  cases self.force_expired with
  | true => simp
  | false =>
    cases self.pong_at_auth.session_expire_at with
    | some expire_at => simp
    | none =>
      cases self.session_setup_deadline with
      | none => simp
      | some deadline =>
        by_cases hnow : deadline ≤ now
        · simp [hnow, UInt64.not_lt.2 hnow]
        · simp [hnow, UInt64.not_le.1 hnow]

/-- A session on the flow of its registration has not changed its flow. -/
theorem flowChanged_eq_false {self : EstablishedControl I A}
    (hclient : self.conn.pong_latest.client_addr = self.pong_at_auth.client_addr)
    (htunnel : self.conn.pong_latest.tunnel_addr = self.pong_at_auth.tunnel_addr) :
    self.flowChanged = false := by
  unfold flowChanged
  rw [hclient, htunnel]
  simp

/-- A session on the flow of its registration, and not forced to expire, is unexpired when the
server has told an expiry, or its deadline is ahead. -/
theorem unexpired_iff_of_flow {self : EstablishedControl I A} {now : UInt64}
    (hclient : self.conn.pong_latest.client_addr = self.pong_at_auth.client_addr)
    (htunnel : self.conn.pong_latest.tunnel_addr = self.pong_at_auth.tunnel_addr)
    (hforce : self.force_expired = false) :
    self.isExpiredAt now = none ↔ self.pong_at_auth.session_expire_at.isSome ∨
      ∃ deadline ∈ self.session_setup_deadline, now < deadline := by
  rw [isExpiredAt_eq_none_iff]
  constructor
  · intro h
    exact h.2.1
  · intro h
    exact ⟨hforce, h, flowChanged_eq_false hclient htunnel⟩

/-- A session on another connection is unexpired when the server has told an expiry, or the deadline
from before is ahead. -/
theorem resetEstablished_unexpired_iff (self : EstablishedControl I A) (conn : ConnectedControl I)
    (registered : AgentRegistered) (now : UInt64) :
    (conn.resetEstablished registered self).isExpiredAt now = none ↔
      (self.nextExpireAt conn.pong_latest).isSome ∨
        ∃ deadline ∈ self.session_setup_deadline, now < deadline :=
  unexpired_iff_of_flow rfl rfl rfl

/-- A session that is registered again is unexpired when the server has told an expiry, or its new
deadline is ahead. -/
theorem reregistered_unexpired_iff (self : EstablishedControl I A) (registered : AgentRegistered)
    (deadline : Option UInt64) (now : UInt64) :
    (self.reregistered registered deadline).isExpiredAt now = none ↔
      (self.nextExpireAt self.conn.pong_latest).isSome ∨ ∃ d ∈ deadline, now < d :=
  unexpired_iff_of_flow rfl rfl rfl

variable {p : Platform} {env : Env UInt64 W (EstablishedControl I A)}
  {c : ControlConfig I W (EstablishedControl I A)}

/-- The grace period of a registration ends five seconds after its last reading of the clock. -/
def InGrace (log : List (ControlEvent I × W)) (now : UInt64) : Prop :=
  ∃ t ∈ (readings log).head?, now < saturatingAdd t sessionSetupGraceMs

/-- `EstablishedControl::authenticate` leaves a session that is unexpired when the server has told
an expiry, or it is in its grace period. -/
theorem authenticate_unexpired_iff :
    wp env (authenticate p) c fun r c' => r = .ok () → ∃ pong, p.registeredPong c'.log = some pong ∧
      ∀ now, c'.state.isExpiredAt now = none ↔
        (c.state.nextExpireAt pong).isSome ∨ InGrace c'.log now := by
  unfold authenticate
  have hconn : wp env (onConn (ConnectedControl.authenticate p)) c fun r c' =>
      ∀ registered, r = .ok registered →
        p.registeredPong c'.log = some c'.state.conn.pong_latest := by
    apply wp_zoom
    exact ConnectedControl.authenticate_registeredPong
  refine wp_bind (wp_and hconn conn_authenticate) ?_ fun s c₁ _ hs => by cases hs
  rintro registered c₁ ⟨hpong, hstate⟩
  have hpong := hpong registered rfl
  have hexpire : c₁.state.nextExpireAt c₁.state.conn.pong_latest =
      c.state.nextExpireAt c₁.state.conn.pong_latest := by
    rw [hstate]
    rfl
  apply wp_onRegistered
  · -- The server has told an expiry, and no deadline is set.
    intro hsome _
    refine ⟨_, hpong, fun now => ?_⟩
    have hiff := reregistered_unexpired_iff c₁.state registered none now
    rw [← hexpire]
    exact ⟨fun _ => .inl hsome, fun _ => hiff.2 (.inl hsome)⟩
  · -- It has not, and the deadline is five seconds after the reading of the clock.
    intro hnone w _
    refine ⟨_, hpong, fun now => ?_⟩
    have hiff := reregistered_unexpired_iff c₁.state registered
      (some (saturatingAdd (env.clock c₁.ticks) sessionSetupGraceMs)) now
    rw [hexpire] at hiff
    refine hiff.trans (or_congr Iff.rfl ?_)
    unfold InGrace
    constructor
    · rintro ⟨deadline, hdeadline, hnow⟩
      cases hdeadline
      exact ⟨_, rfl, hnow⟩
    · rintro ⟨t, ht, hnow⟩
      cases ht
      exact ⟨_, rfl, hnow⟩

end EstablishedControl

/-! ## Announcements -/

/-- `P` holds of what had happened, and of what could be seen, whenever `Connected`
was published. -/
def Announced (P : List (ControlEvent I × W) → W → Prop) (log : List (ControlEvent I × W)) : Prop :=
  ∀ view older, (.did (.published .connected), view) :: older <:+ log → P older view

section
variable {P : List (ControlEvent I × W) → W → Prop} {log : List (ControlEvent I × W)}

/-- Nothing was published yet. -/
theorem announced_nil : Announced P [] := by
  intro view older h
  cases List.suffix_nil.1 h

/-- Another event. -/
theorem Announced.cons (h : Announced P log) {ev : ControlEvent I} {w : W}
    (hev : ev = .did (.published .connected) → P log w) : Announced P ((ev, w) :: log) := by
  intro view older hsuffix
  rcases List.suffix_cons_iff.1 hsuffix with heq | hsuffix
  · cases heq
    exact hev rfl
  · exact h view older hsuffix

/-- A reading of the clock. -/
theorem Announced.read (h : Announced P log) (t : UInt64) (w : W) :
    Announced P ((.read t, w) :: log) :=
  h.cons fun hev => by cases hev

/-- Steps that do not publish `Connected`. -/
theorem Announced.steps {R : ControlEvent I → Prop} {U : ControlConfig I W S → (S → S) → Prop}
    {env : Env UInt64 W S} {c₀ c : ControlConfig I W S} (h : Announced P c₀.log)
    (hsteps : Steps R U env c₀ c) (hR : ∀ ev, R ev → ev ≠ .did (.published .connected)) :
    Announced P c.log := by
  refine hsteps.invariant (J := fun c : ControlConfig I W S => Announced P c.log) h ?_ ?_
    fun _ _ h _ => h
  · intro c h
    exact h.cons fun hev => by cases hev
  · intro c ev h hev
    exact h.cons fun heq => absurd heq (hR ev hev)

/-- What is quiet does not publish anything. -/
theorem Event.Quiet.ne_connected (ev : ControlEvent I) (h : ev.Quiet) :
    ev ≠ .did (.published .connected) := by
  rintro rfl
  exact h

/-- The state is set. -/
theorem Announced.stateSet {P : List (ControlEvent I × W) → W → Prop}
    {env : Env UInt64 W (MaintainedControl I A)} {state : ControlConnectionState}
    {c c' : ControlConfig I W (MaintainedControl I A)} (h : Announced P c.log)
    (hset : MaintainedControl.StateSet env state c c')
    (hstate : state = .connected → P c.log (env.look c'.state)) : Announced P c'.log := by
  cases hset with
  | same _ => exact h
  | published _ _ =>
    refine h.cons fun hev => hstate ?_
    cases hev
    rfl
  | lost _ _ => exact h

/-- The upkeep of a session does not publish `Connected`. -/
theorem serves_announced {P : List (ControlEvent I × W) → W → Prop}
    (env : Env UInt64 W (MaintainedControl I A)) :
    MaintainedControl.Serves env fun c => Announced P c.log where
  tick _ h := h.cons fun hev => by cases hev
  overflow _ _ h := h.cons fun hev => by cases hev
  stopped _ h := h.cons fun hev => by cases hev
  session x c hx h := by
    refine wp_mono (MaintainedControl.onControl_steps fun env' => hx env' _) fun r c' hr => ?_
    exact h.steps hr.1 Event.Quiet.ne_connected
  noted _ _ _ _ h := h
  expire c f _ _ h := by
    refine ⟨h, fun c' hset => ?_⟩
    show Announced P c'.log
    exact h.stateSet hset fun hstate => by cases hstate

end

/-! ## When `Connected` is true -/

/-- The condition for a `Connected` that `op` publishes, on a session that was `self` before. A
session that was not registered meanwhile has to be unexpired at the newest reading of the clock.
One that was registered has to know when it expires, or to be in its grace period: a new one after
`update`, and that of the session from before otherwise. -/
def ControlOp.Warranted (p : Platform) (op : ControlOp I) (self : EstablishedControl I A)
    (older : List (ControlEvent I × W)) : Prop :=
  match older, p.registeredPong older with
  | (.read now, _) :: _, none => self.isExpiredAt now = none
  | (.read now, _) :: before, some pong => (self.nextExpireAt pong).isSome ∨
      match op with
      | .update => EstablishedControl.InGrace before now
      | _ => ∃ deadline ∈ self.session_setup_deadline, now < deadline
  | _, _ => False

/-- The session that could be seen is unexpired, at the newest reading of the clock, exactly when
that is warranted. -/
def ControlOp.ConnectedIff (p : Platform) (op : ControlOp I) (self : EstablishedControl I A)
    (older : List (ControlEvent I × MaintainedControl I A)) (view : MaintainedControl I A) : Prop :=
  (readings older).head? = some view.last_pong ∧
    (view.control.isExpiredAt view.last_pong = none ↔ op.Warranted p self older)

/-- After a registration by anything but `update`, the deadline from before is what counts. -/
theorem ControlOp.warranted_iff_of_ne {p : Platform} {op : ControlOp I} (hop : op ≠ .update)
    {self : EstablishedControl I A} {log : List (ControlEvent I × W)} {pong : Pong}
    (hpong : p.registeredPong log = some pong) (now : UInt64) (w : W) :
    op.Warranted p self ((.read now, w) :: log) ↔
      (self.nextExpireAt pong).isSome ∨
        ∃ deadline ∈ self.session_setup_deadline, now < deadline := by
  have hread : p.registeredPong ((.read now, w) :: log) = some pong := hpong
  unfold Warranted
  rw [hread]
  cases op with
  | update => exact absurd rfl hop
  | _ => exact Iff.rfl

namespace MaintainedControl

variable {p : Platform} {clock : ℕ → UInt64} {op : ControlOp I} {start : EstablishedControl I A}
  {c : ControlConfig I (MaintainedControl I A) (MaintainedControl I A)}

/-- A session that was not registered yet, with nothing wrong published. -/
structure Unregistered (p : Platform) (op : ControlOp I) (start : EstablishedControl I A)
    (c : ControlConfig I (MaintainedControl I A) (MaintainedControl I A)) : Prop where
  announced : Announced (op.ConnectedIff p start) c.log
  signed : signed c.log = none
  control : c.state.control = start

/-- Datagrams are exchanged. -/
theorem Unregistered.steps {c₁ : ControlConfig I (MaintainedControl I A) (MaintainedControl I A)}
    (h : Unregistered p op start c)
    (hsteps : Steps Event.Exchange (fun _ _ => False) (ControlOp.whole clock) c c₁) :
    Unregistered p op start c₁ := by
  refine ⟨h.announced.steps hsteps ?_, ?_, ?_⟩
  · rintro ev hev rfl
    exact hev
  · refine hsteps.invariant
      (J := fun c : ControlConfig I (MaintainedControl I A) (MaintainedControl I A) =>
        PlayitAgent.signed c.log = none) h.signed (fun _ h => h) ?_ fun _ _ h _ => h
    intro c ev h hev
    unfold PlayitAgent.signed Config.record at *
    rw [List.findSome?_cons, h]
    unfold Event.Exchange at hev
    split at hev <;> first | rfl | exact hev.elim
  · rw [hsteps.state_eq]
    exact h.control

/-- A future that exchanges datagrams, under a timer. -/
theorem Unregistered.tryTimeout {α : Type} (h : Unregistered p op start c)
    {x : ControlM I (MaintainedControl I A) (MaintainedControl I A) SetupError α}
    (hx : wp (ControlOp.whole clock) x c fun _ c' =>
      Steps Event.Exchange (fun _ _ => False) (ControlOp.whole clock) c c') :
    wp (ControlOp.whole clock) (Future.tryTimeout .timeout x) c
      (Kept (fun c' => Unregistered p op start c' ∧ c'.state = c.state) fun _ _ => True) := by
  refine kept_tryTimeout (wp_mono hx fun r c' hr => ⟨⟨h.steps hr, hr.state_eq⟩, fun _ _ => trivial⟩)

/-- The state is set to `Reconnecting`. -/
theorem Unregistered.reconnecting (h : Unregistered p op start c) :
    wp (ControlOp.whole clock) (setControlState (E := E) .reconnecting) c fun r c' => r = .ok () ∧
      Unregistered p op start c' := by
  refine wp_setControlState fun c' hset => ⟨rfl, ?_, ?_, ?_⟩
  · exact h.announced.stateSet hset fun hstate => by cases hstate
  · rcases hset.log_eq with heq | ⟨w, heq⟩
    · rw [heq]
      exact h.signed
    · rw [heq]
      exact h.signed
  · rw [hset.state_eq]
    exact h.control

/-- The end of a replacement, on a session that is unexpired exactly when that is warranted at the
reading of the clock. -/
theorem reconnected_announced (h : Announced (op.ConnectedIff p start) c.log)
    (hiff : ∀ w, c.state.control.isExpiredAt (clock c.ticks) = none ↔
      op.Warranted p start ((.read (clock c.ticks), w) :: c.log)) :
    wp (ControlOp.whole clock) (MaintainedControl.reconnected (E := E)) c fun r c' => r = .ok () ∧
      Announced (op.ConnectedIff p start) c'.log := by
  refine wp_reconnected fun m w c' hcontrol _ hpong hset => ⟨rfl, ?_⟩
  refine Announced.stateSet (h.read _ _) hset fun _ => ?_
  have hlast : c'.state.last_pong = clock c.ticks := by
    rw [hset.state_eq]
    exact hpong
  have hview : c'.state.control = c.state.control := by
    rw [hset.state_eq]
    exact hcontrol
  refine ⟨congrArg some hlast.symm, ?_⟩
  show c'.state.control.isExpiredAt c'.state.last_pong = none ↔ _
  rw [hlast, hview]
  exact hiff w

/-- A session that was kept is unexpired when it was before. -/
theorem Unregistered.reconnected (h : Unregistered p op start c) :
    wp (ControlOp.whole clock) (MaintainedControl.reconnected (E := E)) c fun r c' => r = .ok () ∧
      Announced (op.ConnectedIff p start) c'.log := by
  refine reconnected_announced h.announced fun w => ?_
  -- Nothing was registered, so the session is the one that the call has started with.
  have hnone : p.registeredPong ((.read (clock c.ticks), w) :: c.log) = none := by
    unfold Platform.registeredPong
    rw [show PlayitAgent.signed ((.read (clock c.ticks), w) :: c.log) = none from h.signed]
  unfold ControlOp.Warranted
  rw [hnone, h.control]

/-- A session whose connection was replaced, with nothing wrong published: it has the deadline from
before. -/
structure Replaced (p : Platform) (op : ControlOp I) (start : EstablishedControl I A)
    (c : ControlConfig I (MaintainedControl I A) (MaintainedControl I A)) : Prop where
  announced : Announced (op.ConnectedIff p start) c.log
  registered : ∃ pong, p.registeredPong c.log = some pong ∧
    ∀ now, c.state.control.isExpiredAt now = none ↔ (start.nextExpireAt pong).isSome ∨
      ∃ deadline ∈ start.session_setup_deadline, now < deadline

/-- The end of a replacement. `Connected` may be published there, or have been lost. -/
theorem Replaced.reconnected (hop : op ≠ .update) (h : Replaced p op start c) :
    wp (ControlOp.whole clock) (MaintainedControl.reconnected (E := E)) c fun r c' => r = .ok () ∧
      Replaced p op start c' := by
  obtain ⟨hannounced, pong, hpong, hiff⟩ := h
  have hpublished : wp (ControlOp.whole clock) (MaintainedControl.reconnected (E := E)) c _ :=
    reconnected_announced hannounced fun w => (hiff _).trans
      (ControlOp.warranted_iff_of_ne hop hpong _ _).symm
  refine wp_mono (wp_and hpublished (wp_reconnected (Φ := fun _ c' =>
    c'.state.control = c.state.control ∧ p.registeredPong c'.log = some pong) ?_))
    fun _ c' hr => ⟨hr.1.1, hr.1.2, pong, hr.2.2, fun now => ?_⟩
  · intro m w c' hcontrol _ _ hset
    refine ⟨?_, ?_⟩
    · rw [hset.state_eq]
      exact hcontrol
    · rcases hset.log_eq with heq | ⟨w', heq⟩
      · rw [heq]
        exact hpong
      · rw [heq]
        exact hpong
  · rw [hr.2.1]
    exact hiff now

/-- `replace_connection` publishes `Connected` as it should; it has replaced the connection, or has
done nothing, when it returns. -/
theorem Unregistered.replaceConnection (hop : op ≠ .update) (h : Unregistered p op start c)
    (connected : ConnectedControl I) (force : Bool) :
    wp (ControlOp.whole clock) (MaintainedControl.replaceConnection p connected force) c fun r c' =>
      Announced (op.ConnectedIff p start) c'.log ∧ (r = .ok true → Replaced p op start c') ∧
        (r = .ok false → c' = c) := by
  unfold MaintainedControl.replaceConnection
  apply wp_get_bind
  split
  · refine wp_pure ⟨h.announced, fun hr => ?_, fun _ => rfl⟩
    cases hr
  refine wp_bind h.reconnecting ?_ fun _ _ h =>
    ⟨h.2.announced, fun hr => (by cases hr), fun hr => (by cases hr)⟩
  rintro _ c₁ ⟨-, h₁⟩
  refine wp_bind (Q := fun r c' => Announced (op.ConnectedIff p start) c'.log ∧
    c'.state.control = start ∧ ∀ a, r = .ok a → p.registeredPong c'.log = some a.2.pong_latest)
    ?_ ?_ fun _ _ h => ⟨h.1, fun hr => (by cases hr), fun hr => (by cases hr)⟩
  · -- The registration is made on a connection of its own, and publishes nothing.
    apply wp_tryTimeout
    refine wp_mono (wp_and (within_authenticate_steps connected)
      (within_registeredPong connected)) fun r c' hr r' hr' => ⟨?_, ?_, ?_⟩
    · exact h₁.announced.steps hr.1.1 fun _ hev => Event.Quiet.ne_connected _ hev.quiet
    · rw [hr.1.1.state_eq]
      exact h₁.control
    · intro a ha
      exact hr.2 a ((hr' a).1 ha)
  · rintro authenticated c₂ ⟨h₂, hcontrol, hpong⟩
    apply wp_modify_bind
    have hreplaced : Replaced p op start (c₂.update fun self => { self with
        control := authenticated.2.resetEstablished authenticated.1 self.control }) := by
      refine ⟨h₂, authenticated.2.pong_latest, hpong _ rfl, fun now => ?_⟩
      rw [← hcontrol]
      exact EstablishedControl.resetEstablished_unexpired_iff _ _ _ _
    refine wp_bind (hreplaced.reconnected hop) ?_ fun s c₃ h₃ => by cases h₃.1
    rintro _ c₃ ⟨-, h₃⟩
    refine wp_pure ⟨h₃.announced, fun _ => h₃, fun hr => ?_⟩
    cases hr

/-- An await and its result. -/
theorem awaited_steps {α : Type} {g : Answer I → Option (Except E α)} {env : Env UInt64 W S}
    {c : ControlConfig I W S} :
    wp env (await g >>= ofExcept) c fun _ c' =>
      Steps Event.Exchange (fun _ _ => False) env c c' := by
  have hkept : wp env (await g >>= ofExcept) c
      (Kept (Steps Event.Exchange (fun _ _ => False) env c) fun _ _ => True) := by
    refine kept_bind (steps_await .refl (fun _ => trivial) fun _ => trivial) fun r c₁ h₁ _ => ?_
    exact kept_mono (kept_ofExcept h₁) fun _ _ _ _ => trivial
  exact wp_mono hkept fun _ _ hr => hr.1

/-- `reload_control_addr`, from the addresses on, publishes `Connected` as it should. -/
theorem Unregistered.reloadTo (hop : op ≠ .update) (h : Unregistered p op start c)
    (addresses : List SocketAddr) (force : Bool) :
    wp (ControlOp.whole clock) (MaintainedControl.reloadTo p addresses force) c fun _ c' =>
      Announced (op.ConnectedIff p start) c'.log := by
  unfold MaintainedControl.reloadTo
  refine wp_bind h.reconnecting ?_ fun _ _ h => h.2.announced
  rintro _ c₁ ⟨-, h₁⟩
  refine wp_bind (h₁.tryTimeout awaited_steps) ?_ fun _ _ h => h.1.1.announced
  rintro new_io c₂ ⟨⟨h₂, -⟩, -⟩
  have hconnect :
      wp (ControlOp.whole clock) (AddressSelector.connectToFirst p ⟨addresses, new_io⟩) c₂
      fun _ c' => Steps Event.Exchange (fun _ _ => False) (ControlOp.whole clock) c₂ c' :=
    wp_mono (AddressSelector.connectToFirst_steps p .refl _) fun _ _ hr => hr.1
  refine wp_bind (h₂.tryTimeout hconnect) ?_ fun _ _ h => h.1.1.announced
  rintro connected c₃ ⟨⟨h₃, -⟩, -⟩
  refine wp_bind (Q := fun r c' => Announced (op.ConnectedIff p start) c'.log ∧
    (r = .ok true → Replaced p op start c') ∧ (r = .ok false → c' = c₃)) ?_ ?_
    fun _ _ h => h.1
  · apply wp_tryTimeout
    refine wp_mono (h₃.replaceConnection hop connected force) fun r c' hr r' hr' => ⟨hr.1, ?_, ?_⟩
    · intro hok
      exact hr.2.1 ((hr' true).1 hok)
    · intro hok
      exact hr.2.2 ((hr' false).1 hok)
  · rintro updated c₄ ⟨-, htrue, hfalse⟩
    apply wp_modify_bind
    refine wp_bind (Q := fun r c' => r = .ok () ∧ Announced (op.ConnectedIff p start) c'.log) ?_
      (fun _ c₅ h₅ => wp_pure h₅.2) fun s c₅ h₅ => h₅.2
    cases updated with
    | true =>
      -- The replacement has published `Connected` already, unless it had no receiver.
      obtain ⟨hannounced, hregistered⟩ := htrue rfl
      exact wp_mono (Replaced.reconnected hop ⟨hannounced, hregistered⟩) fun _ _ hr =>
        ⟨hr.1, hr.2.announced⟩
    | false =>
      -- The addresses are the same: the session was kept, and is published by the reload.
      rw [hfalse rfl]
      exact Unregistered.reconnected ⟨h₃.announced, h₃.signed, h₃.control⟩

/-- `reload_control_addr` publishes `Connected` as it should. -/
theorem Unregistered.reloadControlAddr (hop : op ≠ .update) (h : Unregistered p op start c)
    (force : Bool) :
    wp (ControlOp.whole clock) (MaintainedControl.reloadControlAddr p force) c fun _ c' =>
      Announced (op.ConnectedIff p start) c'.log := by
  unfold MaintainedControl.reloadControlAddr announceReload
  refine wp_bind (Q := fun _ c' => Unregistered p op start c') ?_ ?_ fun _ _ h => h.announced
  · split
    · exact wp_mono h.reconnecting fun _ _ h => h.2
    · exact wp_pure h
  intro _ c₁ h₁
  refine wp_bind (h₁.tryTimeout awaited_steps) ?_ fun _ _ h => h.1.1.announced
  rintro addresses c₂ ⟨⟨h₂, -⟩, -⟩
  apply wp_get_bind
  split
  · exact wp_pure h₂.announced
  · exact h₂.reloadTo hop addresses force

/-- The registration of an expired session publishes `Connected` as it should. -/
theorem reauthenticate_announced (h : Announced (ControlOp.update.ConnectedIff p start) c.log)
    (hcontrol : c.state.control = start) :
    wp (ControlOp.whole clock) (reauthenticate (E := E) p) c fun _ c' =>
      Announced (ControlOp.update.ConnectedIff p start) c'.log := by
  refine wp_reauthenticate (P := fun r c₂ =>
    Announced (ControlOp.update.ConnectedIff p start) c₂.log ∧ (r = .ok () → ∃ pong,
      p.registeredPong c₂.log = some pong ∧ ∀ now, c₂.state.control.isExpiredAt now = none ↔
        (start.nextExpireAt pong).isSome ∨ EstablishedControl.InGrace c₂.log now))
    ?_ (fun _ _ _ h₂ _ => h₂.1) ?_ ?_
  · -- `Reconnecting` is published, and the session registered.
    intro c₁ hset₁
    have hcontrol₁ : c₁.state.control = start := by
      rw [hset₁.state_eq]
      exact hcontrol
    have h₁ : Announced (ControlOp.update.ConnectedIff p start) c₁.log :=
      h.stateSet hset₁ fun hstate => by cases hstate
    refine wp_mono (onControl_steps fun env' => wp_mono (wp_and
      (EstablishedControl.authenticate_steps .refl) EstablishedControl.authenticate_unexpired_iff)
      fun _ _ hr => ⟨hr.1.1, hr.2⟩) fun r c' hr => ⟨?_, ?_⟩
    · exact h₁.steps hr.1 Event.Quiet.ne_connected
    · intro hok
      rw [← hcontrol₁]
      exact hr.2.1 hok
  · -- The registration has failed, and the session sleeps.
    intro s c₂ h₂ c₃
    refine ⟨?_, fun n => ?_, h₂.1⟩
    · exact Announced.cons h₂.1 fun hev => by cases hev
    · exact Announced.cons h₂.1 fun hev => by cases hev
  · -- `Connected` is published, after a reading of the clock of its own.
    intro c₂ h₂ c₃ c₄ hset₄
    obtain ⟨pong, hpong, hiff⟩ := h₂.2 rfl
    have hlast : c₄.state.last_pong = clock c₂.ticks := by
      rw [hset₄.state_eq]
      rfl
    have hview : c₄.state.control = c₂.state.control := by
      rw [hset₄.state_eq]
      rfl
    refine Announced.stateSet (h₂.1.read _ _) hset₄ fun _ => ⟨congrArg some hlast.symm, ?_⟩
    show c₄.state.control.isExpiredAt c₄.state.last_pong = none ↔ _
    rw [hlast, hview]
    refine (hiff _).trans ?_
    unfold ControlOp.Warranted
    rw [show p.registeredPong c₃.log = some pong from hpong]
    exact Iff.rfl

/-- `update` publishes `Connected` as it should. -/
theorem update_announced (h : Announced (ControlOp.update.ConnectedIff p start) c.log)
    (hcontrol : c.state.control = start) :
    wp (ControlOp.whole clock) (update (E := E) p) c fun _ c' =>
      Announced (ControlOp.update.ConnectedIff p start) c'.log := by
  unfold update
  refine wp_bind (Q := fun _ c' => Announced (ControlOp.update.ConnectedIff p start) c'.log) ?_ ?_
    fun _ _ h => h
  · apply wp_renew
    · intro _ c' hc'
      rcases hc' with rfl | rfl
      · exact h
      · exact h.read _ _
    · intro _ c' hc'
      rcases hc' with rfl | rfl
      · exact reauthenticate_announced h hcontrol
      · exact reauthenticate_announced (h.read _ _) hcontrol
  · intro usable c₁ h₁
    split
    · exact wp_mono (serve_kept (serves_announced _) h₁) fun _ _ hr => hr.1
    · exact wp_pure h₁

end MaintainedControl

/-! ## Runs -/

namespace ControlOp

variable {p : Platform} {clock : ℕ → UInt64}

/-- A call publishes `Connected` as it should. -/
theorem run_announced (op : ControlOp I) (m : MaintainedControl I A) (ticks : ℕ) :
    wp (whole clock) (op.run p) ⟨m, ticks, []⟩ fun _ c' =>
      Announced (op.ConnectedIff p m.control) c'.log := by
  have hstart (op : ControlOp I) : MaintainedControl.Unregistered p op m.control ⟨m, ticks, []⟩ :=
    ⟨announced_nil, rfl, rfl⟩
  have hdone {α : Type} {op : ControlOp I}
      {x : ControlM I (MaintainedControl I A) (MaintainedControl I A) SetupError α}
      (hx : wp (whole clock) x ⟨m, ticks, []⟩ fun _ c' =>
        Announced (op.ConnectedIff p m.control) c'.log) :
      wp (whole clock) (do let _ ← x; pure ()) ⟨m, ticks, []⟩ fun _ c' =>
        Announced (op.ConnectedIff p m.control) c'.log :=
    wp_bind hx (fun _ _ h => wp_pure h) fun _ _ h => h
  cases op with
  | update => exact hdone (MaintainedControl.update_announced announced_nil rfl)
  | reloadControlAddr force => exact hdone ((hstart _).reloadControlAddr (by simp) force)
  | replaceConnection connected force =>
    exact hdone (wp_mono ((hstart _).replaceConnection (by simp) connected force)
      fun _ _ hr => hr.1)
  | sendUdpSessionAuth now_ms min_wait_ms =>
    refine hdone ?_
    exact wp_mono (MaintainedControl.sendUdpSessionAuth_kept (serves_announced _) announced_nil
      now_ms min_wait_ms) fun _ _ hr => hr.1
  | takeHardReconnectRequest =>
    refine hdone (wp_get_bind (wp_modify_bind ?_))
    exact wp_pure announced_nil

/-- Whenever `setup` has published `Connected`, the session is unexpired at the reading of the clock
that belongs to it. -/
def SetUpTruthful (m : MaintainedControl I A) : Prop := m.control.isExpiredAt m.last_pong = none

/-- The condition for the `Connected` of `setup`: the server has told an expiry, or the session is
in its grace period. -/
def SetUpWarranted (p : Platform) (log : List (ControlEvent I × W)) : Prop :=
  match log with
  | (.read now, _) :: (.did (.published .connected), _) :: older =>
    ∃ pong, p.registeredPong older = some pong ∧
      (pong.session_expire_at.isSome ∨ EstablishedControl.InGrace older now)
  | _ => False

/-- `ConnectedControl::auth_into_established` leaves a session that is unexpired when the server has
told an expiry, or it is in its grace period. -/
theorem authIntoEstablished_unexpired_iff {env : Env UInt64 W S} {c : ControlConfig I W S}
    (connected : ConnectedControl I) (auth : A) :
    wp env (connected.authIntoEstablished p auth) c fun r c' => ∀ established, r = .ok established →
      ∃ pong, p.registeredPong c'.log = some pong ∧ ∀ now, established.isExpiredAt now = none ↔
        pong.session_expire_at.isSome ∨ EstablishedControl.InGrace c'.log now := by
  unfold ConnectedControl.authIntoEstablished ConnectedControl.intoEstablished
  refine wp_bind (within_registeredPong connected) ?_ fun s c₁ _ established hs => by cases hs
  intro authenticated c₁ hpong
  apply wp_sessionSetupDeadline
  · intro hsome
    refine wp_pure fun established he => ⟨_, hpong _ rfl, fun now => ?_⟩
    injection he with he
    rw [← he, EstablishedControl.unexpired_iff_of_flow rfl rfl rfl]
    exact iff_of_true (.inl hsome) (.inl hsome)
  · intro hnone w
    refine wp_pure fun established he => ⟨_, hpong _ rfl, fun now => ?_⟩
    injection he with he
    rw [← he, EstablishedControl.unexpired_iff_of_flow rfl rfl rfl]
    refine or_congr_right ?_
    constructor
    · rintro ⟨deadline, hdeadline, hnow⟩
      cases hdeadline
      exact ⟨_, rfl, hnow⟩
    · rintro ⟨t, ht, hnow⟩
      cases ht
      exact ⟨_, rfl, hnow⟩

/-- The `Connected` of `setup` is true exactly when it is warranted. -/
theorem setUp_truthful_iff {io : I} {auth : A} {receivers : ℕ → Bool}
    {script : List (Item (Answer I))}
    {m : MaintainedControl I A} (hsetUp : (setUp p clock io auth receivers script).result = .ok m) :
    SetUpTruthful m ↔ SetUpWarranted p (setUp p clock io auth receivers script).config.log := by
  have hwp : wp (⟨clock, id⟩ : Env UInt64 Unit Unit) (MaintainedControl.setup p io auth receivers)
      ⟨(), 0, []⟩ fun r c' => ∀ m, r = .ok m → (SetUpTruthful m ↔ SetUpWarranted p c'.log) := by
    unfold MaintainedControl.setup
    refine wp_bind (Q := fun _ _ => True) (fun _ => trivial) ?_ fun s c₁ _ m hs => by cases hs
    intro addresses c₁ _
    refine wp_bind (Q := fun _ _ => True) (fun _ => trivial) ?_ fun s c₂ _ m hs => by cases hs
    intro connected c₂ _
    refine wp_bind (Q := fun r c' => ∀ established, r = .ok established →
      ∃ pong, p.registeredPong c'.log = some pong ∧ ∀ now, established.isExpiredAt now = none ↔
        pong.session_expire_at.isSome ∨ EstablishedControl.InGrace c'.log now) ?_ ?_
      fun s c₃ _ m hs => by cases hs
    · apply wp_tryTimeout
      refine wp_mono (authIntoEstablished_unexpired_iff connected auth)
        fun r c' hr r' hr' established he => ?_
      exact hr established ((hr' established).1 he)
    · intro established c₃ h₃
      obtain ⟨pong, hpong, hiff⟩ := h₃ established rfl
      apply wp_act_bind
      apply wp_now_bind
      refine wp_pure fun m hm => ?_
      injection hm with hm
      rw [← hm]
      refine (hiff _).trans ?_
      constructor
      · intro h
        exact ⟨pong, hpong, h⟩
      · rintro ⟨pong', hpong', h⟩
        cases hpong.symm.trans hpong'
        exact h
  exact hwp script m hsetUp

variable (p clock) in
/-- Whenever a call has published `Connected`, the session is unexpired at the newest reading of the
clock. -/
def Truthful (s : MaintainedControl I A × ℕ) (a : ControlOp I × List (Item (Answer I))) : Prop :=
  ∀ view older,
    (.did (.published .connected), view) :: older <:+ (a.1.ran p clock s a.2).config.log →
    ∃ now, (readings older).head? = some now ∧ view.control.isExpiredAt now = none

variable (p clock) in
/-- Whenever a call has published `Connected`, that is warranted. -/
def WarrantedIn (s : MaintainedControl I A × ℕ) (a : ControlOp I × List (Item (Answer I))) : Prop :=
  ∀ view older,
    (.did (.published .connected), view) :: older <:+ (a.1.ran p clock s a.2).config.log →
    a.1.Warranted p s.1.control older

/-- A call publishes only true `Connected`s exactly when all of them are warranted. -/
theorem truthful_iff (s : MaintainedControl I A × ℕ) (a : ControlOp I × List (Item (Answer I))) :
    Truthful p clock s a ↔ WarrantedIn p clock s a := by
  have hannounced : Announced (a.1.ConnectedIff p s.1.control) (a.1.ran p clock s a.2).config.log :=
    run_announced a.1 s.1 s.2 a.2
  constructor
  · intro h view older hsuffix
    obtain ⟨hread, hiff⟩ := hannounced view older hsuffix
    obtain ⟨now, hnow, hunexpired⟩ := h view older hsuffix
    cases hread.symm.trans hnow
    exact hiff.1 hunexpired
  · intro h view older hsuffix
    obtain ⟨hread, hiff⟩ := hannounced view older hsuffix
    exact ⟨_, hread, hiff.2 (h view older hsuffix)⟩

/-- Along every run, whatever the environment does, and in the call that is made at its end,
returned or not, every `Connected` that was published is true exactly when every one is warranted.
-/
theorem connected_true_iff {io : I} {auth : A} {receivers : ℕ → Bool}
    {script : List (Item (Answer I))}
    {m : MaintainedControl I A} (hsetUp : (setUp p clock io auth receivers script).result = .ok m)
    (trace : List ((ControlOp I × List (Item (Answer I))) × Ran (Answer I) UInt64 Action
      (MaintainedControl I A) (MaintainedControl I A) SetupError Unit))
    (a : ControlOp I × List (Item (Answer I))) :
    let start := (m, (setUp p clock io auth receivers script).config.ticks)
    (SetUpTruthful m ∧ Along (step p clock) (Truthful p clock) start trace ∧
      ∀ s, Run (step p clock) start trace s → Truthful p clock s a) ↔
    (SetUpWarranted p (setUp p clock io auth receivers script).config.log ∧
      Along (step p clock) (WarrantedIn p clock) start trace ∧
      ∀ s, Run (step p clock) start trace s → WarrantedIn p clock s a) := by
  intro start
  have halong : Along (step p clock) (Truthful p clock) start trace ↔
      Along (step p clock) (WarrantedIn p clock) start trace := by
    unfold Along
    simp only [truthful_iff]
  rw [setUp_truthful_iff hsetUp, halong]
  simp only [truthful_iff]

end ControlOp

end

namespace Sample

/-- The answers to `setup`. -/
def maintainedSetUp (session_expire_at : Option UInt64) : List (Item (Answer Unit)) :=
  .answer (.addresses (.ok [endpoint])) :: setUp session_expire_at

/-- A request that cannot be sent. -/
def unsent : List (Item (Answer Unit)) := [.answer (.sent (.error ⟨.other, "network is down"⟩))]

/-- The answers to a reload of other addresses that leads to the same flow. -/
def reloaded : List (Item (Answer Unit)) :=
  [.answer (.addresses (.ok [endpoint, endpoint])), .answer (.created (.ok ())),
    .answer (.sent (.ok 10)), datagram (.response ⟨1, .pong (pong 40001 none)⟩)]

end Sample

/-- A session that is told to be expired, since a request could not be sent, is published as
`Connected` by a reload that keeps it. -/
theorem ControlOp.not_truthful_reload :
    ∃ m trace s, (setUp (Sample.platform true) (fun _ => 5) () () Sample.subscribed
        (Sample.maintainedSetUp (some 60000))).result = .ok m ∧
      Run (step (Sample.platform true) fun _ => 5) (m, (setUp (A := Unit) (Sample.platform true)
        (fun _ => 5) () () Sample.subscribed (Sample.maintainedSetUp (some 60000))).config.ticks)
        trace s ∧
      ¬Truthful (Sample.platform true) (fun _ => 5) s
        (.reloadControlAddr false, Sample.reloaded) := by
  refine ⟨_, [((.sendUdpSessionAuth 10 0, Sample.unsent), _)], _, rfl, Run.snoc .nil rfl, ?_⟩
  intro htruthful
  obtain ⟨now, hnow, hunexpired⟩ := htruthful _ _ (List.suffix_refl _)
  cases hnow
  exact absurd hunexpired (by decide)

/-- The session that `setup` leaves is unexpired in its grace period. -/
theorem ControlOp.connected_true_sample :
    ∃ m,
      (setUp (Sample.platform true) (fun _ => 5) () () Sample.subscribed
        (Sample.maintainedSetUp none)).result = .ok m ∧
      m.control.pong_at_auth.session_expire_at = none ∧ SetUpTruthful m := by
  have hsetUp : (setUp (A := Unit) (Sample.platform true) (fun _ => 5) () ()
      Sample.subscribed (Sample.maintainedSetUp none)).result = .ok _ := rfl
  have hiff := connected_true_iff hsetUp [] (.takeHardReconnectRequest, [])
  have hwarranted : SetUpWarranted (Sample.platform true) (setUp (A := Unit) (Sample.platform true)
      (fun _ => 5) () () Sample.subscribed (Sample.maintainedSetUp none)).config.log := by
    unfold SetUpWarranted
    exact ⟨Sample.pong 40000 none, rfl, .inr ⟨5, rfl, by decide +kernel⟩⟩
  have htrue := hiff.2
    ⟨hwarranted, along_nil, fun _ _ _ _ hsuffix => nomatch List.suffix_nil.1 hsuffix⟩
  exact ⟨_, hsetUp, rfl, htrue.1⟩

end PlayitAgent
