import PlayitAgent.Control.Steps

/-!
# The flow that a session is registered for

A registration is signed for the client and tunnel addresses of the pong that is handed to the
authentication. What the session remembers of its flow is the latest pong at the end of the
registration, and every pong of the endpoint that arrives meanwhile replaces the latest one. The two
agree exactly when the last such pong, if there is one, is still on the flow that was signed.
-/

namespace PlayitAgent

open Future

/-- Two pongs are on one flow: they have the same client address and the same tunnel address. -/
def Pong.SameFlow (a b : Pong) : Prop :=
  a.client_addr = b.client_addr ∧ a.tunnel_addr = b.tunnel_addr

section
variable {I A W S : Type}

/-! ## What was received, and what was signed -/

/-- The datagrams that have arrived, newest first. -/
def received (log : List (ControlEvent I × W)) : List Datagram := log.filterMap fun
  | (.answered (.received (.ok d)), _) => some d
  | _ => none

/-- The pong in a message. -/
def ControlFeed.pong? : ControlFeed → Option Pong
  | .response { content := .pong pong, .. } => some pong
  | _ => none

/-- The pong of the endpoint `addr` in a datagram. -/
def Platform.pongFrom (p : Platform) (addr : SocketAddr) (d : Datagram) : Option Pong :=
  if d.source = addr then
    match p.readFeed (d.bytes.take 1024) with
    | .ok feed => feed.pong?
    | .error _ => none
  else none

/-- The last pong of the endpoint `addr` that has arrived. -/
def Platform.lastPong (p : Platform) (addr : SocketAddr) (log : List (ControlEvent I × W)) :
    Option Pong :=
  (received log).findSome? (p.pongFrom addr)

/-- The pong that was last handed to the authentication. -/
def signed (log : List (ControlEvent I × W)) : Option Pong := log.findSome? fun
  | (.did (.authenticate pong), _) => some pong
  | _ => none

/-- The last pong of the endpoint that has arrived, if any, is on the flow of `start`. -/
def Platform.StaysOnFlow (p : Platform) (addr : SocketAddr) (start : Pong)
    (log : List (ControlEvent I × W)) : Prop :=
  ∀ pong, p.lastPong addr log = some pong → pong.SameFlow start

/-- The pong is on the flow of the pong that was handed to the authentication. -/
def BoundToSigned (log : List (ControlEvent I × W)) (pong : Pong) : Prop :=
  ∃ auth_pong, signed log = some auth_pong ∧ pong.SameFlow auth_pong

/-! ## The latest pong -/

namespace ConnectedControl

variable {p : Platform} {env : Env UInt64 W (ConnectedControl I)}
  {c : ControlConfig I W (ConnectedControl I)}

/-- A registration on the way, from the connection `conn` on: the latest pong is the last one that
has arrived, or else the one that was signed. -/
structure Registering (p : Platform) (conn : ConnectedControl I)
    (c : ControlConfig I W (ConnectedControl I)) : Prop where
  control_addr : c.state.control_addr = conn.control_addr
  pong_latest : c.state.pong_latest = (p.lastPong conn.control_addr c.log).getD conn.pong_latest
  signed : signed c.log = some conn.pong_latest

/-- A message that is noted replaces the latest pong by its own, if it has one. -/
theorem noted_pong_latest (feed : ControlFeed) (self : ConnectedControl I) :
    (noted feed self).pong_latest = feed.pong?.getD self.pong_latest := by
  cases feed with
  | response message =>
    obtain ⟨request_id, content⟩ := message
    cases content <;> rfl
  | _ => rfl

/-- The last pong, after one more datagram. -/
theorem lastPong_received (p : Platform) (addr : SocketAddr) (d : Datagram) (w : W)
    (log : List (ControlEvent I × W)) :
    p.lastPong addr ((.answered (.received (.ok d)), w) :: log) =
      (p.pongFrom addr d).or (p.lastPong addr log) := by
  unfold Platform.lastPong received
  rw [List.filterMap_cons, List.findSome?_cons]
  cases p.pongFrom addr d <;> rfl

/-- `ConnectedControl::recv`, as far as the latest pong is concerned: a datagram arrives, and
replaces the latest pong if it is one of the endpoint; or something else happens, or nothing. -/
theorem wp_recv_pong {Φ : ControlConfig I W (ConnectedControl I) → Prop}
    (hdatagram : ∀ d w conn, conn.control_addr = c.state.control_addr →
      conn.pong_latest = (p.pongFrom c.state.control_addr d).getD c.state.pong_latest →
      Φ ⟨conn, c.ticks, (.answered (.received (.ok d)), w) :: c.log⟩)
    (herror : ∀ e w g,
      Φ ⟨rebuffer g c.state, c.ticks, (.answered (.received (.error e)), w) :: c.log⟩)
    (helapsed : ∀ n w g, Φ ⟨rebuffer g c.state, c.ticks, (.elapsed n, w) :: c.log⟩)
    (hpending : ∀ g, Φ ⟨rebuffer g c.state, c.ticks, c.log⟩) :
    wp env (recv p) c fun _ c' => Φ c' := by
  refine wp_recv ?_ ?_ (fun e => herror e _ (resize · 1024)) (fun n => helapsed n _ (resize · 1024))
    (hpending (resize · 1024))
  · -- The datagram is a message of the endpoint, and is noted.
    intro d feed g hsource hread
    have hfrom : p.pongFrom c.state.control_addr d = feed.pong? := by
      unfold Platform.pongFrom
      rw [if_pos hsource, hread]
    refine hdatagram d _ _ ?_ ?_
    · show (noted feed _).control_addr = _
      rw [noted_eq]
      rfl
    · show (noted feed _).pong_latest = _
      rw [noted_pong_latest, hfrom]
      rfl
  · -- The datagram is dropped, so it has no pong of the endpoint.
    intro d s g hdrop
    have hfrom : p.pongFrom c.state.control_addr d = none := by
      unfold Platform.pongFrom
      split
      · rename_i hsource
        cases hread : p.readFeed (d.bytes.take 1024) with
        | ok feed => exact absurd hread (hdrop hsource feed)
        | error _ => rfl
      · rfl
    refine hdatagram d _ _ rfl ?_
    rw [hfrom]
    rfl

/-- A datagram leaves the latest pong of the registration what it should be. -/
theorem Registering.recv {conn : ConnectedControl I} (h : Registering p conn c) :
    wp env (recv p) c (Kept (Registering p conn) fun feed c' => Heard p feed c') := by
  have hheard : wp env (ConnectedControl.recv p) c _ := recv_steps .refl
  suffices hkeep : wp env (ConnectedControl.recv p) c fun _ c' => Registering p conn c' from
    wp_mono (wp_and hheard hkeep) fun r c' hr => ⟨hr.2, hr.1.2⟩
  obtain ⟨haddr, hpong, hsigned⟩ := h
  refine wp_recv_pong ?_ (fun _ _ _ => ⟨haddr, hpong, hsigned⟩)
    (fun _ _ _ => ⟨haddr, hpong, hsigned⟩)
    fun _ => ⟨haddr, hpong, hsigned⟩
  intro d w conn' haddr' hpong'
  refine ⟨haddr'.trans haddr, ?_, hsigned⟩
  show conn'.pong_latest = (p.lastPong _ (_ :: _)).getD _
  rw [hpong', lastPong_received, haddr]
  cases p.pongFrom conn.control_addr d with
  | some pong => rfl
  | none => exact hpong

/-- A registration keeps track of the latest pong. -/
theorem conserves_registering (conn : ConnectedControl I) :
    Conserves p env (Registering p conn) where
  tick _ h := ⟨h.control_addr, h.pong_latest, h.signed⟩
  buffer _ _ h := ⟨h.control_addr, h.pong_latest, h.signed⟩
  sendTo _ _ _ h := ⟨h.control_addr, h.pong_latest, h.signed⟩
  elapsed _ _ h := ⟨h.control_addr, h.pong_latest, h.signed⟩
  answered c v hv h := by
    refine ⟨h.control_addr, ?_, h.signed⟩
    have hlast : p.lastPong conn.control_addr (c.record env (.answered v)).log =
        p.lastPong conn.control_addr c.log := by
      unfold Platform.lastPong received Config.record
      rw [List.filterMap_cons]
      split
      · rfl
      · rename_i d hd
        split at hd
        · rename_i heq
          cases heq
          exact absurd rfl (hv _)
        · cases hd
    rw [hlast]
    exact h.pong_latest
  recv _ h := h.recv

/-- `ConnectedControl::authenticate`, from the start of a log on, keeps track of the latest pong. -/
theorem authenticate_registering (conn : ConnectedControl I) (ticks : ℕ) :
    wp env (authenticate p) ⟨conn, ticks, []⟩ (Kept (Registering p conn) fun registered c' =>
      HeardRegistered p registered c') :=
  authenticate_kept (conserves_registering conn) ⟨rfl, rfl, rfl⟩

/-- The latest pong is on the flow that was signed exactly when the last pong that has
arrived is. -/
theorem Registering.boundToSigned_iff {conn : ConnectedControl I} (h : Registering p conn c)
    {pong : Pong} (hclient : pong.client_addr = c.state.pong_latest.client_addr)
    (htunnel : pong.tunnel_addr = c.state.pong_latest.tunnel_addr) :
    BoundToSigned c.log pong ↔ p.StaysOnFlow conn.control_addr conn.pong_latest c.log := by
  unfold BoundToSigned Platform.StaysOnFlow
  rw [h.signed]
  unfold Pong.SameFlow
  rw [hclient, htunnel, h.pong_latest]
  cases p.lastPong conn.control_addr c.log with
  | none => simp
  | some pong => simp

end ConnectedControl

/-! ## Sessions -/

/-- A reading of the clock neither brings a pong nor signs one. -/
theorem staysOnFlow_read (p : Platform) (addr : SocketAddr) (start : Pong) (t : UInt64) (w : W)
    (log : List (ControlEvent I × W)) :
    p.StaysOnFlow addr start ((.read t, w) :: log) ↔ p.StaysOnFlow addr start log := Iff.rfl

/-- Nor does it change what was signed. -/
theorem boundToSigned_read (pong : Pong) (t : UInt64) (w : W) (log : List (ControlEvent I × W)) :
    BoundToSigned ((.read t, w) :: log) pong ↔ BoundToSigned log pong := Iff.rfl

variable {p : Platform}

/-- `EstablishedControl::authenticate`: when it succeeds, the session remembers the flow that it is
registered for exactly when the last pong of the endpoint is still on it. -/
theorem EstablishedControl.authenticate_bound {env : Env UInt64 W (EstablishedControl I A)}
    (self : EstablishedControl I A) (ticks : ℕ) :
    wp env (EstablishedControl.authenticate p) ⟨self, ticks, []⟩ fun r c' => r = .ok () →
      (BoundToSigned c'.log c'.state.pong_at_auth ↔
        p.StaysOnFlow self.conn.control_addr self.conn.pong_latest c'.log) := by
  unfold EstablishedControl.authenticate EstablishedControl.onConn
  refine wp_bind (Q := fun _ c' =>
    ConnectedControl.Registering p self.conn ⟨c'.state.conn, c'.ticks, c'.log⟩) ?_ ?_ ?_
  · apply wp_zoom
    exact wp_mono (ConnectedControl.authenticate_registering self.conn ticks) fun _ _ hr => hr.1
  · intro registered c₁ h₁
    have hbound : BoundToSigned c₁.log c₁.state.conn.pong_latest ↔ _ :=
      h₁.boundToSigned_iff rfl rfl
    -- The session remembers the latest pong of the connection, whatever it was.
    apply EstablishedControl.wp_onRegistered
    · intro _ _
      exact hbound
    · intro _ w _
      show BoundToSigned (_ :: c₁.log) _ ↔ p.StaysOnFlow _ _ (_ :: c₁.log)
      rw [staysOnFlow_read, boundToSigned_read]
      exact hbound
  · intro s c₁ _ hs
    cases hs

/-- `ConnectedControl::authenticate` followed by `into_established`, likewise. -/
theorem ConnectedControl.authIntoEstablished_bound {env : Env UInt64 W S}
    (self : ConnectedControl I) (auth : A) (s : S) (ticks : ℕ) :
    wp env (self.authIntoEstablished p auth) ⟨s, ticks, []⟩ fun r c' => ∀ established,
      r = .ok established →
      (BoundToSigned c'.log established.pong_at_auth ↔
        p.StaysOnFlow self.control_addr self.pong_latest c'.log) := by
  unfold ConnectedControl.authIntoEstablished
  refine wp_bind (Q := fun r c' => ∀ authenticated, r = .ok authenticated →
    Registering p self ⟨authenticated.2, c'.ticks, c'.log⟩) ?_ ?_ ?_
  · apply wp_within
    refine wp_mono (authenticate_registering self ticks) fun r c' hr authenticated ha => ?_
    cases r with
    | error _ => cases ha
    | ok registered =>
      cases ha
      exact hr.1
  · intro authenticated c₁ h₁
    have hbound : BoundToSigned c₁.log authenticated.2.pong_latest ↔ _ :=
      (h₁ authenticated rfl).boundToSigned_iff rfl rfl
    unfold ConnectedControl.intoEstablished
    apply wp_sessionSetupDeadline
    · intro _
      refine wp_pure fun established he => ?_
      cases he
      exact hbound
    · intro _ w
      refine wp_pure fun established he => ?_
      cases he
      show BoundToSigned (_ :: c₁.log) _ ↔ p.StaysOnFlow _ _ (_ :: c₁.log)
      rw [staysOnFlow_read, boundToSigned_read]
      exact hbound
  · intro s c₁ _ established hs
    cases hs

/-- `ConnectedControl::authenticate` followed by `reset_established`, likewise. -/
theorem ConnectedControl.resetEstablished_bound {env : Env UInt64 W (ConnectedControl I)}
    (self : ConnectedControl I) (established : EstablishedControl I A) (ticks : ℕ) :
    wp env (ConnectedControl.authenticate p) ⟨self, ticks, []⟩ fun r c' => ∀ registered,
      r = .ok registered →
      (BoundToSigned c'.log (c'.state.resetEstablished registered established).pong_at_auth ↔
        p.StaysOnFlow self.control_addr self.pong_latest c'.log) :=
  wp_mono (authenticate_registering self ticks) fun _ _ hr _ _ =>
    hr.1.boundToSigned_iff rfl rfl

/-- On every way to a session, and whatever is received meanwhile, the addresses that the session
remembers are those that its registration was signed for exactly when the last pong of the endpoint
that has arrived during the registration, if any, carries these addresses. -/
theorem registered_flow_iff :
    (∀ (self : EstablishedControl I A) (env : Env UInt64 W (EstablishedControl I A)) (ticks : ℕ)
      (script : List (Item (Answer I))),
      let ran := EstablishedControl.authenticate p env script ⟨self, ticks, []⟩
      ran.result = .ok () → (BoundToSigned ran.config.log ran.config.state.pong_at_auth ↔
        p.StaysOnFlow self.conn.control_addr self.conn.pong_latest ran.config.log)) ∧
    (∀ (self : ConnectedControl I) (auth : A) (s : S) (env : Env UInt64 W S) (ticks : ℕ)
      (script : List (Item (Answer I))) (established : EstablishedControl I A),
      let ran := self.authIntoEstablished p auth env script ⟨s, ticks, []⟩
      ran.result = .ok established → (BoundToSigned ran.config.log established.pong_at_auth ↔
        p.StaysOnFlow self.control_addr self.pong_latest ran.config.log)) ∧
    ∀ (self : ConnectedControl I) (established : EstablishedControl I A)
      (env : Env UInt64 W (ConnectedControl I)) (ticks : ℕ) (script : List (Item (Answer I)))
      (registered : AgentRegistered),
      let ran := ConnectedControl.authenticate p env script ⟨self, ticks, []⟩
      ran.result = .ok registered →
        (BoundToSigned ran.config.log
            (ran.config.state.resetEstablished registered established).pong_at_auth ↔
          p.StaysOnFlow self.control_addr self.pong_latest ran.config.log) := by
  refine ⟨?_, ?_, ?_⟩
  · intro self env ticks script ran hran
    exact EstablishedControl.authenticate_bound self ticks script hran
  · intro self auth s env ticks script established ran hran
    exact ConnectedControl.authIntoEstablished_bound self auth s ticks script established hran
  · intro self established env ticks script registered ran hran
    exact ConnectedControl.resetEstablished_bound self established ticks script registered hran

end

/-! ## A session on the way -/

namespace Sample

/-- A platform with the encodings of the instance, on which one key can be decoded. -/
def platform (overflow_checks : Bool) : Platform where
  crate := Wire.crate
  hexDecode key := if key = "00" then some [0] else none
  overflow_checks

/-- An endpoint. -/
def endpoint : SocketAddr := .v4 ⟨0x09140328, 5525⟩

/-- A pong to a client at the given port. -/
def pong (port : UInt16) (session_expire_at : Option UInt64) : Pong where
  request_now := 1000
  server_now := 1000
  server_id := 1
  data_center_id := 1
  client_addr := .v4 ⟨0x0a141e28, port⟩
  tunnel_addr := endpoint
  session_expire_at

/-- A registration. -/
def registered : AgentRegistered := ⟨⟨1, 2, 3⟩, 60000⟩

/-- A connection to the endpoint, with its first pong. -/
def connected (port : UInt16) (session_expire_at : Option UInt64) : ConnectedControl Unit :=
  ConnectedControl.new endpoint () (pong port session_expire_at)

/-- A session on that connection. -/
def session : EstablishedControl Unit Unit where
  auth := ()
  conn := connected 40000 (some 60000)
  pong_at_auth := pong 40000 (some 60000)
  session_setup_deadline := none
  registered := registered
  current_ping := none
  clock_offset := 0
  force_expired := true
  pending_mtu_data := MtuData.default
  known_mtu_data := MtuData.default

/-- A message as a datagram of the endpoint. -/
def datagram (feed : ControlFeed) : Item (Answer Unit) :=
  match (ControlFeed.encoding Wire.crate).writeTo feed Sink.vec with
  | .ok (_, out) => .answer (.received (.ok ⟨out.written, endpoint⟩))
  | .error _ => .elapsed 0

/-- The answers to a registration at the time 5: a pong to an earlier ping, from the client at the
given port, and then the registration. -/
def registration (port : UInt16) : List (Item (Answer Unit)) :=
  [.answer (.signed (.ok "00")), .answer (.sent (.ok 10)),
    datagram (.response ⟨200, .pong (pong port none)⟩),
    datagram (.response ⟨5, .agentRegistered registered⟩)]

/-- An environment in which the clock stands still. -/
def env (t : UInt64) {S : Type} : Env UInt64 Unit S := ⟨fun _ => t, fun _ => ()⟩

end Sample

/-- A pong to an earlier ping, from another port of the client, separates the flow that a session
remembers from the flow that it is registered for. -/
theorem not_boundToSigned :
    let ran := EstablishedControl.authenticate (Sample.platform true) (Sample.env 5)
      (Sample.registration 40001) ⟨Sample.session, 0, []⟩
    ran.result = .ok () ∧ ¬BoundToSigned ran.config.log ran.config.state.pong_at_auth := by
  refine ⟨rfl, ?_⟩
  rintro ⟨auth_pong, hsigned, hclient, -⟩
  have hpong : auth_pong = Sample.pong 40000 (some 60000) := by
    injection hsigned.symm
  rw [hpong] at hclient
  exact absurd hclient (by decide)

/-- A pong from the same port does not. -/
theorem registered_flow_sample :
    let ran := EstablishedControl.authenticate (Sample.platform true) (Sample.env 5)
      (Sample.registration 40000) ⟨Sample.session, 0, []⟩
    ran.result = .ok () ∧ BoundToSigned ran.config.log ran.config.state.pong_at_auth := by
  have hran : (EstablishedControl.authenticate (Sample.platform true) (Sample.env 5)
      (Sample.registration 40000) ⟨Sample.session, 0, []⟩).result = .ok () := rfl
  have hiff := (registered_flow_iff (S := Unit) (p := Sample.platform true)).1 Sample.session
    (Sample.env 5) 0 (Sample.registration 40000) hran
  refine ⟨hran, hiff.2 fun pong hpong => ?_⟩
  have hlast : pong = Sample.pong 40000 none := by
    injection hpong.symm
  rw [hlast]
  exact ⟨rfl, rfl⟩

end PlayitAgent
