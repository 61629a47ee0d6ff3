import PlayitAgent.Control.Provenance
import PlayitAgent.Control.Replacement
import PlayitAgent.Lib.Run

/-!
# Only the endpoint is heard

Anyone can send a datagram to the socket of the control connection. Along every run, from the choice
of an endpoint on and through the registration there, whatever changes in a connection or a session
does so while a datagram of the current endpoint is worked on; a datagram from elsewhere leaves its
mark on the buffer only. What a session starts with was in datagrams of its endpoint. The local
calls that a session offers, which involve no datagram, are the exception.
-/

namespace PlayitAgent

open Future

section
variable {I A W S E : Type}

/-! ## Justified changes -/

section
variable {V : Type} (watched : S → V) (addr : S → SocketAddr)

/-- The change is not one of what is watched, or is made while a datagram of the endpoint, which is
the one afterwards, is worked on. -/
def AllowedBy (c : ControlConfig I W S) (f : S → S) : Prop :=
  (∀ self, watched (f self) = watched self) ∨
    ∃ d, current (c.update f).log = some d ∧ d.source = addr (c.update f).state

variable {watched addr}

end

namespace ConnectedControl

/-- The connection without the content of its buffer. -/
def watched (self : ConnectedControl I) : ConnectedControl I := { self with buffer := [] }

/-- The environment whose log has the whole connection. -/
def whole (clock : ℕ → UInt64) : Env UInt64 (ConnectedControl I) (ConnectedControl I) := ⟨clock, id⟩

end ConnectedControl

namespace EstablishedControl

/-- The session without the content of its buffer. -/
def watched (self : EstablishedControl I A) : EstablishedControl I A :=
  { self with conn := { self.conn with buffer := [] } }

/-- The change is one of the buffer, or is made while a datagram of the endpoint, which is the one
that the session has afterwards, is worked on. -/
def Allowed (c : ControlConfig I W (EstablishedControl I A))
    (f : EstablishedControl I A → EstablishedControl I A) : Prop :=
  AllowedBy watched (·.conn.control_addr) c f

/-- The changes of a session that keeps its endpoint. -/
def Change (c : ControlConfig I W (EstablishedControl I A))
    (f : EstablishedControl I A → EstablishedControl I A) : Prop :=
  Allowed c f ∧ (f c.state).conn.control_addr = c.state.conn.control_addr

/-- The environment whose log has the whole session. -/
def whole (clock : ℕ → UInt64) : Env UInt64 (EstablishedControl I A) (EstablishedControl I A) :=
  ⟨clock, id⟩

/-- A session that keeps its endpoint keeps its endpoint. -/
theorem control_addr_of_steps {env : Env UInt64 W (EstablishedControl I A)}
    {c₀ c : ControlConfig I W (EstablishedControl I A)}
    (h : Steps Event.Quiet Change env c₀ c) :
    c.state.conn.control_addr = c₀.state.conn.control_addr :=
  h.invariant (J := fun c : ControlConfig I W (EstablishedControl I A) =>
    c.state.conn.control_addr = c₀.state.conn.control_addr) rfl (fun _ h => h) (fun _ _ h _ => h)
    fun _ _ h hf => hf.2.trans h

/-! ## What a session does -/

variable {p : Platform} {env : Env UInt64 W (EstablishedControl I A)}
  {c₀ c : ControlConfig I W (EstablishedControl I A)}

/-- The changes of a connection are changes of the session on it. -/
theorem change_of_conn {c : ControlConfig I W (ConnectedControl I)}
    {f : ConnectedControl I → ConnectedControl I} (self : EstablishedControl I A)
    (h : ConnectedControl.Change p c f) :
    Change ⟨{ self with conn := c.state }, c.ticks, c.log⟩
      fun self => { self with conn := f self.conn } := by
  cases h with
  | buffer g => exact ⟨.inl fun _ => rfl, rfl⟩
  | @noted feed hheard =>
    obtain ⟨d, hd, hsource, -⟩ := hheard
    have haddr : (ConnectedControl.noted feed c.state).control_addr = c.state.control_addr := by
      rw [ConnectedControl.noted_eq]
    exact ⟨.inr ⟨d, hd, hsource.trans haddr.symm⟩, haddr⟩

/-- A future on the connection of a session. -/
theorem onConn_steps {α : Type} {x : ControlM I W (ConnectedControl I) E α}
    {P : α → ControlConfig I W (ConnectedControl I) → Prop}
    (h : Steps Event.Quiet Change env c₀ c)
    (hx : ∀ env' : Env UInt64 W (ConnectedControl I),
      wp env' x ⟨c.state.conn, c.ticks, c.log⟩ (Kept (Steps Event.Routine
        (ConnectedControl.Change p) env' ⟨c.state.conn, c.ticks, c.log⟩) P)) :
    wp env (onConn x) c (Kept (Steps Event.Quiet Change env c₀) fun a c' =>
      P a ⟨c'.state.conn, c'.ticks, c'.log⟩) := by
  apply wp_zoom
  refine wp_mono (hx _) fun r c' hr => ⟨h.trans ?_, hr.2⟩
  exact (hr.1.mono (fun _ hev => hev.quiet) fun _ _ hf => hf).zoom (g := conn)
    (u := fun conn self => { self with conn }) (s := c.state) (fun _ _ => rfl) (fun _ _ _ => rfl)
    fun _ _ hf => change_of_conn _ hf

variable (env c₀) in
/-- The session has taken steps, and works on a datagram of its endpoint. -/
def Working (d : Datagram) (c : ControlConfig I W (EstablishedControl I A)) : Prop :=
  Steps Event.Quiet Change env c₀ c ∧ current c.log = some d ∧
    d.source = c.state.conn.control_addr

variable {d : Datagram}

namespace Working

/-- A reading of the clock. -/
theorem tick (h : Working env c₀ d c) : Working env c₀ d (c.tick env) := ⟨h.1.tick, h.2⟩

/-- A change that leaves the connection alone. -/
theorem update (h : Working env c₀ d c) {f : EstablishedControl I A → EstablishedControl I A}
    (hf : ∀ self, (f self).conn = self.conn) : Working env c₀ d (c.update f) := by
  have hsource : d.source = (c.update f).state.conn.control_addr := by
    show _ = (f c.state).conn.control_addr
    rw [hf]
    exact h.2.2
  exact ⟨h.1.update ⟨.inr ⟨d, h.2.1, hsource⟩, hsource.symm.trans h.2.2⟩, h.2.1, hsource⟩

/-- What a session does with a message of its endpoint. -/
theorem absorbs {feed : ControlFeed} : Absorbs env feed (Working env c₀ d) where
  tick _ h := h.tick
  overflow _ _ hsite h := ⟨h.1.record hsite, h.2⟩
  update _ _ hf h := h.update hf.conn

end Working

/-- A message that `recv_feed_msg` returns comes from the endpoint. -/
theorem recvFeedMsg_steps (h : Steps Event.Quiet Change env c₀ c) :
    wp env (recvFeedMsg p) c (Kept (Steps Event.Quiet Change env c₀) fun feed c' =>
      ∃ d, current c'.log = some d ∧ d.source = c'.state.conn.control_addr ∧
        p.readFeed (d.bytes.take 1024) = .ok feed) := by
  unfold recvFeedMsg
  refine kept_bind (onConn_steps h fun _ => ConnectedControl.recv_steps .refl)
    fun feed c₁ h₁ hheard => ?_
  -- While the message is worked on, its datagram stays the last one that has arrived.
  obtain ⟨d, hd, hsource, hread⟩ := hheard
  have hworking : Working env c₀ d c₁ := ⟨h₁, hd, hsource⟩
  refine wp_bind (onFeed_kept Working.absorbs hworking) ?_ fun s c₂ h₂ => kept_error h₂.1.1
  intro _ c₂ h₂
  exact kept_pure h₂.1.1 ⟨d, h₂.1.2.1, h₂.1.2.2, hread⟩

/-- `EstablishedControl::authenticate`. -/
theorem authenticate_steps (h : Steps Event.Quiet Change env c₀ c) :
    wp env (authenticate p) c (Kept (Steps Event.Quiet Change env c₀) fun _ _ => True) := by
  unfold authenticate
  refine kept_bind (onConn_steps h fun _ => ConnectedControl.authenticate_kept
    ConnectedControl.conserves_steps (Steps.refl.record trivial)) fun registered c₁ h₁ hheard => ?_
  -- The registration is worked on, and it came from the endpoint.
  obtain ⟨request_id, d, hd, hsource, -⟩ := hheard
  have hworking : Working env c₀ d c₁ := ⟨h₁, hd, hsource⟩
  suffices hregistered :
      wp env (onRegistered registered) c₁ (Kept (Working env c₀ d) fun _ _ => True)
    from wp_mono hregistered fun _ _ hr => ⟨hr.1.1, hr.2⟩
  unfold onRegistered sessionSetupDeadline
  refine kept_bind (kept_modify (hworking.update fun _ => rfl)) fun _ c₂ h₂ _ => ?_
  refine kept_bind (kept_get h₂) fun self c₃ h₃ _ => ?_
  refine kept_bind (kept_modify (h₃.update fun _ => rfl)) fun _ c₄ h₄ _ => ?_
  refine kept_bind (P := fun _ _ => True) ?_ fun deadline c₅ h₅ _ => ?_
  · split
    · exact kept_pure h₄ trivial
    · refine kept_bind (kept_now h₄.tick) fun now c₅ h₅ _ => ?_
      exact kept_pure h₅ trivial
  · exact kept_mono (kept_modify (h₅.update fun _ => rfl)) fun _ _ _ _ => trivial

/-- `EstablishedControl::send`. -/
theorem send_steps (h : Steps Event.Quiet Change env c₀ c) (request_id : UInt64)
    (content : ControlRequest) :
    wp env (send p request_id content) c
      (Kept (Steps Event.Quiet Change env c₀) fun _ _ => True) :=
  kept_mapErr (onConn_steps (p := p) h fun _ =>
    ConnectedControl.send_kept ConnectedControl.conserves_steps .refl _)

/-- `EstablishedControl::is_expired`. -/
theorem isExpired_steps (h : Steps Event.Quiet Change env c₀ c) :
    wp env (isExpired (E := E)) c (Kept (Steps Event.Quiet Change env c₀) fun _ _ => True) := by
  apply wp_isExpired
  rintro c' (rfl | rfl)
  · exact ⟨h, fun _ _ => trivial⟩
  · exact ⟨h.tick, fun _ _ => trivial⟩

end EstablishedControl

/-! ## Runs -/

/-- The address is one of the options, and a datagram of it has arrived that is a pong to the first
ping. -/
def ChosenFrom (p : Platform) (options : List SocketAddr) (log : List (ControlEvent I × W))
    (addr : SocketAddr) : Prop :=
  addr ∈ options ∧ ∃ d ∈ received log, d.source = addr ∧
    ∃ pong, p.readFeed (d.bytes.take 2048) = .ok (.response ⟨1, .pong pong⟩)

/-- The pong of an endpoint that was chosen has arrived. -/
theorem ChosenFrom.of_answered {p : Platform} {R : ControlEvent I → Prop}
    {U : ControlConfig I W S → (S → S) → Prop} {env : Env UInt64 W S}
    {c₀ c : ControlConfig I W S} {options : List SocketAddr} {addr : SocketAddr} {pong : Pong}
    (haddr : addr ∈ options) (h : AddressSelector.Answered p addr pong c₀)
    (hsteps : Steps R U env c₀ c) : ChosenFrom p options c.log addr := by
  obtain ⟨d, hd, hsource, hread⟩ := h
  exact ⟨haddr, d, mem_received_of_steps hsteps (mem_received_of_current hd), hsource, pong, hread⟩

/-- A registration on a connection of its own. -/
theorem within_authenticate_steps {p : Platform} {env : Env UInt64 W S} {c : ControlConfig I W S}
    (connected : ConnectedControl I) :
    wp env (within connected (ConnectedControl.authenticate p)) c
      (Kept (Steps Event.Routine (fun _ _ => False) env c) fun authenticated c' =>
        authenticated.2.control_addr = connected.control_addr ∧
          ∃ d, current c'.log = some d ∧ d.source = authenticated.2.control_addr) := by
  apply kept_within
  refine wp_mono (ConnectedControl.authenticate_kept ConnectedControl.conserves_steps
    (Steps.refl.record trivial)) fun r c' hr => ⟨?_, fun registered hregistered => ?_⟩
  · exact hr.1.within
  · obtain ⟨request_id, d, hd, hsource, -⟩ := hr.2 registered hregistered
    exact ⟨(ConnectedControl.fixed_of_steps hr.1).1, d, hd, hsource⟩

namespace EstablishedControl

variable (p : Platform)

/-- The way to a session: an endpoint is chosen, and the agent registers there. -/
def connect (selector : AddressSelector I) (auth : A) :
    ControlM I W S SetupError (EstablishedControl I A) := do
  let connected ← selector.connectToFirst p
  connected.authIntoEstablished p auth

/-- The way to another connection of a session: an endpoint is chosen, the agent registers there,
and the session goes on with that connection. -/
def reconnect (selector : AddressSelector I) :
    ControlM I W (EstablishedControl I A) SetupError Unit := do
  let connected ← selector.connectToFirst p
  let authenticated ← within connected (ConnectedControl.authenticate p)
  Future.modify fun self => authenticated.2.resetEstablished authenticated.1 self

end EstablishedControl

/-- What can be done with a session. -/
inductive SessionOp (I : Type) where
  | sendKeepAlive (request_id : UInt64)
  | sendSetupUdpChannel (request_id : UInt64)
  | sendPing (request_id now : UInt64)
  | sendCheckMtuReceived (request_id id : UInt64) (message_size : UInt32)
  | sendMtuTest (request_id id : UInt64) (data_center_id udp_payload_length : UInt32)
  | isExpired
  | authenticate
  | recvFeedMsg
  | reconnect (selector : AddressSelector I)
  | setExpired
  | commitPendingMtuData
  | clearPendingMtuData
  | clearKnownMtuData

namespace SessionOp

/-- The calls that only change the session's own data. -/
def isLocal : SessionOp I → Bool
  | .setExpired => true
  | .commitPendingMtuData => true
  | .clearPendingMtuData => true
  | .clearKnownMtuData => true
  | _ => false

variable (p : Platform)

/-- What is done, and the message that it returns, if any. -/
def run (op : SessionOp I) :
    ControlM I W (EstablishedControl I A) Unit (Option ControlFeed) :=
  match op with
  | .sendKeepAlive request_id => do
    mapErr (fun _ => ()) (EstablishedControl.sendKeepAlive p request_id)
    pure none
  | .sendSetupUdpChannel request_id => do
    mapErr (fun _ => ()) (EstablishedControl.sendSetupUdpChannel p request_id)
    pure none
  | .sendPing request_id now => do
    mapErr (fun _ => ()) (EstablishedControl.sendPing p request_id now)
    pure none
  | .sendCheckMtuReceived request_id id message_size => do
    mapErr (fun _ => ()) (EstablishedControl.sendCheckMtuReceived p request_id id message_size)
    pure none
  | .sendMtuTest request_id id data_center_id udp_payload_length => do
    mapErr (fun _ => ())
      (EstablishedControl.sendMtuTest p request_id id data_center_id udp_payload_length)
    pure none
  | .isExpired => do
    let _ ← EstablishedControl.isExpired
    pure none
  | .authenticate => do
    mapErr (fun _ => ()) (EstablishedControl.authenticate p)
    pure none
  | .recvFeedMsg => do
    let feed ← mapErr (fun _ => ()) (EstablishedControl.recvFeedMsg p)
    pure (some feed)
  | .reconnect selector => do
    mapErr (fun _ => ()) (EstablishedControl.reconnect p selector)
    pure none
  | .setExpired => do
    Future.modify EstablishedControl.setExpired
    pure none
  | .commitPendingMtuData => do
    Future.modify EstablishedControl.commitPendingMtuData
    pure none
  | .clearPendingMtuData => do
    Future.modify EstablishedControl.clearPendingMtuData
    pure none
  | .clearKnownMtuData => do
    Future.modify EstablishedControl.clearKnownMtuData
    pure none

variable {p} {clock : ℕ → UInt64} {c : ControlConfig I W (EstablishedControl I A)}
  {env : Env UInt64 W (EstablishedControl I A)}

/-- A request, and nothing returned. -/
theorem run_of_steps {α : Type} {x : ControlM I W (EstablishedControl I A) E α}
    (hx : wp env x c (Kept (Steps Event.Quiet EstablishedControl.Change env c) fun _ _ => True)) :
    wp env (do let _ ← mapErr (fun _ => ()) x; pure (none : Option ControlFeed)) c
      (Kept (Steps Event.Quiet EstablishedControl.Change env c) fun r _ => r = none) := by
  refine kept_bind (kept_mapErr hx) fun _ c₁ h₁ _ => ?_
  exact kept_pure h₁ rfl

/-- The message comes from the endpoint of the session, in the datagram that is worked on. -/
def Returned (p : Platform) (feed : ControlFeed)
    (c : ControlConfig I W (EstablishedControl I A)) : Prop :=
  ∃ d, current c.log = some d ∧ d.source = c.state.conn.control_addr ∧
    p.readFeed (d.bytes.take 1024) = .ok feed

/-- Where the endpoint of a session comes from: it is the one before, or was chosen by `op`. -/
def EndpointFrom (p : Platform) (op : SessionOp I) (before : SocketAddr)
    (c : ControlConfig I W (EstablishedControl I A)) : Prop :=
  c.state.conn.control_addr = before ∨
    ∃ selector, op = .reconnect selector ∧
      ChosenFrom p selector.options c.log c.state.conn.control_addr

/-- The way to another connection of a session. -/
theorem reconnect_steps (selector : AddressSelector I) :
    wp env (EstablishedControl.reconnect p selector) c fun _ c' =>
      Steps (fun _ => True) EstablishedControl.Allowed env c c' ∧
        EndpointFrom p (.reconnect selector) c.state.conn.control_addr c' := by
  unfold EstablishedControl.reconnect
  refine wp_bind (AddressSelector.connectToFirst_steps (U := fun _ _ => False) p .refl selector)
    ?_ fun s c₁ h₁ => ⟨h₁.1.mono (fun _ _ => trivial) fun _ _ h => h.elim, .inl ?_⟩
  · intro connected c₁ h₁
    -- The endpoint is one of the options, and its pong has arrived.
    obtain ⟨addr, haddr, pong, hanswered, rfl⟩ := h₁.2 connected rfl
    have hstate := h₁.1.state_eq
    have hsteps : Steps (fun _ => True) EstablishedControl.Allowed env c c₁ :=
      h₁.1.mono (fun _ _ => trivial) fun _ _ h => h.elim
    refine wp_bind (within_authenticate_steps _) ?_ fun s c₂ h₂ =>
      ⟨hsteps.trans (h₂.1.mono (fun _ _ => trivial) fun _ _ h => h.elim), .inl ?_⟩
    · intro authenticated c₂ h₂
      obtain ⟨hnew, d, hd, hsource⟩ := h₂.2 authenticated rfl
      have hsteps₂ : Steps (fun _ => True) EstablishedControl.Allowed env c₁ c₂ :=
        h₂.1.mono (fun _ _ => trivial) fun _ _ h => h.elim
      -- The session goes on with the connection that was registered.
      refine wp_modify ⟨(hsteps.trans hsteps₂).update (.inr ⟨d, hd, hsource⟩), ?_⟩
      refine .inr ⟨selector, rfl, ?_⟩
      show ChosenFrom p selector.options c₂.log authenticated.2.control_addr
      rw [hnew]
      exact .of_answered haddr hanswered h₂.1
    · rw [h₂.1.state_eq, hstate]
  · rw [h₁.1.state_eq]

/-- What is done with a session that is not local changes it as allowed, returns messages of its
endpoint only, and leaves its endpoint or chooses another one. -/
theorem run_steps (op : SessionOp I) (hlocal : op.isLocal = false) :
    wp env (op.run p) c fun r c' => Steps (fun _ => True) EstablishedControl.Allowed env c c' ∧
      (∀ feed, r = .ok (some feed) → Returned p feed c') ∧
        EndpointFrom p op c.state.conn.control_addr c' := by
  -- Most calls return nothing and leave the endpoint alone.
  have hkeeps {x : ControlM I W (EstablishedControl I A) Unit (Option ControlFeed)}
      (hx : wp env x c (Kept (Steps Event.Quiet EstablishedControl.Change env c) fun r _ =>
        r = none)) :
      wp env x c fun r c' => Steps (fun _ => True) EstablishedControl.Allowed env c c' ∧
        (∀ feed, r = .ok (some feed) → Returned p feed c') ∧
          EndpointFrom p op c.state.conn.control_addr c' := by
    refine wp_mono hx fun r c' hr => ⟨hr.1.mono (fun _ _ => trivial) fun _ _ h => h.1, ?_,
      .inl (EstablishedControl.control_addr_of_steps hr.1)⟩
    intro feed hfeed
    cases hr.2 (some feed) hfeed
  cases op with
  | sendKeepAlive request_id =>
    exact hkeeps (run_of_steps (wp_get_bind (EstablishedControl.send_steps .refl _ _)))
  | sendSetupUdpChannel request_id =>
    exact hkeeps (run_of_steps (wp_get_bind (EstablishedControl.send_steps .refl _ _)))
  | sendPing request_id now =>
    exact hkeeps (run_of_steps (wp_get_bind (EstablishedControl.send_steps .refl _ _)))
  | sendCheckMtuReceived request_id id message_size =>
    exact hkeeps (run_of_steps (EstablishedControl.send_steps .refl _ _))
  | sendMtuTest request_id id data_center_id udp_payload_length =>
    exact hkeeps (run_of_steps (EstablishedControl.send_steps .refl _ _))
  | isExpired =>
    refine hkeeps (kept_bind (EstablishedControl.isExpired_steps .refl) fun _ c₁ h₁ _ => ?_)
    exact kept_pure h₁ rfl
  | authenticate => exact hkeeps (run_of_steps (EstablishedControl.authenticate_steps .refl))
  | recvFeedMsg =>
    have hrecv : wp env (run p .recvFeedMsg) c
        (Kept (Steps Event.Quiet EstablishedControl.Change env c) fun r c' =>
          ∀ feed, r = some feed → Returned p feed c') := by
      refine kept_bind (kept_mapErr (EstablishedControl.recvFeedMsg_steps .refl))
        fun feed c₁ h₁ hheard => ?_
      refine kept_pure h₁ fun feed' hfeed' => ?_
      cases hfeed'
      exact hheard
    refine wp_mono hrecv fun r c' hr => ⟨hr.1.mono (fun _ _ => trivial) fun _ _ h => h.1, ?_,
      .inl (EstablishedControl.control_addr_of_steps hr.1)⟩
    intro feed hfeed
    exact hr.2 (some feed) hfeed feed rfl
  | reconnect selector =>
    refine wp_bind (Q := fun _ c' => Steps (fun _ => True) EstablishedControl.Allowed env c c' ∧
      EndpointFrom p (.reconnect selector) c.state.conn.control_addr c')
      (wp_mapResult (reconnect_steps selector)) ?_ ?_
    · intro _ c₁ h₁
      refine wp_pure ⟨h₁.1, fun feed hfeed => ?_, h₁.2⟩
      cases hfeed
    · intro s c₁ h₁
      refine ⟨h₁.1, fun feed hfeed => ?_, h₁.2⟩
      cases hfeed
  | _ => cases hlocal

variable (p clock) in
/-- One call on a session, with what the environment does meanwhile: the session and the number of
readings of the clock afterwards, and what has happened. -/
def step (s : EstablishedControl I A × ℕ) (a : SessionOp I × List (Item (Answer I))) :
    Except Unit ((EstablishedControl I A × ℕ) ×
      List (ControlEvent I × EstablishedControl I A)) :=
  let ran := a.1.run p (EstablishedControl.whole clock) a.2 ⟨s.1, s.2, []⟩
  .ok ((ran.config.state, ran.config.ticks), ran.config.log)

/-- The endpoint of a session was chosen when the session was set up, or by a call since then. -/
def Chosen (p : Platform) (options : List SocketAddr) (log : List (ControlEvent I × W))
    (trace : List ((SessionOp I × List (Item (Answer I))) ×
      List (ControlEvent I × EstablishedControl I A))) (addr : SocketAddr) : Prop :=
  ChosenFrom p options log addr ∨
    ∃ entry ∈ trace, ∃ selector, entry.1.1 = .reconnect selector ∧
      ChosenFrom p selector.options entry.2 addr

/-- A local call leaves the endpoint alone. -/
theorem run_local (op : SessionOp I) (hlocal : op.isLocal = true) :
    wp env (op.run p) c fun _ c' => c'.state.conn.control_addr = c.state.conn.control_addr := by
  cases op with
  | setExpired => exact wp_modify_bind (wp_pure rfl)
  | commitPendingMtuData => exact wp_modify_bind (wp_pure rfl)
  | clearPendingMtuData => exact wp_modify_bind (wp_pure rfl)
  | clearKnownMtuData => exact wp_modify_bind (wp_pure rfl)
  | _ => cases hlocal

/-- One more call, and the endpoint was still chosen. -/
theorem Chosen.step {options : List SocketAddr} {log : List (ControlEvent I × W)}
    {trace : List ((SessionOp I × List (Item (Answer I))) ×
      List (ControlEvent I × EstablishedControl I A))}
    {s s' : EstablishedControl I A × ℕ} {a : SessionOp I × List (Item (Answer I))}
    {o : List (ControlEvent I × EstablishedControl I A)}
    (h : Chosen p options log trace s.1.conn.control_addr)
    (hs : SessionOp.step p clock s a = .ok (s', o)) :
    Chosen p options log (trace ++ [(a, o)]) s'.1.conn.control_addr := by
  have hkept : s'.1.conn.control_addr = s.1.conn.control_addr →
      Chosen p options log (trace ++ [(a, o)]) s'.1.conn.control_addr := by
    intro haddr
    rw [haddr]
    rcases h with h | ⟨entry, hentry, hselector⟩
    · exact .inl h
    · exact .inr ⟨entry, List.mem_append_left _ hentry, hselector⟩
  unfold SessionOp.step at hs
  cases hs
  cases hlocal : a.1.isLocal with
  | true => exact hkept (run_local a.1 hlocal a.2)
  | false =>
    have hwp : wp (EstablishedControl.whole clock) (a.1.run p) ⟨s.1, s.2, []⟩ _ :=
      run_steps a.1 hlocal
    obtain ⟨-, -, haddr | ⟨selector, hselector, hchosen⟩⟩ := hwp a.2
    · exact hkept haddr
    · exact .inr ⟨_, List.mem_append_right _ List.mem_cons_self, selector, hselector, hchosen⟩

/-- The run of the way to a session, from the first reading of the clock on. -/
def setUp (p : Platform) (clock : ℕ → UInt64) (selector : AddressSelector I) (auth : A)
    (script : List (Item (Answer I))) :
    Ran (Answer I) UInt64 Action Unit Unit SetupError (EstablishedControl I A) :=
  EstablishedControl.connect p selector auth ⟨clock, id⟩ script ⟨(), 0, []⟩

end SessionOp

end

namespace Sample

/-- The answers on the way to a session: the pong to the first ping, and the registration. -/
def setUp (session_expire_at : Option UInt64) : List (Item (Answer Unit)) :=
  [.answer (.sent (.ok 10)), datagram (.response ⟨1, .pong (pong 40000 session_expire_at)⟩),
    .answer (.signed (.ok "00")), .answer (.sent (.ok 10)),
    datagram (.response ⟨5, .agentRegistered registered⟩)]

end Sample

end PlayitAgent
