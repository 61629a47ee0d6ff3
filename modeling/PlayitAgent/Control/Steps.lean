import PlayitAgent.Control.Maintained

/-!
# What the control code does, step by step

Each function of the control code is taken apart once, into readings of the clock, events, and
changes of its state. A connection changes its buffer, and its latest pong when the datagram that it
is working on comes from its endpoint and is a pong. A session changes anything else only while it
works on a datagram of that kind.
-/

namespace PlayitAgent

open Future

section
variable {I A W S E : Type}

/-! ## Events -/

/-- Events of the exchange of datagrams: answers, timers, and what is handed to the socket. -/
def Event.Exchange : ControlEvent I → Prop
  | .answered _ => True
  | .elapsed _ => True
  | .did (.sendTo _ _) => True
  | _ => False

/-- Events that say nothing about the state of the connection: answers, timers, and what is handed
to the socket and to the authentication. -/
def Event.Routine : ControlEvent I → Prop
  | .answered _ => True
  | .elapsed _ => True
  | .read _ => False
  | .did (.sendTo _ _) => True
  | .did (.authenticate _) => True
  | .did _ => False

/-- The computations of a session, as opposed to those of its upkeep. -/
def Site.ofSession : Site → Bool
  | .lastPing => false
  | .lastKeepAlive => false
  | .lastPong => false
  | .lastUdpAuth => false
  | _ => true

/-- Events that say nothing about the upkeep of a session: it publishes no state, and computes with
no time of its own. -/
def Event.Quiet : ControlEvent I → Prop
  | .did (.published _) => False
  | .did .stoppedResponding => False
  | .did (.overflow site) => site.ofSession
  | _ => True

/-- What a connection does is quiet. -/
theorem Event.Routine.quiet {ev : ControlEvent I} (h : ev.Routine) : ev.Quiet := by
  unfold Event.Routine at h
  unfold Event.Quiet
  split at h <;> trivial

/-- The datagram that is being worked on: the latest answer, if that is one. -/
def current : List (ControlEvent I × W) → Option Datagram
  | [] => none
  | (.answered (.received (.ok d)), _) :: _ => some d
  | (.answered _, _) :: _ => none
  | (.elapsed _, _) :: _ => none
  | (.read _, _) :: log => current log
  | (.did _, _) :: log => current log

section
variable {U : ControlConfig I W S → (S → S) → Prop} {env : Env UInt64 W S}
  {c₀ c : ControlConfig I W S}

/-- `PacketIO::send_to`. -/
theorem sendTo_steps (h : Steps Event.Exchange U env c₀ c) (bytes : List UInt8)
    (target : SocketAddr) :
    wp env (sendTo bytes target) c (Kept (Steps Event.Exchange U env c₀) fun _ c' =>
      c'.state = c.state) := by
  unfold sendTo
  refine kept_bind (kept_act (h.record trivial)) fun _ c₁ h₁ hc₁ => ?_
  refine kept_bind (steps_await h₁ (fun _ => trivial) fun _ => trivial) fun res c₂ h₂ hc₂ => ?_
  refine kept_bind (kept_ofExcept h₂) fun n c₃ h₃ hc₃ => ?_
  obtain ⟨v, -, hv⟩ := hc₂
  refine kept_pure h₃ ?_
  rw [hc₃.2, hv, hc₁]
  rfl

/-- `PacketIO::recv_from`: a datagram, of which the buffer takes what fits, an error, or nothing. -/
theorem wp_recvFrom {size : ℕ} {Φ : Except (Stop IoError) Datagram → ControlConfig I W S → Prop}
    (hok : ∀ d, Φ (.ok { d with bytes := d.bytes.take size })
      (c.record env (.answered (.received (.ok d)))))
    (herror : ∀ e, Φ (.error (.failed e)) (c.record env (.answered (.received (.error e)))))
    (helapsed : ∀ n, Φ (.error (.elapsed n)) (c.record env (.elapsed n)))
    (hpending : Φ (.error .pending) c) : wp env (recvFrom size) c Φ := by
  unfold recvFrom
  refine wp_bind (Q := fun r c' =>
    (∃ d, r = .ok (.ok { d with bytes := d.bytes.take size }) ∧
      c' = c.record env (.answered (.received (.ok d)))) ∨
    (∃ e, r = .ok (.error e) ∧ c' = c.record env (.answered (.received (.error e)))) ∨
    (∃ n, r = .error (.elapsed n) ∧ c' = c.record env (.elapsed n)) ∨
    (r = .error .pending ∧ c' = c)) ?_ ?_ ?_
  · refine wp_await ?_ (fun n => .inr (.inr (.inl ⟨n, rfl, rfl⟩))) (.inr (.inr (.inr ⟨rfl, rfl⟩)))
    intro v a hv
    cases v with
    | received res =>
      injection hv with hv
      rw [← hv]
      cases res with
      | ok d => exact .inl ⟨d, rfl, rfl⟩
      | error e => exact .inr (.inl ⟨e, rfl, rfl⟩)
    | _ => cases hv
  · rintro a c' (⟨d, ha, rfl⟩ | ⟨e, ha, rfl⟩ | ⟨n, ha, rfl⟩ | ⟨ha, rfl⟩)
    · cases ha
      exact wp_pure (hok d)
    · cases ha
      exact wp_fail (herror e)
    · cases ha
    · cases ha
  · rintro s c' (⟨d, ha, rfl⟩ | ⟨e, ha, rfl⟩ | ⟨n, ha, rfl⟩ | ⟨ha, rfl⟩)
    · cases ha
    · cases ha
    · cases ha
      exact helapsed n
    · cases ha
      exact hpending

/-- The datagram that `recv_from` gives is the one that is worked on. -/
theorem recvFrom_steps (h : Steps Event.Exchange U env c₀ c) (size : ℕ) :
    wp env (recvFrom size) c (Kept (Steps Event.Exchange U env c₀) fun d c' =>
      ∃ full, current c'.log = some full ∧ d.source = full.source ∧
        d.bytes = full.bytes.take size) := by
  refine wp_recvFrom (fun d => ⟨h.record trivial, fun d' hd' => ?_⟩)
    (fun e => kept_error (h.record trivial)) (fun n => kept_error (h.record trivial)) (kept_error h)
  cases hd'
  exact ⟨d, rfl, rfl, rfl⟩

/-- A message that is written does nothing else. -/
theorem encoded_steps (h : Steps Event.Exchange U env c₀ c) (msg : WriteM ℕ) :
    wp env (encoded msg) c (Kept (Steps Event.Exchange U env c₀) fun _ c' => c' = c) := by
  unfold encoded
  split
  · exact kept_pure h rfl
  · exact kept_fail h
  · exact kept_panic h

/-! ## Arithmetic -/

section
variable {J : ControlConfig I W S → Prop} {p : Platform} {site : Site}
  (h : J c) (hoverflow : J (c.record env (.did (.overflow site))))
include h hoverflow

omit h in
/-- An overflow keeps what its record on the log keeps. -/
theorem overflow_kept {α : Type} (wrapped : α) :
    wp env (overflow (E := E) p site wrapped) c (Kept J fun _ _ => True) := by
  unfold overflow
  apply wp_act_bind
  split
  · exact kept_panic hoverflow
  · exact kept_pure hoverflow trivial

/-- `a - b` on `u64`. -/
theorem subU64_kept (a b : UInt64) :
    wp env (subU64 (E := E) p site a b) c (Kept J fun _ _ => True) := by
  unfold subU64
  split
  · exact kept_pure h trivial
  · exact overflow_kept hoverflow _

/-- `a + b` on `u64`. -/
theorem addU64_kept (a b : UInt64) :
    wp env (addU64 (E := E) p site a b) c (Kept J fun _ _ => True) := by
  unfold addU64
  split
  · exact kept_pure h trivial
  · exact overflow_kept hoverflow _

/-- `a - b` on `i64`. -/
theorem subI64_kept (a b : Int64) :
    wp env (subI64 (E := E) p site a b) c (Kept J fun _ _ => True) := by
  unfold subI64
  split
  · exact kept_pure h trivial
  · exact overflow_kept hoverflow _

/-- `a.abs()` on `i64`. -/
theorem absI64_kept (a : Int64) :
    wp env (absI64 (E := E) p site a) c (Kept J fun _ _ => True) := by
  unfold absI64
  split
  · exact overflow_kept hoverflow _
  · exact kept_pure h trivial

end

/-! ## The choice of an endpoint -/

namespace AddressSelector

variable (p : Platform)

/-- The datagram that is worked on is the pong of `addr` to the first ping. -/
def Answered (addr : SocketAddr) (pong : Pong) (c : ControlConfig I W S) : Prop :=
  ∃ d, current c.log = some d ∧ d.source = addr ∧
    p.readFeed (d.bytes.take 2048) = .ok (.response ⟨1, .pong pong⟩)

/-- A pong that is taken comes from the endpoint that is tried. -/
theorem pongOf_steps (h : Steps Event.Exchange U env c₀ c) (addr : SocketAddr) {d full : Datagram}
    (hfull : current c.log = some full) (hsource : d.source = full.source)
    (hbytes : d.bytes = full.bytes.take 2048) :
    wp env (pongOf (E := E) p addr d) c (Kept (Steps Event.Exchange U env c₀) fun r c' =>
      ∀ pong, r = .ret pong → Answered p addr pong c') := by
  have hnext : wp env (pure (Flow.next ()) : ControlM I W S E (Flow Unit Pong)) c
      (Kept (Steps Event.Exchange U env c₀) fun r c' =>
        ∀ pong, r = .ret pong → Answered p addr pong c') :=
    kept_pure h fun pong hpong => by cases hpong
  unfold pongOf
  split
  · exact hnext
  · rename_i haddr
    split
    · rename_i msg hread
      split
      · exact hnext
      · rename_i hid
        split
        · rename_i pong hcontent
          refine kept_pure h fun pong' hpong' => ?_
          cases hpong'
          refine ⟨full, hfull, hsource.symm.trans (not_not.1 haddr), ?_⟩
          have hmsg : msg = ⟨1, .pong pong⟩ := by
            rw [← not_not.1 hid, ← hcontent]
          rw [← hbytes, hread, hmsg]
        · exact hnext
    · exact hnext
    · exact hnext
    · exact kept_panic h

/-- One wait for the pong of `addr`. -/
theorem waitForPong_steps (h : Steps Event.Exchange U env c₀ c) (addr : SocketAddr) :
    wp env (waitForPong (E := E) p addr) c (Kept (Steps Event.Exchange U env c₀) fun r c' =>
      ∀ pong, r = .ret pong → Answered p addr pong c') := by
  unfold waitForPong
  refine kept_bind (kept_timeout (recvFrom_steps h 2048)) fun r c₁ h₁ hr => ?_
  split
  · rename_i d
    obtain ⟨full, hfull, hsource, hbytes⟩ := hr d rfl
    exact pongOf_steps p h₁ addr hfull hsource hbytes
  · exact kept_pure h₁ fun pong hpong => by cases hpong
  · exact kept_pure h₁ fun pong hpong => by cases hpong

/-- One attempt to reach `addr`. -/
theorem tryAddress_steps (h : Steps Event.Exchange U env c₀ c) (self : AddressSelector I)
    (addr : SocketAddr) :
    wp env (self.tryAddress p addr) c (Kept (Steps Event.Exchange U env c₀) fun r c' =>
      ∀ connected, r = .ret connected → ∃ pong, Answered p addr pong c' ∧
        connected = ConnectedControl.new addr self.packet_io pong) := by
  unfold tryAddress
  refine kept_bind (kept_now h.tick) fun now c₁ h₁ _ => ?_
  refine kept_bind (kept_mapErr (encoded_steps h₁ _)) fun buffer c₂ h₂ _ => ?_
  refine kept_bind (kept_attempt (sendTo_steps h₂ buffer addr)) fun r c₃ h₃ _ => ?_
  split
  · exact kept_pure h₃ fun connected hc => by cases hc
  · have hloop := kept_forLoop (J := fun _ _ => True)
      (fun acc c h _ => kept_mono (waitForPong_steps (E := SetupError) p h addr)
        fun r c' _ hr => ⟨fun _ _ => trivial, hr⟩)
      (if addr.isIpv6 then 3 else 5) () h₃ trivial
    refine kept_bind hloop fun r c₄ h₄ hr => ?_
    split
    · rename_i pong
      refine kept_pure h₄ fun connected hc => ?_
      cases hc
      exact ⟨pong, hr pong rfl, rfl⟩
    · exact kept_pure h₄ fun connected hc => by cases hc

/-- The loop over the options. -/
theorem connectTo_steps (self : AddressSelector I) (options : List SocketAddr)
    (h : Steps Event.Exchange U env c₀ c) :
    wp env (self.connectTo p options) c (Kept (Steps Event.Exchange U env c₀) fun connected c' =>
      ∃ addr ∈ options, ∃ pong, Answered p addr pong c' ∧
        connected = ConnectedControl.new addr self.packet_io pong) := by
  induction options generalizing c with
  | nil =>
    unfold connectTo
    exact kept_fail h
  | cons addr options ih =>
    unfold connectTo
    have hloop := kept_forLoop (J := fun _ _ => True)
      (fun acc c h _ => kept_mono (tryAddress_steps p h self addr)
        fun r c' _ hr => ⟨fun _ _ => trivial, hr⟩)
      (if addr.isIpv6 then 1 else 3) () h trivial
    refine kept_bind hloop fun r c₁ h₁ hr => ?_
    split
    · rename_i connected
      exact kept_pure h₁ ⟨addr, List.mem_cons_self, hr connected rfl⟩
    · refine kept_mono (ih h₁) fun connected c' _ hc => ?_
      obtain ⟨addr', haddr', hc⟩ := hc
      exact ⟨addr', List.mem_cons_of_mem _ haddr', hc⟩

/-- `connect_to_first` gives an option whose pong to the first ping is the datagram that is worked
on. -/
theorem connectToFirst_steps (h : Steps Event.Exchange U env c₀ c) (self : AddressSelector I) :
    wp env (self.connectToFirst p) c (Kept (Steps Event.Exchange U env c₀) fun connected c' =>
      ∃ addr ∈ self.options, ∃ pong, Answered p addr pong c' ∧
        connected = ConnectedControl.new addr self.packet_io pong) :=
  connectTo_steps p self self.options h

end AddressSelector

end

/-! ## The connection -/

namespace ConnectedControl

variable (p : Platform)

/-- The datagram that is worked on comes from the endpoint of the connection, and reads
as `feed`. -/
def Heard (feed : ControlFeed) (c : ControlConfig I W (ConnectedControl I)) : Prop :=
  ∃ d, current c.log = some d ∧ d.source = c.state.control_addr ∧
    p.readFeed (d.bytes.take 1024) = .ok feed

/-- Another content of the buffer. -/
def rebuffer (g : List UInt8 → List UInt8) (self : ConnectedControl I) : ConnectedControl I :=
  { self with buffer := g self.buffer }

/-- The changes of a connection: of its buffer, and by a message that was heard. -/
inductive Change (c : ControlConfig I W (ConnectedControl I)) :
    (ConnectedControl I → ConnectedControl I) → Prop
  /-- The buffer is overwritten. -/
  | buffer (g : List UInt8 → List UInt8) : Change c (rebuffer g)
  /-- A message is noted. -/
  | noted {feed : ControlFeed} : Heard p feed c → Change c (noted feed)

/-- A message that is noted leaves everything but the latest pong alone. -/
theorem noted_eq (feed : ControlFeed) (self : ConnectedControl I) :
    noted feed self = { self with pong_latest := (noted feed self).pong_latest } := by
  unfold noted
  split <;> rfl

variable {p} {env : Env UInt64 W (ConnectedControl I)}
  {c₀ c : ControlConfig I W (ConnectedControl I)}

/-- The endpoint and the socket of a connection stay. -/
theorem fixed_of_steps (h : Steps Event.Routine (Change p) env c₀ c) :
    c.state.control_addr = c₀.state.control_addr ∧ c.state.packet_io = c₀.state.packet_io := by
  refine h.invariant (J := fun c : ControlConfig I W (ConnectedControl I) =>
    c.state.control_addr = c₀.state.control_addr ∧ c.state.packet_io = c₀.state.packet_io)
    ⟨rfl, rfl⟩ (fun _ h => h) (fun _ _ h _ => h) ?_
  intro c f hc hf
  cases hf with
  | buffer g => exact hc
  | @noted feed _ =>
    show (noted feed c.state).control_addr = _ ∧ (noted feed c.state).packet_io = _
    rw [noted_eq]
    exact hc

/-- `ConnectedControl::recv`, from the datagram on. -/
theorem wp_onDatagram {d : Datagram} {Φ : Except (Stop ControlError) ControlFeed →
      ControlConfig I W (ConnectedControl I) → Prop}
    (hfeed : ∀ feed g, d.source = c.state.control_addr → p.readFeed d.bytes = .ok feed →
      Φ (.ok feed) ((c.update (rebuffer g)).update (noted feed)))
    (hdrop : ∀ s g, (d.source = c.state.control_addr → ∀ feed, p.readFeed d.bytes ≠ .ok feed) →
      Φ (.error s) (c.update (rebuffer g))) : wp env (onDatagram p d) c Φ := by
  unfold onDatagram
  apply wp_modify_bind
  apply wp_get_bind
  show wp env _ (c.update (rebuffer fun b => d.bytes ++ b.drop d.bytes.length)) Φ
  split
  · rename_i hsource
    exact wp_fail (hdrop _ _ fun h => absurd h hsource)
  · rename_i hsource
    split
    · rename_i feed hread
      apply wp_modify_bind
      exact wp_pure (hfeed feed _ (not_not.1 hsource) hread)
    · rename_i error hread
      refine wp_fail (hdrop _ _ fun _ feed hfeed' => ?_)
      cases hread.symm.trans hfeed'
    · rename_i reason hread
      refine wp_panic (hdrop _ _ fun _ feed hfeed' => ?_)
      cases hread.symm.trans hfeed'

/-- `ConnectedControl::recv`: a message of the endpoint is noted and returned; anything else that
arrives, in the time that it waits, leaves its mark on the buffer only. -/
theorem wp_recv {Φ : Except (Stop ControlError) ControlFeed →
      ControlConfig I W (ConnectedControl I) → Prop}
    (hfeed : ∀ d feed g, d.source = c.state.control_addr →
      p.readFeed (d.bytes.take 1024) = .ok feed →
      Φ (.ok feed) ((((c.update (rebuffer (resize · 1024))).record env
        (.answered (.received (.ok d)))).update (rebuffer g)).update (noted feed)))
    (hdrop : ∀ d s g, (d.source = c.state.control_addr →
        ∀ feed, p.readFeed (d.bytes.take 1024) ≠ .ok feed) →
      Φ (.error s) (((c.update (rebuffer (resize · 1024))).record env
        (.answered (.received (.ok d)))).update (rebuffer g)))
    (herror : ∀ e, Φ (.error (.failed (.ioError e)))
      ((c.update (rebuffer (resize · 1024))).record env (.answered (.received (.error e)))))
    (helapsed : ∀ n, Φ (.error (.elapsed n))
      ((c.update (rebuffer (resize · 1024))).record env (.elapsed n)))
    (hpending : Φ (.error .pending) (c.update (rebuffer (resize · 1024)))) :
    wp env (recv p) c Φ := by
  unfold recv
  apply wp_modify_bind
  refine wp_bind (Q := fun r c' => match r with
    | .ok d => ∃ full, d = { full with bytes := full.bytes.take 1024 } ∧
        c' = (c.update (rebuffer (resize · 1024))).record env (.answered (.received (.ok full)))
    | .error s => Φ (.error s) c') ?_ ?_ fun s c' hs => hs
  · exact wp_mapResult (wp_recvFrom (fun d => ⟨d, rfl, rfl⟩) herror helapsed hpending)
  · rintro _ c₂ ⟨d, rfl, rfl⟩
    exact wp_onDatagram (fun feed g => hfeed d feed g) fun s g => hdrop d s g

/-- A message that `recv` returns was heard. -/
theorem recv_steps (h : Steps Event.Routine (Change p) env c₀ c) :
    wp env (recv p) c (Kept (Steps Event.Routine (Change p) env c₀) fun feed c' =>
      Heard p feed c') := by
  have h₁ := h.update (.buffer fun b => resize b 1024)
  have h₂ (d : Datagram) (g : List UInt8 → List UInt8) :
      Steps Event.Routine (Change p) env c₀ (((c.update (rebuffer (resize · 1024))).record env
        (.answered (.received (.ok d)))).update (rebuffer g)) := by
    apply Steps.update _ (.buffer g)
    exact h₁.record trivial
  refine wp_recv ?_ (fun d s g _ => kept_error (h₂ d g)) (fun e => kept_error (h₁.record trivial))
    (fun n => kept_error (h₁.record trivial)) (kept_error h₁)
  intro d feed g hsource hread
  refine ⟨(h₂ d g).update (.noted ⟨d, rfl, hsource, hread⟩), fun feed' hfeed' => ?_⟩
  cases hfeed'
  refine ⟨d, rfl, ?_, hread⟩
  rw [hsource]
  show _ = (noted feed _).control_addr
  rw [noted_eq]
  rfl

/-- The connection has heard the registration, with the id of the request. -/
def HeardRegistered (p : Platform) (registered : AgentRegistered)
    (c : ControlConfig I W (ConnectedControl I)) : Prop :=
  ∃ request_id, Heard p (.response ⟨request_id, .agentRegistered registered⟩) c

variable (p env) in
/-- The invariant is kept by everything that a registration is made of. -/
structure Conserves (J : ControlConfig I W (ConnectedControl I) → Prop) : Prop where
  /-- A reading of the clock. -/
  tick : ∀ c, J c → J (c.tick env)
  /-- A change of the buffer. -/
  buffer : ∀ c g, J c → J (c.update (rebuffer g))
  /-- A message to the endpoint. -/
  sendTo : ∀ c bytes target, J c → J (c.record env (.did (.sendTo bytes target)))
  /-- A timer. -/
  elapsed : ∀ c n, J c → J (c.record env (.elapsed n))
  /-- An answer other than a datagram. -/
  answered : ∀ c v, (∀ d, v ≠ .received (.ok d)) → J c → J (c.record env (.answered v))
  /-- A message from the endpoint. -/
  recv : ∀ c, J c → wp env (recv p) c (Kept J fun feed c' => Heard p feed c')

/-- Steps are kept by everything that a registration is made of. -/
theorem conserves_steps : Conserves p env (Steps Event.Routine (Change p) env c₀) where
  tick _ h := h.tick
  buffer _ g h := h.update (.buffer g)
  sendTo _ _ _ h := h.record trivial
  elapsed _ _ h := h.record trivial
  answered _ _ _ h := h.record trivial
  recv _ h := recv_steps h

section
variable {J : ControlConfig I W (ConnectedControl I) → Prop} (hJ : Conserves p env J)
include hJ

/-- An await for something other than a datagram. -/
theorem Conserves.await {α : Type} (h : J c) {g : Answer I → Option α}
    (hg : ∀ d, g (.received (.ok d)) = none) :
    wp env (Future.await (E := E) g) c (Kept J fun _ _ => True) := by
  refine kept_await h (fun n => hJ.elapsed c n h) fun v _ hv => ⟨?_, trivial⟩
  refine hJ.answered c v (fun d hd => ?_) h
  rw [hd, hg] at hv
  cases hv

/-- `ConnectedControl::send`. -/
theorem send_kept (h : J c) (msg : WriteM ℕ) :
    wp env (send msg) c (Kept J fun _ _ => True) := by
  unfold send encoded sendTo
  refine kept_bind (kept_modify (hJ.buffer c (fun _ => []) h)) fun _ c₁ h₁ _ => ?_
  refine kept_bind (P := fun _ _ => True) ?_ fun bytes c₂ h₂ _ => ?_
  · split
    · exact kept_pure h₁ trivial
    · exact kept_fail h₁
    · exact kept_panic h₁
  refine kept_bind (kept_modify (hJ.buffer c₂ (fun _ => bytes) h₂)) fun _ c₃ h₃ _ => ?_
  refine kept_bind (kept_get h₃) fun self c₄ h₄ _ => ?_
  refine kept_bind (kept_act (hJ.sendTo c₄ bytes self.control_addr h₄)) fun _ c₅ h₅ _ => ?_
  refine kept_bind (hJ.await h₅ fun _ => rfl) fun res c₆ h₆ _ => ?_
  refine kept_bind (kept_ofExcept h₆) fun n c₇ h₇ _ => ?_
  exact kept_pure h₇ trivial

/-- What is done with the response to the registration. -/
theorem onRegisterResponse_kept (h : J c) (auth_pong : Pong) (request_id : UInt64)
    {content : ControlResponse} (hheard : Heard p (.response ⟨request_id, content⟩) c) :
    wp env (onRegisterResponse p auth_pong request_id content) c
      (Kept J fun r c' => ∀ registered, r = .ret registered → HeardRegistered p registered c') := by
  unfold onRegisterResponse
  split
  · refine kept_pure h fun registered hr => ?_
    cases hr
    exact ⟨request_id, hheard⟩
  · exact kept_fail h
  · refine kept_bind (kept_now (hJ.tick c h)) fun now c₁ h₁ _ => ?_
    refine kept_bind (kept_attempt (send_kept hJ h₁ _)) fun _ c₂ h₂ _ => ?_
    exact kept_fail h₂
  · split
    · exact kept_fail h
    · exact kept_pure h fun registered hr => by cases hr
  · refine kept_bind (hJ.await h fun _ => rfl) fun _ c₁ h₁ _ => ?_
    exact kept_pure h₁ fun registered hr => by cases hr
  · exact kept_pure h fun registered hr => by cases hr

/-- One wait for the response to the registration. -/
theorem waitForRegistered_kept (h : J c) (auth_pong : Pong) (request_id : UInt64) :
    wp env (waitForRegistered p auth_pong request_id) c
      (Kept J fun r c' => ∀ registered, r = .ret registered → HeardRegistered p registered c') := by
  unfold waitForRegistered
  refine kept_bind (kept_timeout (hJ.recv c h)) fun r c₁ h₁ hr => ?_
  split
  · rename_i response
    split
    · rename_i hid
      have hheard := hr _ rfl
      rw [show response = ⟨request_id, response.content⟩ by rw [← hid]] at hheard
      exact onRegisterResponse_kept hJ h₁ auth_pong request_id hheard
    · exact kept_pure h₁ fun registered hr => by cases hr
  all_goals exact kept_pure h₁ fun registered hr => by cases hr

/-- One attempt to register. -/
theorem tryRegister_kept (h : J c) (auth_pong : Pong) (request_id : UInt64) (bytes : List UInt8) :
    wp env (tryRegister p auth_pong request_id bytes) c
      (Kept J fun r c' => ∀ registered, r = .ret registered → HeardRegistered p registered c') := by
  unfold tryRegister
  refine kept_bind (kept_mapErr (send_kept hJ h _)) fun _ c₁ h₁ _ => ?_
  have hloop := kept_forLoop (J := fun _ _ => True)
    (fun acc c h _ => kept_mono (waitForRegistered_kept hJ h auth_pong request_id)
      fun r c' _ hr => ⟨fun _ _ => trivial, hr⟩) 5 () h₁ trivial
  refine kept_bind hloop fun r c₂ h₂ hr => ?_
  split
  · rename_i registered
    refine kept_pure h₂ fun registered' hr' => ?_
    cases hr'
    exact hr registered rfl
  · exact kept_pure h₂ fun registered hr => by cases hr

/-- A registration that `authenticate` returns was heard. What it conserves may start with the pong
that it hands to the authentication. -/
theorem authenticate_kept (h : J (c.record env (.did (.authenticate c.state.pong_latest)))) :
    wp env (authenticate p) c (Kept J fun registered c' => HeardRegistered p registered c') := by
  have hsign : wp env (authAuthenticate c.state.pong_latest) c (Kept J fun _ _ => True) := by
    unfold authAuthenticate
    refine kept_bind (kept_act h) fun _ c₁ h₁ _ => ?_
    refine kept_bind (hJ.await h₁ fun _ => rfl) fun res c₂ h₂ _ => ?_
    exact kept_mono (kept_ofExcept h₂) fun _ _ _ _ => trivial
  unfold authenticate
  apply wp_get_bind
  refine kept_bind hsign fun key c₂ h₂ _ => ?_
  split
  · exact kept_fail h₂
  · rename_i bytes _
    refine kept_bind (kept_now (hJ.tick c₂ h₂)) fun request_id c₃ h₃ _ => ?_
    have hloop := kept_forLoop (J := fun _ _ => True)
      (fun acc c' h _ => kept_mono (tryRegister_kept hJ h c.state.pong_latest request_id bytes)
        fun r c' _ hr => ⟨fun _ _ => trivial, hr⟩) 5 () h₃ trivial
    refine kept_bind hloop fun r c₄ h₄ hr => ?_
    split
    · rename_i registered
      exact kept_pure h₄ (hr registered rfl)
    · exact kept_fail h₄

end

end ConnectedControl

/-! ## The session -/

/-- The deadline for the set up of a session without an expiry. -/
theorem wp_sessionSetupDeadline {β : Type} {env : Env UInt64 W S} {c : ControlConfig I W S}
    {session_expire_at : Option UInt64} {grace : UInt64} {f : Option UInt64 → ControlM I W S E β}
    {Φ : Except (Stop E) β → ControlConfig I W S → Prop}
    (hsome : session_expire_at.isSome → wp env (f none) c Φ)
    (hnone : session_expire_at = none → ∀ w,
      wp env (f (some (saturatingAdd (env.clock c.ticks) grace)))
      ⟨c.state, c.ticks + 1, (.read (env.clock c.ticks), w) :: c.log⟩ Φ) :
    wp env (sessionSetupDeadline session_expire_at grace >>= f) c Φ := by
  cases session_expire_at with
  | some expire_at => exact wp_pure_bind (hsome rfl)
  | none => exact fun script => hnone rfl (env.look c.state) script

/-- The expiry that a session starts with, after a registration over another one. -/
def EstablishedControl.nextExpireAt (self : EstablishedControl I A) (pong : Pong) :
    Option UInt64 :=
  self.pong_at_auth.session_expire_at.or pong.session_expire_at

/-- The session after a registration, with the deadline for its set up. -/
def EstablishedControl.reregistered (registered : AgentRegistered) (deadline : Option UInt64)
    (self : EstablishedControl I A) : EstablishedControl I A :=
  { self with
    force_expired := false
    registered
    pong_at_auth :=
      { self.conn.pong_latest with session_expire_at := self.nextExpireAt self.conn.pong_latest }
    session_setup_deadline := deadline }

/-- `EstablishedControl::authenticate`, from the new registration on: it returns, and reads the
clock when the session has no expiry. -/
theorem EstablishedControl.wp_onRegistered {env : Env UInt64 W (EstablishedControl I A)}
    {c : ControlConfig I W (EstablishedControl I A)} {registered : AgentRegistered}
    {Φ : Except (Stop E) Unit → ControlConfig I W (EstablishedControl I A) → Prop}
    (hsome : (c.state.nextExpireAt c.state.conn.pong_latest).isSome →
      Φ (.ok ()) (c.update (reregistered registered none)))
    (hnone : c.state.nextExpireAt c.state.conn.pong_latest = none → ∀ w, Φ (.ok ())
      ⟨c.state.reregistered registered
          (some (saturatingAdd (env.clock c.ticks) sessionSetupGraceMs)),
        c.ticks + 1, (.read (env.clock c.ticks), w) :: c.log⟩) :
    wp env (onRegistered registered) c Φ := by
  unfold onRegistered
  apply wp_modify_bind
  apply wp_get_bind
  apply wp_modify_bind
  apply wp_sessionSetupDeadline
  · intro hsession
    exact wp_modify (hsome hsession)
  · intro hsession w
    exact wp_modify (hnone hsession w)

/-! ### Expiry and messages -/

namespace EstablishedControl

/-- `is_expired` returns, and does nothing but read the clock, if at all. -/
theorem wp_isExpired {env : Env UInt64 W (EstablishedControl I A)}
    {c : ControlConfig I W (EstablishedControl I A)}
    {Φ : Except (Stop E) (Option ExpiredReason) → ControlConfig I W (EstablishedControl I A) → Prop}
    (h : ∀ c', c' = c ∨ c' = c.tick env → Φ (.ok (c.state.isExpiredAt (env.clock c.ticks))) c') :
    wp env isExpired c Φ := by
  have hend (b : Bool) (hb : c.state.notSetupAt (env.clock c.ticks) = b)
      (hforce : c.state.force_expired = false) (c' : ControlConfig I W (EstablishedControl I A))
      (hc' : c' = c ∨ c' = c.tick env) :
      wp env (if b then pure (some .sessionNotSetup) else if c.state.flowChanged then
        pure (some .flowChanged) else pure none) c' Φ := by
    have hresult := h c' hc'
    unfold isExpiredAt at hresult
    rw [hforce, hb, if_neg Bool.false_ne_true] at hresult
    split
    · rw [if_pos ‹_›] at hresult
      exact wp_pure hresult
    · rw [if_neg ‹_›] at hresult
      split
      · rw [if_pos ‹_›] at hresult
        exact wp_pure hresult
      · rw [if_neg ‹_›] at hresult
        exact wp_pure hresult
  unfold isExpired notSetup
  apply wp_get_bind
  split
  · rename_i hforce
    have hresult := h c (.inl rfl)
    unfold isExpiredAt at hresult
    rw [if_pos hforce] at hresult
    exact wp_pure hresult
  · rename_i hforce
    have hforce := Bool.eq_false_iff.2 hforce
    unfold notSetupAt at hend
    split
    · rename_i session hsession
      apply wp_pure_bind
      exact hend false (by rw [hsession]; rfl) hforce c (.inl rfl)
    · rename_i hsession
      split
      · rename_i hdeadline
        apply wp_pure_bind
        exact hend true (by rw [hsession, hdeadline]; rfl) hforce c (.inl rfl)
      · rename_i deadline hdeadline
        intro script
        exact hend _ (by rw [hsession, hdeadline]; rfl) hforce (c.tick env) (.inr rfl) script

/-- The changes of a session because of a message, once its connection has it. The flow that it is
registered for stays, and of the registration only the expiry changes, unless the message is a
registration. -/
structure Absorbed (feed : ControlFeed) (f : EstablishedControl I A → EstablishedControl I A) :
    Prop where
  conn : ∀ self, (f self).conn = self.conn
  force_expired : ∀ self, (f self).force_expired = self.force_expired
  pong_at_auth : ∀ self, (f self).pong_at_auth =
    { self.pong_at_auth with session_expire_at := (f self).pong_at_auth.session_expire_at }
  registered : ∀ self,
    (f self).registered =
      { self.registered with expires_at := (f self).registered.expires_at } ∨
    ∃ request_id, feed = .response ⟨request_id, .agentRegistered (f self).registered⟩

/-- The invariant is kept by what a session does with a message, once its connection has it. -/
structure Absorbs (env : Env UInt64 W (EstablishedControl I A)) (feed : ControlFeed)
    (J : ControlConfig I W (EstablishedControl I A) → Prop) : Prop where
  /-- A reading of the clock. -/
  tick : ∀ c, J c → J (c.tick env)
  /-- An overflow. -/
  overflow : ∀ c (site : Site), site.ofSession → J c → J (c.record env (.did (.overflow site)))
  /-- A change because of the message. -/
  update : ∀ c f, Absorbed feed f → J c → J (c.update f)

section
variable {p : Platform} {env : Env UInt64 W (EstablishedControl I A)}
  {c : ControlConfig I W (EstablishedControl I A)}
  {J : ControlConfig I W (EstablishedControl I A) → Prop} {feed : ControlFeed}
  (hJ : Absorbs env feed J)
include hJ

/-- A change because of the message. -/
theorem Absorbs.modify (h : J c) {f : EstablishedControl I A → EstablishedControl I A}
    (hf : Absorbed feed f) : wp env (Future.modify (E := E) f) c (Kept J fun _ _ => True) :=
  kept_mono (kept_modify (hJ.update c f hf h)) fun _ _ _ _ => trivial

/-- What is done with the expiry of a pong. -/
theorem onSessionExpireAt_kept (h : J c) (pong : Pong) (rtt : UInt32) (expires_at : UInt64) :
    wp env (onSessionExpireAt (E := E) p pong rtt expires_at) c (Kept J fun _ _ => True) := by
  unfold onSessionExpireAt
  refine kept_bind (hJ.modify h ⟨fun _ => rfl, fun _ => rfl, fun _ => rfl, fun _ => .inl rfl⟩)
    fun _ c₁ h₁ _ => ?_
  refine kept_bind (subU64_kept h₁ (hJ.overflow c₁ _ rfl h₁) _ _) fun ttl c₂ h₂ _ => ?_
  refine kept_bind (addU64_kept h₂ (hJ.overflow c₂ _ rfl h₂) _ _) fun sum c₃ h₃ _ => ?_
  refine kept_bind (subU64_kept h₃ (hJ.overflow c₃ _ rfl h₃) _ _) fun expires_at c₄ h₄ _ => ?_
  exact hJ.modify h₄ ⟨fun _ => rfl, fun _ => rfl, fun _ => rfl, fun _ => .inl rfl⟩

/-- What is done with a pong. -/
theorem onPong_kept (h : J c) (pong : Pong) :
    wp env (onPong (E := E) p pong) c (Kept J fun _ _ => True) := by
  unfold onPong
  refine kept_bind (kept_now (hJ.tick c h)) fun now c₁ h₁ _ => ?_
  refine kept_bind (subU64_kept h₁ (hJ.overflow c₁ _ rfl h₁) _ _) fun server_ts c₂ h₂ _ => ?_
  refine kept_bind (subI64_kept h₂ (hJ.overflow c₂ _ rfl h₂) _ _) fun clock_offset c₃ h₃ _ => ?_
  refine kept_bind (hJ.modify h₃ ⟨fun _ => rfl, fun _ => rfl, fun _ => rfl, fun _ => .inl rfl⟩)
    fun _ c₄ h₄ _ => ?_
  refine kept_bind (absI64_kept h₄ (hJ.overflow c₄ _ rfl h₄) _) fun _ c₅ h₅ _ => ?_
  refine kept_bind (hJ.modify h₅ ⟨fun _ => rfl, fun _ => rfl, fun _ => rfl, fun _ => .inl rfl⟩)
    fun _ c₆ h₆ _ => ?_
  split
  · exact onSessionExpireAt_kept hJ h₆ pong _ _
  · exact kept_pure h₆ trivial

/-- What is done with a message. -/
theorem onFeed_kept (h : J c) : wp env (onFeed (E := E) p feed) c (Kept J fun _ _ => True) := by
  unfold onFeed
  split
  · rename_i res
    split
    · rename_i registered hcontent
      refine hJ.modify h ⟨fun _ => rfl, fun _ => rfl, fun _ => rfl, fun _ => .inr ?_⟩
      exact ⟨res.request_id, by rw [← hcontent]⟩
    · exact onPong_kept hJ h _
    · exact hJ.modify h ⟨fun _ => rfl, fun _ => rfl, fun _ => rfl, fun _ => .inl rfl⟩
    · exact hJ.modify h ⟨fun _ => rfl, fun _ => rfl, fun _ => rfl, fun _ => .inl rfl⟩
    · exact hJ.modify h ⟨fun _ => rfl, fun _ => rfl, fun _ => rfl, fun _ => .inl rfl⟩
    · exact kept_pure h trivial
  · exact kept_pure h trivial

end

end EstablishedControl

end

end PlayitAgent
