import PlayitAgent.Control.RegisteredFlow

/-!
# What a session has learned

A session knows the latest pong, the pong that it registered with, and its registration. All three
have arrived in datagrams of the endpoint that it has now; of the last two, only the expiry may be
of another origin. Every call on a session keeps that, whatever the environment does.
-/

namespace PlayitAgent

open Future

section
variable {I A W S E : Type}

/-! ## Datagrams of the endpoint -/

/-- The pong is in a datagram of the endpoint `addr`, as one of the two receive loops reads it. -/
def PongFrom (p : Platform) (heard : Datagram → Prop) (addr : SocketAddr) (pong : Pong) : Prop :=
  ∃ d, heard d ∧ d.source = addr ∧ ∃ size ∈ [1024, 2048], ∃ request_id,
    p.readFeed (d.bytes.take size) = .ok (.response ⟨request_id, .pong pong⟩)

/-- The registration is in a datagram of the endpoint `addr`. -/
def RegisteredFrom (p : Platform) (heard : Datagram → Prop) (addr : SocketAddr)
    (registered : AgentRegistered) : Prop :=
  ∃ d, heard d ∧ d.source = addr ∧ ∃ request_id,
    p.readFeed (d.bytes.take 1024) = .ok (.response ⟨request_id, .agentRegistered registered⟩)

section
variable {p : Platform} {heard heard' : Datagram → Prop} {addr : SocketAddr}

/-- More datagrams may have arrived. -/
theorem PongFrom.mono {pong : Pong} (h : PongFrom p heard addr pong)
    (hheard : ∀ d, heard d → heard' d) : PongFrom p heard' addr pong := by
  obtain ⟨d, hd, hpong⟩ := h
  exact ⟨d, hheard d hd, hpong⟩

/-- More datagrams may have arrived. -/
theorem RegisteredFrom.mono {registered : AgentRegistered}
    (h : RegisteredFrom p heard addr registered) (hheard : ∀ d, heard d → heard' d) :
    RegisteredFrom p heard' addr registered := by
  obtain ⟨d, hd, hregistered⟩ := h
  exact ⟨d, hheard d hd, hregistered⟩

end

/-- The datagram that is worked on has arrived. -/
theorem mem_received_of_current {log : List (ControlEvent I × W)} {d : Datagram}
    (h : current log = some d) : d ∈ received log := by
  unfold received
  fun_induction current log with
  | case1 => cases h
  | case2 d' w log =>
    cases h
    exact List.mem_cons_self
  | case3 => cases h
  | case4 => cases h
  | case5 t w log ih => exact ih h
  | case6 a w log ih => exact ih h

/-- What has arrived stays so. -/
theorem mem_received_cons {log : List (ControlEvent I × W)} {d : Datagram}
    (h : d ∈ received log) (entry : ControlEvent I × W) : d ∈ received (entry :: log) := by
  unfold received at *
  rw [List.filterMap_cons]
  split
  · exact h
  · exact List.mem_cons_of_mem _ h

/-- What has arrived stays so, whatever is done. -/
theorem mem_received_of_steps {R : ControlEvent I → Prop} {U : ControlConfig I W S → (S → S) → Prop}
    {env : Env UInt64 W S} {c₀ c : ControlConfig I W S} (h : Steps R U env c₀ c) {d : Datagram}
    (hd : d ∈ received c₀.log) : d ∈ received c.log :=
  h.invariant (J := fun c : ControlConfig I W S => d ∈ received c.log) hd
    (fun _ h => mem_received_cons h _) (fun _ _ h _ => mem_received_cons h _) fun _ _ h _ => h

namespace ConnectedControl

variable {p : Platform} {heard : Datagram → Prop} {env : Env UInt64 W (ConnectedControl I)}
  {c₀ c : ControlConfig I W (ConnectedControl I)}

/-- The latest pong of the connection is of its endpoint. -/
def Genuine (p : Platform) (heard : Datagram → Prop) (self : ConnectedControl I) : Prop :=
  PongFrom p heard self.control_addr self.pong_latest

end ConnectedControl

section
variable {p : Platform} {heard : Datagram → Prop} {env : Env UInt64 W S} {c : ControlConfig I W S}

end

/-! ## The session -/

namespace EstablishedControl

/-- The latest pong, the pong at the registration and the registration of the session have arrived
in datagrams of its endpoint. Of the last two, the expiry may be of another origin. -/
structure Genuine (p : Platform) (heard : Datagram → Prop) (session : EstablishedControl I A) :
    Prop where
  pong_latest : PongFrom p heard session.conn.control_addr session.conn.pong_latest
  pong_at_auth : ∃ pong, PongFrom p heard session.conn.control_addr pong ∧
    session.pong_at_auth = { pong with session_expire_at := session.pong_at_auth.session_expire_at }
  registered : ∃ registered, RegisteredFrom p heard session.conn.control_addr registered ∧
    session.registered = { registered with expires_at := session.registered.expires_at }

variable {p : Platform} {heard heard' : Datagram → Prop} {self : EstablishedControl I A}

namespace Genuine

/-- More datagrams may have arrived. -/
theorem mono (h : self.Genuine p heard) (hheard : ∀ d, heard d → heard' d) :
    self.Genuine p heard' := by
  obtain ⟨hlatest, ⟨pong, hpong, hat⟩, registered, hregistered, heq⟩ := h
  exact ⟨hlatest.mono hheard, ⟨pong, hpong.mono hheard, hat⟩, registered, hregistered.mono hheard,
    heq⟩

/-- Another connection to the endpoint, or the same one later. -/
theorem conn (h : self.Genuine p heard) {conn : ConnectedControl I}
    (haddr : conn.control_addr = self.conn.control_addr) (hconn : conn.Genuine p heard) :
    Genuine p heard { self with conn } where
  pong_latest := hconn
  pong_at_auth := by
    obtain ⟨pong, hpong, hat⟩ := h.pong_at_auth
    rw [← haddr] at hpong
    exact ⟨pong, hpong, hat⟩
  registered := by
    obtain ⟨registered, hregistered, heq⟩ := h.registered
    rw [← haddr] at hregistered
    exact ⟨registered, hregistered, heq⟩

/-- A session after a registration on its connection. -/
theorem reregistered (h : self.Genuine p heard) {registered : AgentRegistered}
    (hregistered : RegisteredFrom p heard self.conn.control_addr registered)
    (deadline : Option UInt64) : (self.reregistered registered deadline).Genuine p heard where
  pong_latest := h.pong_latest
  pong_at_auth := ⟨self.conn.pong_latest, h.pong_latest, rfl⟩
  registered := ⟨registered, hregistered, rfl⟩

/-- A session after a registration on another connection. -/
theorem resetEstablished {conn : ConnectedControl I} {registered : AgentRegistered}
    (hconn : conn.Genuine p heard)
    (hregistered : RegisteredFrom p heard conn.control_addr registered)
    (self : EstablishedControl I A) : (conn.resetEstablished registered self).Genuine p heard where
  pong_latest := hconn
  pong_at_auth := ⟨conn.pong_latest, hconn, rfl⟩
  registered := ⟨registered, hregistered, rfl⟩

end Genuine

variable {env : Env UInt64 W (EstablishedControl I A)}
  {c : ControlConfig I W (EstablishedControl I A)}

end EstablishedControl

end

end PlayitAgent
