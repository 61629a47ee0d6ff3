import PlayitAgent.Network.TcpClients

/-!
# What the two ends of a TCP client get

The tunnel server gets the token of the client and then what the origin sends. The origin gets the
header of the PROXY protocol, if there is one, and then what the tunnel server sends behind its
answer to the token. The origin gets nothing before the client is claimed.

The invariant is about one task: what its awaits have moved so far, by where it is.
-/

namespace PlayitAgent

namespace TcpClients

/-- A pipe that was just made relays. -/
theorem relayed_of_newWithStats {time : ℤ} {stats : Option AgentStats} {direction : PipeDirection}
    {pipe : TcpPipe} (h : TcpPipe.newWithStats time stats direction = some pipe) : pipe.Relayed :=
  (TcpPipe.invariant_newWithStats h).relayed

/-- Pipes that were just made relay. -/
theorem relayed_of_createWithStats {tunnTime originTime : ℤ} {stats : AgentStats} {tcp : TcpClient}
    (h : TcpClient.createWithStats tunnTime originTime stats = some tcp) :
    tcp.tunn_to_origin.Relayed ∧ tcp.origin_to_tunn.Relayed := by
  unfold TcpClient.createWithStats at h
  obtain ⟨tunn_to_origin, htunn, h⟩ := Option.bind_eq_some_iff.1 h
  obtain ⟨origin_to_tunn, horigin, h⟩ := Option.bind_eq_some_iff.1 h
  cases h
  exact ⟨relayed_of_newWithStats htunn, relayed_of_newWithStats horigin⟩

/-- A step of a pipe is one of the pipe alone, on the shared counters. -/
theorem of_tcp_pipeNext {tcp tcp' : TcpClient} {stats stats' : AgentStats}
    {direction : PipeDirection} {e : TcpPipe.Event}
    (h : tcp.pipeNext stats direction e = some (tcp', stats')) :
    ∃ pipe, tcp.allows e ∧
      TcpPipe.Step { tcp.pipe direction with stats := some stats } e pipe ∧
      tcp' = tcp.setPipe pipe direction ∧ stats' = pipe.stats.getD stats := by
  unfold TcpClient.pipeNext at h
  split_ifs at h with hallows
  obtain ⟨pipe, hnext, h⟩ := Option.map_eq_some_iff.1 h
  cases h
  exact ⟨pipe, hallows, TcpPipe.step_of_next hnext, rfl, rfl⟩

/-- A step of one pipe keeps what both relay. -/
theorem relayed_of_pipeNext {tcp tcp' : TcpClient} {stats stats' : AgentStats}
    {direction : PipeDirection} {e : TcpPipe.Event}
    (h : tcp.pipeNext stats direction e = some (tcp', stats'))
    (htunn : tcp.tunn_to_origin.Relayed) (horigin : tcp.origin_to_tunn.Relayed) :
    tcp'.tunn_to_origin.Relayed ∧ tcp'.origin_to_tunn.Relayed := by
  obtain ⟨pipe, -, hstep, rfl, -⟩ := of_tcp_pipeNext h
  cases direction with
  | tunnelToOrigin => exact ⟨hstep.relayed htunn, horigin⟩
  | originToTunnel => exact ⟨htunn, hstep.relayed horigin⟩

namespace Claim

/-! ## The invariant of a task -/

/-- The token of the client. -/
def token (c : Claim) : List UInt8 := c.details.claim_instructions.token

/-- What the tunnel server has got. -/
def toTunnel (c : Claim) : List UInt8 :=
  c.tunnSent ++ c.tcp.elim [] fun tcp => tcp.origin_to_tunn.delivered

/-- What was read from the tunnel server. -/
def fromTunnel (c : Claim) : List UInt8 :=
  c.tunnRead ++ c.tcp.elim [] fun tcp => tcp.tunn_to_origin.received

/-- What the origin has got. -/
def toOrigin (c : Claim) : List UInt8 :=
  c.originSent ++ c.tcp.elim [] fun tcp => tcp.tunn_to_origin.delivered

/-- What was read from the origin. -/
def fromOrigin (c : Claim) : List UInt8 := c.tcp.elim [] fun tcp => tcp.origin_to_tunn.received

/-- The pipes are made: the client is claimed and the origin has the header, and the pipes relay
what follows. -/
structure Piped (c : Claim) (tcp : TcpClient) : Prop where
  tcp_eq : c.tcp = some tcp
  sent : c.tunnSent = c.token
  answered : c.tunnRead.length = 8
  header_sent : c.originSent = c.header
  tunn_to_origin : tcp.tunn_to_origin.Relayed
  origin_to_tunn : tcp.origin_to_tunn.Relayed

/-- No pipes are made: a part of the token may be sent, and a part of the header once the client is
claimed. -/
structure Unpiped (c : Claim) : Prop where
  tcp_eq : c.tcp = none
  sent : c.tunnSent <+: c.token
  header_sent : c.originSent <+: c.header
  claimed : c.originSent ≠ [] → c.tunnSent = c.token ∧ c.tunnRead.length = 8

/-- What the awaits before a phase have moved. -/
def Flow (c : Claim) : Prop :=
  match c.phase with
  | .resolving | .connecting _ | .sending _ =>
    c.tcp = none ∧ c.tunnSent = [] ∧ c.tunnRead = [] ∧ c.originSent = []
  | .confirming _ => c.tcp = none ∧ c.tunnSent = c.token ∧ c.tunnRead = [] ∧ c.originSent = []
  | .connectingFrom _ _ | .connectingOrigin _ | .writingHeader _ =>
    c.tcp = none ∧ c.tunnSent = c.token ∧ c.tunnRead.length = 8 ∧ c.originSent = []
  | .piping _ =>
    c.tcp = none ∧ c.tunnSent = c.token ∧ c.tunnRead.length = 8 ∧ c.originSent = c.header
  | .handing _ _ | .handed _ _ => ∃ tcp, c.Piped tcp
  | .failed _ | .gone | .panicked => c.Unpiped ∨ ∃ tcp, c.Piped tcp

/-- A task that was just spawned has moved nothing. -/
theorem flow_spawn (client_id : UInt64) (details : NewClient) (found : OriginResource)
    (header : ProxyProtocolHeader) : (spawn client_id details found header).Flow :=
  ⟨rfl, rfl, rfl, rfl⟩

section
variable {c c' : Claim} {s : State}

/-- Before the header a task has sent nothing to the origin. -/
theorem unpiped_of_nil (htcp : c.tcp = none) (hsent : c.tunnSent <+: c.token)
    (horigin : c.originSent = []) : c.Unpiped := by
  refine ⟨htcp, hsent, ?_, fun hne => absurd horigin hne⟩
  rw [horigin]
  exact List.nil_prefix

/-- What has moved when an await ends early is no more than what the await was for. -/
theorem Flow.moving (h : c.Flow) {moved : List UInt8} (hmoved : c.moving moved = some c') :
    c'.Unpiped ∨ ∃ tcp, c'.Piped tcp := by
  unfold Flow at h
  unfold Claim.moving at hmoved
  cases hphase : c.phase with
  | sending origin_addr =>
    rw [hphase] at h hmoved
    dsimp only at h hmoved
    split_ifs at hmoved with hpre
    cases hmoved
    exact .inl (unpiped_of_nil h.1 hpre h.2.2.2)
  | confirming origin_addr =>
    rw [hphase] at h hmoved
    dsimp only at h hmoved
    split_ifs at hmoved with hlen
    cases hmoved
    exact .inl (unpiped_of_nil h.1 (h.2.1 ▸ List.prefix_refl _) h.2.2.2)
  | writingHeader origin_addr =>
    rw [hphase] at h hmoved
    dsimp only at h hmoved
    split_ifs at hmoved with hpre
    cases hmoved
    exact .inl ⟨h.1, h.2.1 ▸ List.prefix_refl _, hpre, fun _ => ⟨h.2.1, h.2.2.1⟩⟩
  | resolving | connecting origin_addr =>
    rw [hphase] at h hmoved
    dsimp only at h hmoved
    split_ifs at hmoved
    cases hmoved
    exact .inl (unpiped_of_nil h.1 (h.2.1 ▸ List.nil_prefix) h.2.2.2)
  | connectingFrom local_ip origin_addr | connectingOrigin origin_addr =>
    rw [hphase] at h hmoved
    dsimp only at h hmoved
    split_ifs at hmoved
    cases hmoved
    exact .inl (unpiped_of_nil h.1 (h.2.1 ▸ List.prefix_refl _) h.2.2.2)
  | piping origin_addr =>
    rw [hphase] at h hmoved
    dsimp only at h hmoved
    split_ifs at hmoved
    cases hmoved
    exact .inl ⟨h.1, h.2.1 ▸ List.prefix_refl _, h.2.2.2 ▸ List.prefix_refl _,
      fun _ => ⟨h.2.1, h.2.2.1⟩⟩
  | handing added_at origin_addr | handed added_at origin_addr =>
    rw [hphase] at h hmoved
    dsimp only at h hmoved
    split_ifs at hmoved
    cases hmoved
    exact .inr h
  | failed error | gone | panicked =>
    rw [hphase] at h hmoved
    dsimp only at h hmoved
    split_ifs at hmoved
    cases hmoved
    exact h

/-- The pipes relay the same after their drop. -/
theorem Piped.drop {tcp : TcpClient} (h : c.Piped tcp) : c.drop.Piped tcp.drop where
  tcp_eq := by rw [Claim.drop, h.tcp_eq, Option.map_some]
  sent := h.sent
  answered := h.answered
  header_sent := h.header_sent
  tunn_to_origin := h.tunn_to_origin
  origin_to_tunn := h.origin_to_tunn

/-- Where there are no pipes, nothing is dropped. -/
theorem Unpiped.drop (h : c.Unpiped) : c.drop.Unpiped where
  tcp_eq := by rw [Claim.drop, h.tcp_eq, Option.map_none]
  sent := h.sent
  header_sent := h.header_sent
  claimed := h.claimed

/-- The pipes do not depend on where the task is. -/
theorem Piped.goto {tcp : TcpClient} (h : c.Piped tcp) (phase : ClaimAt) :
    (c.goto phase).Piped tcp :=
  ⟨h.tcp_eq, h.sent, h.answered, h.header_sent, h.tunn_to_origin, h.origin_to_tunn⟩

/-- What was sent without pipes does not depend on where the task is. -/
theorem Unpiped.goto (h : c.Unpiped) (phase : ClaimAt) : (c.goto phase).Unpiped :=
  ⟨h.tcp_eq, h.sent, h.header_sent, h.claimed⟩

/-- A drop keeps what has moved. -/
theorem Flow.drop (h : c.Flow) : c.drop.Flow := by
  have hnone : c.tcp = none → c.drop.tcp = none := by
    intro htcp
    rw [Claim.drop, htcp, Option.map_none]
  unfold Flow at h ⊢
  have hphase : c.drop.phase = c.phase := rfl
  rw [hphase]
  split at h
  all_goals first
    | exact ⟨hnone h.1, h.2⟩
    | exact h.elim fun tcp hpiped => ⟨_, hpiped.drop⟩
    | exact h.imp Unpiped.drop fun hpiped => hpiped.elim fun tcp hpiped => ⟨_, hpiped.drop⟩

/-- What has moved once the pipes are made, or the task has panicked. -/
theorem flow_pipes {stats : AgentStats} {origin_addr : SocketAddr}
    (htcp : c.tcp = none) (hsent : c.tunnSent = c.token) (hanswered : c.tunnRead.length = 8)
    (hheader : c.originSent = c.header) (tunnTime originTime addedTime : ℤ) :
    (c.pipes stats origin_addr tunnTime originTime addedTime).Flow := by
  have hunpiped : c.Unpiped := ⟨htcp, hsent ▸ List.prefix_refl _, hheader ▸ List.prefix_refl _,
    fun _ => ⟨hsent, hanswered⟩⟩
  unfold pipes
  split
  · exact .inl ⟨htcp, hunpiped.sent, hunpiped.header_sent, hunpiped.claimed⟩
  · next tcp hcreate =>
    obtain ⟨htunn, horigin⟩ := relayed_of_createWithStats hcreate
    split
    · exact .inr ⟨tcp.drop, rfl, hsent, hanswered, hheader, htunn, horigin⟩
    · exact ⟨tcp, rfl, hsent, hanswered, hheader, htunn, horigin⟩

/-- A step of a task keeps what its awaits have moved. -/
theorem Step.flow {stats : AgentStats} {errors : List TcpError} (hstep : c.Step stats c' errors)
    (h : c.Flow) : c'.Flow := by
  have hflow := h
  unfold Flow at h
  cases hstep with
  | unresolved hphase =>
    rw [hphase] at h
    exact .inl (unpiped_of_nil h.1 (h.2.1 ▸ List.nil_prefix) h.2.2.2)
  | resolved hphase hlocal =>
    rw [hphase] at h
    exact h
  | connected no_delay hphase =>
    rw [hphase] at h
    exact h
  | tokenSent hphase =>
    rw [hphase] at h
    exact ⟨h.1, rfl, h.2.2⟩
  | noSocket hphase hanswer =>
    rw [hphase] at h
    exact .inl (unpiped_of_nil h.1 (h.2.1 ▸ List.prefix_refl _) h.2.2.2)
  | confirmed hphase hanswer =>
    rw [hphase] at h
    exact ⟨h.1, h.2.1, hanswer, h.2.2.2⟩
  | bound hphase hanswer hloopback =>
    rw [hphase] at h
    exact ⟨h.1, h.2.1, hanswer, h.2.2.2⟩
  | connectedFrom no_delay hphase | connectedOrigin no_delay hphase =>
    rw [hphase] at h
    obtain ⟨htcp, hsent, hanswered, horigin⟩ := h
    unfold Flow afterOrigin
    dsimp only [goto]
    -- Without the PROXY protocol the header is empty, and nothing is written.
    cases hproxy : c.found.proxy_protocol with
    | none =>
      exact ⟨htcp, hsent, hanswered,
        by simp [horigin, header, hproxy, ProxyProtocolHeader.tcpBytes]⟩
    | some version => exact ⟨htcp, hsent, hanswered, horigin⟩
  | notConnectedFrom hphase =>
    rw [hphase] at h
    exact h
  | headerWritten hphase =>
    rw [hphase] at h
    exact ⟨h.1, h.2.1, h.2.2.1, rfl⟩
  | piped tunnTime originTime addedTime hphase =>
    rw [hphase] at h
    exact flow_pipes h.1 h.2.1 h.2.2.1 h.2.2.2 tunnTime originTime addedTime
  | failed herror hmoved =>
    rcases hflow.moving hmoved with hunpiped | ⟨tcp, hpiped⟩
    · exact .inl (hunpiped.goto _)
    · exact .inr ⟨tcp, hpiped.goto _⟩
  | cancelled hphase hmoved =>
    rcases hflow.moving hmoved with hunpiped | ⟨tcp, hpiped⟩
    · exact .inl (hunpiped.drop.goto _)
    · exact .inr ⟨tcp.drop, hpiped.drop.goto _⟩

/-- The order in which the two ends get their bytes. -/
structure Ordered (c : Claim) : Prop where
  /-- The tunnel server gets the token, then what the origin sends. -/
  toTunnel : c.toTunnel <+: c.token ++ c.fromOrigin
  /-- The origin gets the header, then what the tunnel server sends behind its answer. -/
  toOrigin : c.toOrigin <+: c.header ++ c.fromTunnel.drop 8
  /-- The origin gets nothing before the token is sent and answered. -/
  claimed : c.toOrigin ≠ [] → c.token <+: c.toTunnel ∧ 8 ≤ c.fromTunnel.length

/-- Without pipes. -/
theorem Unpiped.ordered (h : c.Unpiped) : c.Ordered := by
  have htunnel : c.toTunnel = c.tunnSent := by simp [Claim.toTunnel, h.tcp_eq]
  have horigin : c.toOrigin = c.originSent := by simp [Claim.toOrigin, h.tcp_eq]
  have hfrom : c.fromTunnel = c.tunnRead := by simp [Claim.fromTunnel, h.tcp_eq]
  refine ⟨?_, ?_, ?_⟩
  · rw [htunnel]
    exact h.sent.trans (List.prefix_append _ _)
  · rw [horigin]
    exact h.header_sent.trans (List.prefix_append _ _)
  · rw [horigin, htunnel, hfrom]
    intro hne
    obtain ⟨hsent, hanswered⟩ := h.claimed hne
    exact ⟨hsent ▸ List.prefix_refl _, hanswered.ge⟩

/-- With the pipes, the tunnel server has got the token, and what one of them has delivered. -/
theorem Piped.toTunnel_eq {tcp : TcpClient} (h : c.Piped tcp) :
    c.toTunnel = c.token ++ tcp.origin_to_tunn.delivered := by
  simp [Claim.toTunnel, h.tcp_eq, h.sent]

/-- The origin has got the header, and what the other one has delivered. -/
theorem Piped.toOrigin_eq {tcp : TcpClient} (h : c.Piped tcp) :
    c.toOrigin = c.header ++ tcp.tunn_to_origin.delivered := by
  simp [Claim.toOrigin, h.tcp_eq, h.header_sent]

/-- Only a pipe reads from the origin. -/
theorem Piped.fromOrigin_eq {tcp : TcpClient} (h : c.Piped tcp) :
    c.fromOrigin = tcp.origin_to_tunn.received := by
  simp [Claim.fromOrigin, h.tcp_eq]

/-- Behind the answer, a pipe reads from the tunnel server. -/
theorem Piped.drop_fromTunnel {tcp : TcpClient} (h : c.Piped tcp) :
    c.fromTunnel.drop 8 = tcp.tunn_to_origin.received := by
  simp [Claim.fromTunnel, h.tcp_eq, ← h.answered]

/-- With the pipes. -/
theorem Piped.ordered {tcp : TcpClient} (h : c.Piped tcp) : c.Ordered := by
  refine ⟨?_, ?_, fun _ => ⟨?_, ?_⟩⟩
  · rw [h.toTunnel_eq, h.fromOrigin_eq, List.prefix_append_right_inj]
    exact h.origin_to_tunn.prefixes.2
  · rw [h.toOrigin_eq, h.drop_fromTunnel, List.prefix_append_right_inj]
    exact h.tunn_to_origin.prefixes.2
  · rw [h.toTunnel_eq]
    exact List.prefix_append _ _
  · simp [Claim.fromTunnel, h.answered]

/-- Where there are pipes, the client is claimed and the origin has the header. -/
theorem Flow.piped_of_tcp (h : c.Flow) {tcp : TcpClient} (htcp : c.tcp = some tcp) :
    c.Piped tcp := by
  have hpiped : ∀ tcp₀, c.Piped tcp₀ → c.Piped tcp := by
    intro tcp₀ hpiped
    obtain rfl : tcp = tcp₀ := Option.some.inj (htcp.symm.trans hpiped.tcp_eq)
    exact hpiped
  unfold Flow at h
  split at h
  all_goals first
    | exact absurd (h.1.symm.trans htcp) (by simp)
    | exact h.elim hpiped
    | exact h.elim (fun hu => absurd (hu.tcp_eq.symm.trans htcp) (by simp)) (Exists.elim · hpiped)

/-- The pipes of a task that has them take a step. -/
theorem Flow.piped (h : c.Flow) {tcp tcp' : TcpClient} (htcp : c.tcp = some tcp)
    {stats stats' : AgentStats} {direction : PipeDirection} {e : TcpPipe.Event}
    (hnext : tcp.pipeNext stats direction e = some (tcp', stats')) :
    Flow { c with tcp := some tcp' } := by
  have hpiped := h.piped_of_tcp htcp
  obtain ⟨htunn, horigin⟩ :=
    relayed_of_pipeNext hnext hpiped.tunn_to_origin hpiped.origin_to_tunn
  have hpiped' : Piped { c with tcp := some tcp' } tcp' :=
    ⟨rfl, hpiped.sent, hpiped.answered, hpiped.header_sent, htunn, horigin⟩
  unfold Flow at h ⊢
  dsimp only
  split at h
  all_goals first
    | exact absurd (h.1.symm.trans htcp) (by simp)
    | exact ⟨tcp', hpiped'⟩
    | exact .inr ⟨tcp', hpiped'⟩

/-- What the awaits of a task have moved is in order. -/
theorem Flow.ordered (h : c.Flow) : c.Ordered := by
  unfold Flow at h
  split at h
  · exact (unpiped_of_nil h.1 (h.2.1 ▸ List.nil_prefix) h.2.2.2).ordered
  · exact (unpiped_of_nil h.1 (h.2.1 ▸ List.nil_prefix) h.2.2.2).ordered
  · exact (unpiped_of_nil h.1 (h.2.1 ▸ List.nil_prefix) h.2.2.2).ordered
  · exact (unpiped_of_nil h.1 (h.2.1 ▸ List.prefix_refl _) h.2.2.2).ordered
  · exact (unpiped_of_nil h.1 (h.2.1 ▸ List.prefix_refl _) h.2.2.2).ordered
  · exact (unpiped_of_nil h.1 (h.2.1 ▸ List.prefix_refl _) h.2.2.2).ordered
  · exact (unpiped_of_nil h.1 (h.2.1 ▸ List.prefix_refl _) h.2.2.2).ordered
  · have hunpiped : c.Unpiped := ⟨h.1, h.2.1 ▸ List.prefix_refl _, h.2.2.2 ▸ List.prefix_refl _,
      fun _ => ⟨h.2.1, h.2.2.1⟩⟩
    exact hunpiped.ordered
  all_goals first
    | exact h.elim fun tcp hpiped => hpiped.ordered
    | exact h.elim Unpiped.ordered fun hpiped => hpiped.elim fun tcp hpiped => hpiped.ordered

end

end Claim

/-! ## Where a client is led -/

/-- The address of the origin, once it is resolved. -/
def ClaimAt.origin : ClaimAt → Option SocketAddr
  | .connecting origin_addr | .sending origin_addr | .confirming origin_addr
  | .connectingFrom _ origin_addr | .connectingOrigin origin_addr | .writingHeader origin_addr
  | .piping origin_addr | .handing _ origin_addr | .handed _ origin_addr => some origin_addr
  | .resolving | .failed _ | .gone | .panicked => none

/-- A client is led to the origin of its tunnel, by the header of its own addresses, and from the
local address of its player if from a special one. -/
structure Claim.Routed (c : Claim) : Prop where
  answers : c.found.answers c.details.tunnel_id true
  header : ProxyProtocolHeader.fromAddrs c.details.peer_addr c.details.connect_addr =
    some c.proxy_header
  origin : ∀ origin_addr, c.phase.origin = some origin_addr → ∃ lookup_host,
    c.found.resolveLocal lookup_host c.details.port_offset = some origin_addr
  connectingFrom : ∀ local_ip origin_addr, c.phase = .connectingFrom local_ip origin_addr →
    local_ip = mapToLocalIp4 c.details.peer_addr.ip
  special : ∀ local_ip, c.special = some local_ip →
    local_ip = mapToLocalIp4 c.details.peer_addr.ip

section
variable {c c' : Claim} {s : State}

/-- Another phase with the same origin, or none. -/
theorem Claim.Routed.goto (h : c.Routed) {phase : ClaimAt}
    (horigin : phase.origin = c.phase.origin ∨ phase.origin = none)
    (hfrom : ∀ local_ip origin_addr, phase ≠ .connectingFrom local_ip origin_addr) :
    (c.goto phase).Routed where
  answers := h.answers
  header := h.header
  origin origin_addr horigin' := by
    rcases horigin with horigin | horigin
    · exact h.origin origin_addr (horigin ▸ horigin')
    · exact absurd (horigin.symm.trans horigin') (by simp)
  connectingFrom local_ip origin_addr hphase := absurd hphase (hfrom local_ip origin_addr)
  special := h.special

/-- The bytes that have moved do not change where a client is led. -/
theorem Claim.Routed.moving (h : c.Routed) {moved : List UInt8}
    (hmoved : c.moving moved = some c') :
    c'.Routed := by
  unfold Claim.moving at hmoved
  split at hmoved <;> split_ifs at hmoved <;> cases hmoved <;>
    exact ⟨h.answers, h.header, h.origin, h.connectingFrom, h.special⟩

/-- Neither does the drop of the client. -/
theorem Claim.Routed.drop (h : c.Routed) : c.drop.Routed :=
  ⟨h.answers, h.header, h.origin, h.connectingFrom, h.special⟩

/-- A step of a task leads its client to the same origin. -/
theorem Claim.Step.routed {stats : AgentStats} {errors : List TcpError}
    (hstep : c.Step stats c' errors) (h : c.Routed) : c'.Routed := by
  cases hstep with
  | unresolved hphase => exact h.goto (.inr rfl) (by simp)
  | resolved hphase hlocal =>
    refine ⟨h.answers, h.header, fun origin_addr horigin => ?_, by simp [Claim.goto], h.special⟩
    cases horigin
    exact ⟨_, hlocal⟩
  | connected no_delay hphase => exact h.goto (.inl (by rw [hphase]; rfl)) (by simp)
  | tokenSent hphase =>
    have h₁ : Claim.Routed { c with tunnSent := c.details.claim_instructions.token } :=
      ⟨h.answers, h.header, h.origin, h.connectingFrom, h.special⟩
    exact h₁.goto (.inl (by dsimp only; rw [hphase]; rfl)) (by simp)
  | @noSocket answer origin_addr hphase hanswer =>
    have h₁ : Claim.Routed { c with tunnRead := answer } :=
      ⟨h.answers, h.header, h.origin, h.connectingFrom, h.special⟩
    exact h₁.goto (.inr rfl) (by simp)
  | @confirmed answer origin_addr hphase hanswer =>
    have h₁ : Claim.Routed { c with tunnRead := answer } :=
      ⟨h.answers, h.header, h.origin, h.connectingFrom, h.special⟩
    exact h₁.goto (.inl (by dsimp only; rw [hphase]; rfl)) (by simp)
  | @bound answer origin_addr hphase hanswer hloopback =>
    refine ⟨h.answers, h.header, fun origin_addr' horigin => ?_, fun local_ip _ hfrom => ?_,
      h.special⟩
    · exact h.origin origin_addr' (by rw [hphase]; exact horigin)
    · cases hfrom
      rfl
  | @connectedFrom local_ip origin_addr no_delay hphase =>
    have h₁ : Claim.Routed { c with special := some local_ip } := by
      refine ⟨h.answers, h.header, h.origin, h.connectingFrom, fun local_ip' hspecial => ?_⟩
      cases hspecial
      exact h.connectingFrom local_ip origin_addr hphase
    refine h₁.goto (.inl ?_) ?_
    · dsimp only
      rw [hphase]
      split_ifs <;> rfl
    · intro local_ip' origin_addr'
      split_ifs <;> simp
  | @connectedOrigin origin_addr no_delay hphase =>
    have h₁ : Claim.Routed { c with special := none } :=
      ⟨h.answers, h.header, h.origin, h.connectingFrom, by simp⟩
    refine h₁.goto (.inl ?_) ?_
    · dsimp only
      rw [hphase]
      split_ifs <;> rfl
    · intro local_ip' origin_addr'
      split_ifs <;> simp
  | notConnectedFrom hphase => exact h.goto (.inl (by rw [hphase]; rfl)) (by simp)
  | headerWritten hphase =>
    have h₁ : Claim.Routed { c with originSent := c.header } :=
      ⟨h.answers, h.header, h.origin, h.connectingFrom, h.special⟩
    exact h₁.goto (.inl (by dsimp only; rw [hphase]; rfl)) (by simp)
  | piped tunnTime originTime addedTime hphase =>
    have h₁ : ∀ tcp, Claim.Routed { c with tcp := tcp } := fun tcp =>
      ⟨h.answers, h.header, h.origin, h.connectingFrom, h.special⟩
    unfold Claim.pipes
    split
    · exact h.goto (.inr rfl) (by simp)
    · split
      · exact (h₁ _).goto (.inr rfl) (by simp)
      · exact (h₁ _).goto (.inl (by dsimp only; rw [hphase]; rfl)) (by simp)
  | failed herror hmoved => exact (h.moving hmoved).goto (.inr rfl) (by simp)
  | cancelled hphase hmoved => exact (h.moving hmoved).drop.goto (.inr rfl) (by simp)

/-- Whatever happens to a task keeps what its awaits have moved. -/
theorem ClaimStep.flow (hstep : ClaimStep s c c') (h : c.Flow) : c'.Flow := by
  cases hstep with
  | same => exact h
  | dropped => exact h.drop
  | next hstep => exact hstep.flow h
  | handed hphase =>
    unfold Claim.Flow at h
    rw [hphase] at h
    obtain ⟨tcp, hpiped⟩ := h
    exact ⟨tcp, hpiped.goto _⟩
  | lost hphase =>
    unfold Claim.Flow at h
    rw [hphase] at h
    obtain ⟨tcp, hpiped⟩ := h
    exact .inr ⟨tcp.drop, hpiped.drop.goto _⟩
  | piped htcp hnext => exact h.piped htcp hnext

/-- Whatever happens to a task leads its client to the same origin. -/
theorem ClaimStep.routed (hstep : ClaimStep s c c') (h : c.Routed) : c'.Routed := by
  cases hstep with
  | same => exact h
  | dropped => exact h.drop
  | next hstep => exact hstep.routed h
  | handed hphase => exact h.goto (.inl (by rw [hphase]; rfl)) (by simp)
  | lost hphase => exact h.drop.goto (.inr rfl) (by simp)
  | piped htcp hnext => exact ⟨h.answers, h.header, h.origin, h.connectingFrom, h.special⟩

/-! ## Whole runs -/

/-- The table has the resources of an update that has happened. -/
def TableFrom (trace : List (Action × Unit)) (lookup : OriginLookup) : Prop :=
  ∀ tunnel_id found, lookup.lookup tunnel_id true = some found → found.answers tunnel_id true ∧
    ∃ resources, (.update resources, ()) ∈ trace ∧ found ∈ resources

/-- Every task has kept the order, and leads its client to an origin that an update has given. -/
structure Invariant (trace : List (Action × Unit)) (s : State) : Prop where
  table : TableFrom trace s.lookup
  flow : ∀ c ∈ s.claims, c.Flow
  routed : ∀ c ∈ s.claims, c.Routed
  given : ∀ c ∈ s.claims, ∃ resources, (.update resources, ()) ∈ trace ∧ c.found ∈ resources

/-- Only an update changes the table of origins. -/
theorem lookup_of_next {s' : State} {a : Action} (h : s.next a = some s') :
    s'.lookup = s.lookup ∨ ∃ resources, a = .update resources ∧
      s'.lookup = s.lookup.update resources := by
  cases a with
  | handleNewClient details limited =>
    simp only [State.next, State.send] at h
    split_ifs at h <;> cases h <;> exact .inl rfl
  | getDetails =>
    simp only [State.next, State.send] at h
    split_ifs at h <;> cases h <;> exact .inl rfl
  | receive =>
    simp only [State.next] at h
    split at h
    · next e events hworker hevents =>
      cases h
      cases e <;> exact .inl rfl
    · cases h
  | lookedUp =>
    simp only [State.next] at h
    split at h
    · cases h
      unfold State.spawnClaim
      dsimp only
      split
      · exact .inl rfl
      · split <;> exact .inl rfl
    · cases h
  | clearOld time =>
    simp only [State.next] at h
    split at h
    · split at h <;> cases h <;> exact .inl rfl
    · cases h
  | cancel =>
    cases h
    exact .inl rfl
  | workerCancelled =>
    simp only [State.next] at h
    split at h
    · split_ifs at h
      cases h
      exact .inl rfl
    · cases h
  | update resources =>
    cases h
    exact .inr ⟨resources, rfl, rfl⟩
  | claim task e =>
    obtain ⟨c, c', errors, -, -, -, rfl⟩ := of_claimNext h
    exact .inl rfl
  | hand task =>
    obtain ⟨c, added_at, origin_addr, -, -, ⟨-, rfl⟩ | ⟨-, -, rfl⟩⟩ := of_hand h <;> exact .inl rfl
  | pipe task direction e =>
    obtain ⟨c, tcp, tcp', stats, -, -, -, rfl⟩ := of_pipeNext h
    exact .inl rfl
  | elsewhere error =>
    cases h
    exact .inl rfl

/-- Each task of the next state has a property that steps keep and that tasks are spawned with. -/
theorem forall_claims_of_next {P : Claim → Prop} {s' : State} {a : Action}
    (h : s.next a = some s') (hall : ∀ c ∈ s.claims, P c)
    (hstep : ∀ c c', ClaimStep s c c' → P c → P c')
    (hspawn : ∀ client_id details found header,
      s.lookup.lookup details.tunnel_id true = some found →
      ProxyProtocolHeader.fromAddrs details.peer_addr details.connect_addr = some header →
      P (Claim.spawn client_id details found header)) :
    ∀ c ∈ s'.claims, P c := by
  intro c' hmem
  obtain ⟨task, hc'⟩ := List.mem_iff_getElem?.1 hmem
  rcases claimFrom_of_next h hc' with ⟨c, hc, hclaim⟩ |
    ⟨client_id, details, found, header, -, -, hfound, hheader, rfl⟩
  · exact hstep c c' hclaim (hall c (List.mem_of_getElem? hc))
  · exact hspawn client_id details found header hfound hheader

/-- The resource that was found for a task does not change. -/
theorem ClaimStep.found_eq (hstep : ClaimStep s c c') : c'.found = c.found := by
  have hmoving : ∀ {c₁ : Claim} {moved : List UInt8}, c.moving moved = some c₁ →
      c₁.found = c.found := by
    intro c₁ moved hmoved
    unfold Claim.moving at hmoved
    split at hmoved <;> split_ifs at hmoved <;> cases hmoved <;> rfl
  cases hstep with
  | next hstep =>
    cases hstep with
    | failed herror hmoved =>
      have hfound := hmoving hmoved
      exact hfound
    | cancelled hphase hmoved =>
      have hfound := hmoving hmoved
      exact hfound
    | piped tunnTime originTime addedTime hphase =>
      unfold Claim.pipes
      split
      · rfl
      · split <;> rfl
    | _ => rfl
  | _ => rfl

/-- Every run keeps the invariant. -/
theorem invariant_of_run {stats : AgentStats} {errors : TcpError → UInt64}
    {trace : List (Action × Unit)}
    (hrun : Run step (init stats errors) trace s) : Invariant trace s := by
  refine hrun.invariant (I := Invariant) ?_ ?_
  · refine ⟨?_, by simp [init], by simp [init], by simp [init]⟩
    intro tunnel_id found hfound
    cases hfound
  · intro trace s s' a o hI hs
    have hnext := ofOption_eq_ok.1 hs
    have hmono : ∀ {P : List OriginResource → Prop},
        (∃ resources, (.update resources, ()) ∈ trace ∧ P resources) →
        ∃ resources, (.update resources, ()) ∈ trace ++ [(a, o)] ∧ P resources := by
      rintro P ⟨resources, hmem, hP⟩
      exact ⟨resources, List.mem_append_left _ hmem, hP⟩
    refine ⟨?_, ?_, ?_, ?_⟩
    · intro tunnel_id found hfound
      rcases lookup_of_next hnext with heq | ⟨resources, rfl, heq⟩
      · rw [heq] at hfound
        obtain ⟨hanswers, hgiven⟩ := hI.table tunnel_id found hfound
        exact ⟨hanswers, hmono hgiven⟩
      · -- The table has the last resource of each tunnel.
        rw [heq, OriginLookup.lookup_update] at hfound
        have hmem := List.mem_filter.1 (List.mem_of_mem_getLast? hfound)
        exact ⟨hmem.2, resources, by simp, hmem.1⟩
    · exact forall_claims_of_next hnext hI.flow (fun c c' hstep => hstep.flow)
        fun client_id details found header _ _ => Claim.flow_spawn client_id details found header
    · refine forall_claims_of_next hnext hI.routed (fun c c' hstep => hstep.routed) ?_
      intro client_id details found header hfound hheader
      exact ⟨(hI.table _ _ hfound).1, hheader, by simp [Claim.spawn, ClaimAt.origin],
        by simp [Claim.spawn], by simp [Claim.spawn]⟩
    · refine forall_claims_of_next hnext (fun c hc => hmono (hI.given c hc)) ?_ ?_
      · intro c c' hstep hgiven
        rw [hstep.found_eq]
        exact hgiven
      · intro client_id details found header hfound hheader
        exact hmono (hI.table _ _ hfound).2

/-- A pipe that is not in a write and has not failed in one. -/
def Settled (pipe : TcpPipe) : Prop :=
  (∀ byteCount, pipe.worker ≠ .writing byteCount) ∧ pipe.worker ≠ .ended .writeFailed

/-- In every order of steps, the tunnel server gets the token of each client and then what the
origin sends, and the origin gets the header and then what the tunnel server sends behind the eight
bytes of its answer. Outside of a write nothing of it is missing. The origin gets nothing before the
token is sent in full and answered. -/
theorem tcp_client_bytes_in_order {stats : AgentStats} {errors : TcpError → UInt64}
    {trace : List (Action × Unit)}
    (hrun : Run step (init stats errors) trace s) :
    ∀ c ∈ s.claims,
      c.toTunnel <+: c.token ++ c.fromOrigin ∧
      c.toOrigin <+: c.header ++ c.fromTunnel.drop 8 ∧
      (c.toOrigin ≠ [] → c.token <+: c.toTunnel ∧ 8 ≤ c.fromTunnel.length) ∧
      ∀ tcp, c.tcp = some tcp →
        (Settled tcp.origin_to_tunn → c.toTunnel = c.token ++ c.fromOrigin) ∧
        (Settled tcp.tunn_to_origin → c.toOrigin = c.header ++ c.fromTunnel.drop 8) := by
  intro c hc
  have hflow := (invariant_of_run hrun).flow c hc
  have hordered := hflow.ordered
  refine ⟨hordered.toTunnel, hordered.toOrigin, hordered.claimed, fun tcp htcp => ?_⟩
  have hpiped := hflow.piped_of_tcp htcp
  refine ⟨fun hsettled => ?_, fun hsettled => ?_⟩
  · rw [hpiped.toTunnel_eq, hpiped.fromOrigin_eq,
      hpiped.origin_to_tunn.delivered_eq hsettled.1 hsettled.2]
  · rw [hpiped.toOrigin_eq, hpiped.drop_fromTunnel,
      hpiped.tunn_to_origin.delivered_eq hsettled.1 hsettled.2]

/-- A client that is claimed with the token `[7]`. -/
def sampleDetails : NewClient := {
  connect_addr := .v4 ⟨0x01020304, 80⟩
  peer_addr := .v4 ⟨0x05060708, 90⟩
  data_center_id := 0
  tunnel_id := 9
  port_offset := 0
  claim_instructions := ⟨.v4 ⟨0x0A000001, 100⟩, [7]⟩ }

/-- What happens up to the first chunk of its player, at an origin that wants the header. -/
def sampleActions : List Action :=
  let origin : OriginResource :=
    ⟨9, .tcp, .port (.ipAddress (.v4 0x7F000001)) 25565, 1, some .proxyProtocolV2⟩
  [.update [origin], .handleNewClient sampleDetails false, .receive, .lookedUp,
    .claim 0 (.resolved fun _ _ => none), .claim 0 (.connected true), .claim 0 .tokenSent,
    .claim 0 (.confirmed [1, 1, 1, 1, 1, 1, 1, 1] .bound), .claim 0 (.originConnected true),
    .claim 0 .headerWritten, .claim 0 (.piped 5 5 5), .hand 0, .receive,
    .pipe 0 .tunnelToOrigin .yielded, .pipe 0 .tunnelToOrigin (.read [42, 43]),
    .pipe 0 .tunnelToOrigin (.written 6)]

/-- The run up to the first chunk of the player, which the origin gets behind the header. -/
theorem tcp_client_bytes_in_order_sample :
    ∃ s, Reachable step (init ⟨0, 0, 0⟩ fun _ => 0) s ∧ ∃ c ∈ s.claims, c.toTunnel = [7] ∧
      c.header.length = 28 ∧ c.toOrigin = c.header ++ [42, 43] := by
  have htakes : ∃ s, takes State.next (init ⟨0, 0, 0⟩ fun _ => 0) sampleActions = some s ∧
      ∃ c ∈ s.claims, c.toTunnel = [7] ∧ c.header.length = 28 ∧ c.fromTunnel.drop 8 = [42, 43] ∧
        ∃ tcp, c.tcp = some tcp ∧ tcp.tunn_to_origin.worker = .selecting :=
    ⟨_, rfl, _, List.mem_singleton.2 rfl, rfl, rfl, rfl, _, rfl, rfl⟩
  obtain ⟨s, htakes, c, hc, htunnel, hlen, hfrom, tcp, htcp, hworker⟩ := htakes
  have hrun : Run step (init ⟨0, 0, 0⟩ fun _ => 0) _ s := Run.takes .nil htakes
  have hsettled : Settled tcp.tunn_to_origin := by simp [Settled, hworker]
  have horigin := ((tcp_client_bytes_in_order hrun c hc).2.2.2 tcp htcp).2 hsettled
  exact ⟨s, ⟨_, hrun⟩, c, hc, htunnel, hlen, hfrom ▸ horigin⟩

end

end TcpClients

end PlayitAgent
