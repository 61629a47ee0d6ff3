import Mathlib.Algebra.BigOperators.Group.List.Basic
import PlayitAgent.Network.TcpRegistry

/-!
# The traffic of the TCP clients

Which clients the worker takes off its list for being idle, that they do not come back to it, and
what the counters of bytes have counted.
-/

namespace PlayitAgent

namespace TcpClients

section
variable {s s' : State} {task : ℕ} {c c' : Claim}

/-! ## Idle clients -/

/-- The milliseconds since a pipe has written a chunk. A pipe that is closed has never written. -/
def idle (now : UInt64) (pipe : TcpPipe) : ℕ := now.toNat - pipe.readLastActivity.toNat

/-- The subtraction of the source does not wrap. -/
theorem toNat_max_sub (now last : UInt64) :
    (max now last - last).toNat = now.toNat - last.toNat := by
  have hmax : (max now last).toNat = max now.toNat last.toNat := by
    have hdef : max now last = if now ≤ last then last else now := rfl
    rw [hdef]
    split_ifs with h <;> rw [UInt64.le_iff_toNat_le] at h <;> omega
  have hle : last ≤ max now last := by
    rw [UInt64.le_iff_toNat_le, hmax]
    omega
  rw [UInt64.toNat_sub_of_le _ _ hle, hmax]
  omega

/-- Which clients are kept: those of which one direction was used in the last 30 seconds, or one in
the last 60 and the other in the last 90. -/
theorem keeps_iff (now : UInt64) (tcp : TcpClient) :
    State.keeps now tcp.lastUse = true ↔
      let since_tunn := idle now tcp.tunn_to_origin
      let since_orig := idle now tcp.origin_to_tunn
      min since_tunn since_orig ≤ 30000 ∨
        (min since_tunn since_orig ≤ 60000 ∧ max since_tunn since_orig ≤ 90000) := by
  have hlt : ∀ (bound : UInt64) (pipe : TcpPipe),
      (bound < max now pipe.readLastActivity - pipe.readLastActivity ↔
        bound.toNat < idle now pipe) := by
    intro bound pipe
    rw [UInt64.lt_iff_toNat_lt, toNat_max_sub]
    rfl
  have h30 : (30000 : UInt64).toNat = 30000 := rfl
  have h60 : (60000 : UInt64).toNat = 60000 := rfl
  have h90 : (90000 : UInt64).toNat = 90000 := rfl
  simp only [State.keeps, TcpClient.lastUse, hlt, h30, h60, h90]
  generalize idle now tcp.tunn_to_origin = a
  generalize idle now tcp.origin_to_tunn = b
  split_ifs <;> simp <;> omega

/-- What `ClearOld` leaves of a task whose client is taken off the list. -/
theorem tcpOf_clearOld {now : UInt64} {client : Client} (hclient : client ∈ s.clients)
    (hretains : s.retains now client = false) {tcp : TcpClient}
    (htcp : s.tcpOf client.tcp = some tcp) :
    (s.clearOld now).tcpOf client.tcp = some tcp.drop := by
  obtain ⟨c, hc, htcp⟩ := Option.bind_eq_some_iff.1 htcp
  have hmem : client.tcp ∈ (s.clients.filter fun client => !s.retains now client).map Client.tcp :=
    List.mem_map_of_mem (List.mem_filter.2 ⟨hclient, by simp [hretains]⟩)
  have hclaims : (s.clearOld now).claims[client.tcp]? = some c.drop := by
    simp only [State.clearOld, State.dropClients, List.getElem?_mapIdx, hc, Option.map_some,
      if_pos hmem]
  rw [State.tcpOf, hclaims, Option.bind_some, Claim.drop, htcp, Option.map_some]

/-! ## Behind the cancellation -/

/-- The pipes of the task are there, and their token is cancelled. -/
def Claim.Cut (c : Claim) : Prop := ∃ tcp, c.tcp = some tcp ∧ tcp.cancelled = true

/-- A drop cancels the token. -/
theorem Claim.Cut.drop (h : c.Cut) : c.drop.Cut := by
  obtain ⟨tcp, htcp, -⟩ := h
  exact ⟨tcp.drop, by rw [Claim.drop, htcp, Option.map_some], rfl⟩

/-- A task that has pipes is only waiting to send its client. -/
theorem Claim.Step.eq_of_tcp {stats : AgentStats} {errors : List TcpError} {tcp : TcpClient}
    (hstep : c.Step stats c' errors) (hflow : c.Flow) (htcp : c.tcp = some tcp) :
    c' = c.drop.goto .gone := by
  have hnone : c.tcp ≠ none := by simp [htcp]
  unfold Claim.Flow at hflow
  cases hstep with
  | @failed c₁ error moved herror hmoved =>
    cases hphase : c.phase <;> rw [hphase] at hflow herror <;> first
      | exact absurd hflow.1 hnone
      | (rcases herror with herror | herror <;> cases herror)
  | @cancelled c₁ moved hcancellable hmoved =>
    have hhanding : ∃ added_at origin_addr, c.phase = .handing added_at origin_addr := by
      cases hphase : c.phase <;> rw [hphase] at hflow hcancellable <;> first
        | exact ⟨_, _, rfl⟩
        | exact absurd hflow.1 hnone
        | cases hcancellable
    obtain ⟨added_at, origin_addr, hphase⟩ := hhanding
    unfold Claim.moving at hmoved
    rw [hphase] at hmoved
    dsimp only at hmoved
    split_ifs at hmoved
    cases hmoved
    rfl
  | unresolved hphase | resolved hphase hlocal | connected no_delay hphase | tokenSent hphase
  | noSocket hphase hanswer | confirmed hphase hanswer | bound hphase hanswer hloopback
  | connectedFrom no_delay hphase | connectedOrigin no_delay hphase | notConnectedFrom hphase
  | headerWritten hphase | piped tunnTime originTime addedTime hphase =>
    rw [hphase] at hflow
    exact absurd hflow.1 hnone

/-- Whatever happens to a task whose pipes are cancelled, they stay so. -/
theorem ClaimStep.cut (hstep : ClaimStep s c c') (hflow : c.Flow) (h : c.Cut) : c'.Cut := by
  obtain ⟨tcp, htcp, hcancelled⟩ := h
  have hdrop := Claim.Cut.drop ⟨tcp, htcp, hcancelled⟩
  cases hstep with
  | same => exact ⟨tcp, htcp, hcancelled⟩
  | dropped => exact hdrop
  | next hstep =>
    rw [hstep.eq_of_tcp hflow htcp]
    exact hdrop
  | handed hphase => exact ⟨tcp, htcp, hcancelled⟩
  | lost hphase => exact hdrop
  | @piped tcp₀ tcp' stats direction e htcp₀ hnext =>
    obtain rfl := Option.some.inj (htcp.symm.trans htcp₀)
    obtain ⟨pipe, -, -, rfl, -⟩ := of_tcp_pipeNext hnext
    refine ⟨_, rfl, ?_⟩
    cases direction with
    | tunnelToOrigin => exact hcancelled
    | originToTunnel => exact hcancelled

/-- In every run behind a cancellation, the pipes of the task stay cancelled. -/
theorem cut_of_run {stats : AgentStats} {errors : TcpError → UInt64}
    {trace : List (Action × Unit)} {s₀ : State}
    (hreach : Reachable step (init stats errors) s₀) (hrun : Run step s₀ trace s)
    (hc : s₀.claims[task]? = some c) (h : c.Cut) :
    Reachable step (init stats errors) s ∧ ∃ c', s.claims[task]? = some c' ∧ c'.Cut := by
  induction hrun with
  | nil => exact ⟨hreach, c, hc, h⟩
  | snoc hrun hs ih =>
    obtain ⟨hreach, c₁, hc₁, hcut⟩ := ih
    refine ⟨hreach.snoc hs, ?_⟩
    obtain ⟨before, hbefore⟩ := hreach
    obtain ⟨c', hc', hstep⟩ := exists_claimStep (ofOption_eq_ok.1 hs) hc₁
    have hflow := (invariant_of_run hbefore).flow c₁ (List.mem_of_getElem? hc₁)
    exact ⟨c', hc', hstep.cut hflow hcut⟩

/-- A task whose pipes are cancelled has no client on the list or on its way to it. -/
theorem Kept.not_listed_of_cut (h : Kept s) (hc : s.claims[task]? = some c) (hcut : c.Cut) :
    task ∉ (s.clients ++ s.waiting).map Client.tcp := by
  intro hmem
  obtain ⟨client, hclient, rfl⟩ := List.mem_map.1 hmem
  obtain ⟨c₀, _, _, hc₀, -, -, tcp, htcp, hlive⟩ := h.registered.client client hclient
  obtain rfl := Option.some.inj (hc.symm.trans hc₀)
  obtain ⟨tcp', htcp', hcancelled⟩ := hcut
  obtain rfl := Option.some.inj (htcp.symm.trans htcp')
  rw [hlive] at hcancelled
  cases hcancelled

/-- In every reachable state, `ClearOld` keeps exactly the clients of which one direction has
written in the last 30 seconds, or one in the last 60 and the other in the last 90, where a
direction that is closed has never written. A client that is taken off the list is off it for good:
in any run that follows its pipes stay cancelled, and it is neither listed nor on its way to the
list. -/
theorem tcp_clear_old_exact {stats : AgentStats} {errors : TcpError → UInt64} {time : ℤ}
    {now : UInt64} (hreach : Reachable step (init stats errors) s) (hnow : nowMilli time = some now)
    (hnext : s.next (.clearOld time) = some s') :
    s'.clients.Sublist s.clients ∧
    ∀ client ∈ s.clients, ∃ tcp, s.tcpOf client.tcp = some tcp ∧
      (client ∈ s'.clients ↔
        let since_tunn := idle now tcp.tunn_to_origin
        let since_orig := idle now tcp.origin_to_tunn
        min since_tunn since_orig ≤ 30000 ∨
          (min since_tunn since_orig ≤ 60000 ∧ max since_tunn since_orig ≤ 90000)) ∧
      (client ∉ s'.clients → ∀ trace s'', Run step s' trace s'' →
        (∃ tcp'', s''.tcpOf client.tcp = some tcp'' ∧ tcp''.cancelled = true) ∧
        client.tcp ∉ (s''.clients ++ s''.waiting).map Client.tcp) := by
  have hs' : s' = s.clearOld now := by
    simp only [State.next, hnow] at hnext
    split at hnext
    · exact (Option.some.inj hnext).symm
    · cases hnext
  have hreach' : Reachable step (init stats errors) s' :=
    hreach.snoc (ofOption_eq_ok.2 hnext) (o := ())
  have hkept : Kept s := by
    obtain ⟨before, hbefore⟩ := hreach
    exact kept_of_run hbefore
  subst hs'
  refine ⟨List.filter_sublist, fun client hclient => ?_⟩
  obtain ⟨c, added_at, origin_addr, hc, -, -, tcp, htcp, -⟩ :=
    hkept.registered.client client (List.mem_append_left _ hclient)
  have htcpOf : s.tcpOf client.tcp = some tcp := Option.bind_eq_some_iff.2 ⟨c, hc, htcp⟩
  have hretains : s.retains now client = State.keeps now tcp.lastUse := by
    rw [State.retains, htcpOf]
  have hmem : client ∈ (s.clearOld now).clients ↔ State.keeps now tcp.lastUse = true := by
    rw [State.clearOld, List.mem_filter, hretains]
    exact ⟨fun h => h.2, fun h => ⟨hclient, h⟩⟩
  refine ⟨tcp, htcpOf, by rw [hmem, keeps_iff], fun hnot trace s'' hrun => ?_⟩
  have hdropped : s.retains now client = false := by
    rw [hretains]
    rw [hmem] at hnot
    simpa using hnot
  obtain ⟨c', hc', htcp'⟩ := Option.bind_eq_some_iff.1 (tcpOf_clearOld hclient hdropped htcpOf)
  obtain ⟨⟨after, hafter⟩, c'', hc'', hcut⟩ := cut_of_run hreach' hrun hc' ⟨tcp.drop, htcp', rfl⟩
  refine ⟨?_, (kept_of_run hafter).not_listed_of_cut hc'' hcut⟩
  obtain ⟨tcp'', htcp'', hcancelled⟩ := hcut
  exact ⟨tcp'', Option.bind_eq_some_iff.2 ⟨c'', hc'', htcp''⟩, hcancelled⟩

/-- The pipes of the sample were last used at 6 and at 5 milliseconds. The client is kept at 20
seconds and dropped at 100 seconds. -/
theorem tcp_clear_old_exact_sample :
    ∃ s s₁ s₂ client, Reachable step (init ⟨0, 0, 0⟩ fun _ => 0) s ∧ s.clients = [client] ∧
      s.next (.clearOld 20000) = some s₁ ∧ client ∈ s₁.clients ∧
      s.next (.clearOld 100000) = some s₂ ∧ client ∉ s₂.clients := by
  have htakes : ∃ s s₁ s₂ client tcp,
      takes State.next (init ⟨0, 0, 0⟩ fun _ => 0) sampleActions = some s ∧ s.clients = [client] ∧
      s.next (.clearOld 20000) = some s₁ ∧ s.next (.clearOld 100000) = some s₂ ∧
      s.tcpOf client.tcp = some tcp ∧ tcp.tunn_to_origin.readLastActivity = 6 ∧
      tcp.origin_to_tunn.readLastActivity = 5 :=
    ⟨_, _, _, _, _, rfl, rfl, rfl, rfl, rfl, rfl, rfl⟩
  obtain ⟨s, s₁, s₂, client, tcp, htakes, hclients, h₁, h₂, htcp, htunn, horigin⟩ := htakes
  have hreach : Reachable step (init ⟨0, 0, 0⟩ fun _ => 0) s := ⟨_, Run.takes .nil htakes⟩
  have hmem : client ∈ s.clients := by simp [hclients]
  refine ⟨s, s₁, s₂, client, hreach, hclients, h₁, ?_, h₂, ?_⟩
  · obtain ⟨tcp', htcp', hkeeps, -⟩ :=
      (tcp_clear_old_exact hreach (by rfl : nowMilli 20000 = some 20000) h₁).2 client hmem
    cases htcp.symm.trans htcp'
    refine hkeeps.2 (.inl ?_)
    simp only [idle, htunn, horigin]
    decide
  · obtain ⟨tcp', htcp', hkeeps, -⟩ :=
      (tcp_clear_old_exact hreach (by rfl : nowMilli 100000 = some 100000) h₂).2 client hmem
    cases htcp.symm.trans htcp'
    rw [hkeeps]
    simp only [idle, htunn, horigin]
    decide

/-! ## The counters of bytes -/

/-- How many bytes of a pipe are counted: those of the chunks that were written in full, without the
one behind which the clock could not be read. -/
def counted (pipe : TcpPipe) : ℕ :=
  if pipe.worker = .panicked then pipe.chunks.dropLast.flatten.length
  else pipe.chunks.flatten.length

/-- What is counted of a pipe that has not panicked. -/
theorem counted_of_ne {pipe : TcpPipe} (h : pipe.worker ≠ .panicked) :
    counted pipe = pipe.chunks.flatten.length := if_neg h

/-- A step of a pipe adds to the shared counters what it has counted. -/
theorem counted_of_step {pipe pipe' : TcpPipe} {e : TcpPipe.Event} {stats : AgentStats}
    (h : TcpPipe.Step { pipe with stats := some stats } e pipe') (hrelayed : pipe.Relayed) :
    ∃ n, counted pipe' = counted pipe + n ∧
      pipe'.stats.getD stats = stats.add (.ofNat n) pipe.direction ∧
      pipe'.direction = pipe.direction := by
  have hzero : stats = stats.add (.ofNat 0) pipe.direction := by
    cases pipe.direction <;> simp [AgentStats.add, AgentStats.addBytesIn, AgentStats.addBytesOut]
  have hsame : pipe.worker ≠ .panicked → pipe'.worker ≠ .panicked → pipe'.chunks = pipe.chunks →
      counted pipe' = counted pipe + 0 := by
    intro hne hne' hchunks
    rw [counted_of_ne hne, counted_of_ne hne', hchunks, Nat.add_zero]
  -- Only a write in full is counted.
  cases h with
  | yielded hw =>
    have hw : pipe.worker = .selecting := hw
    exact ⟨0, hsame (by simp [hw]) (by simp) rfl, hzero, rfl⟩
  | cancelled hw =>
    have hw : pipe.worker = .selecting ∨ pipe.worker = .reading := hw
    have hne : pipe.worker ≠ .panicked := by rcases hw with hw | hw <;> simp [hw]
    exact ⟨0, hsame hne (by simp [TcpPipe.finish]) rfl, hzero, rfl⟩
  | readFailed hw | eof hw =>
    have hw : pipe.worker = .reading := hw
    exact ⟨0, hsame (by simp [hw]) (by simp [TcpPipe.finish]) rfl, hzero, rfl⟩
  | read hw =>
    have hw : pipe.worker = .reading := hw
    exact ⟨0, hsame (by simp [hw]) (by simp) rfl, hzero, rfl⟩
  | @writeFailed byteCount taken hw =>
    have hw : pipe.worker = .writing byteCount := hw
    exact ⟨0, hsame (by simp [hw]) (by simp [TcpPipe.finish]) rfl, hzero, rfl⟩
  | @written byteCount time hw =>
    have hw : pipe.worker = .writing byteCount := hw
    have hpipe := counted_of_ne (show pipe.worker ≠ .panicked by simp [hw])
    unfold TcpPipe.Relayed at hrelayed
    rw [hw] at hrelayed
    have hlen : (pipe.buffer.take byteCount).length = byteCount := by simp [hrelayed.2.2]
    unfold TcpPipe.account
    split
    · refine ⟨0, ?_, hzero, rfl⟩
      rw [hpipe, counted, if_pos rfl]
      simp
    · refine ⟨byteCount, ?_, rfl, rfl⟩
      rw [hpipe, counted_of_ne (by simp)]
      simp [hlen]

/-- How many bytes the pipes of a task have counted in one direction. -/
def Claim.counted (direction : PipeDirection) (c : Claim) : ℕ :=
  c.tcp.elim 0 fun tcp => TcpClients.counted (tcp.pipe direction)

/-- How many bytes all pipes have counted in one direction. -/
def State.counted (s : State) (direction : PipeDirection) : ℕ :=
  (s.claims.map (Claim.counted direction)).sum

/-- Each pipe knows its direction. -/
def Claim.Directed (c : Claim) : Prop :=
  ∀ tcp, c.tcp = some tcp → ∀ direction, (tcp.pipe direction).direction = direction

/-- New pipes have counted nothing. -/
theorem of_createWithStats {tunnTime originTime : ℤ} {stats : AgentStats} {tcp : TcpClient}
    (h : TcpClient.createWithStats tunnTime originTime stats = some tcp)
    (direction : PipeDirection) :
    TcpClients.counted (tcp.pipe direction) = 0 ∧ (tcp.pipe direction).direction = direction := by
  unfold TcpClient.createWithStats TcpPipe.newWithStats at h
  obtain ⟨tunn, htunn, h⟩ := Option.bind_eq_some_iff.1 h
  obtain ⟨origin, horigin, h⟩ := Option.bind_eq_some_iff.1 h
  obtain ⟨now, -, rfl⟩ := Option.map_eq_some_iff.1 htunn
  obtain ⟨now', -, rfl⟩ := Option.map_eq_some_iff.1 horigin
  cases h
  cases direction <;> exact ⟨rfl, rfl⟩

/-- A drop counts nothing. -/
theorem Claim.counted_drop (direction : PipeDirection) (c : Claim) :
    c.drop.counted direction = c.counted direction := by
  unfold Claim.counted Claim.drop
  cases c.tcp with
  | none => rfl
  | some tcp => cases direction <;> rfl

/-- A drop changes no direction. -/
theorem Claim.Directed.drop (h : c.Directed) : c.drop.Directed := by
  intro tcp htcp direction
  obtain ⟨tcp₀, htcp₀, rfl⟩ := Option.map_eq_some_iff.1 htcp
  have hdirection := h tcp₀ htcp₀ direction
  cases direction <;> exact hdirection

/-- The pipes of a task that had none have counted nothing. -/
theorem Claim.Step.of_tcp_none {stats : AgentStats} {errors : List TcpError}
    (hstep : c.Step stats c' errors) (htcp : c.tcp = none) {tcp' : TcpClient}
    (htcp' : c'.tcp = some tcp') (direction : PipeDirection) :
    TcpClients.counted (tcp'.pipe direction) = 0 ∧ (tcp'.pipe direction).direction = direction := by
  have hnone : c'.tcp ≠ none := by simp [htcp']
  have hmoving : ∀ {c₁ : Claim} {moved : List UInt8}, c.moving moved = some c₁ → c₁.tcp = none := by
    intro c₁ moved hmoved
    unfold Claim.moving at hmoved
    split at hmoved <;> split_ifs at hmoved <;> cases hmoved <;> exact htcp
  cases hstep with
  | piped tunnTime originTime addedTime hphase =>
    unfold Claim.pipes at htcp'
    split at htcp'
    · exact absurd (htcp.symm.trans htcp') (by simp)
    · next tcp hcreate =>
      have hnew := of_createWithStats hcreate direction
      split at htcp'
      · cases htcp'
        cases direction <;> exact hnew
      · cases htcp'
        exact hnew
  | failed herror hmoved => exact absurd (hmoving hmoved) hnone
  | cancelled hphase hmoved =>
    refine absurd ?_ hnone
    rw [Claim.goto, Claim.drop, hmoving hmoved]
    rfl
  | _ => exact absurd htcp hnone

/-- A step of a task counts nothing. -/
theorem Claim.Step.counted_eq {stats : AgentStats} {errors : List TcpError}
    (hstep : c.Step stats c' errors) (hflow : c.Flow) (hdirected : c.Directed) :
    (∀ direction, c'.counted direction = c.counted direction) ∧ c'.Directed := by
  cases htcp : c.tcp with
  | some tcp =>
    rw [hstep.eq_of_tcp hflow htcp]
    exact ⟨fun direction => c.counted_drop direction, hdirected.drop⟩
  | none =>
    -- The pipes are made now, or there are none.
    have hnew : ∀ tcp', c'.tcp = some tcp' → ∀ direction,
        TcpClients.counted (tcp'.pipe direction) = 0 ∧
          (tcp'.pipe direction).direction = direction :=
      fun tcp' htcp' => hstep.of_tcp_none htcp htcp'
    refine ⟨fun direction => ?_, fun tcp' htcp' direction => (hnew tcp' htcp' direction).2⟩
    have hc : c.counted direction = 0 := by rw [Claim.counted, htcp]; rfl
    rw [hc]
    cases htcp' : c'.tcp with
    | none => rw [Claim.counted, htcp']; rfl
    | some tcp' =>
      rw [Claim.counted, htcp']
      exact (hnew tcp' htcp' direction).1

/-- A sum of which one summand has grown. -/
theorem sum_set {l : List ℕ} {i a n : ℕ} (h : l[i]? = some a) :
    (l.set i (a + n)).sum = l.sum + n := by
  obtain ⟨hlt, rfl⟩ := List.getElem?_eq_some_iff.1 h
  have hsum := List.sum_set l i l[i]
  rw [List.set_getElem_self] at hsum
  rw [List.sum_set, hsum, if_pos hlt, if_pos hlt]
  omega

/-- Counting in two directions does not depend on the order. -/
theorem add_add_comm (stats : AgentStats) (m n : ℕ) :
    (stats.add (.ofNat m) .tunnelToOrigin).add (.ofNat n) .originToTunnel =
      (stats.add (.ofNat n) .originToTunnel).add (.ofNat m) .tunnelToOrigin := rfl

/-- The counters have counted what the pipes have counted since the start. -/
structure Totals (stats : AgentStats) (s : State) : Prop where
  directed : ∀ c ∈ s.claims, c.Directed
  totals : s.stats = (stats.add (.ofNat (s.counted .tunnelToOrigin)) .tunnelToOrigin).add
    (.ofNat (s.counted .originToTunnel)) .originToTunnel

/-- What counts nothing keeps the totals. -/
theorem Totals.of_eq {stats : AgentStats} (h : Totals stats s) (hstats : s'.stats = s.stats)
    (hcounted : ∀ direction, s'.counted direction = s.counted direction)
    (hdirected : ∀ c ∈ s'.claims, c.Directed) : Totals stats s' :=
  ⟨hdirected, by rw [hstats, hcounted, hcounted]; exact h.totals⟩

/-- Clients are dropped. -/
theorem Totals.dropClients {stats : AgentStats} (h : Totals stats s) {dropped : List Client}
    (hstats : s'.stats = s.stats) (hclaims : s'.claims = (s.dropClients dropped).claims) :
    Totals stats s' := by
  refine h.of_eq hstats (fun direction => ?_) fun c hc => ?_
  · rw [State.counted, hclaims,
      map_claims_dropClients (f := Claim.counted direction) (Claim.counted_drop direction)]
    rfl
  · rw [hclaims] at hc
    obtain ⟨task, hc⟩ := List.mem_iff_getElem?.1 hc
    simp only [State.dropClients, List.getElem?_mapIdx, Option.map_eq_some_iff] at hc
    obtain ⟨c₀, hc₀, rfl⟩ := hc
    have hdirected := h.directed c₀ (List.mem_of_getElem? hc₀)
    split_ifs
    · exact hdirected.drop
    · exact hdirected

/-- One task changes, and counts nothing. -/
theorem Totals.set {stats : AgentStats} (h : Totals stats s) (c' : Claim)
    (hc : s.claims[task]? = some c)
    (hcounted : ∀ direction, c'.counted direction = c.counted direction) (hdirected : c'.Directed)
    (hstats : s'.stats = s.stats) (hclaims : s'.claims = s.claims.set task c') :
    Totals stats s' := by
  refine h.of_eq hstats (fun direction => ?_) fun c₀ hc₀ => ?_
  · rw [State.counted, hclaims, map_claims_set (Claim.counted direction) _ hc (hcounted direction)]
    rfl
  · rw [hclaims] at hc₀
    rcases List.mem_or_eq_of_mem_set hc₀ with hc₀ | rfl
    · exact h.directed c₀ hc₀
    · exact hdirected

/-- The worker has looked up an origin. -/
theorem Totals.spawnClaim {stats : AgentStats} (h : Totals stats s) (client_id : UInt64)
    (details : NewClient) : Totals stats (s.spawnClaim client_id details) := by
  unfold State.spawnClaim
  dsimp only
  split
  · exact h.of_eq rfl (fun _ => rfl) h.directed
  · split
    · exact h.of_eq rfl (fun _ => rfl) h.directed
    · refine h.of_eq rfl (fun direction => ?_) fun c hc => ?_
      · simp [State.counted, Claim.counted, Claim.spawn]
      · rcases List.mem_append.1 hc with hc | hc
        · exact h.directed c hc
        · obtain rfl := List.mem_singleton.1 hc
          intro tcp htcp
          cases htcp

/-- The pipes when one of them is replaced. -/
theorem pipe_setPipe (tcp : TcpClient) (pipe : TcpPipe) (direction direction' : PipeDirection) :
    (tcp.setPipe pipe direction).pipe direction' =
      if direction = direction' then pipe else tcp.pipe direction' := by
  cases direction <;> cases direction' <;> rfl

/-- A pipe counts what it adds to the shared counters. -/
theorem Totals.pipeNext {stats : AgentStats} (h : Totals stats s)
    (hflow : ∀ c ∈ s.claims, c.Flow) {direction : PipeDirection} {e : TcpPipe.Event}
    (hnext : s.pipeNext task direction e = some s') : Totals stats s' := by
  obtain ⟨c, tcp, tcp', stats', hc, htcp, hpipe, rfl⟩ := of_pipeNext hnext
  obtain ⟨pipe, -, hstep, rfl, rfl⟩ := of_tcp_pipeNext hpipe
  have hmem := List.mem_of_getElem? hc
  have hpiped := (hflow c hmem).piped_of_tcp htcp
  have hdirected := h.directed c hmem tcp htcp
  have hrelayed : (tcp.pipe direction).Relayed := by
    cases direction
    · exact hpiped.tunn_to_origin
    · exact hpiped.origin_to_tunn
  obtain ⟨n, hcounted, hstats, hdirection⟩ := counted_of_step hstep hrelayed
  rw [hdirected direction] at hstats hdirection
  refine ⟨fun c₀ hc₀ => ?_, ?_⟩
  · rcases List.mem_or_eq_of_mem_set hc₀ with hc₀ | rfl
    · exact h.directed c₀ hc₀
    · intro tcp₀ htcp₀ direction₀
      cases htcp₀
      rw [pipe_setPipe]
      split_ifs with heq
      · rw [← heq]
        exact hdirection
      · exact hdirected direction₀
  · -- The pipe has counted as many bytes as it adds, and the other one none.
    have hself : ∀ direction₀, (s.claims.map (Claim.counted direction₀))[task]? =
        some (c.counted direction₀) := by
      intro direction₀
      rw [List.getElem?_map, hc, Option.map_some]
    have hsum : ∀ direction₀, ((s.claims.set task
        { c with tcp := some (tcp.setPipe pipe direction) }).map (Claim.counted direction₀)).sum =
        s.counted direction₀ + if direction = direction₀ then n else 0 := by
      intro direction₀
      have hc₀ : c.counted direction₀ = counted (tcp.pipe direction₀) := by
        rw [Claim.counted, htcp]
        rfl
      have hm : Claim.counted direction₀ { c with tcp := some (tcp.setPipe pipe direction) } =
          c.counted direction₀ + if direction = direction₀ then n else 0 := by
        rw [hc₀, Claim.counted, Option.elim_some, pipe_setPipe]
        split_ifs with heq
        · rw [← heq]
          exact hcounted
        · rfl
      rw [List.map_set, hm, sum_set (hself direction₀)]
      rfl
    simp only [State.counted]
    rw [hstats, h.totals, hsum, hsum]
    cases direction with
    | tunnelToOrigin =>
      rw [add_add_comm, TcpPipe.AgentStats.add_add]
      rfl
    | originToTunnel =>
      rw [TcpPipe.AgentStats.add_add]
      rfl

/-- Whatever happens keeps the totals. -/
theorem Totals.next {stats : AgentStats} (h : Totals stats s) (hflow : ∀ c ∈ s.claims, c.Flow)
    {a : Action} (hnext : s.next a = some s') : Totals stats s' := by
  cases a with
  | handleNewClient details limited =>
    simp only [State.next, State.send] at hnext
    split_ifs at hnext <;> cases hnext <;> exact h.of_eq rfl (fun _ => rfl) h.directed
  | getDetails =>
    simp only [State.next, State.send] at hnext
    split_ifs at hnext <;> cases hnext <;> exact h.of_eq rfl (fun _ => rfl) h.directed
  | receive =>
    simp only [State.next] at hnext
    split at hnext
    · next e events hworker hevents =>
      cases hnext
      cases e <;> exact h.of_eq rfl (fun _ => rfl) h.directed
    · cases hnext
  | lookedUp =>
    simp only [State.next] at hnext
    split at hnext
    · cases hnext
      exact h.spawnClaim _ _
    · cases hnext
  | clearOld time =>
    simp only [State.next] at hnext
    split at hnext
    · split at hnext <;> cases hnext <;> exact h.dropClients rfl rfl
    · cases hnext
  | cancel =>
    cases hnext
    exact h.of_eq rfl (fun _ => rfl) h.directed
  | workerCancelled =>
    simp only [State.next] at hnext
    split at hnext
    · split_ifs at hnext
      cases hnext
      exact h.dropClients rfl rfl
    · cases hnext
  | update resources =>
    cases hnext
    exact h.of_eq rfl (fun _ => rfl) h.directed
  | claim task e =>
    obtain ⟨c, c', errors, -, hc, hstep, rfl⟩ := of_claimNext hnext
    have hmem := List.mem_of_getElem? hc
    obtain ⟨hcounted, hdirected⟩ :=
      (Claim.step_of_next hstep).counted_eq (hflow c hmem) (h.directed c hmem)
    exact h.set c' hc hcounted hdirected rfl rfl
  | hand task =>
    obtain ⟨c, added_at, origin_addr, hc, hphase, ⟨-, rfl⟩ | ⟨-, -, rfl⟩⟩ := of_hand hnext
    · exact h.set (c.drop.goto .gone) hc (fun direction => c.counted_drop direction)
        (h.directed c (List.mem_of_getElem? hc)).drop rfl rfl
    · exact h.set (c.goto (.handed added_at origin_addr)) hc (fun _ => rfl)
        (h.directed c (List.mem_of_getElem? hc)) rfl rfl
  | pipe task direction e => exact h.pipeNext hflow hnext
  | elsewhere error =>
    cases hnext
    exact h.of_eq rfl (fun _ => rfl) h.directed

end

end TcpClients

end PlayitAgent
