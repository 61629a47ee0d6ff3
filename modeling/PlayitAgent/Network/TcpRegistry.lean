import PlayitAgent.Network.TcpHandshake

/-!
# The clients that the worker keeps

Every new client has an id of its own, and comes to at most one entry of the worker's list, whose
pipes are alive; pipes that are alive belong to a client that is on the list, on its way to it, or
about to be sent. Each new client that the worker has received is accounted for: by a task that
still works on it, by one that was cancelled or has panicked, by one of the counters, or by an
entry.
-/

namespace PlayitAgent

namespace TcpClients

/-! ## The entries and their tasks -/

/-- The pipes of the task are there, and their token is not cancelled. -/
def Claim.Live (c : Claim) : Prop := ∃ tcp, c.tcp = some tcp ∧ tcp.cancelled = false

/-- The task has returned without sending its client. -/
def ClaimAt.stopped : ClaimAt → Bool
  | .failed _ | .gone | .panicked => true
  | _ => false

/-- How the clients on the list, or on their way to it, stand to the tasks. -/
structure Registered (claims : List Claim) (listed : List Client) : Prop where
  nodup : (listed.map Client.tcp).Nodup
  /-- A client is what its task has sent, and its pipes are alive. -/
  client : ∀ client ∈ listed, ∃ c added_at origin_addr, claims[client.tcp]? = some c ∧
    c.phase = .handed added_at origin_addr ∧
    client = State.clientOf client.tcp c added_at origin_addr ∧ c.Live
  /-- A client that was sent is listed as long as its pipes are alive. -/
  handed : ∀ (task : ℕ) (c : Claim) added_at origin_addr, claims[task]? = some c →
    c.phase = .handed added_at origin_addr → c.Live → task ∈ listed.map Client.tcp
  /-- The pipes of a client that is about to be sent are alive. -/
  handing : ∀ c ∈ claims, ∀ added_at origin_addr, c.phase = .handing added_at origin_addr → c.Live
  /-- No pipes of a task that has returned are alive. -/
  stopped : ∀ c ∈ claims, c.phase.stopped → ¬c.Live

section
variable {c c' : Claim} {claims : List Claim} {listed listed' : List Client} {task : ℕ}

/-- Nothing is alive behind a drop. -/
theorem Claim.not_live_drop (c : Claim) : ¬c.drop.Live := by
  rintro ⟨tcp, htcp, hcancelled⟩
  obtain ⟨tcp₀, -, rfl⟩ := Option.map_eq_some_iff.1 htcp
  cases hcancelled

/-- Nothing is alive where there are no pipes. -/
theorem Claim.not_live_of_none (h : c.tcp = none) : ¬c.Live := by
  rintro ⟨tcp, htcp, -⟩
  rw [h] at htcp
  cases htcp

/-- One more task changes nothing for the others. -/
theorem Registered.spawn (h : Registered claims listed) (hphase : c.phase = .resolving) :
    Registered (claims ++ [c]) listed := by
  have hold : ∀ {task : ℕ} {c₀ : Claim}, (claims ++ [c])[task]? = some c₀ →
      claims[task]? = some c₀ ∨ c₀.phase = .resolving := by
    intro task c₀ hc₀
    rw [List.getElem?_append] at hc₀
    split_ifs at hc₀ with hlt
    · exact .inl hc₀
    · obtain rfl := List.mem_singleton.1 (List.mem_of_getElem? hc₀)
      exact .inr hphase
  refine ⟨h.nodup, ?_, ?_, ?_, ?_⟩
  · intro client hclient
    obtain ⟨c₀, added_at, origin_addr, hc₀, hrest⟩ := h.client client hclient
    refine ⟨c₀, added_at, origin_addr, ?_, hrest⟩
    rw [List.getElem?_append_left (List.getElem?_eq_some_iff.1 hc₀).1, hc₀]
  · intro task c₀ added_at origin_addr hc₀ hphase₀ hlive
    rcases hold hc₀ with hc₀ | hresolving
    · exact h.handed task c₀ added_at origin_addr hc₀ hphase₀ hlive
    · rw [hresolving] at hphase₀
      cases hphase₀
  · intro c₀ hc₀ added_at origin_addr hphase₀
    rcases List.mem_append.1 hc₀ with hc₀ | hc₀
    · exact h.handing c₀ hc₀ added_at origin_addr hphase₀
    · obtain rfl := List.mem_singleton.1 hc₀
      rw [hphase] at hphase₀
      cases hphase₀
  · intro c₀ hc₀ hstopped
    rcases List.mem_append.1 hc₀ with hc₀ | hc₀
    · exact h.stopped c₀ hc₀ hstopped
    · obtain rfl := List.mem_singleton.1 hc₀
      rw [hphase] at hstopped
      cases hstopped

/-- A task that has not sent its client is not listed. -/
theorem Registered.not_mem (h : Registered claims listed) (hc : claims[task]? = some c)
    (hphase : ∀ added_at origin_addr, c.phase ≠ .handed added_at origin_addr) :
    task ∉ listed.map Client.tcp := by
  intro hmem
  obtain ⟨client, hclient, rfl⟩ := List.mem_map.1 hmem
  obtain ⟨c₀, added_at, origin_addr, hc₀, hphase₀, -⟩ := h.client client hclient
  rw [hc] at hc₀
  cases hc₀
  exact hphase added_at origin_addr hphase₀

/-- The clients are what their tasks have sent, when another task makes a step. -/
theorem Registered.client_set (h : Registered claims listed) (hnot : task ∉ listed.map Client.tcp) :
    ∀ client ∈ listed, ∃ c added_at origin_addr, (claims.set task c')[client.tcp]? = some c ∧
      c.phase = .handed added_at origin_addr ∧
      client = State.clientOf client.tcp c added_at origin_addr ∧ c.Live := by
  intro client hclient
  obtain ⟨c₀, added_at, origin_addr, hc₀, hrest⟩ := h.client client hclient
  have hne : task ≠ client.tcp := fun heq => hnot (heq ▸ List.mem_map_of_mem hclient)
  exact ⟨c₀, added_at, origin_addr, by rw [List.getElem?_set_ne hne, hc₀], hrest⟩

/-- A task that has not sent its client makes a step and has not sent it then. -/
theorem Registered.set (h : Registered claims listed) (hc : claims[task]? = some c)
    (hphase : ∀ added_at origin_addr, c.phase ≠ .handed added_at origin_addr)
    (hphase' : ∀ added_at origin_addr, c'.phase ≠ .handed added_at origin_addr)
    (hhanding : ∀ added_at origin_addr, c'.phase = .handing added_at origin_addr → c'.Live)
    (hstopped : c'.phase.stopped → ¬c'.Live) : Registered (claims.set task c') listed := by
  have hlt := (List.getElem?_eq_some_iff.1 hc).1
  have hold : ∀ {task₀ : ℕ} {c₀ : Claim}, (claims.set task c')[task₀]? = some c₀ →
      claims[task₀]? = some c₀ ∨ c₀ = c' := by
    intro task₀ c₀ hc₀
    rw [List.getElem?_set] at hc₀
    split_ifs at hc₀
    · exact .inr (Option.some.inj hc₀).symm
    · exact .inl hc₀
  refine ⟨h.nodup, h.client_set (h.not_mem hc hphase), ?_, ?_, ?_⟩
  · intro task₀ c₀ added_at origin_addr hc₀ hphase₀ hlive
    rcases hold hc₀ with hc₀ | rfl
    · exact h.handed task₀ c₀ added_at origin_addr hc₀ hphase₀ hlive
    · exact absurd hphase₀ (hphase' added_at origin_addr)
  · intro c₀ hc₀ added_at origin_addr hphase₀
    rcases List.mem_or_eq_of_mem_set hc₀ with hc₀ | rfl
    · exact h.handing c₀ hc₀ added_at origin_addr hphase₀
    · exact hhanding added_at origin_addr hphase₀
  · intro c₀ hc₀ hstop
    rcases List.mem_or_eq_of_mem_set hc₀ with hc₀ | rfl
    · exact h.stopped c₀ hc₀ hstop
    · exact hstopped hstop

/-- A task sends its client, which is listed from then on. -/
theorem Registered.hand (h : Registered claims listed) (hc : claims[task]? = some c)
    {added_at : UInt64} {origin_addr : SocketAddr}
    (hphase : c.phase = .handing added_at origin_addr)
    (hlisted : listed' = listed ++ [State.clientOf task c added_at origin_addr]) :
    Registered (claims.set task (c.goto (.handed added_at origin_addr))) listed' := by
  subst hlisted
  have hlt := (List.getElem?_eq_some_iff.1 hc).1
  have hnot := h.not_mem hc (by simp [hphase])
  have hlive : (c.goto (.handed added_at origin_addr)).Live :=
    h.handing c (List.mem_of_getElem? hc) added_at origin_addr hphase
  have hself : (claims.set task (c.goto (.handed added_at origin_addr)))[task]? =
      some (c.goto (.handed added_at origin_addr)) := List.getElem?_set_self hlt
  refine ⟨?_, ?_, ?_, ?_, ?_⟩
  · rw [List.map_append, List.map_singleton, ← List.concat_eq_append]
    exact h.nodup.concat hnot
  · intro client hclient
    rcases List.mem_append.1 hclient with hclient | hclient
    · exact h.client_set hnot client hclient
    · obtain rfl := List.mem_singleton.1 hclient
      exact ⟨_, added_at, origin_addr, hself, rfl, rfl, hlive⟩
  · intro task₀ c₀ added_at₀ origin_addr₀ hc₀ hphase₀ hlive₀
    rw [List.map_append, List.mem_append]
    by_cases heq : task = task₀
    · exact .inr (by simp [heq, State.clientOf])
    · rw [List.getElem?_set_ne heq] at hc₀
      exact .inl (h.handed task₀ c₀ added_at₀ origin_addr₀ hc₀ hphase₀ hlive₀)
  · intro c₀ hc₀ added_at₀ origin_addr₀ hphase₀
    rcases List.mem_or_eq_of_mem_set hc₀ with hc₀ | rfl
    · exact h.handing c₀ hc₀ added_at₀ origin_addr₀ hphase₀
    · cases hphase₀
  · intro c₀ hc₀ hstop
    rcases List.mem_or_eq_of_mem_set hc₀ with hc₀ | rfl
    · exact h.stopped c₀ hc₀ hstop
    · cases hstop

/-- The pipes of a task take a step, under the same token. -/
theorem Registered.pipe (h : Registered claims listed) (hc : claims[task]? = some c)
    {tcp tcp' : TcpClient} (htcp : c.tcp = some tcp) (hcancelled : tcp'.cancelled = tcp.cancelled) :
    Registered (claims.set task { c with tcp := some tcp' }) listed := by
  have hlt := (List.getElem?_eq_some_iff.1 hc).1
  have hlive : Claim.Live { c with tcp := some tcp' } ↔ c.Live := by
    constructor
    · rintro ⟨tcp₀, htcp₀, hfalse⟩
      cases htcp₀
      exact ⟨tcp, htcp, hcancelled ▸ hfalse⟩
    · rintro ⟨tcp₀, htcp₀, hfalse⟩
      rw [htcp] at htcp₀
      cases htcp₀
      exact ⟨tcp', rfl, hcancelled ▸ hfalse⟩
  have hmem := List.mem_of_getElem? hc
  refine ⟨h.nodup, ?_, ?_, ?_, ?_⟩
  · intro client hclient
    obtain ⟨c₀, added_at, origin_addr, hc₀, hphase₀, hclient₀, hlive₀⟩ := h.client client hclient
    by_cases heq : task = client.tcp
    · rw [← heq, hc] at hc₀
      cases hc₀
      exact ⟨{ c with tcp := some tcp' }, added_at, origin_addr,
        by rw [← heq, List.getElem?_set_self hlt], hphase₀, hclient₀, hlive.2 hlive₀⟩
    · exact ⟨c₀, added_at, origin_addr, by rw [List.getElem?_set_ne heq, hc₀], hphase₀, hclient₀,
        hlive₀⟩
  · intro task₀ c₀ added_at origin_addr hc₀ hphase₀ hlive₀
    by_cases heq : task = task₀
    · rw [← heq, List.getElem?_set_self hlt] at hc₀
      cases hc₀
      exact h.handed task₀ c added_at origin_addr (heq ▸ hc) hphase₀ (hlive.1 hlive₀)
    · rw [List.getElem?_set_ne heq] at hc₀
      exact h.handed task₀ c₀ added_at origin_addr hc₀ hphase₀ hlive₀
  · intro c₀ hc₀ added_at origin_addr hphase₀
    rcases List.mem_or_eq_of_mem_set hc₀ with hc₀ | rfl
    · exact h.handing c₀ hc₀ added_at origin_addr hphase₀
    · exact hlive.2 (h.handing c hmem added_at origin_addr hphase₀)
  · intro c₀ hc₀ hstop hlive₀
    rcases List.mem_or_eq_of_mem_set hc₀ with hc₀ | rfl
    · exact h.stopped c₀ hc₀ hstop hlive₀
    · exact h.stopped c hmem hstop (hlive.1 hlive₀)

/-- Some clients are taken off the list and dropped. -/
theorem Registered.drop (h : Registered claims listed) {kept dropped : List Client}
    (hsub : kept.Sublist listed) (hsplit : ∀ client ∈ listed, client ∈ kept ∨ client ∈ dropped)
    (hdropped : ∀ client ∈ dropped, client ∈ listed)
    (hdisjoint : ∀ client ∈ kept, client.tcp ∉ dropped.map Client.tcp) :
    Registered (claims.mapIdx fun task c =>
      if task ∈ dropped.map Client.tcp then c.drop else c) kept := by
  have hphase : ∀ {task : ℕ} {c : Claim},
      (if task ∈ dropped.map Client.tcp then c.drop else c).phase = c.phase := by
    intro task c
    split_ifs <;> rfl
  have hget : ∀ {task : ℕ} {c' : Claim}, (claims.mapIdx fun task c =>
      if task ∈ dropped.map Client.tcp then c.drop else c)[task]? = some c' →
      ∃ c, claims[task]? = some c ∧
        c' = if task ∈ dropped.map Client.tcp then c.drop else c := by
    intro task c' hc'
    rw [List.getElem?_mapIdx, Option.map_eq_some_iff] at hc'
    obtain ⟨c, hc, rfl⟩ := hc'
    exact ⟨c, hc, rfl⟩
  refine ⟨h.nodup.sublist (hsub.map _), ?_, ?_, ?_, ?_⟩
  · intro client hclient
    obtain ⟨c, added_at, origin_addr, hc, hrest⟩ := h.client client (hsub.subset hclient)
    refine ⟨c, added_at, origin_addr, ?_, hrest⟩
    rw [List.getElem?_mapIdx, hc, Option.map_some, if_neg (hdisjoint client hclient)]
  · intro task c' added_at origin_addr hc' hphase' hlive
    obtain ⟨c, hc, rfl⟩ := hget hc'
    rw [hphase] at hphase'
    by_cases hmem : task ∈ dropped.map Client.tcp
    · rw [if_pos hmem] at hlive
      exact absurd hlive c.not_live_drop
    · rw [if_neg hmem] at hlive
      obtain ⟨client, hclient, rfl⟩ :=
        List.mem_map.1 (h.handed task c added_at origin_addr hc hphase' hlive)
      rcases hsplit client hclient with hkept | hdrop
      · exact List.mem_map_of_mem hkept
      · exact absurd (List.mem_map_of_mem hdrop) hmem
  · intro c' hc' added_at origin_addr hphase'
    obtain ⟨task, hc'⟩ := List.mem_iff_getElem?.1 hc'
    obtain ⟨c, hc, rfl⟩ := hget hc'
    rw [hphase] at hphase'
    -- Only clients that were sent are dropped.
    have hnot : task ∉ dropped.map Client.tcp := by
      intro hmem
      obtain ⟨client, hclient, rfl⟩ := List.mem_map.1 hmem
      exact h.not_mem hc (by simp [hphase']) (List.mem_map_of_mem (hdropped client hclient))
    rw [if_neg hnot]
    exact h.handing c (List.mem_of_getElem? hc) added_at origin_addr hphase'
  · intro c' hc' hstop
    obtain ⟨task, hc'⟩ := List.mem_iff_getElem?.1 hc'
    obtain ⟨c, hc, rfl⟩ := hget hc'
    rw [hphase] at hstop
    split_ifs
    · exact c.not_live_drop
    · exact h.stopped c (List.mem_of_getElem? hc) hstop

/-- The task has not come to its pipes yet. -/
def ClaimAt.early : ClaimAt → Bool
  | .resolving | .connecting _ | .sending _ | .confirming _ | .connectingFrom _ _
  | .connectingOrigin _ | .writingHeader _ | .piping _ => true
  | _ => false

/-- What the list of clients needs of a step of a task: it starts before the client is sent and does
not send it, pipes that it makes are alive, and those that it leaves behind are not. -/
structure Registers (c c' : Claim) : Prop where
  not_handed : ∀ added_at origin_addr, c.phase ≠ .handed added_at origin_addr
  not_handed' : ∀ added_at origin_addr, c'.phase ≠ .handed added_at origin_addr
  handing : ∀ added_at origin_addr, c'.phase = .handing added_at origin_addr → c'.Live
  stopped : c'.phase.stopped → ¬c'.Live

/-- A task goes on before it has come to its pipes. -/
theorem registers_of_early (h : c.phase.early) (h' : c'.phase.early) : Registers c c' := by
  refine ⟨?_, ?_, ?_, ?_⟩
  · intro added_at origin_addr hphase
    rw [hphase] at h
    cases h
  · intro added_at origin_addr hphase
    rw [hphase] at h'
    cases h'
  · intro added_at origin_addr hphase
    rw [hphase] at h'
    cases h'
  · intro hstopped
    have hnot : c'.phase.stopped = false := by
      generalize c'.phase = phase at h'
      cases phase <;> first | rfl | exact absurd h' (by simp [ClaimAt.early])
    rw [hnot] at hstopped
    cases hstopped

/-- A task stops and leaves no pipes that are alive. -/
theorem registers_of_stopped (h : ∀ added_at origin_addr, c.phase ≠ .handed added_at origin_addr)
    (h' : c'.phase.stopped) (hlive : ¬c'.Live) : Registers c c' := by
  refine ⟨h, ?_, ?_, fun _ => hlive⟩
  · intro added_at origin_addr hphase
    rw [hphase] at h'
    cases h'
  · intro added_at origin_addr hphase
    rw [hphase] at h'
    cases h'

/-- Every step of a task is as the list of clients needs it. -/
theorem Claim.Step.registers {stats : AgentStats} {errors : List TcpError}
    (hstep : c.Step stats c' errors) (hflow : c.Flow) : Registers c c' := by
  unfold Claim.Flow at hflow
  cases hstep with
  | unresolved hphase =>
    rw [hphase] at hflow
    exact registers_of_stopped (by simp [hphase]) rfl
      (Claim.not_live_of_none (c := c.goto _) hflow.1)
  | noSocket hphase hanswer =>
    rw [hphase] at hflow
    exact registers_of_stopped (by simp [hphase]) rfl
      (Claim.not_live_of_none (c := Claim.goto _ _) hflow.1)
  | resolved hphase _ | connected _ hphase | tokenSent hphase | confirmed hphase _
  | bound hphase _ _ | notConnectedFrom hphase | headerWritten hphase =>
    exact registers_of_early (by rw [hphase]; rfl) rfl
  | connectedFrom no_delay hphase | connectedOrigin no_delay hphase =>
    refine registers_of_early (by rw [hphase]; rfl) ?_
    simp only [Claim.afterOrigin, Claim.goto]
    split_ifs <;> rfl
  | piped tunnTime originTime addedTime hphase =>
    rw [hphase] at hflow
    have hnot : ∀ added_at origin_addr, c.phase ≠ .handed added_at origin_addr := by simp [hphase]
    unfold Claim.pipes
    split
    · exact registers_of_stopped hnot rfl (Claim.not_live_of_none (c := c.goto _) hflow.1)
    · next tcp hcreate =>
      have hfalse : tcp.cancelled = false := by
        unfold TcpClient.createWithStats at hcreate
        obtain ⟨tunn, -, hcreate⟩ := Option.bind_eq_some_iff.1 hcreate
        obtain ⟨origin, -, hcreate⟩ := Option.bind_eq_some_iff.1 hcreate
        cases hcreate
        rfl
      split
      · exact registers_of_stopped hnot rfl (Claim.not_live_drop { c with tcp := some tcp })
      · exact ⟨hnot, by simp [Claim.goto], fun _ _ _ => ⟨tcp, rfl, hfalse⟩,
          by simp [Claim.goto, ClaimAt.stopped]⟩
  | @failed c₁ error moved herror hmoved =>
    -- A task that awaits a socket has no pipes yet.
    have htcp : c.tcp = none := by
      cases hphase : c.phase <;> rw [hphase] at hflow herror <;>
        first
        | exact hflow.1
        | (rcases herror with herror | herror <;> cases herror)
    have hmoving : c₁.tcp = c.tcp := by
      unfold Claim.moving at hmoved
      split at hmoved <;> split_ifs at hmoved <;> cases hmoved <;> rfl
    refine registers_of_stopped ?_ rfl
      (Claim.not_live_of_none (c := c₁.goto _) (hmoving.trans htcp))
    intro added_at origin_addr hphase
    rw [hphase] at herror
    rcases herror with herror | herror <;> cases herror
  | @cancelled c₁ moved hphase hmoved =>
    refine registers_of_stopped ?_ rfl c₁.not_live_drop
    intro added_at origin_addr hhanded
    rw [hhanded] at hphase
    cases hphase

end

/-! ## The worker -/

/-- The id for the next task. -/
def State.nextId (s : State) : UInt64 :=
  match s.worker with
  | .lookingUp client_id _ => client_id
  | _ => s.next_client_id

/-- What holds of the worker and the tasks in every state. -/
structure Kept (s : State) : Prop where
  registered : Registered s.claims (s.clients ++ s.waiting)
  /-- The gauge has the number of the clients on the list. -/
  gauge : s.worker ≠ .ended → s.active_tcp = .ofNat s.clients.length
  ended : s.worker = .ended → s.clients = [] ∧ s.events = []
  looking : ∀ client_id details, s.worker = .lookingUp client_id details →
    client_id + 1 = s.next_client_id

section
variable {s s' : State} {task : ℕ} {c c' : Claim}

/-- A task keeps its id. -/
theorem Claim.Step.client_id_eq {stats : AgentStats} {errors : List TcpError}
    (hstep : c.Step stats c' errors) : c'.client_id = c.client_id := by
  have hmoving : ∀ {c₁ : Claim} {moved : List UInt8}, c.moving moved = some c₁ →
      c₁.client_id = c.client_id := by
    intro c₁ moved hmoved
    unfold Claim.moving at hmoved
    split at hmoved <;> split_ifs at hmoved <;> cases hmoved <;> rfl
  cases hstep with
  | failed herror hmoved =>
    have hid := hmoving hmoved
    exact hid
  | cancelled hphase hmoved =>
    have hid := hmoving hmoved
    exact hid
  | piped tunnTime originTime addedTime hphase =>
    unfold Claim.pipes
    split
    · rfl
    · split <;> rfl
  | _ => rfl

/-- What a step of a task keeps is the same for all of them. -/
theorem map_claims_set {α : Type} (f : Claim → α) (c' : Claim) (hc : s.claims[task]? = some c)
    (hf : f c' = f c) : (s.claims.set task c').map f = s.claims.map f := by
  obtain ⟨hlt, rfl⟩ := List.getElem?_eq_some_iff.1 hc
  rw [List.map_set, hf, ← List.getElem_map f (h := by simpa using hlt), List.set_getElem_self]

/-- What a drop keeps is the same for all tasks when clients are dropped. -/
theorem map_claims_dropClients {α : Type} {f : Claim → α} (hf : ∀ c, f c.drop = f c)
    (dropped : List Client) : (s.dropClients dropped).claims.map f = s.claims.map f := by
  apply List.ext_getElem?
  intro task
  simp only [State.dropClients, List.getElem?_map, List.getElem?_mapIdx]
  cases s.claims[task]? with
  | none => rfl
  | some c =>
    simp only [Option.map_some]
    split_ifs
    · rw [hf]
    · rfl

/-- Events that bring no client. -/
theorem Kept.of_events (h : Kept s) (events : List Event) (replies : List (List TcpClientDetails))
    (hevents : clientsOf events = clientsOf s.events) (hrunning : s.worker ≠ .ended) :
    Kept { s with events := events, replies := replies } := by
  refine ⟨?_, h.gauge, fun hended => absurd hended hrunning, h.looking⟩
  have hwaiting : State.waiting { s with events := events, replies := replies } = s.waiting :=
    hevents
  rw [hwaiting]
  exact h.registered

/-- The worker returns and drops its clients. -/
theorem Kept.finish (h : Kept s) : Kept s.finish := by
  refine ⟨?_, fun hne => absurd rfl hne, fun _ => ⟨rfl, rfl⟩, fun _ _ hlooking => ?_⟩
  · change Registered _ ([] : List Client)
    exact h.registered.drop (List.nil_sublist _) (fun client hclient => .inr hclient)
      (fun client hclient => hclient) (by simp)
  · cases hlooking

/-- The worker clears the clients that are idle. -/
theorem Kept.clearOld (h : Kept s) (hselecting : s.worker = .selecting) (now : UInt64) :
    Kept (s.clearOld now) := by
  refine ⟨?_, fun _ => rfl, fun hended => ?_, ?_⟩
  · refine h.registered.drop (List.filter_sublist.append_right _) ?_ ?_ ?_
    · intro client hclient
      rcases List.mem_append.1 hclient with hclient | hclient
      · cases hretains : s.retains now client with
        | true => exact .inl (List.mem_append_left _ (List.mem_filter.2 ⟨hclient, hretains⟩))
        | false => exact .inr (List.mem_filter.2 ⟨hclient, by simp [hretains]⟩)
      · exact .inl (List.mem_append_right _ hclient)
    · intro client hclient
      exact List.mem_append_left _ (List.mem_filter.1 hclient).1
    · -- No two clients of the list have one task.
      intro client hclient hmem
      obtain ⟨other, hother, htcp⟩ := List.mem_map.1 hmem
      obtain ⟨hother, hnot⟩ := List.mem_filter.1 hother
      have hclient' : client ∈ s.clients ++ s.waiting :=
        (List.filter_sublist.append_right _).subset hclient
      obtain rfl := List.inj_on_of_nodup_map h.registered.nodup
        (List.mem_append_left _ hother) hclient' htcp
      rcases List.mem_append.1 hclient with hclient | hclient
      · have hretains := (List.mem_filter.1 hclient).2
        rw [hretains] at hnot
        cases hnot
      · -- It would be on the list twice.
        have hnodup := h.registered.nodup
        rw [List.map_append] at hnodup
        exact List.disjoint_of_nodup_append hnodup (List.mem_map_of_mem hother)
          (List.mem_map_of_mem hclient)
  · exact absurd (hselecting.symm.trans hended) (by simp)
  · exact h.looking

/-- The worker has looked up an origin. -/
theorem Kept.spawnClaim (h : Kept s) {client_id : UInt64} {details : NewClient}
    (hworker : s.worker = .lookingUp client_id details) :
    Kept (s.spawnClaim client_id details) := by
  have hrunning : s.worker ≠ .ended := by simp [hworker]
  unfold State.spawnClaim
  dsimp only
  split
  · exact ⟨h.registered, fun _ => h.gauge hrunning, by simp [State.count], by simp [State.count]⟩
  · split
    · exact ⟨h.registered, fun _ => h.gauge hrunning, by simp [State.count], by simp [State.count]⟩
    · exact ⟨h.registered.spawn rfl, fun _ => h.gauge hrunning, by simp, by simp⟩

/-- An event is sent that brings no client. -/
theorem Kept.send (h : Kept s) {e : Event} (he : clientsOf [e] = []) (hsend : s.send e = some s') :
    Kept s' := by
  unfold State.send at hsend
  split_ifs at hsend with hended hroom
  · cases hsend
    exact ⟨h.registered, h.gauge, h.ended, h.looking⟩
  · cases hsend
    have hevents : clientsOf (s.events ++ [e]) = clientsOf s.events := by
      rw [clientsOf, List.filterMap_append]
      exact (congrArg _ he).trans (List.append_nil _)
    exact h.of_events _ _ hevents hended

/-- The worker takes an event. -/
theorem Kept.receive (h : Kept s) {e : Event} {events : List Event}
    (hselecting : s.worker = .selecting) (hevents : s.events = e :: events) :
    Kept ({ s with events := events }.handle e) := by
  have hrunning : s.worker ≠ .ended := by simp [hselecting]
  cases e with
  | newClient details =>
    have h₁ := h.of_events events s.replies (by rw [hevents]; rfl) hrunning
    refine ⟨h₁.registered, fun _ => h₁.gauge hrunning, fun hended => ?_,
      fun client_id details hlooking => ?_⟩
    · cases hended
    · cases hlooking
      rfl
  | connectedClient client =>
    have hregistered := h.registered
    rw [State.waiting, hevents] at hregistered
    have hlist : (s.clients ++ [client]) ++ clientsOf events =
        s.clients ++ clientsOf (.connectedClient client :: events) := by
      rw [List.append_assoc]
      rfl
    refine ⟨?_, fun _ => rfl, fun hended => absurd hended hrunning, h.looking⟩
    change Registered s.claims ((s.clients ++ [client]) ++ clientsOf events)
    rw [hlist]
    exact hregistered
  | getDetails => exact h.of_events _ _ (by rw [hevents]; rfl) hrunning

/-- A task makes a step. -/
theorem Kept.claimNext (h : Kept s) (hflow : ∀ c ∈ s.claims, c.Flow) {e : ClaimEvent}
    (hnext : s.claimNext task e = some s') : Kept s' := by
  obtain ⟨c, c', errors, -, hc, hstep, rfl⟩ := of_claimNext hnext
  have hstep := Claim.step_of_next hstep
  obtain ⟨hphase, hphase', hhanding, hstopped⟩ :=
    hstep.registers (hflow c (List.mem_of_getElem? hc))
  exact ⟨h.registered.set hc hphase hphase' hhanding hstopped, h.gauge, h.ended, h.looking⟩

/-- A task sends its client. -/
theorem Kept.hand (h : Kept s) (hhand : s.hand task = some s') : Kept s' := by
  obtain ⟨c, added_at, origin_addr, hc, hphase, ⟨hended, rfl⟩ | ⟨hrunning, -, rfl⟩⟩ := of_hand hhand
  · refine ⟨?_, h.gauge, h.ended, h.looking⟩
    exact h.registered.set hc (by simp [hphase]) (by simp [Claim.goto]) (by simp [Claim.goto])
      fun _ => c.not_live_drop
  · refine ⟨?_, h.gauge, fun hended => absurd hended hrunning, h.looking⟩
    refine h.registered.hand hc hphase ?_
    have hwaiting : clientsOf (s.events ++
        [.connectedClient (State.clientOf task c added_at origin_addr)]) =
        s.waiting ++ [State.clientOf task c added_at origin_addr] := by
      rw [clientsOf, List.filterMap_append]
      rfl
    change s.clients ++ clientsOf _ = _
    rw [hwaiting, List.append_assoc]

/-- A pipe makes a step. -/
theorem Kept.pipeNext (h : Kept s) {direction : PipeDirection} {e : TcpPipe.Event}
    (hnext : s.pipeNext task direction e = some s') : Kept s' := by
  obtain ⟨c, tcp, tcp', stats, hc, htcp, hpipe, rfl⟩ := of_pipeNext hnext
  have hcancelled : tcp'.cancelled = tcp.cancelled := by
    obtain ⟨pipe, -, -, rfl, -⟩ := of_tcp_pipeNext hpipe
    cases direction <;> rfl
  exact ⟨h.registered.pipe hc htcp hcancelled, h.gauge, h.ended, h.looking⟩

/-- Whatever happens keeps the list. -/
theorem Kept.next (h : Kept s) (hflow : ∀ c ∈ s.claims, c.Flow) {a : Action}
    (hnext : s.next a = some s') : Kept s' := by
  cases a with
  | handleNewClient details limited =>
    simp only [State.next] at hnext
    split_ifs at hnext
    · cases hnext
      exact ⟨h.registered, h.gauge, h.ended, h.looking⟩
    · exact h.send rfl hnext
  | getDetails => exact h.send rfl hnext
  | receive =>
    simp only [State.next] at hnext
    split at hnext
    · next e events hworker hevents =>
      cases hnext
      exact h.receive hworker hevents
    · cases hnext
  | lookedUp =>
    simp only [State.next] at hnext
    split at hnext
    · next client_id details hworker =>
      cases hnext
      exact h.spawnClaim hworker
    · cases hnext
  | clearOld time =>
    simp only [State.next] at hnext
    split at hnext
    · next hworker =>
      split at hnext
      · cases hnext
        exact h.clearOld hworker _
      · cases hnext
        exact h.finish
    · cases hnext
  | cancel =>
    cases hnext
    exact ⟨h.registered, h.gauge, h.ended, h.looking⟩
  | workerCancelled =>
    simp only [State.next] at hnext
    split at hnext
    · split_ifs at hnext
      cases hnext
      exact h.finish
    · cases hnext
  | update resources =>
    cases hnext
    exact ⟨h.registered, h.gauge, h.ended, h.looking⟩
  | claim task e => exact h.claimNext hflow hnext
  | hand task => exact h.hand hnext
  | pipe task direction e => exact h.pipeNext hnext
  | elsewhere error =>
    cases hnext
    exact ⟨h.registered, h.gauge, h.ended, h.looking⟩

/-- Nothing is on the list at first. -/
theorem kept_init (stats : AgentStats) (errors : TcpError → UInt64) :
    Kept (init stats errors) := by
  refine ⟨⟨?_, ?_, ?_, ?_, ?_⟩, fun _ => rfl, fun h => ?_, fun _ _ h => ?_⟩
  · simp [init, State.waiting, clientsOf]
  · simp [init, State.waiting, clientsOf]
  · simp [init]
  · simp [init]
  · simp [init]
  · cases h
  · cases h

/-- Every run keeps the list. -/
theorem kept_of_run {stats : AgentStats} {errors : TcpError → UInt64}
    {trace : List (Action × Unit)}
    (hrun : Run step (init stats errors) trace s) : Kept s := by
  induction hrun with
  | nil => exact kept_init stats errors
  | snoc hrun hs ih => exact ih.next (invariant_of_run hrun).flow (ofOption_eq_ok.1 hs)

/-- Pipes that are alive belong to a client that is listed or about to be sent. -/
theorem Kept.of_live (h : Kept s) (hc : s.claims[task]? = some c) (hflow : c.Flow)
    (hlive : c.Live) : task ∈ (s.clients ++ s.waiting).map Client.tcp ∨
      ∃ added_at origin_addr, c.phase = .handing added_at origin_addr := by
  have hnone : c.tcp ≠ none := by
    intro hnone
    exact Claim.not_live_of_none hnone hlive
  have hstopped : c.phase.stopped → False := fun hstopped =>
    h.registered.stopped c (List.mem_of_getElem? hc) hstopped hlive
  unfold Claim.Flow at hflow
  cases hphase : c.phase with
  | handing added_at origin_addr => exact .inr ⟨added_at, origin_addr, rfl⟩
  | handed added_at origin_addr =>
    exact .inl (h.registered.handed task c added_at origin_addr hc hphase hlive)
  | failed error | gone | panicked =>
    rw [hphase] at hstopped
    exact absurd rfl hstopped
  | _ =>
    rw [hphase] at hflow
    exact absurd hflow.1 hnone

/-! ## The ids -/

/-- The action is the end of a lookup. -/
def Action.looksUp : Action → Bool
  | .lookedUp => true
  | _ => false

/-- How many new clients the worker has looked up. -/
def lookups (trace : List (Action × Unit)) : ℕ := trace.countP fun x => x.1.looksUp

/-- One more action. -/
theorem lookups_concat (trace : List (Action × Unit)) (a : Action) :
    lookups (trace ++ [(a, ())]) = lookups trace + if a.looksUp then 1 else 0 := by
  rw [lookups, List.countP_append, List.countP_singleton, lookups]

/-- The new clients that were looked up are numbered from one, and the id of each task is the number
of its client, as far as 64 bits hold it. -/
structure Numbered (n : ℕ) (s : State) : Prop where
  next : s.nextId = .ofNat (n + 1)
  ids : ∃ numbers : List ℕ, s.claims.map Claim.client_id = numbers.map UInt64.ofNat ∧
    numbers.Pairwise (· < ·) ∧ ∀ number ∈ numbers, number ≤ n

/-- What leaves the ids alone. -/
theorem Numbered.of_eq {n : ℕ} (h : Numbered n s) (hnext : s'.nextId = s.nextId)
    (hids : s'.claims.map Claim.client_id = s.claims.map Claim.client_id) : Numbered n s' := by
  obtain ⟨numbers, hnumbers, hrest⟩ := h.ids
  exact ⟨hnext.trans h.next, numbers, hids.trans hnumbers, hrest⟩

/-- A new client was looked up, and the next one has the next number. -/
theorem Numbered.succ {n : ℕ} (h : Numbered n s) (hnext : s'.nextId = s.nextId + 1)
    (hids : s'.claims.map Claim.client_id = s.claims.map Claim.client_id ∨
      s'.claims.map Claim.client_id = s.claims.map Claim.client_id ++ [s.nextId]) :
    Numbered (n + 1) s' := by
  have hnext' : s'.nextId = .ofNat (n + 1 + 1) := by
    rw [hnext, h.next, UInt64.ofNat_add (n + 1) 1]
    rfl
  obtain ⟨numbers, hnumbers, hsorted, hle⟩ := h.ids
  rcases hids with hids | hids
  · refine ⟨hnext', numbers, hids.trans hnumbers, hsorted, fun number hmem => ?_⟩
    exact (hle number hmem).trans (Nat.le_succ n)
  · refine ⟨hnext', numbers ++ [n + 1], ?_, ?_, ?_⟩
    · rw [hids, hnumbers, h.next, List.map_append]
      rfl
    · refine List.pairwise_append.2 ⟨hsorted, List.pairwise_singleton _ _, ?_⟩
      intro number hmem number' hmem'
      have hlast := hle number hmem
      rw [List.mem_singleton.1 hmem']
      omega
    · intro number hmem
      rcases List.mem_append.1 hmem with hmem | hmem
      · exact (hle number hmem).trans (Nat.le_succ n)
      · exact (List.mem_singleton.1 hmem).le

/-- The end of a lookup gives the id of its client away, or to a new task. -/
theorem ids_spawnClaim (client_id : UInt64) (details : NewClient) :
    (s.spawnClaim client_id details).nextId = s.next_client_id ∧
    ((s.spawnClaim client_id details).claims.map Claim.client_id = s.claims.map Claim.client_id ∨
      (s.spawnClaim client_id details).claims.map Claim.client_id =
        s.claims.map Claim.client_id ++ [client_id]) := by
  unfold State.spawnClaim
  dsimp only
  split
  · exact ⟨rfl, .inl rfl⟩
  · split
    · exact ⟨rfl, .inl rfl⟩
    · exact ⟨rfl, .inr List.map_append⟩

/-- Whatever happens keeps the numbers. -/
theorem Numbered.next_step {n : ℕ} (h : Numbered n s) (hkept : Kept s) {a : Action}
    (hnext : s.next a = some s') : Numbered (n + if a.looksUp then 1 else 0) s' := by
  have hdrop (dropped : List Client) :=
    map_claims_dropClients (s := s) (f := Claim.client_id) (fun _ => rfl) dropped
  have hfinish (hworker : s.worker = .selecting) : s.finish.nextId = s.nextId := by
    rw [State.nextId, State.nextId, hworker]
    rfl
  cases a with
  | handleNewClient details limited =>
    simp only [State.next, State.send] at hnext
    split_ifs at hnext <;> cases hnext <;> exact h.of_eq rfl rfl
  | getDetails =>
    simp only [State.next, State.send] at hnext
    split_ifs at hnext <;> cases hnext <;> exact h.of_eq rfl rfl
  | receive =>
    simp only [State.next] at hnext
    split at hnext
    · next e events hworker hevents =>
      cases hnext
      have hid : s.nextId = s.next_client_id := by rw [State.nextId, hworker]
      cases e with
      | newClient details => exact h.of_eq hid.symm rfl
      | connectedClient client => exact h.of_eq rfl rfl
      | getDetails => exact h.of_eq rfl rfl
    · cases hnext
  | lookedUp =>
    simp only [State.next] at hnext
    split at hnext
    · next client_id details hworker =>
      cases hnext
      have hid : s.nextId = client_id := by rw [State.nextId, hworker]
      obtain ⟨hnext, hids⟩ := ids_spawnClaim (s := s) client_id details
      refine h.succ ?_ (hid.symm ▸ hids)
      rw [hnext, hid, hkept.looking client_id details hworker]
    · cases hnext
  | clearOld time =>
    simp only [State.next] at hnext
    split at hnext
    · next hworker =>
      split at hnext
      · cases hnext
        exact h.of_eq rfl (hdrop _)
      · cases hnext
        exact h.of_eq (hfinish hworker) (hdrop _)
    · cases hnext
  | cancel =>
    cases hnext
    exact h.of_eq rfl rfl
  | workerCancelled =>
    simp only [State.next] at hnext
    split at hnext
    · next hworker =>
      split_ifs at hnext
      cases hnext
      exact h.of_eq (hfinish hworker) (hdrop _)
    · cases hnext
  | update resources =>
    cases hnext
    exact h.of_eq rfl rfl
  | claim task e =>
    obtain ⟨c, c', errors, -, hc, hstep, rfl⟩ := of_claimNext hnext
    exact h.of_eq rfl (map_claims_set Claim.client_id _ hc (Claim.step_of_next hstep).client_id_eq)
  | hand task =>
    obtain ⟨c, added_at, origin_addr, hc, hphase, ⟨-, rfl⟩ | ⟨-, -, rfl⟩⟩ := of_hand hnext
    · exact h.of_eq rfl (map_claims_set Claim.client_id _ hc rfl)
    · exact h.of_eq rfl (map_claims_set Claim.client_id _ hc rfl)
  | pipe task direction e =>
    obtain ⟨c, tcp, tcp', stats, hc, htcp, -, rfl⟩ := of_pipeNext hnext
    exact h.of_eq rfl (map_claims_set Claim.client_id { c with tcp := some tcp' } hc rfl)
  | elsewhere error =>
    cases hnext
    exact h.of_eq rfl rfl

/-- Every run keeps the numbers. -/
theorem numbered_of_run {stats : AgentStats} {errors : TcpError → UInt64}
    {trace : List (Action × Unit)} (hrun : Run step (init stats errors) trace s) :
    Numbered (lookups trace) s := by
  induction hrun with
  | nil => exact ⟨rfl, [], rfl, .nil, by simp⟩
  | snoc hrun hs ih =>
    rw [lookups_concat]
    exact ih.next_step (kept_of_run hrun) (ofOption_eq_ok.1 hs)

/-- The tasks have different ids as long as the ids have not wrapped. -/
theorem Numbered.nodup {n : ℕ} (h : Numbered n s) (hn : n < 2 ^ 64) :
    (s.claims.map Claim.client_id).Nodup := by
  obtain ⟨numbers, hids, hsorted, hle⟩ := h.ids
  rw [hids]
  have hnodup : numbers.Nodup := hsorted.imp fun hlt => hlt.ne
  refine (List.nodup_map_iff_inj_on hnodup).2 fun number hmem number' hmem' heq => ?_
  have hlt := hle number hmem
  have hlt' := hle number' hmem'
  have hnat := congrArg UInt64.toNat heq
  rwa [UInt64.toNat_ofNat', UInt64.toNat_ofNat', Nat.mod_eq_of_lt (by omega),
    Nat.mod_eq_of_lt (by omega)] at hnat

/-- The clients that are listed have different ids if the tasks have. -/
theorem Kept.nodup_ids (h : Kept s) (hids : (s.claims.map Claim.client_id).Nodup) :
    ((s.clients ++ s.waiting).map Client.id).Nodup := by
  have hnodup : (s.clients ++ s.waiting).Nodup := h.registered.nodup.of_map
  refine (List.nodup_map_iff_inj_on hnodup).2 ?_
  intro client hclient client' hclient' hid
  obtain ⟨c, added_at, origin_addr, hc, -, hsent, -⟩ := h.registered.client client hclient
  obtain ⟨c', added_at', origin_addr', hc', -, hsent', -⟩ := h.registered.client client' hclient'
  have hlt := (List.getElem?_eq_some_iff.1 hc).1
  have hid₁ : (s.claims.map Claim.client_id)[client.tcp]? = some client.id := by
    rw [List.getElem?_map, hc, Option.map_some, hsent]
    rfl
  have hid₂ : (s.claims.map Claim.client_id)[client'.tcp]? = some client'.id := by
    rw [List.getElem?_map, hc', Option.map_some, hsent']
    rfl
  have htcp : client.tcp = client'.tcp :=
    (List.getElem?_inj (by simpa using hlt) hids).1 (by rw [hid₁, hid₂, hid])
  exact List.inj_on_of_nodup_map h.registered.nodup hclient hclient' htcp

/-! ## The clients of the list -/

/-- In every order of steps, the clients on the list and those on their way to it have different
tasks, and different ids as long as fewer than 2^64 new clients were looked up. Each of them has the
addresses of the new client that its task was started for, and was led to an address of an origin
that an update has given for its tunnel and for TCP, by the header of its own addresses, and from
the local address of its player if from a special one. -/
theorem tcp_clients_led_to_their_origins {stats : AgentStats} {errors : TcpError → UInt64}
    {trace : List (Action × Unit)}
    (hrun : Run step (init stats errors) trace s) :
    (lookups trace < 2 ^ 64 → ((s.clients ++ s.waiting).map Client.id).Nodup) ∧
    ((s.clients ++ s.waiting).map Client.tcp).Nodup ∧
    ∀ client ∈ s.clients ++ s.waiting, ∃ c, s.claims[client.tcp]? = some c ∧
      client.id = c.client_id ∧ client.tunnel_id = c.details.tunnel_id ∧
      client.port_offset = c.details.port_offset ∧ client.source_addr = c.details.peer_addr ∧
      client.tunnel_addr = c.details.connect_addr ∧
      (∃ resources, (.update resources, ()) ∈ trace ∧ c.found ∈ resources) ∧
      c.found.answers client.tunnel_id true ∧
      (∃ lookup_host, c.found.resolveLocal lookup_host client.port_offset =
        some client.origin_addr) ∧
      ProxyProtocolHeader.fromAddrs client.source_addr client.tunnel_addr = some c.proxy_header ∧
      ∀ local_ip, c.special = some local_ip → local_ip = mapToLocalIp4 client.source_addr.ip := by
  have hkept := kept_of_run hrun
  have hinvariant := invariant_of_run hrun
  refine ⟨fun hlt => hkept.nodup_ids ((numbered_of_run hrun).nodup hlt), hkept.registered.nodup,
    fun client hclient => ?_⟩
  obtain ⟨c, added_at, origin_addr, hc, hphase, hsent, -⟩ :=
    hkept.registered.client client hclient
  have hmem := List.mem_of_getElem? hc
  have hrouted := hinvariant.routed c hmem
  rw [hsent]
  exact ⟨c, hc, rfl, rfl, rfl, rfl, rfl, hinvariant.given c hmem, hrouted.answers,
    hrouted.origin origin_addr (by rw [hphase]; rfl), hrouted.header, hrouted.special⟩

/-- The client of the sample is led to the origin of its tunnel. -/
theorem tcp_clients_led_to_their_origins_sample :
    ∃ s client, Reachable step (init ⟨0, 0, 0⟩ fun _ => 0) s ∧ s.clients = [client] ∧
      client.origin_addr = .v4 ⟨0x7F000001, 25565⟩ ∧
      ∃ c, s.claims[client.tcp]? = some c ∧ c.found.answers client.tunnel_id true := by
  have htakes : ∃ s client, takes State.next (init ⟨0, 0, 0⟩ fun _ => 0) sampleActions = some s ∧
      s.clients = [client] ∧ client.origin_addr = .v4 ⟨0x7F000001, 25565⟩ :=
    ⟨_, _, rfl, rfl, rfl⟩
  obtain ⟨s, client, htakes, hclients, horigin⟩ := htakes
  have hrun : Run step (init ⟨0, 0, 0⟩ fun _ => 0) _ s := Run.takes .nil htakes
  obtain ⟨c, hc, -, -, -, -, -, -, hanswers, -⟩ :=
    (tcp_clients_led_to_their_origins hrun).2.2 client (by simp [hclients])
  exact ⟨s, client, ⟨_, hrun⟩, hclients, horigin, c, hc, hanswers⟩

/-- In every order of steps, the pipes of a task are alive exactly when its client is on the list,
on its way to it, or about to be sent. While the worker runs the gauge has the number of the clients
on the list, and once it has returned no pipes are alive but those of a task that is about to send.
-/
theorem tcp_pipes_alive_iff_listed {stats : AgentStats} {errors : TcpError → UInt64}
    {trace : List (Action × Unit)}
    (hrun : Run step (init stats errors) trace s) :
    (∀ task c, s.claims[task]? = some c →
      (c.Live ↔ task ∈ (s.clients ++ s.waiting).map Client.tcp ∨
        ∃ added_at origin_addr, c.phase = .handing added_at origin_addr)) ∧
    (s.worker ≠ .ended → s.active_tcp = .ofNat s.clients.length) ∧
    (s.worker = .ended → s.clients = [] ∧ s.waiting = []) := by
  have hkept := kept_of_run hrun
  refine ⟨fun task c hc => ⟨?_, ?_⟩, hkept.gauge, fun hended => ?_⟩
  · exact hkept.of_live hc ((invariant_of_run hrun).flow c (List.mem_of_getElem? hc))
  · rintro (hmem | ⟨added_at, origin_addr, hphase⟩)
    · obtain ⟨client, hclient, rfl⟩ := List.mem_map.1 hmem
      obtain ⟨c', added_at, origin_addr, hc', -, -, hlive⟩ :=
        hkept.registered.client client hclient
      rw [hc] at hc'
      cases hc'
      exact hlive
    · exact hkept.registered.handing c (List.mem_of_getElem? hc) added_at origin_addr hphase
  · obtain ⟨hclients, hevents⟩ := hkept.ended hended
    refine ⟨hclients, ?_⟩
    rw [State.waiting, hevents]
    rfl

/-- The pipes of the client of the sample are alive, and the gauge is one. -/
theorem tcp_pipes_alive_iff_listed_sample :
    ∃ s c, Reachable step (init ⟨0, 0, 0⟩ fun _ => 0) s ∧ s.claims = [c] ∧ c.Live ∧
      s.active_tcp = 1 := by
  have htakes : ∃ s c client, takes State.next (init ⟨0, 0, 0⟩ fun _ => 0) sampleActions = some s ∧
      s.claims = [c] ∧ s.clients = [client] ∧ client.tcp = 0 ∧ s.worker = .selecting :=
    ⟨_, _, _, rfl, rfl, rfl, rfl, rfl⟩
  obtain ⟨s, c, client, htakes, hclaims, hclients, htcp, hworker⟩ := htakes
  have hrun : Run step (init ⟨0, 0, 0⟩ fun _ => 0) _ s := Run.takes .nil htakes
  obtain ⟨hlive, hgauge, -⟩ := tcp_pipes_alive_iff_listed hrun
  refine ⟨s, c, ⟨_, hrun⟩, hclaims, ?_, ?_⟩
  · exact (hlive 0 c (by simp [hclaims])).2 (.inl (by simp [hclients, htcp]))
  · rw [hgauge (by simp [hworker]), hclients]
    rfl

/-! ## The counters -/

/-- A task that increments the counter returns. The other counters are those of the worker, of the
rate limiter, and of `set_nodelay`. -/
def endsTask : TcpError → Bool
  | .newClientOriginNotFound | .invalidProtoMatch | .newClientRateLimited
  | .newClientSetTunnelNoDelayError | .newClientSetOriginNoDelayError => false
  | _ => true

/-- The new clients among events. -/
def newClientsOf (events : List Event) : List NewClient :=
  events.filterMap fun
  | .newClient details => some details
  | _ => none

/-- The action is a call of `handle_new_client`, with what the rate limiter said. -/
def Action.handles (limited : Bool) : Action → Bool
  | .handleNewClient _ l => l = limited
  | _ => false

/-- How often `handle_new_client` was called, with what the rate limiter said. -/
def handled (limited : Bool) (trace : List (Action × Unit)) : ℕ :=
  trace.countP fun x => x.1.handles limited

/-- The action is that another `TcpClients` increments the counter. -/
def Action.isElsewhere (error : TcpError) : Action → Bool
  | .elsewhere e => e = error
  | _ => false

/-- How often another `TcpClients` has incremented a counter. -/
def elsewhere (error : TcpError) (trace : List (Action × Unit)) : ℕ :=
  trace.countP fun x => x.1.isElsewhere error

/-- What the counters and the tasks have counted of `n` new clients that were looked up, where the
counters would stand at `first` without them. -/
structure Accounted (first : TcpError → UInt64) (n : ℕ) (s : State) : Prop where
  received : UInt64.ofNat n = .ofNat s.claims.length +
    (s.errors .newClientOriginNotFound - first .newClientOriginNotFound) +
    (s.errors .invalidProtoMatch - first .invalidProtoMatch)
  failed : ∀ error, endsTask error →
    s.errors error = first error + .ofNat ((s.claims.map Claim.phase).count (.failed error))

/-- A task counts what happens to it at one of its sockets, and returns. -/
theorem ClaimAt.endsTask_of_error {phase : ClaimAt} {error : TcpError}
    (h : phase.ioError = some error ∨ phase.timeout = some error) :
    endsTask error ∧ phase.stopped = false := by
  cases phase <;> rcases h with h | h <;> cases h <;> exact ⟨rfl, rfl⟩

/-- How many times a step of a task increments each counter. -/
structure Claim.Counts (c c' : Claim) (errors : List TcpError) : Prop where
  started : c.phase.stopped = false
  others : ∀ error, endsTask error = false → error ∉ [TcpError.newClientSetTunnelNoDelayError,
    .newClientSetOriginNoDelayError] → errors.count error = 0
  ends : ∀ error, endsTask error →
    errors.count error = if c'.phase = .failed error then 1 else 0

/-- A step that increments no counter, after which the task goes on. -/
theorem Claim.counts_nil (hstarted : c.phase.stopped = false)
    (hphase : ∀ error, c'.phase ≠ .failed error) : c.Counts c' [] :=
  ⟨hstarted, fun _ _ _ => rfl, fun error _ => (if_neg (hphase error)).symm⟩

/-- A step that may increment a counter of `set_nodelay`, after which the task goes on. -/
theorem Claim.counts_no_delay {error₀ : TcpError} (no_delay : Bool)
    (herror₀ : error₀ ∈ [TcpError.newClientSetTunnelNoDelayError, .newClientSetOriginNoDelayError])
    (hstarted : c.phase.stopped = false) (hphase : ∀ error, c'.phase ≠ .failed error) :
    c.Counts c' (if no_delay then [] else [error₀]) := by
  cases no_delay with
  | true => exact counts_nil hstarted hphase
  | false =>
    refine ⟨hstarted, fun error _ hother => ?_, fun error hends => ?_⟩
    · refine List.count_eq_zero.2 fun hmem => hother ?_
      rw [List.mem_singleton.1 hmem]
      exact herror₀
    · rw [if_neg (hphase error)]
      refine List.count_eq_zero.2 fun hmem => ?_
      rw [List.mem_singleton.1 hmem] at hends
      have hnot : ∀ e ∈ [TcpError.newClientSetTunnelNoDelayError, .newClientSetOriginNoDelayError],
          endsTask e = false := by decide
      rw [hnot error₀ herror₀] at hends
      cases hends

/-- A step that increments a counter, after which the task has returned. -/
theorem Claim.counts_failed {error₀ : TcpError} (hends₀ : endsTask error₀)
    (hstarted : c.phase.stopped = false) (hphase : c'.phase = .failed error₀) :
    c.Counts c' [error₀] := by
  refine ⟨hstarted, fun error hother _ => ?_, fun error _ => ?_⟩
  · refine List.count_eq_zero.2 fun hmem => ?_
    rw [List.mem_singleton.1 hmem, hends₀] at hother
    cases hother
  · rw [hphase, List.count_singleton]
    by_cases heq : error₀ = error <;> simp [heq]

/-- A step of a task increments the counter that it returns with, and no other that ends a task. -/
theorem Claim.Step.counts {stats : AgentStats} {errors : List TcpError}
    (hstep : c.Step stats c' errors) : c.Counts c' errors := by
  cases hstep with
  | unresolved hphase => exact counts_failed rfl (by rw [hphase]; rfl) rfl
  | resolved hphase hlocal => exact counts_nil (by rw [hphase]; rfl) (by simp [Claim.goto])
  | connected no_delay hphase =>
    exact counts_no_delay no_delay (by simp) (by rw [hphase]; rfl) (by simp [Claim.goto])
  | tokenSent hphase => exact counts_nil (by rw [hphase]; rfl) (by simp [Claim.goto])
  | noSocket hphase hanswer => exact counts_failed rfl (by rw [hphase]; rfl) rfl
  | confirmed hphase hanswer => exact counts_nil (by rw [hphase]; rfl) (by simp [Claim.goto])
  | bound hphase hanswer hloopback =>
    exact counts_nil (by rw [hphase]; rfl) (by simp [Claim.goto])
  | connectedFrom no_delay hphase | connectedOrigin no_delay hphase =>
    refine counts_no_delay no_delay (by simp) (by rw [hphase]; rfl) fun error => ?_
    simp only [Claim.afterOrigin, Claim.goto]
    split_ifs <;> simp
  | notConnectedFrom hphase => exact counts_nil (by rw [hphase]; rfl) (by simp [Claim.goto])
  | headerWritten hphase => exact counts_nil (by rw [hphase]; rfl) (by simp [Claim.goto])
  | piped tunnTime originTime addedTime hphase =>
    refine counts_nil (by rw [hphase]; rfl) fun error => ?_
    unfold Claim.pipes
    split
    · simp [Claim.goto]
    · split <;> simp [Claim.goto]
  | failed herror hmoved =>
    obtain ⟨hends, hstarted⟩ := ClaimAt.endsTask_of_error herror
    exact counts_failed hends hstarted rfl
  | cancelled hphase hmoved =>
    refine counts_nil ?_ (by simp [Claim.goto])
    cases hp : c.phase <;> rw [hp] at hphase <;> first | rfl | cases hphase

/-- How many tasks have returned with a counter, when one that had not makes a step. -/
theorem count_phase_set (hc : s.claims[task]? = some c) (hstarted : c.phase.stopped = false)
    (error : TcpError) :
    ((s.claims.set task c').map Claim.phase).count (.failed error) =
      (s.claims.map Claim.phase).count (.failed error) +
        if c'.phase = .failed error then 1 else 0 := by
  obtain ⟨hlt, rfl⟩ := List.getElem?_eq_some_iff.1 hc
  have hne : s.claims[task].phase ≠ .failed error := by
    intro hphase
    rw [hphase] at hstarted
    cases hstarted
  rw [List.map_set, List.count_set (by simpa using hlt), List.getElem_map]
  simp [hne]

section
variable {first first' : TcpError → UInt64} {n : ℕ}

/-- What changes neither the tasks nor the counters keeps the account. -/
theorem Accounted.of_eq (h : Accounted first n s)
    (hphases : s'.claims.map Claim.phase = s.claims.map Claim.phase)
    (herrors : ∀ error, error ≠ .newClientRateLimited →
      s'.errors error - first' error = s.errors error - first error) :
    Accounted first' n s' := by
  have hlen : s'.claims.length = s.claims.length := by
    have := congrArg List.length hphases
    simpa using this
  refine ⟨?_, fun error hends => ?_⟩
  · rw [hlen, herrors _ (by simp), herrors _ (by simp)]
    exact h.received
  · have hne : error ≠ .newClientRateLimited := by
      rintro rfl
      cases hends
    have hfailed := h.failed error hends
    have hincrease := herrors error hne
    rw [hphases]
    grind

/-- The worker has looked up an origin, and counts a failure or starts a task. -/
theorem Accounted.spawnClaim (h : Accounted first n s) (client_id : UInt64) (details : NewClient) :
    Accounted first (n + 1) (s.spawnClaim client_id details) := by
  have hreceived := h.received
  -- A counter of the worker is no counter of the tasks.
  have hcounted {error₀ : TcpError} (herror₀ : endsTask error₀ = false) (error : TcpError)
      (hends : endsTask error) : (s.count [error₀]).errors error = s.errors error := by
    have hne : error₀ ≠ error := by
      rintro rfl
      rw [herror₀] at hends
      cases hends
    simp [State.count, hne]
  unfold State.spawnClaim
  dsimp only
  split
  · refine ⟨?_, fun error hends => (hcounted rfl error hends).trans (h.failed error hends)⟩
    simp only [State.count, List.count_singleton, UInt64.ofNat_add, hreceived]
    simp
    grind
  · split
    · refine ⟨?_, fun error hends => (hcounted rfl error hends).trans (h.failed error hends)⟩
      simp only [State.count, List.count_singleton, UInt64.ofNat_add, hreceived]
      simp
      grind
    · refine ⟨?_, fun error hends => ?_⟩
      · simp only [List.length_append, List.length_singleton, UInt64.ofNat_add, hreceived]
        grind
      · rw [List.map_append, List.count_append, h.failed error hends]
        simp [Claim.spawn]

/-- A task makes a step. -/
theorem Accounted.claimNext (h : Accounted first n s) {e : ClaimEvent}
    (hnext : s.claimNext task e = some s') : Accounted first n s' := by
  obtain ⟨c, c', errors, -, hc, hstep, rfl⟩ := of_claimNext hnext
  have hcounts := (Claim.step_of_next hstep).counts
  refine ⟨?_, fun error hends => ?_⟩
  · have hnotFound := hcounts.others .newClientOriginNotFound rfl (by simp)
    have hmismatch := hcounts.others .invalidProtoMatch rfl (by simp)
    simp only [State.count, List.length_set, hnotFound, hmismatch, h.received]
    simp
  · simp only [State.count]
    rw [count_phase_set hc hcounts.started, hcounts.ends error hends, h.failed error hends,
      UInt64.ofNat_add, UInt64.add_assoc]

/-- A task sends its client. -/
theorem Accounted.hand (h : Accounted first n s) (hhand : s.hand task = some s') :
    Accounted first n s' := by
  obtain ⟨c, added_at, origin_addr, hc, hphase, hs'⟩ := of_hand hhand
  have hstarted : c.phase.stopped = false := by rw [hphase]; rfl
  rcases hs' with ⟨-, rfl⟩ | ⟨-, -, rfl⟩
  · refine ⟨by simpa using h.received, fun error hends => ?_⟩
    rw [count_phase_set hc hstarted, h.failed error hends]
    simp [Claim.goto]
  · refine ⟨by simpa using h.received, fun error hends => ?_⟩
    rw [count_phase_set hc hstarted, h.failed error hends]
    simp [Claim.goto]

/-- Whatever happens keeps the account. -/
theorem Accounted.next (h : Accounted first n s) {a : Action} (hnext : s.next a = some s') :
    Accounted (fun error => first error + .ofNat (if a.isElsewhere error then 1 else 0))
      (n + if a.looksUp then 1 else 0) s' := by
  -- Where no other `TcpClients` is at work, the counters would stand where they stood.
  have hfirst (a : Action) (ha : ∀ error, a.isElsewhere error = false) {m : ℕ}
      (h : Accounted first m s') :
      Accounted (fun error => first error + .ofNat (if a.isElsewhere error then 1 else 0)) m
        s' := by
    refine h.of_eq rfl fun error _ => ?_
    rw [ha error]
    simp
  have hsame (hphases : s'.claims.map Claim.phase = s.claims.map Claim.phase)
      (herrors : ∀ error, error ≠ .newClientRateLimited → s'.errors error = s.errors error) :
      Accounted first n s' :=
    h.of_eq hphases fun error hne => by rw [herrors error hne]
  cases a with
  | handleNewClient details limited =>
    refine hfirst _ (fun _ => rfl) ?_
    simp only [State.next] at hnext
    split_ifs at hnext
    · cases hnext
      refine hsame rfl fun error hne => ?_
      simp [State.count, List.count_singleton, hne.symm]
    · unfold State.send at hnext
      split_ifs at hnext <;> cases hnext <;> exact hsame rfl fun _ _ => rfl
  | getDetails =>
    refine hfirst _ (fun _ => rfl) ?_
    simp only [State.next, State.send] at hnext
    split_ifs at hnext <;> cases hnext <;> exact hsame rfl fun _ _ => rfl
  | receive =>
    refine hfirst _ (fun _ => rfl) ?_
    simp only [State.next] at hnext
    split at hnext
    · next e events hworker hevents =>
      cases hnext
      cases e <;> exact hsame rfl fun _ _ => rfl
    · cases hnext
  | lookedUp =>
    refine hfirst _ (fun _ => rfl) ?_
    simp only [State.next] at hnext
    split at hnext
    · next client_id details hworker =>
      cases hnext
      exact h.spawnClaim client_id details
    · cases hnext
  | clearOld time =>
    refine hfirst _ (fun _ => rfl) ?_
    simp only [State.next] at hnext
    split at hnext
    · split at hnext
      · cases hnext
        exact hsame (map_claims_dropClients (f := Claim.phase) (fun _ => rfl) _) fun _ _ => rfl
      · cases hnext
        exact hsame (map_claims_dropClients (f := Claim.phase) (fun _ => rfl) _) fun _ _ => rfl
    · cases hnext
  | cancel =>
    cases hnext
    exact hfirst _ (fun _ => rfl) (hsame rfl fun _ _ => rfl)
  | workerCancelled =>
    refine hfirst _ (fun _ => rfl) ?_
    simp only [State.next] at hnext
    split at hnext
    · split_ifs at hnext
      cases hnext
      exact hsame (map_claims_dropClients (f := Claim.phase) (fun _ => rfl) _) fun _ _ => rfl
    · cases hnext
  | update resources =>
    cases hnext
    exact hfirst _ (fun _ => rfl) (hsame rfl fun _ _ => rfl)
  | claim task e => exact hfirst _ (fun _ => rfl) (h.claimNext hnext)
  | hand task => exact hfirst _ (fun _ => rfl) (h.hand hnext)
  | pipe task direction e =>
    obtain ⟨c, tcp, tcp', stats, hc, htcp, -, rfl⟩ := of_pipeNext hnext
    exact hfirst _ (fun _ => rfl) (hsame
      (map_claims_set Claim.phase { c with tcp := some tcp' } hc rfl) fun _ _ => rfl)
  | elsewhere error₀ =>
    -- The increment is in the counter, and in what it would stand at.
    cases hnext
    refine h.of_eq rfl fun error _ => ?_
    simp only [State.count, List.count_singleton, Action.isElsewhere, beq_iff_eq,
      decide_eq_true_eq]
    grind

end

/-- A step of a task does not count for the rate limiter. -/
theorem Claim.Counts.limited {errors : List TcpError} (h : c.Counts c' errors) :
    errors.count .newClientRateLimited = 0 :=
  h.others .newClientRateLimited rfl (by simp)

/-- The new clients that the worker has not looked up yet. -/
def State.unseen (s : State) : ℕ :=
  (newClientsOf s.events).length + if s.worker = .selecting then 0 else 1

/-- What each action does to the counter of the rate limiter, and to the new clients that the worker
has not looked up. -/
theorem handled_next {a : Action} (hnext : s.next a = some s') :
    s'.errors .newClientRateLimited = s.errors .newClientRateLimited +
      .ofNat ((if a.handles true then 1 else 0) +
        if a.isElsewhere .newClientRateLimited then 1 else 0) ∧
    (s'.worker ≠ .ended → s.worker ≠ .ended ∧
      s'.unseen + (if a.looksUp then 1 else 0) = s.unseen + if a.handles false then 1 else 0) := by
  have hzero : s.errors .newClientRateLimited = s.errors .newClientRateLimited + .ofNat (0 + 0) :=
    (UInt64.add_zero _).symm
  cases a with
  | handleNewClient details limited =>
    simp only [State.next] at hnext
    split_ifs at hnext with hlimited
    · cases hnext
      subst hlimited
      exact ⟨rfl, fun hrunning => ⟨hrunning, rfl⟩⟩
    · obtain rfl : limited = false := by simpa using hlimited
      unfold State.send at hnext
      split_ifs at hnext with hended
      · cases hnext
        exact ⟨hzero, fun hrunning => absurd hended hrunning⟩
      · cases hnext
        refine ⟨hzero, fun hrunning => ⟨hrunning, ?_⟩⟩
        simp [State.unseen, newClientsOf, Action.handles, Action.looksUp]
        omega
  | getDetails =>
    simp only [State.next, State.send] at hnext
    split_ifs at hnext with hended
    · cases hnext
      exact ⟨hzero, fun hrunning => absurd hended hrunning⟩
    · cases hnext
      refine ⟨hzero, fun hrunning => ⟨hrunning, ?_⟩⟩
      simp [State.unseen, newClientsOf, Action.handles, Action.looksUp]
  | receive =>
    simp only [State.next] at hnext
    split at hnext
    · next e events hworker hevents =>
      cases hnext
      have hrunning : s.worker ≠ .ended := by simp [hworker]
      cases e with
      | newClient details =>
        refine ⟨hzero, fun _ => ⟨hrunning, ?_⟩⟩
        simp [State.unseen, State.handle, newClientsOf, hevents, hworker, Action.handles,
          Action.looksUp]
      | connectedClient client =>
        refine ⟨hzero, fun _ => ⟨hrunning, ?_⟩⟩
        simp [State.unseen, State.handle, newClientsOf, hevents, hworker, Action.handles,
          Action.looksUp]
      | getDetails =>
        refine ⟨hzero, fun _ => ⟨hrunning, ?_⟩⟩
        simp [State.unseen, State.handle, newClientsOf, hevents, hworker, Action.handles,
          Action.looksUp]
    · cases hnext
  | lookedUp =>
    simp only [State.next] at hnext
    split at hnext
    · next client_id details hworker =>
      cases hnext
      have hrunning : s.worker ≠ .ended := by simp [hworker]
      have hunseen : s.unseen = (newClientsOf s.events).length + 1 := by
        simp [State.unseen, hworker]
      rw [hunseen]
      unfold State.spawnClaim
      dsimp only
      split
      · exact ⟨rfl, fun _ => ⟨hrunning, rfl⟩⟩
      · split
        · exact ⟨rfl, fun _ => ⟨hrunning, rfl⟩⟩
        · exact ⟨hzero, fun _ => ⟨hrunning, rfl⟩⟩
    · cases hnext
  | clearOld time =>
    simp only [State.next] at hnext
    split at hnext
    · split at hnext
      · cases hnext
        exact ⟨hzero, fun hrunning => ⟨hrunning, rfl⟩⟩
      · cases hnext
        exact ⟨hzero, fun hrunning => absurd rfl hrunning⟩
    · cases hnext
  | cancel =>
    cases hnext
    exact ⟨hzero, fun hrunning => ⟨hrunning, rfl⟩⟩
  | workerCancelled =>
    simp only [State.next] at hnext
    split at hnext
    · split_ifs at hnext
      cases hnext
      exact ⟨hzero, fun hrunning => absurd rfl hrunning⟩
    · cases hnext
  | update resources =>
    cases hnext
    exact ⟨hzero, fun hrunning => ⟨hrunning, rfl⟩⟩
  | claim task e =>
    obtain ⟨c, c', errors, -, hc, hstep, rfl⟩ := of_claimNext hnext
    have hlimited := (Claim.step_of_next hstep).counts.limited
    refine ⟨?_, fun hrunning => ⟨hrunning, rfl⟩⟩
    simp only [State.count, hlimited]
    rfl
  | hand task =>
    obtain ⟨c, added_at, origin_addr, hc, hphase, ⟨hended, rfl⟩ | ⟨hrunning, -, rfl⟩⟩ :=
      of_hand hnext
    · exact ⟨hzero, fun hrunning => absurd hended hrunning⟩
    · refine ⟨hzero, fun _ => ⟨hrunning, ?_⟩⟩
      simp [State.unseen, newClientsOf, Action.handles, Action.looksUp]
  | pipe task direction e =>
    obtain ⟨c, tcp, tcp', stats, -, -, -, rfl⟩ := of_pipeNext hnext
    exact ⟨hzero, fun hrunning => ⟨hrunning, rfl⟩⟩
  | elsewhere error =>
    cases hnext
    refine ⟨?_, fun hrunning => ⟨hrunning, rfl⟩⟩
    simp [State.count, List.count_singleton, Action.handles, Action.isElsewhere]

/-- One more action. -/
theorem handled_concat (limited : Bool) (trace : List (Action × Unit)) (a : Action) :
    handled limited (trace ++ [(a, ())]) =
      handled limited trace + if a.handles limited then 1 else 0 := by
  rw [handled, List.countP_append, List.countP_singleton, handled]

/-- One more action. -/
theorem elsewhere_concat (error : TcpError) (trace : List (Action × Unit)) (a : Action) :
    elsewhere error (trace ++ [(a, ())]) =
      elsewhere error trace + if a.isElsewhere error then 1 else 0 := by
  rw [elsewhere, List.countP_append, List.countP_singleton, elsewhere]

/-- Where the counters would stand without this `TcpClients`, at the end of a run. -/
def firstErrors (errors : TcpError → UInt64) (trace : List (Action × Unit)) (error : TcpError) :
    UInt64 :=
  errors error + .ofNat (elsewhere error trace)

/-- Every run keeps the account. -/
theorem accounted_of_run {stats : AgentStats} {errors : TcpError → UInt64}
    {trace : List (Action × Unit)} (hrun : Run step (init stats errors) trace s) :
    Accounted (firstErrors errors trace) (lookups trace) s := by
  induction hrun with
  | nil =>
    have hzero (error : TcpError) : firstErrors errors [] error = errors error :=
      UInt64.add_zero _
    refine ⟨?_, fun error _ => ?_⟩
    · simp only [hzero]
      simp [init, lookups]
    · rw [hzero]
      exact (UInt64.add_zero _).symm
  | @snoc trace s s' a o hrun hs ih =>
    have hfirst : firstErrors errors (trace ++ [(a, ())]) = fun error =>
        firstErrors errors trace error + .ofNat (if a.isElsewhere error then 1 else 0) := by
      funext error
      rw [firstErrors, elsewhere_concat, UInt64.ofNat_add, ← UInt64.add_assoc]
      rfl
    rw [hfirst, lookups_concat]
    exact ih.next (ofOption_eq_ok.1 hs)

/-- Every run counts what the rate limiter has stopped, and what it has let through. -/
theorem handled_of_run {stats : AgentStats} {errors : TcpError → UInt64}
    {trace : List (Action × Unit)} (hrun : Run step (init stats errors) trace s) :
    s.errors .newClientRateLimited =
      firstErrors errors trace .newClientRateLimited + .ofNat (handled true trace) ∧
    (s.worker ≠ .ended → handled false trace = s.unseen + lookups trace) := by
  induction hrun with
  | nil =>
    refine ⟨?_, fun _ => rfl⟩
    have hzero : errors .newClientRateLimited = errors .newClientRateLimited + 0 + 0 := by grind
    exact hzero
  | @snoc trace s s' a o hrun hs ih =>
    obtain ⟨hlimited, hsent⟩ := ih
    obtain ⟨hlimited', hsent'⟩ := handled_next (ofOption_eq_ok.1 hs)
    refine ⟨?_, fun hrunning => ?_⟩
    · rw [hlimited', hlimited, handled_concat, firstErrors, firstErrors, elsewhere_concat]
      simp only [UInt64.ofNat_add]
      grind
    · obtain ⟨hrunning, heq⟩ := hsent' hrunning
      have hsent := hsent hrunning
      rw [handled_concat, lookups_concat]
      omega

/-- In every order of steps, each call of `handle_new_client` is accounted for. The calls that the
rate limiter has stopped are those of its counter. Of the others, while the worker runs, each waits,
is being looked up, or was looked up; and each that was looked up has no origin, has addresses of
two families, or has a task. Each counter that ends a task has the number of the tasks that have
returned with it. The counters count modulo 2^64, from their first values and beside what other
`TcpClients` of the process count. -/
theorem tcp_new_clients_accounted {stats : AgentStats} {errors : TcpError → UInt64}
    {trace : List (Action × Unit)} (hrun : Run step (init stats errors) trace s) :
    s.errors .newClientRateLimited =
      firstErrors errors trace .newClientRateLimited + .ofNat (handled true trace) ∧
    (s.worker ≠ .ended → handled false trace =
      (newClientsOf s.events).length + (if s.worker = .selecting then 0 else 1) + lookups trace) ∧
    (UInt64.ofNat (lookups trace) = .ofNat s.claims.length +
      (s.errors .newClientOriginNotFound - firstErrors errors trace .newClientOriginNotFound) +
      (s.errors .invalidProtoMatch - firstErrors errors trace .invalidProtoMatch)) ∧
    ∀ error, endsTask error → s.errors error = firstErrors errors trace error +
      .ofNat ((s.claims.map Claim.phase).count (.failed error)) := by
  have haccounted := accounted_of_run hrun
  obtain ⟨hlimited, hsent⟩ := handled_of_run hrun
  exact ⟨hlimited, hsent, haccounted.received, haccounted.failed⟩

/-- A second client of the sample is refused by the rate limiter, and the first one is claimed,
while another `TcpClients` has no origin for one of its own. -/
theorem tcp_new_clients_accounted_sample :
    ∃ s, Reachable step (init ⟨0, 0, 0⟩ fun _ => 7) s ∧ s.claims.length = 1 ∧
      s.errors .newClientRateLimited = 8 ∧ s.errors .newClientOriginNotFound +
        s.errors .invalidProtoMatch = 15 := by
  have htakes : ∃ s, takes State.next (init ⟨0, 0, 0⟩ fun _ => 7)
      (sampleActions ++ [.handleNewClient sampleDetails true,
        .elsewhere .newClientOriginNotFound]) = some s ∧ s.claims.length = 1 :=
    ⟨_, rfl, rfl⟩
  obtain ⟨s, htakes, hclaims⟩ := htakes
  have hrun : Run step (init ⟨0, 0, 0⟩ fun _ => 7) _ s := Run.takes .nil htakes
  obtain ⟨hlimited, -, hreceived, -⟩ := tcp_new_clients_accounted hrun
  refine ⟨s, ⟨_, hrun⟩, hclaims, hlimited.trans rfl, ?_⟩
  rw [hclaims] at hreceived
  have hone : (1 : UInt64) = 1 + (s.errors .newClientOriginNotFound - 8) +
      (s.errors .invalidProtoMatch - 7) := hreceived
  grind

end

end TcpClients

end PlayitAgent
