import PlayitAgent.Runtime.Provisioning

/-!
# One waiting period

`wait_for_provisioned_secret` returns with the first secret that it could persist, whatever else is
in the channel, and the next period goes on with the same channel. So a request that was checked
against one period can stay in the channel unanswered, and its secret is written in a later one.
This does not happen when the channel is empty at each return of a secret and every request is sent
in the period of its check.
-/

namespace PlayitAgent

namespace ProvisionSystem

/-- The period has not ended with a secret: the supervisor still waits, or it stops. -/
def Open (s : ProvisionSystem) : Prop :=
  s.supervisor ≠ .elsewhere ∧ ∀ secret, s.supervisor ≠ .provisioned secret

/-- A request that was submitted in a period is still in it. -/
def InTime (s : ProvisionSystem) (request : SecretProvisionRequest) : Prop :=
  ∀ k, request.period = some k → k = s.period ∧ s.Open

/-- The condition for a step to keep the requests to one period. A request goes into the channel in
the period of its check, and when a secret was persisted the channel is empty. -/
def Timely (s : ProvisionSystem) : Action → Prop
  | .send i => ∀ request, s.call i = .sending request → s.InTime request
  | .flow code (.sent true) => ∀ request, s.claimRequest code = some request → s.InTime request
  | .persist outcome => ∀ request secret, s.supervisor = .persisting request →
    (persistSecretFile request.secret outcome).1 = .ok secret → s.channel = []
  | _ => True

/-- When the last step of a run has returned a secret, every request that the channel has accepted
is answered. -/
def AnsweredAtReturn (trace : List (Action × Unit)) (s : ProvisionSystem) : Prop :=
  ∀ before outcome secret, trace = before ++ [(.persist outcome, ())] →
    s.supervisor = .provisioned secret → ∀ id ∈ s.accepted, (s.reply id).isSome = true

/-- No secret that was submitted in a period was written in another. -/
def WrittenInPeriod (s : ProvisionSystem) : Prop :=
  ∀ request period, (request, period) ∈ s.writes → ∀ k, request.period = some k → period = k

variable {s s' : ProvisionSystem} {a : Action}

/-! ## What the steps do -/

/-- Nothing changes that concerns the requests that were sent. -/
structure Unsent (s s' : ProvisionSystem) : Prop where
  period : s'.period = s.period
  channel : s'.channel = s.channel
  supervisor : s'.supervisor = s.supervisor
  reply : s'.reply = s.reply
  accepted : s'.accepted = s.accepted
  writes : s'.writes = s.writes

/-- A call that goes on sends nothing. -/
theorem unsent_setCall (s : ProvisionSystem) (i : ℕ) (call : SetSecretCall) :
    Unsent s (s.setCall i call) :=
  ⟨rfl, rfl, rfl, rfl, rfl, rfl⟩

/-- The request that a step puts into the channel. -/
def Sends (s : ProvisionSystem) : Action → SecretProvisionRequest → Prop
  | .send i, request => s.call i = .sending request
  | .flow code (.sent true), request => s.claimRequest code = some request
  | _, _ => False

/-- A request goes into the channel. -/
structure Accepts (s s' : ProvisionSystem) (request : SecretProvisionRequest) : Prop where
  period : s'.period = s.period
  channel : s'.channel = s.channel ++ [request]
  supervisor : s'.supervisor = s.supervisor
  reply : s'.reply = s.reply
  accepted : s'.accepted = request.submitter :: s.accepted
  writes : s'.writes = s.writes

/-- A step of a claim task sends nothing, or its secret is accepted. -/
theorem flowNext_cases {code : String} {claims : ClaimSystem} {b : FlowAction}
    (h : s.flowNext code claims b = some s') :
    Unsent s s' ∨ ∃ request, s.Sends (.flow code b) request ∧ Accepts s s' request := by
  unfold flowNext at h
  split at h
  · obtain rfl := Option.some.inj h
    exact .inl ⟨rfl, rfl, rfl, rfl, rfl, rfl⟩
  · split at h
    · next request hrequest =>
      split at h
      · obtain rfl := Option.some.inj h
        exact .inr ⟨request, hrequest, rfl, rfl, rfl, rfl, rfl, rfl⟩
      · cases h
    · cases h
  · split at h
    · obtain rfl := Option.some.inj h
      exact .inl ⟨rfl, rfl, rfl, rfl, rfl, rfl⟩
    · cases h
  · split at h
    · obtain rfl := Option.some.inj h
      exact .inl ⟨rfl, rfl, rfl, rfl, rfl, rfl⟩
    · cases h
  · obtain rfl := Option.some.inj h
    exact .inl ⟨rfl, rfl, rfl, rfl, rfl, rfl⟩

/-- A call of `set_secret` sends nothing, or its secret is accepted. -/
theorem sendRequest_cases {i : ℕ} (h : s.sendRequest i = some s') :
    Unsent s s' ∨ ∃ request, s.Sends (.send i) request ∧ Accepts s s' request := by
  unfold sendRequest at h
  split at h
  · next request hcall =>
    split at h
    · obtain rfl := Option.some.inj h
      exact .inl (unsent_setCall s i _)
    · split at h
      · obtain rfl := Option.some.inj h
        exact .inr ⟨request, hcall, rfl, rfl, rfl, rfl, rfl, rfl⟩
      · cases h
  · cases h

/-- What a step does to the requests: nothing, or it puts one into the channel, or it is a step of
the supervisor. -/
inductive Step (s : ProvisionSystem) : Action → ProvisionSystem → Prop
  | other {a : Action} {s' : ProvisionSystem} : Unsent s s' → Step s a s'
  | send {a : Action} {s' : ProvisionSystem} {request : SecretProvisionRequest} :
    s.Sends a request → Accepts s s' request → Step s a s'
  | startWaiting {claims : ClaimSystem} : s.supervisor = .elsewhere →
    Step s .startWaiting { s with claims, period := s.period + 1, supervisor := .waiting }
  | receive {request : SecretProvisionRequest} {rest : List SecretProvisionRequest} :
    s.supervisor = .waiting → s.channel = request :: rest →
    Step s .receive { s with channel := rest, supervisor := .persisting request }
  | persist {request : SecretProvisionRequest} {outcome : WriteOutcome} :
    s.supervisor = .persisting request → Step s (.persist outcome) (s.persisted request outcome)
  /-- The supervisor goes on, without a request in its hands. -/
  | move {a : Action} {claims : ClaimSystem} {supervisor : SupervisorAt} :
    (s.supervisor = .waiting ∧ supervisor = .stopping) ∨
      (s.supervisor = .stopping ∧ supervisor = .returning) ∨
      (∃ secret, s.supervisor = .provisioned secret ∧ supervisor = .elsewhere) →
    Step s a { s with claims, supervisor }
  | supervisorReturns {claims : ClaimSystem} :
    Step s .supervisorReturns { s with claims, supervisor := .ended, channel := [] }

/-- A step is one of those. -/
theorem next_cases (h : s.next a = some s') : Step s a s' := by
  cases a with
  | claims b =>
    simp only [next] at h
    split at h
    · obtain ⟨claims, -, rfl⟩ := Option.map_eq_some_iff.1 h
      exact .other ⟨rfl, rfl, rfl, rfl, rfl, rfl⟩
    · cases h
  | flow code b =>
    obtain ⟨claims, -, h⟩ := Option.bind_eq_some_iff.1 h
    obtain hunsent | ⟨request, hsends, haccepts⟩ := flowNext_cases h
    · exact .other hunsent
    · exact .send hsends haccepts
  | publish lifecycle =>
    simp only [next] at h
    split at h
    · cases h
    · obtain ⟨claims, -, rfl⟩ := Option.map_eq_some_iff.1 h
      exact .other ⟨rfl, rfl, rfl, rfl, rfl, rfl⟩
  | startWaiting =>
    simp only [next] at h
    split at h
    · next hs =>
      obtain ⟨claims, -, rfl⟩ := Option.map_eq_some_iff.1 h
      exact .startWaiting hs.1
    · cases h
  | receive =>
    simp only [next] at h
    split at h
    · next request rest hs hchannel =>
      obtain rfl := Option.some.inj h
      exact .receive hs hchannel
    · cases h
  | persist outcome =>
    simp only [next] at h
    split at h
    · next request hs =>
      obtain rfl := Option.some.inj h
      exact .persist hs
    · cases h
  | waitCancelled =>
    simp only [next] at h
    split at h
    · next hs =>
      obtain rfl := Option.some.inj h
      exact .move (.inl ⟨hs.1, rfl⟩)
    · cases h
  | endWaiting =>
    simp only [next] at h
    split at h
    · next secret hs =>
      obtain ⟨claims, -, rfl⟩ := Option.map_eq_some_iff.1 h
      exact .move (.inr (.inr ⟨secret, hs, rfl⟩))
    · next hs =>
      obtain ⟨claims, -, rfl⟩ := Option.map_eq_some_iff.1 h
      exact .move (.inr (.inl ⟨hs, rfl⟩))
    · cases h
  | supervisorReturns =>
    simp only [next] at h
    split at h
    · obtain ⟨claims, -, rfl⟩ := Option.map_eq_some_iff.1 h
      exact .supervisorReturns
    · cases h
  | setSecret i secret =>
    simp only [next] at h
    split at h
    · obtain rfl := Option.some.inj h
      exact .other (unsent_setCall s i _)
    · cases h
  | read i =>
    simp only [next, readLifecycle] at h
    split at h
    · obtain rfl := Option.some.inj h
      exact .other (unsent_setCall s i _)
    · cases h
  | send i =>
    obtain hunsent | ⟨request, hsends, haccepts⟩ := sendRequest_cases h
    · exact .other hunsent
    · exact .send hsends haccepts
  | answered i =>
    simp only [next, receiveAnswer] at h
    split at h
    · split at h
      · obtain rfl := Option.some.inj h
        exact .other (unsent_setCall s i _)
      · split at h
        · obtain rfl := Option.some.inj h
          exact .other (unsent_setCall s i _)
        · cases h
    · cases h
  | cancelled i =>
    simp only [next] at h
    split at h
    · split at h
      · obtain rfl := Option.some.inj h
        exact .other (unsent_setCall s i _)
      · cases h
    · split at h
      · obtain rfl := Option.some.inj h
        exact .other (unsent_setCall s i _)
      · cases h
    · cases h
  | drop i =>
    simp only [next] at h
    split at h
    · obtain rfl := Option.some.inj h
      exact .other (unsent_setCall s i _)
    · obtain rfl := Option.some.inj h
      exact .other (unsent_setCall s i _)
    · obtain rfl := Option.some.inj h
      exact .other (unsent_setCall s i _)
    · cases h

/-! ## The invariant -/

/-- The requests that were submitted in a period and sent are answered or written in it. -/
structure InPeriod (s : ProvisionSystem) : Prop where
  channel : ∀ request ∈ s.channel, s.InTime request
  persisting : ∀ request, s.supervisor = .persisting request →
    ∀ k, request.period = some k → k = s.period
  writes : s.WrittenInPeriod
  /-- A request is in the channel or with the supervisor until it is answered. -/
  accepted : s.supervisor ≠ .ended → ∀ id ∈ s.accepted, (s.reply id).isSome = true ∨
    (∃ request ∈ s.channel, request.submitter = id) ∨
    ∃ request, s.supervisor = .persisting request ∧ request.submitter = id

/-- At first there are no requests. -/
theorem inPeriod_start (source : SecretSource) : InPeriod (start source) where
  channel request h := by simp [start] at h
  persisting request h := by simp [start] at h
  writes request period h := by simp [start] at h
  accepted _ id h := by simp [start] at h

/-- A step that sends nothing leaves every request in its period. -/
theorem Unsent.inPeriod (h : Unsent s s') (hs : InPeriod s) : InPeriod s' := by
  have hin : ∀ request, s'.InTime request ↔ s.InTime request := by
    intro request
    simp only [InTime, Open, h.period, h.supervisor]
  refine ⟨fun request hr => ?_, ?_, ?_, ?_⟩
  · rw [h.channel] at hr
    rw [hin]
    exact hs.channel request hr
  · rw [h.supervisor, h.period]
    exact hs.persisting
  · unfold WrittenInPeriod
    rw [h.writes]
    exact hs.writes
  · rw [h.supervisor, h.accepted, h.channel, h.reply]
    exact hs.accepted

/-- A request goes into the channel in the period of its check. -/
theorem Accepts.inPeriod {request : SecretProvisionRequest} (h : Accepts s s' request)
    (hs : InPeriod s) (hrequest : s.InTime request) : InPeriod s' := by
  have hin : ∀ request, s'.InTime request ↔ s.InTime request := by
    intro request
    simp only [InTime, Open, h.period, h.supervisor]
  refine ⟨fun r hr => ?_, ?_, ?_, fun hne id hid => ?_⟩
  · rw [h.channel, List.mem_append, List.mem_singleton] at hr
    rw [hin]
    rcases hr with hr | rfl
    · exact hs.channel r hr
    · exact hrequest
  · rw [h.supervisor, h.period]
    exact hs.persisting
  · unfold WrittenInPeriod
    rw [h.writes]
    exact hs.writes
  · rw [h.accepted, List.mem_cons] at hid
    rw [h.supervisor] at hne
    rw [h.supervisor, h.channel, h.reply]
    rcases hid with rfl | hid
    · exact .inr (.inl ⟨request, List.mem_append_right _ (List.mem_singleton.2 rfl), rfl⟩)
    · obtain hid | ⟨r, hr, hrid⟩ | hid := hs.accepted hne id hid
      · exact .inl hid
      · exact .inr (.inl ⟨r, List.mem_append_left _ hr, hrid⟩)
      · exact .inr (.inr hid)

/-- When no period is open, no request in the channel was submitted in one. -/
theorem InPeriod.period_eq_none (hs : InPeriod s) (hopen : ¬s.Open)
    {request : SecretProvisionRequest} (hr : request ∈ s.channel) : request.period = none := by
  rw [Option.eq_none_iff_forall_ne_some]
  intro k hk
  exact hopen (hs.channel request hr k hk).2

/-- A period begins. -/
theorem InPeriod.startWaiting (hs : InPeriod s) (helse : s.supervisor = .elsewhere)
    (claims : ClaimSystem) :
    InPeriod { s with claims, period := s.period + 1, supervisor := .waiting } := by
  have hopen : ¬s.Open := fun h => h.1 helse
  refine ⟨fun request hr k hk => ?_, ?_, hs.writes, fun _ id hid => ?_⟩
  · rw [hs.period_eq_none hopen hr] at hk
    cases hk
  · rintro request hr
    cases hr
  · have hcases := hs.accepted (by simp [helse]) id hid
    simpa [helse] using hcases

/-- The supervisor receives a request. -/
theorem InPeriod.receive (hs : InPeriod s) {request : SecretProvisionRequest}
    {rest : List SecretProvisionRequest} (hwaiting : s.supervisor = .waiting)
    (hchannel : s.channel = request :: rest) :
    InPeriod { s with channel := rest, supervisor := .persisting request } := by
  refine ⟨fun r hr k hk => ?_, ?_, hs.writes, fun _ id hid => ?_⟩
  · have hr' : r ∈ s.channel := by
      rw [hchannel]
      exact List.mem_cons_of_mem request hr
    exact ⟨(hs.channel r hr' k hk).1, by simp [Open]⟩
  · rintro r hr k hk
    obtain rfl := SupervisorAt.persisting.inj hr
    have hr' : request ∈ s.channel := by
      rw [hchannel]
      exact List.mem_cons_self
    exact (hs.channel request hr' k hk).1
  · have hcases := hs.accepted (by simp [hwaiting]) id hid
    simp only [hwaiting, hchannel, List.mem_cons, reduceCtorEq, false_and, exists_false,
      or_false] at hcases
    obtain hid | ⟨r, rfl | hr, rfl⟩ := hcases
    · exact .inl hid
    · exact .inr (.inr ⟨r, rfl, rfl⟩)
    · exact .inr (.inl ⟨r, hr, rfl⟩)

section
variable (s : ProvisionSystem) (request : SecretProvisionRequest) (outcome : WriteOutcome)

/-- The write of the file leaves the channel. -/
@[simp]
theorem persisted_channel : (s.persisted request outcome).channel = s.channel := by
  simp only [ProvisionSystem.persisted]

/-- The write of the file leaves the period. -/
@[simp]
theorem persisted_period : (s.persisted request outcome).period = s.period := by
  simp only [ProvisionSystem.persisted]

/-- The write of the file accepts nothing. -/
@[simp]
theorem persisted_accepted : (s.persisted request outcome).accepted = s.accepted := by
  simp only [ProvisionSystem.persisted]

/-- Where the supervisor is behind `persist_secret_file`. -/
theorem persisted_supervisor :
    (∃ secret, (persistSecretFile request.secret outcome).1 = .ok secret ∧
      (s.persisted request outcome).supervisor = .provisioned secret) ∨
    (s.persisted request outcome).supervisor = .waiting := by
  unfold ProvisionSystem.persisted
  cases hresult : (persistSecretFile request.secret outcome).1 with
  | ok secret => exact .inl ⟨secret, rfl, by simp [hresult]⟩
  | error error => exact .inr (by simp [hresult])

/-- The request is answered, and no other one. -/
theorem persisted_reply (id : Submitter)
    (h : id = request.submitter ∨ (s.reply id).isSome = true) :
    ((s.persisted request outcome).reply id).isSome = true := by
  by_cases hid : id = request.submitter
  · simp [ProvisionSystem.persisted, hid]
  · have hold := h.resolve_left hid
    simpa [ProvisionSystem.persisted, hid] using hold

end

/-- The supervisor has persisted a secret, with nothing left in the channel, or has failed to. -/
theorem InPeriod.persisted (hs : InPeriod s) {request : SecretProvisionRequest}
    {outcome : WriteOutcome} (hpersisting : s.supervisor = .persisting request)
    (hempty : ∀ secret, (persistSecretFile request.secret outcome).1 = .ok secret →
      s.channel = []) : InPeriod (s.persisted request outcome) := by
  have hsupervisor := persisted_supervisor s request outcome
  refine ⟨fun r hr k hk => ?_, fun r hr => ?_, fun r period hr k hk => ?_, fun _ id hid => ?_⟩
  · rw [persisted_channel] at hr
    rw [persisted_period]
    obtain ⟨secret, hok, -⟩ | hwaiting := hsupervisor
    · rw [hempty secret hok] at hr
      cases hr
    · exact ⟨(hs.channel r hr k hk).1, by simp [Open, hwaiting]⟩
  · obtain ⟨secret, -, hprovisioned⟩ | hwaiting := hsupervisor
    · cases hprovisioned.symm.trans hr
    · cases hwaiting.symm.trans hr
  · -- The one write that can be new is of the request that was received in this period.
    simp only [ProvisionSystem.persisted] at hr
    split at hr
    · rcases List.mem_cons.1 hr with heq | hr
      · obtain ⟨rfl, rfl⟩ := Prod.mk.inj heq
        exact (hs.persisting r hpersisting k hk).symm
      · exact hs.writes r period hr k hk
    · exact hs.writes r period hr k hk
  · rw [persisted_accepted] at hid
    rw [persisted_channel]
    obtain hreply | ⟨r, hr, hrid⟩ | ⟨r, hr, hrid⟩ := hs.accepted (by simp [hpersisting]) id hid
    · exact .inl (persisted_reply s request outcome id (.inr hreply))
    · exact .inr (.inl ⟨r, hr, hrid⟩)
    · obtain rfl := SupervisorAt.persisting.inj (hr.symm.trans hpersisting)
      exact .inl (persisted_reply s r outcome id (.inl hrid.symm))

/-- The supervisor goes on, without a request in its hands. -/
theorem InPeriod.move (hs : InPeriod s) {claims : ClaimSystem} {supervisor : SupervisorAt}
    (h : (s.supervisor = .waiting ∧ supervisor = .stopping) ∨
      (s.supervisor = .stopping ∧ supervisor = .returning) ∨
      ∃ secret, s.supervisor = .provisioned secret ∧ supervisor = .elsewhere) :
    InPeriod { s with claims, supervisor } := by
  have hopen : s.Open → ({ s with claims, supervisor }).Open := by
    intro hs
    rcases h with ⟨-, rfl⟩ | ⟨-, rfl⟩ | ⟨secret, hsecret, -⟩
    · simp [Open]
    · simp [Open]
    · exact absurd hsecret (hs.2 secret)
  have hbefore : s.supervisor ≠ .ended ∧ ∀ request, s.supervisor ≠ .persisting request := by
    rcases h with ⟨hs, -⟩ | ⟨hs, -⟩ | ⟨secret, hs, -⟩ <;> simp [hs]
  refine ⟨fun r hr k hk => ?_, fun r hr => ?_, hs.writes, fun _ id hid => ?_⟩
  · exact ⟨(hs.channel r hr k hk).1, hopen (hs.channel r hr k hk).2⟩
  · rcases h with ⟨-, rfl⟩ | ⟨-, rfl⟩ | ⟨secret, -, rfl⟩ <;> cases hr
  · obtain hid | hid | ⟨r, hr, -⟩ := hs.accepted hbefore.1 id hid
    · exact .inl hid
    · exact .inr (.inl hid)
    · exact absurd hr (hbefore.2 r)

/-- Every step that meets the condition keeps the invariant. -/
theorem InPeriod.next (hs : InPeriod s) (ha : s.Timely a) (h : s.next a = some s') :
    InPeriod s' := by
  cases next_cases h with
  | other hunsent => exact hunsent.inPeriod hs
  | @send _ _ request hsends haccepts =>
    refine haccepts.inPeriod hs ?_
    unfold Sends at hsends
    split at hsends
    · exact ha request hsends
    · exact ha request hsends
    · exact hsends.elim
  | startWaiting helse => exact hs.startWaiting helse _
  | receive hwaiting hchannel => exact hs.receive hwaiting hchannel
  | @persist request _ hpersisting =>
    exact hs.persisted hpersisting fun secret => ha request secret hpersisting
  | move hmove => exact hs.move hmove
  | supervisorReturns =>
    -- What is left in the channel is dropped with it.
    refine ⟨fun r hr => ?_, fun r hr => ?_, hs.writes, fun hne => absurd rfl hne⟩
    · cases hr
    · cases hr

/-- When the supervisor has persisted a secret, and nothing is left in the channel, then every
request that was accepted is answered. -/
theorem answered_of_persisted (hs : InPeriod s) {outcome : WriteOutcome}
    (ha : s.Timely (.persist outcome)) (h : s.next (.persist outcome) = some s') {secret : String}
    (hsecret : s'.supervisor = .provisioned secret) (id : Submitter) (hid : id ∈ s'.accepted) :
    (s'.reply id).isSome = true := by
  have hs' := hs.next ha h
  simp only [ProvisionSystem.next] at h
  split at h
  · next request hpersisting =>
    obtain rfl := Option.some.inj h
    obtain ⟨secret', hok, -⟩ | hwaiting := persisted_supervisor s request outcome
    · have hempty := ha request secret' hpersisting hok
      have hcases := hs'.accepted (by simp [hsecret]) id hid
      simpa [hempty, hsecret] using hcases
    · cases hwaiting.symm.trans hsecret
  · cases h

end ProvisionSystem

open ProvisionSystem

/-- In a run whose steps all meet the condition, every request that the channel has accepted is
answered when `wait_for_provisioned_secret` returns a secret, and every secret that was submitted in
a period and written was written in that period. -/
theorem provisioning_in_one_period {source : SecretSource}
    {trace : List (ProvisionSystem.Action × Unit)} {s : ProvisionSystem}
    (h : Run step (start source) trace s) (hall : Along step Timely (start source) trace) :
    AnsweredAtReturn trace s ∧ s.WrittenInPeriod := by
  have hnext : ∀ s s' a o, InPeriod s → s.Timely a → step s a = .ok (s', o) → InPeriod s' :=
    fun s s' a o hs ha hstep => hs.next ha (ofOption_eq_ok.1 hstep)
  refine ⟨?_, (h.invariant_along hall (inPeriod_start source) hnext).writes⟩
  rintro before outcome secret rfl hsecret
  obtain ⟨s₀, hrun, hstep⟩ := run_snoc_iff.1 h
  obtain ⟨hall₀, hlast⟩ := (along_snoc hrun _ _).1 hall
  exact answered_of_persisted (hrun.invariant_along hall₀ (inPeriod_start source) hnext) hlast
    (ofOption_eq_ok.1 hstep) hsecret

/-- Two calls send their secrets, and the first of them is persisted. -/
def twoSecrets : List ProvisionSystem.Action :=
  [.startWaiting, .setSecret 0 "aa", .read 0, .setSecret 1 "bb", .read 1, .send 0, .send 1,
    .receive]

/-- The run that a list of actions makes. -/
theorem run_file {actions : List ProvisionSystem.Action} {s : ProvisionSystem}
    (h : takes next (start (.file "playit.toml")) actions = some s) :
    Run step (start (.file "playit.toml")) (actions.map fun a => (a, ())) s :=
  Run.takes .nil h

/-- The second request is not answered when the first secret is returned; and when that secret is
rejected, the supervisor waits again and writes the second one. -/
theorem not_provisioning_in_one_period :
    (¬∀ source trace s, Run step (start source) trace s → AnsweredAtReturn trace s) ∧
      ¬∀ source trace s, Run step (start source) trace s → WrittenInPeriod s := by
  constructor
  · intro hall
    obtain ⟨s, hs, hsecret, haccepted, hreply⟩ : ∃ s,
        takes next (start (.file "playit.toml")) (twoSecrets ++ [.persist .written]) = some s ∧
          s.supervisor = .provisioned "aa" ∧ s.accepted = [.call 1, .call 0] ∧
          s.reply (.call 1) = none :=
      ⟨_, rfl, rfl, rfl, rfl⟩
    have hanswered := hall _ _ s (run_file hs) _ .written "aa" List.map_append hsecret (.call 1)
      (by simp [haccepted])
    rw [hreply] at hanswered
    cases hanswered
  · intro hall
    obtain ⟨s, hs, hwrites⟩ : ∃ s,
        takes next (start (.file "playit.toml")) (twoSecrets ++
          [.persist .written, .endWaiting, .startWaiting, .receive, .persist .written]) = some s ∧
          s.writes = [(⟨.call 1, "bb", some 1⟩, 2), (⟨.call 0, "aa", some 1⟩, 1)] :=
      ⟨_, rfl, rfl⟩
    have hperiod := hall _ _ s (run_file hs) ⟨.call 1, "bb", some 1⟩ 2 (by simp [hwrites]) 1 rfl
    cases hperiod

/-- A check that makes a step meet the condition. -/
def sendsInPeriod (s : ProvisionSystem) : ProvisionSystem.Action → Bool
  | .send i => match s.call i with
    | .sending request => request.period = some s.period ∧ s.supervisor = .waiting
    | _ => true
  | .flow _ (.sent true) => false
  | .persist _ => s.channel.isEmpty
  | _ => true

/-- The check makes a step timely. -/
theorem timely_of_sendsInPeriod (s : ProvisionSystem) (a : ProvisionSystem.Action)
    (h : sendsInPeriod s a = true) : s.Timely a := by
  unfold Timely
  split
  · next i =>
    intro request hcall k hk
    simp only [sendsInPeriod, hcall, decide_eq_true_eq] at h
    exact ⟨Option.some.inj (hk.symm.trans h.1), by simp [Open, h.2]⟩
  · cases h
  · intro request secret _ _
    exact List.isEmpty_iff.1 h
  · trivial

/-- The secret of a call is written, and the call is answered. -/
theorem provisioning_in_one_period_sample :
    ∃ trace s, Run step (start (.file "playit.toml")) trace s ∧ s.accepted = [.call 0] ∧
      s.supervisor = .provisioned "aa" ∧ s.writes = [(⟨.call 0, "aa", some 1⟩, 1)] ∧
      AnsweredAtReturn trace s ∧ s.WrittenInPeriod := by
  obtain ⟨s, hs, haccepted, hsecret, hwrites⟩ : ∃ s,
      takes next (start (.file "playit.toml"))
        [.startWaiting, .setSecret 0 "aa", .read 0, .send 0, .receive, .persist .written] = some s ∧
        s.accepted = [.call 0] ∧ s.supervisor = .provisioned "aa" ∧
        s.writes = [(⟨.call 0, "aa", some 1⟩, 1)] :=
    ⟨_, rfl, rfl, rfl, rfl⟩
  have hrun := run_file hs
  refine ⟨_, s, hrun, haccepted, hsecret, hwrites, provisioning_in_one_period hrun ?_⟩
  exact (Along.takes .nil along_nil hs (by rfl)).imp timely_of_sendsInPeriod

end PlayitAgent
