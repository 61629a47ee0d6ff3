import PlayitAgent.Runtime.Supervisor

/-!
# The supervisor backs off

Each call of `PlayitAgent::new_with_identity` but the first comes behind a new secret, a
`wait_for_retry`, or the sleep of an account over its limit. The delays of `wait_for_retry` grow and
are never reset, so over any stretch of a run the calls that no new secret explains take at least
the first delays together.
-/

namespace PlayitAgent

/-! ## Delays -/

/-- The delay of a `wait_for_retry`, by how many there were before. -/
def delayAfter (n : ℕ) : ℕ := transientRetryDelays.getD (min n 5) 0

/-- The first `n` delays together. -/
def backoff : ℕ → ℕ
  | 0 => 0
  | n + 1 => backoff n + delayAfter n

/-- `retry_delay` takes the last delay for all later attempts. -/
theorem setupRetryDelay_eq (attempt : UInt32) :
    setupRetryDelay attempt = delayAfter attempt.toNat := rfl

/-- The delays do not get shorter. -/
theorem delayAfter_mono {m n : ℕ} (h : m ≤ n) : delayAfter m ≤ delayAfter n := by
  have hsorted : ∀ b < 6, ∀ a < 6, a ≤ b →
      transientRetryDelays.getD a 0 ≤ transientRetryDelays.getD b 0 := by decide
  exact hsorted _ (by omega) _ (by omega) (by omega)

/-- No delay is longer than the sleep of an account over its limit. -/
theorem delayAfter_le (n : ℕ) : delayAfter n ≤ agentLimitRetryInterval := by
  have hsmall : ∀ a < 6, transientRetryDelays.getD a 0 ≤ agentLimitRetryInterval := by decide
  exact hsmall _ (by omega)

/-- Later delays take at least as long as the first ones. -/
theorem backoff_add_le (m n : ℕ) : backoff n + backoff m ≤ backoff (m + n) := by
  induction n with
  | zero => simp [backoff]
  | succ n ih =>
    have hdelay : delayAfter n ≤ delayAfter (m + n) := delayAfter_mono (Nat.le_add_left n m)
    rw [← Nat.add_assoc, backoff, backoff]
    omega

/-- A sleep of an account over its limit counts for any delay. -/
theorem backoff_add_limits (m n : ℕ) :
    backoff (m + n) ≤ backoff m + agentLimitRetryInterval * n := by
  induction n with
  | zero => simp
  | succ n ih =>
    have hdelay := delayAfter_le (m + n)
    rw [← Nat.add_assoc, backoff, Nat.mul_succ]
    omega

/-- The time that sleeps take together. -/
def slept (retries limits : ℕ) : ℕ := backoff retries + agentLimitRetryInterval * limits

/-- Sleeps take at least as long as that many first delays. -/
theorem backoff_le_slept {r r' l l' : ℕ} (hr : r ≤ r') (hl : l ≤ l') :
    slept r l + backoff (r' - r + (l' - l)) ≤ slept r' l' := by
  obtain ⟨dr, rfl⟩ := Nat.le.dest hr
  obtain ⟨dl, rfl⟩ := Nat.le.dest hl
  have hadd := backoff_add_le r dr
  have hlimits := backoff_add_limits dr dl
  rw [Nat.add_sub_cancel_left, Nat.add_sub_cancel_left, slept, slept, Nat.mul_add]
  omega

/-! ## What a step does to the schedule -/

/-- How a place stands to the next setup. -/
inductive SetupPhase where
  /-- There will be one. -/
  | due
  /-- The last one is not over, or was followed by nothing yet. -/
  | tried
  | sleeping (deadline : ℕ) (why : SleepFor)
  /-- There is none any more. -/
  | over
  deriving DecidableEq

/-- How a publication stands to it, by what it goes on with. -/
def AfterPublish.setupPhase : AfterPublish → SetupPhase
  | .loop | .create => .due
  | .wait | .run _ | .sleep _ | .reprovision _ => .tried
  | .finish _ => .over

/-- How a place stands to it. -/
def SupervisorPlace.setupPhase : SupervisorPlace → SetupPhase
  | .publishing _ after => after.setupPhase
  | .looping | .requesting => .due
  | .loading | .waiting | .creating | .running _ => .tried
  | .sleeping deadline why => .sleeping deadline why
  | .returned _ => .over

namespace Supervisor

section
variable {ctx : StatusContext} {parse : String → Option ProtoRegisterError} {s s' : Supervisor}

/-- The schedule is as it was. -/
structure SameSchedule (s s' : Supervisor) : Prop where
  attempts : s'.attempts = s.attempts
  secrets : s'.secrets = s.secrets
  retries : s'.retries = s.retries
  limits : s'.limits = s.limits
  retry_attempt : s'.retry_attempt = s.retry_attempt

/-- The delay of a sleep. -/
def delayFor (s : Supervisor) : SleepFor → ℕ
  | .retry => setupRetryDelay s.retry_attempt
  | .limit => agentLimitRetryInterval

/-- What a step does to the schedule. -/
inductive Moves (s s' : Supervisor) : Prop
  | stays : SameSchedule s s' → s'.clock = s.clock →
    (s'.place.setupPhase = s.place.setupPhase ∨ s'.place.setupPhase = .over) → Moves s s'
  | passes (elapsed : ℕ) : SameSchedule s s' → s'.clock = s.clock + elapsed →
    s'.place = s.place → Moves s s'
  | gets (secret : String) : s.place.setupPhase = .tried → s'.place.setupPhase = .due →
    s' = { s with
      secrets := s.secrets ++ [secret], secret_code := secret, place := s'.place } → Moves s s'
  | tries : s.place.setupPhase = .due →
    s' = { s with place := .creating, attempts := s.attempts ++ [s.setupNow] } → Moves s s'
  | sleeps (why : SleepFor) : s.place.setupPhase = .tried →
    s' = { s with place := .sleeping (s.clock + s.delayFor why) why } → Moves s s'
  | retries (deadline : ℕ) : s.place = .sleeping deadline .retry → deadline ≤ s.clock →
    s' = { s with
      place := .looping
      retries := s.retries + 1
      retry_attempt := nextAttempt s.retry_attempt } → Moves s s'
  | limits (deadline : ℕ) : s.place = .sleeping deadline .limit → deadline ≤ s.clock →
    s' = { s with place := .looping, limits := s.limits + 1 } → Moves s s'

/-- A publication begins. -/
theorem Moves.publish {status : ServiceStatus} {lifecycle : AgentLifecycle} {after : AfterPublish}
    (h : after.setupPhase = s.place.setupPhase ∨ after.setupPhase = .over) :
    Moves s (s.publish status lifecycle after) :=
  .stays ⟨rfl, rfl, rfl, rfl, rfl⟩ rfl h

/-- A secret is waited for, or there is no file for one. -/
theorem Moves.waitForSecret {now : UInt64} {last_error : Option ServiceError}
    (h : s.place.setupPhase = .tried) : Moves s (s.waitForSecret ctx now last_error) := by
  unfold Supervisor.waitForSecret
  split
  · exact .stays ⟨rfl, rfl, rfl, rfl, rfl⟩ rfl (.inr rfl)
  · exact .publish (.inl h.symm)

/-- A new secret makes a setup due. -/
theorem Moves.gotSecret {now : UInt64} {secret : String} (h : s.place.setupPhase = .tried) :
    Moves s (s.gotSecret ctx now secret) :=
  .gets secret h rfl rfl

/-- What follows a publication. -/
theorem Moves.published {now : UInt64} {after : AfterPublish} (h : s.place = .publishing [] after) :
    Moves s (s.published ctx now after) := by
  have hphase : s.place.setupPhase = after.setupPhase := by rw [h]; rfl
  cases after with
  | wait | loop | run control =>
    exact .stays ⟨rfl, rfl, rfl, rfl, rfl⟩ rfl (.inl hphase.symm)
  | create => exact .tries hphase rfl
  | sleep why =>
    cases why with
    | retry => exact .sleeps .retry hphase rfl
    | limit => exact .sleeps .limit hphase rfl
  | finish result => exact .stays ⟨rfl, rfl, rfl, rfl, rfl⟩ rfl (.inr rfl)
  | reprovision error => exact .waitForSecret hphase

/-- A setup that fails is followed by a sleep or a wait, or it was the last. -/
theorem Moves.setupFailed {now : UInt64} {error : AgentSetupError} (h : s.place = .creating) :
    Moves s (s.setupFailed ctx parse now error) := by
  have hphase : s.place.setupPhase = .tried := by rw [h]; rfl
  simp only [Supervisor.setupFailed]
  split
  · simp only [Supervisor.waitForSecret]
    split
    · exact .stays ⟨rfl, rfl, rfl, rfl, rfl⟩ rfl (.inr rfl)
    · exact .stays ⟨rfl, rfl, rfl, rfl, rfl⟩ rfl (.inl hphase.symm)
  · split
    · exact .stays ⟨rfl, rfl, rfl, rfl, rfl⟩ rfl (.inl hphase.symm)
    · split
      · exact .stays ⟨rfl, rfl, rfl, rfl, rfl⟩ rfl (.inl hphase.symm)
      · exact .stays ⟨rfl, rfl, rfl, rfl, rfl⟩ rfl (.inr rfl)

/-- So is a `run_agent` that returns. -/
theorem Moves.agentReturned {now : UInt64} {outcome : Except RuntimeError Unit} {agent : RunAgent}
    (h : s.place = .running agent) :
    Moves s ({ s with past := s.past ++ [agent] }.agentReturned ctx now outcome) := by
  have hphase : s.place.setupPhase = .tried := by rw [h]; rfl
  cases outcome with
  | ok _ => exact .stays ⟨rfl, rfl, rfl, rfl, rfl⟩ rfl (.inr rfl)
  | error error =>
    simp only [Supervisor.agentReturned]
    split
    · exact .stays ⟨rfl, rfl, rfl, rfl, rfl⟩ rfl (.inr rfl)
    · exact .stays ⟨rfl, rfl, rfl, rfl, rfl⟩ rfl (.inl hphase.symm)

/-- The first secret is loaded, or it is waited for. -/
theorem Moves.loaded {now : UInt64} {loaded : SecretFile.LoadedSecret} (h : s.place = .loading) :
    Moves s (s.loaded ctx now loaded) := by
  have hphase : s.place.setupPhase = .tried := by rw [h]; rfl
  cases loaded with
  | ready secret => exact .gotSecret hphase
  | missing => exact .waitForSecret hphase
  | invalid message =>
    refine .stays ⟨rfl, rfl, rfl, rfl, rfl⟩ rfl ?_
    rw [hphase]
    simp only [Supervisor.loaded, Supervisor.publish, SupervisorPlace.setupPhase]
    split
    · exact .inl rfl
    · exact .inr rfl

/-- Every step is one of these. -/
theorem moves_of_step (h : Step ctx parse s s') : Moves s s' := by
  cases h with
  | cancels _ => exact .stays ⟨rfl, rfl, rfl, rfl, rfl⟩ rfl (.inl rfl)
  | rejects => exact .stays ⟨rfl, rfl, rfl, rfl, rfl⟩ rfl (.inl rfl)
  | straggles _ _ _ => exact .stays ⟨rfl, rfl, rfl, rfl, rfl⟩ rfl (.inl rfl)
  | passes elapsed => exact .passes elapsed ⟨rfl, rfl, rfl, rfl, rfl⟩ rfl rfl
  | loads now file hplace => exact .loaded hplace
  | published now hplace => exact .published hplace
  | provisioned now secret hplace => exact .gotSecret (by rw [hplace]; rfl)
  | stops now has_secret _ _ => exact .publish (.inr rfl)
  | requests now hplace => exact .publish (.inl (by rw [hplace]; rfl))
  | creates now control hplace => exact .publish (.inl (by rw [hplace]; rfl))
  | fails now error hplace => exact .setupFailed hplace
  | returns now hplace _ => exact .agentReturned hplace
  | retries hplace hdeadline => exact .retries _ hplace hdeadline rfl
  | limits hplace hdeadline => exact .limits _ hplace hdeadline rfl
  | writes hplace | turns hplace _ | agent hplace _ =>
    refine .stays ⟨rfl, rfl, rfl, rfl, rfl⟩ rfl (.inl ?_)
    rw [hplace]
    rfl

/-! ## The invariant -/

/-- One more setup than the sleeps and secrets explain is due, or none. -/
def Counts (s : Supervisor) : SetupPhase → Prop
  | .due => s.attempts.length + 1 = s.retries + s.limits + s.secrets.length
  | .tried | .sleeping _ _ => s.attempts.length = s.retries + s.limits + s.secrets.length
  | .over => True

/-- Since a setup, the sleeps have taken their time. -/
def Since (a : SetupAttempt) (time retries limits : ℕ) : Prop :=
  a.time + slept retries limits ≤ time + slept a.retries a.limits

/-- The time at which a sleep is over leaves room for it. -/
def Deadline (s : Supervisor) (a : SetupAttempt) : SetupPhase → Prop
  | .sleeping deadline .retry => Since a deadline (s.retries + 1) s.limits
  | .sleeping deadline .limit => Since a deadline s.retries (s.limits + 1)
  | _ => True

/-- A setup comes before another. -/
structure Before (a b : SetupAttempt) : Prop where
  secrets : a.secrets ≤ b.secrets
  retries : a.retries ≤ b.retries
  limits : a.limits ≤ b.limits
  since : Since a b.time b.retries b.limits

/-- The schedule. -/
structure Paced (s : Supervisor) : Prop where
  attempt : s.retry_attempt.toNat = min s.retries (2 ^ 32 - 1)
  counts : Counts s s.place.setupPhase
  /-- The setups so far come before one that would be made now. -/
  before : ∀ a ∈ s.attempts, Before a s.setupNow
  deadline : ∀ a ∈ s.attempts, Deadline s a s.place.setupPhase
  ordered : s.attempts.Pairwise Before
  /-- Each setup has its number. -/
  numbered : ∀ i a, s.attempts[i]? = some a → i + 1 = a.retries + a.limits + a.secrets

/-- Time that passes leaves room. -/
theorem Since.of_le {a : SetupAttempt} {time time' retries limits : ℕ}
    (h : Since a time retries limits) (hle : time ≤ time') : Since a time' retries limits := by
  unfold Since at *
  omega

/-- A delay that ends later than now. -/
theorem Since.add {a : SetupAttempt} {time retries limits delay retries' limits' : ℕ}
    (h : Since a time retries limits)
    (hslept : slept retries' limits' = slept retries limits + delay) :
    Since a (time + delay) retries' limits' := by
  unfold Since at *
  omega

/-- The delay goes by the number of retries, although their counter saturates. -/
theorem setupRetryDelay_of_paced (h : Paced s) :
    setupRetryDelay s.retry_attempt = delayAfter s.retries := by
  rw [setupRetryDelay_eq, h.attempt, delayAfter, delayAfter, Nat.min_assoc]
  rfl

/-- `saturating_add(1)`, as a number. -/
theorem toNat_nextAttempt (attempt : UInt32) :
    (nextAttempt attempt).toNat = min (attempt.toNat + 1) (2 ^ 32 - 1) := by
  have hlt := attempt.toNat_lt
  unfold nextAttempt
  split
  · next h =>
    rw [h]
    rfl
  · next h =>
    have hne : attempt.toNat ≠ 4294967295 := fun heq => h (UInt32.toNat.inj heq)
    rw [UInt32.toNat_add, UInt32.toNat_one, Nat.mod_eq_of_lt (by omega), Nat.min_eq_left (by omega)]

/-- There were no setups at the start. -/
theorem paced_spawned {source : SecretSource} {now : UInt64} {clock : ℕ} :
    Paced (spawned ctx source now clock) := by
  refine ⟨rfl, rfl, ?_, ?_, .nil, ?_⟩
  · intro a ha
    cases ha
  · intro a ha
    cases ha
  · intro i a ha
    cases ha

/-- A step that leaves the schedule keeps it. -/
theorem Paced.stays (h : Paced s) (hsame : SameSchedule s s') (hclock : s.clock ≤ s'.clock)
    (hphase : s'.place.setupPhase = s.place.setupPhase ∨ s'.place.setupPhase = .over) :
    Paced s' := by
  obtain ⟨hattempts, hsecrets, hretries, hlimits, hattempt⟩ := hsame
  refine ⟨?_, ?_, ?_, ?_, ?_, ?_⟩
  · rw [hattempt, hretries]
    exact h.attempt
  · rcases hphase with hphase | hphase
    · have hcounts := h.counts
      rw [hphase]
      revert hcounts
      cases s.place.setupPhase <;> simp only [Counts, hattempts, hsecrets, hretries, hlimits] <;>
        exact id
    · rw [hphase]
      trivial
  · rw [hattempts, setupNow, hsecrets, hretries, hlimits]
    intro a ha
    obtain ⟨hs, hr, hl, hsince⟩ := h.before a ha
    exact ⟨hs, hr, hl, hsince.of_le hclock⟩
  · rw [hattempts]
    intro a ha
    rcases hphase with hphase | hphase
    · have hdeadline := h.deadline a ha
      rw [hphase]
      revert hdeadline
      cases s.place.setupPhase with
      | sleeping deadline why =>
        cases why <;> simp only [Deadline, hretries, hlimits] <;> exact id
      | _ => exact fun _ => trivial
    · rw [hphase]
      trivial
  · rw [hattempts]
    exact h.ordered
  · rw [hattempts]
    exact h.numbered

/-- A setup at the time it is due. -/
theorem Paced.tries (h : Paced s) (hphase : s.place.setupPhase = .due) :
    Paced { s with place := .creating, attempts := s.attempts ++ [s.setupNow] } := by
  have hcounts : s.attempts.length + 1 = s.retries + s.limits + s.secrets.length := by
    have hcounts := h.counts
    rw [hphase] at hcounts
    exact hcounts
  refine ⟨h.attempt, ?_, ?_, fun _ _ => trivial, ?_, ?_⟩
  · change (s.attempts ++ [_]).length = s.retries + s.limits + s.secrets.length
    rw [List.length_append, ← hcounts]
    rfl
  · intro a ha
    rcases List.mem_append.1 ha with ha | ha
    · exact h.before a ha
    · obtain rfl := List.mem_singleton.1 ha
      exact ⟨le_refl _, le_refl _, le_refl _, le_refl _⟩
  · rw [List.pairwise_append]
    refine ⟨h.ordered, List.pairwise_singleton _ _, ?_⟩
    intro a ha b hb
    obtain rfl := List.mem_singleton.1 hb
    exact h.before a ha
  · intro i a ha
    rcases Nat.lt_trichotomy i s.attempts.length with hi | rfl | hi
    · rw [List.getElem?_append_left hi] at ha
      exact h.numbered i a ha
    · rw [List.getElem?_concat_length] at ha
      obtain rfl := Option.some.inj ha
      exact hcounts
    · rw [List.getElem?_eq_none (by rw [List.length_append, List.length_singleton]; omega)] at ha
      cases ha

/-- A sleep begins. -/
theorem Paced.sleeps (h : Paced s) (why : SleepFor) (hphase : s.place.setupPhase = .tried) :
    Paced { s with place := .sleeping (s.clock + s.delayFor why) why } := by
  have hcounts := h.counts
  rw [hphase] at hcounts
  refine ⟨h.attempt, hcounts, h.before, ?_, h.ordered, h.numbered⟩
  intro a ha
  have hsince := (h.before a ha).since
  cases why with
  | retry =>
    have hslept :
        slept (s.retries + 1) s.limits = slept s.retries s.limits + s.delayFor .retry := by
      rw [delayFor, setupRetryDelay_of_paced h, slept, slept, backoff]
      omega
    exact hsince.add hslept
  | limit =>
    have hslept :
        slept s.retries (s.limits + 1) = slept s.retries s.limits + s.delayFor .limit := by
      rw [delayFor, slept, slept, Nat.mul_succ]
      omega
    exact hsince.add hslept

/-- Every step keeps the schedule. -/
theorem Paced.moves (h : Paced s) (hmoves : Moves s s') : Paced s' := by
  cases hmoves with
  | stays hsame hclock hphase => exact h.stays hsame hclock.ge hphase
  | passes elapsed hsame hclock hplace =>
    exact h.stays hsame (hclock ▸ Nat.le_add_right _ _) (.inl (by rw [hplace]))
  | gets secret hphase hphase' heq =>
    have hcounts : s.attempts.length = s.retries + s.limits + s.secrets.length := by
      have hcounts := h.counts
      rw [hphase] at hcounts
      exact hcounts
    rw [heq]
    refine ⟨h.attempt, ?_, ?_, fun a ha => ?_, h.ordered, h.numbered⟩
    · rw [hphase']
      change s.attempts.length + 1 = s.retries + s.limits + (s.secrets ++ [secret]).length
      rw [hcounts, List.length_append]
      rfl
    · intro a ha
      obtain ⟨hs, hr, hl, hsince⟩ := h.before a ha
      refine ⟨?_, hr, hl, hsince⟩
      change a.secrets ≤ (s.secrets ++ [secret]).length
      rw [List.length_append]
      exact Nat.le_add_right_of_le hs
    · rw [hphase']
      trivial
  | tries hphase heq => exact heq ▸ h.tries hphase
  | sleeps why hphase heq => exact heq ▸ h.sleeps why hphase
  | retries deadline hplace hdeadline heq =>
    have hphase : s.place.setupPhase = .sleeping deadline .retry := by rw [hplace]; rfl
    have hcounts : s.attempts.length = s.retries + s.limits + s.secrets.length := by
      have hcounts := h.counts
      rw [hphase] at hcounts
      exact hcounts
    rw [heq]
    refine ⟨?_, ?_, ?_, fun _ _ => trivial, h.ordered, h.numbered⟩
    · change (nextAttempt s.retry_attempt).toNat = min (s.retries + 1) (2 ^ 32 - 1)
      rw [toNat_nextAttempt, h.attempt]
      omega
    · change s.attempts.length + 1 = s.retries + 1 + s.limits + s.secrets.length
      omega
    · intro a ha
      obtain ⟨hs, hr, hl, -⟩ := h.before a ha
      have hwoke := h.deadline a ha
      rw [hphase] at hwoke
      exact ⟨hs, Nat.le_succ_of_le hr, hl, Since.of_le hwoke hdeadline⟩
  | limits deadline hplace hdeadline heq =>
    have hphase : s.place.setupPhase = .sleeping deadline .limit := by rw [hplace]; rfl
    have hcounts : s.attempts.length = s.retries + s.limits + s.secrets.length := by
      have hcounts := h.counts
      rw [hphase] at hcounts
      exact hcounts
    rw [heq]
    refine ⟨h.attempt, ?_, ?_, fun _ _ => trivial, h.ordered, h.numbered⟩
    · change s.attempts.length + 1 = s.retries + (s.limits + 1) + s.secrets.length
      omega
    · intro a ha
      obtain ⟨hs, hr, hl, -⟩ := h.before a ha
      have hwoke := h.deadline a ha
      rw [hphase] at hwoke
      exact ⟨hs, hr, Nat.le_succ_of_le hl, Since.of_le hwoke hdeadline⟩

/-- A start that succeeds spawns the supervisor. -/
theorem spawned_of_start {source : SecretSource} {now : UInt64} {clock : ℕ}
    (h : start ctx source now clock = .ok s) : s = spawned ctx source now clock := by
  unfold start at h
  split at h
  · split at h
    · exact (Except.ok.inj h).symm
    · cases h
  · exact (Except.ok.inj h).symm

/-- The schedule is kept over every run. -/
theorem paced_of_run {s₀ : Supervisor} {source : SecretSource} {now : UInt64} {clock : ℕ}
    {trace : List (Action × Unit)} (hstart : start ctx source now clock = .ok s₀)
    (hrun : Run (step ctx parse) s₀ trace s) : Paced s := by
  refine hrun.invariant (I := fun _ s => Paced s) ?_ ?_
  · rw [spawned_of_start hstart]
    exact paced_spawned
  · intro trace s s' a o hs hstep
    exact hs.moves (moves_of_step (step_of_next (ofOption_eq_ok.1 hstep)))

/-- Over every run of the supervisor, whatever fails and however long its agents run: between any
two setups there pass at least as many of the retry delays, from the shortest on, as there are
setups between them that no new secret explains. -/
theorem supervisor_backs_off {s₀ : Supervisor} {source : SecretSource} {now : UInt64} {clock : ℕ}
    {trace : List (Action × Unit)} (hstart : start ctx source now clock = .ok s₀)
    (hrun : Run (step ctx parse) s₀ trace s) :
    ∀ i j a b, i ≤ j → s.attempts[i]? = some a → s.attempts[j]? = some b →
      a.time + backoff (j - i - (b.secrets - a.secrets)) ≤ b.time := by
  have h := paced_of_run hstart hrun
  intro i j a b hij ha hb
  have hbefore : Before a b := by
    rcases Nat.lt_or_eq_of_le hij with hlt | rfl
    · obtain ⟨hi, rfl⟩ := List.getElem?_eq_some_iff.1 ha
      obtain ⟨hj, rfl⟩ := List.getElem?_eq_some_iff.1 hb
      exact List.pairwise_iff_getElem.1 h.ordered i j hi hj hlt
    · obtain rfl := Option.some.inj (ha.symm.trans hb)
      exact ⟨le_refl _, le_refl _, le_refl _, le_refl _⟩
  have hi := h.numbered i a ha
  have hj := h.numbered j b hb
  have hsince := hbefore.since
  have hslept := backoff_le_slept hbefore.retries hbefore.limits
  have hcount :
      j - i - (b.secrets - a.secrets) = b.retries - a.retries + (b.limits - a.limits) := by
    have hsecrets := hbefore.secrets
    have hretries := hbefore.retries
    have hlimits := hbefore.limits
    omega
  rw [hcount]
  unfold Since at hsince
  omega

end

end Supervisor

namespace SampleSupervisor

/-- What a status says of the installation. -/
def ctx : StatusContext := ⟨some "/etc/playit/playit.toml", "1.0.0", 0, 1⟩

/-- `serde_json::from_str`, at one text. -/
def parse (payload : String) : Option ProtoRegisterError :=
  if payload = "\"AgentDisabledOverLimit\"" then some .agentDisabledOverLimit else none

/-- The secret is in a file. -/
def source : SecretSource := .file "/etc/playit/playit.toml"

/-- The four steps of a publication, and what follows it. -/
def publishing : List Supervisor.Action := List.replicate 5 (.publish 0)

/-- An agent is to be set up. -/
def turning : List Supervisor.Action := [.turn 0, .rundata 0] ++ publishing

/-- The tunnel servers cannot be reached, so a second setup follows a second later. -/
def retried : List Supervisor.Action :=
  [.load 0 (.ready "00")] ++ publishing ++ turning ++ [.createFails 0 .failedToConnect] ++
    publishing ++ [.pass 1000, .wake] ++ turning

end SampleSupervisor

open Supervisor SampleSupervisor in
/-- The second setup comes after the first delay. -/
theorem supervisor_backs_off_sample :
    ∃ s₀ trace s a b, start ctx SampleSupervisor.source 0 0 = .ok s₀ ∧
      Run (step ctx parse) s₀ trace s ∧
      s.attempts = [a, b] ∧ a.time + backoff 1 ≤ b.time := by
  obtain ⟨s, hs, hattempts⟩ : ∃ s,
      takes (next ctx parse)
        (spawned ctx SampleSupervisor.source 0 0) retried = some s ∧
      s.attempts = [⟨"00", 0, 1, 0, 0⟩, ⟨"00", 1000, 1, 1, 0⟩] :=
    ⟨_, rfl, rfl⟩
  have hstart : start ctx SampleSupervisor.source 0 0 =
      .ok (spawned ctx SampleSupervisor.source 0 0) := rfl
  have hrun := Run.takes .nil hs
  have hspaced := supervisor_backs_off hstart hrun 0 1 _ _ (by decide)
    (by rw [hattempts]; rfl) (by rw [hattempts]; rfl)
  exact ⟨_, _, s, _, _, hstart, hrun, hattempts, hspaced⟩

end PlayitAgent
