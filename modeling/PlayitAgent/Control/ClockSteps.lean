import PlayitAgent.Control.Reconnecting

/-!
# Clocks that go back

`MaintainedControl::update` subtracts the times that it has noted from later readings of the clock.
The clock is a wall clock, and may go back in between. An update computes what it should when the
two readings that it compares with earlier ones are not behind them: the one at the beginning of its
upkeep is not behind the last ping and the last keep-alive, and the one at its end is not behind the
reading at which the last pong was noted.
-/

namespace PlayitAgent

open Future

section
variable {I A W S E : Type} {p : Platform}

/-! ## Pongs that are noted -/

/-- The reading of the clock at which `update` has noted the last pong of the endpoint `addr`: the
newest one while such a pong was worked on, and `start` when there was none. What is older than the
last `since` events, that is what happened before the session could be used, does not count. -/
def Platform.pongNotedAt (p : Platform) (addr : SocketAddr) (start : UInt64) (since : ℕ) :
    List (ControlEvent I × W) → UInt64
  | [] => start
  | (ev, _) :: log =>
    if log.length < since then start else
      match ev with
      | .read t =>
        if ((current log).bind (p.pongFrom addr)).isSome then t
        else p.pongNotedAt addr start since log
      | _ => p.pongNotedAt addr start since log

/-- The event is no reading of the clock. -/
def Event.Unnoted : ControlEvent I → Prop
  | .read _ => False
  | _ => True

/-- Datagrams that are exchanged are none. -/
theorem Event.Exchange.unnoted {ev : ControlEvent I} (h : ev.Exchange) : ev.Unnoted := by
  unfold Event.Exchange at h
  unfold Event.Unnoted
  split at h <;> trivial

section
variable {addr : SocketAddr} {start : UInt64} {since : ℕ} {log : List (ControlEvent I × W)}

/-- When the session can be used, no pong has been noted since. -/
theorem pongNotedAt_start (h : log.length ≤ since) :
    p.pongNotedAt addr start since log = start := by
  cases log with
  | nil => rfl
  | cons e log =>
    have hlt : log.length < since := h
    exact if_pos hlt

/-- Other events leave the last pong that was noted. -/
theorem pongNotedAt_cons (hsince : since ≤ log.length) {ev : ControlEvent I} (hev : ev.Unnoted)
    (w : W) :
    p.pongNotedAt addr start since ((ev, w) :: log) = p.pongNotedAt addr start since log := by
  have hle : ¬log.length < since := by omega
  cases ev with
  | read t => exact hev.elim
  | _ => exact if_neg hle

/-- A reading of the clock while no pong is worked on leaves the last pong that was noted. -/
theorem pongNotedAt_read (hsince : since ≤ log.length)
    (h : (current log).bind (p.pongFrom addr) = none) (t : UInt64) (w : W) :
    p.pongNotedAt addr start since ((.read t, w) :: log) = p.pongNotedAt addr start since log := by
  rw [Platform.pongNotedAt, if_neg (by omega), h]
  rfl

/-- A reading of the clock while a pong is worked on. -/
theorem pongNotedAt_pong (hsince : since ≤ log.length) {pong : Pong}
    (h : (current log).bind (p.pongFrom addr) = some pong) (t : UInt64) (w : W) :
    p.pongNotedAt addr start since ((.read t, w) :: log) = t := by
  rw [Platform.pongNotedAt, if_neg (by omega), h]
  rfl

end

/-! ## Messages -/

/-- The future stops only when it panics. -/
def Prompt {α : Type} (r : Except (Stop E) α) : Prop :=
  ∀ s, r = .error s → ∃ reason, s = .panicked reason

/-- A result. -/
theorem prompt_ok {α : Type} (a : α) : Prompt (E := E) (.ok a) := by
  intro s hs
  cases hs

section
variable {env : Env UInt64 W S} {c : ControlConfig I W S} {α β : Type}

/-- One future after another. -/
theorem prompt_bind {x : ControlM I W S E α} {f : α → ControlM I W S E β}
    (hx : wp env x c fun r _ => Prompt r) (hf : ∀ a c, wp env (f a) c fun r _ => Prompt r) :
    wp env (x >>= f) c fun r _ => Prompt r := by
  refine wp_bind hx (fun a c' _ => hf a c') fun s c' hs s' hs' => ?_
  cases hs'
  exact hs s rfl

/-- An overflow. -/
theorem prompt_overflow (site : Site) (wrapped : α) :
    wp env (overflow (E := E) p site wrapped) c fun r _ => Prompt r := by
  unfold overflow
  apply wp_act_bind
  split
  · refine wp_panic fun s hs => ?_
    cases hs
    exact ⟨_, rfl⟩
  · exact wp_pure (prompt_ok _)

/-- `a - b` on `u64`. -/
theorem prompt_subU64 (site : Site) (a b : UInt64) :
    wp env (subU64 (E := E) p site a b) c fun r _ => Prompt r := by
  unfold subU64
  split
  · exact wp_pure (prompt_ok _)
  · exact prompt_overflow site _

/-- `a + b` on `u64`. -/
theorem prompt_addU64 (site : Site) (a b : UInt64) :
    wp env (addU64 (E := E) p site a b) c fun r _ => Prompt r := by
  unfold addU64
  split
  · exact wp_pure (prompt_ok _)
  · exact prompt_overflow site _

end

namespace EstablishedControl

variable {env : Env UInt64 W (EstablishedControl I A)}
  {c : ControlConfig I W (EstablishedControl I A)}

/-- What is done with a pong stops only when it panics. -/
theorem onPong_prompt (pong : Pong) :
    wp env (onPong (E := E) p pong) c fun r _ => Prompt r := by
  have hmodify (f : EstablishedControl I A → EstablishedControl I A)
      (c : ControlConfig I W (EstablishedControl I A)) :
      wp env (Future.modify (E := E) f) c fun r _ => Prompt r := wp_modify (prompt_ok _)
  unfold onPong subI64 absI64 onSessionExpireAt
  refine wp_now_bind (prompt_bind (prompt_subU64 _ _ _) fun server_ts c => ?_)
  refine prompt_bind ?_ fun clock_offset c => prompt_bind (hmodify _ c) fun _ c => ?_
  · split
    · exact wp_pure (prompt_ok _)
    · exact prompt_overflow _ _
  refine prompt_bind ?_ fun _ c => prompt_bind (hmodify _ c) fun _ c => ?_
  · split
    · exact prompt_overflow _ _
    · exact wp_pure (prompt_ok _)
  split
  · refine prompt_bind (hmodify _ c) fun _ c => prompt_bind (prompt_subU64 _ _ _) fun ttl c => ?_
    refine prompt_bind (prompt_addU64 _ _ _) fun sum c => ?_
    exact prompt_bind (prompt_subU64 _ _ _) fun expires_at c => hmodify _ c
  · exact wp_pure (prompt_ok _)

/-- A message of the endpoint, or none: `recv_feed_msg` reads the clock only while it works on a
pong. -/
theorem recvFeedMsg_notedAt {addr : SocketAddr} {start : UInt64} {since : ℕ}
    (hsince : since ≤ c.log.length) :
    wp env (recvFeedMsg p) c fun r c' =>
      (∀ feed, r = .ok feed → feed.pong? = none →
        p.pongNotedAt addr start since c'.log = p.pongNotedAt addr start since c.log) ∧
      ∀ s, r = .error s → (∀ reason, s ≠ .panicked reason) →
        p.pongNotedAt addr start since c'.log = p.pongNotedAt addr start since c.log := by
  have hother (ev : ControlEvent I) (hev : ev.Unnoted) (w : W) :
      p.pongNotedAt addr start since ((ev, w) :: c.log) = p.pongNotedAt addr start since c.log :=
    pongNotedAt_cons hsince hev w
  unfold recvFeedMsg
  refine wp_bind (Q := fun _ c' =>
    p.pongNotedAt addr start since c'.log = p.pongNotedAt addr start since c.log) ?_ ?_ ?_
  · apply wp_zoom
    refine ConnectedControl.wp_recv_pong (fun _ _ _ _ _ => ?_) (fun _ _ _ => ?_) (fun _ _ _ => ?_)
      fun _ => rfl
    · exact hother (.answered _) trivial _
    · exact hother (.answered _) trivial _
    · exact hother (.elapsed _) trivial _
  · intro feed c₁ h₁
    cases hpong : feed.pong? with
    | none =>
      -- Only a pong makes it read the clock.
      have hfeed : wp env (onFeed (E := ControlError) p feed) c₁ fun _ c' =>
          p.pongNotedAt addr start since c'.log = p.pongNotedAt addr start since c.log := by
        unfold onFeed
        split
        · split
          · exact wp_modify h₁
          · rename_i response _ pong hcontent
            obtain ⟨request_id, content⟩ := response
            cases hcontent
            cases hpong
          · exact wp_modify h₁
          · exact wp_modify h₁
          · exact wp_modify h₁
          · exact wp_pure h₁
        · exact wp_pure h₁
      refine wp_bind hfeed (fun _ c₂ h₂ => wp_pure ⟨fun _ _ _ => h₂, fun _ _ _ => h₂⟩) ?_
      intro s c₂ h₂
      exact ⟨fun _ _ _ => h₂, fun _ _ _ => h₂⟩
    | some pong =>
      -- A pong is returned, or the arithmetic on its times panics.
      have hprompt : wp env (onFeed (E := ControlError) p feed) c₁ fun r _ => Prompt r := by
        unfold onFeed
        split
        · split
          · exact wp_modify (prompt_ok _)
          · exact onPong_prompt _
          · exact wp_modify (prompt_ok _)
          · exact wp_modify (prompt_ok _)
          · exact wp_modify (prompt_ok _)
          · exact wp_pure (prompt_ok _)
        · exact wp_pure (prompt_ok _)
      refine wp_bind hprompt ?_ ?_
      · intro _ c₂ _
        refine wp_pure ⟨fun feed' hfeed' hnone => ?_, fun s hs => ?_⟩
        · cases hfeed'
          rw [hpong] at hnone
          cases hnone
        · cases hs
      · intro s c₂ hs
        obtain ⟨reason, rfl⟩ := hs s rfl
        refine ⟨fun feed' hfeed' => ?_, fun s hs hne => ?_⟩
        · cases hfeed'
        · cases hs
          exact absurd rfl (hne reason)
  · intro s c₁ h₁
    exact ⟨fun _ _ _ => h₁, fun _ _ _ => h₁⟩

end EstablishedControl

/-! ## Times -/

/-- What may be said of the times of the upkeep, at an event: nothing has overflowed, and the
endpoint has stopped responding only when the newest reading of the clock is more than six seconds
after the last pong. -/
def RightAt (view : MaintainedControl I A) (older : List (ControlEvent I × W)) :
    ControlEvent I → Prop
  | .did (.overflow site) => site ≠ .lastPing ∧ site ≠ .lastKeepAlive ∧ site ≠ .lastPong
  | .did .stoppedResponding =>
    ∃ now ∈ (readings older).head?, view.last_pong.toNat + 6000 < now.toNat
  | _ => True

/-- All that has happened is right about the times of the upkeep. -/
def TimesRight (log : List (ControlEvent I × MaintainedControl I A)) : Prop :=
  ∀ ev view older, (ev, view) :: older <:+ log → RightAt view older ev

section
variable {log : List (ControlEvent I × MaintainedControl I A)}

/-- Nothing has happened. -/
theorem timesRight_nil : TimesRight (I := I) (A := A) [] := by
  intro ev view older h
  cases List.suffix_nil.1 h

/-- Another event. -/
theorem TimesRight.cons (h : TimesRight log) {ev : ControlEvent I} {view : MaintainedControl I A}
    (hev : RightAt view log ev) : TimesRight ((ev, view) :: log) := by
  intro ev' view' older hsuffix
  rcases List.suffix_cons_iff.1 hsuffix with heq | hsuffix
  · cases heq
    exact hev
  · exact h ev' view' older hsuffix

/-- What is quiet says nothing about the times of the upkeep. -/
theorem Event.Quiet.rightAt {ev : ControlEvent I} (h : ev.Quiet) (view : MaintainedControl I A)
    (older : List (ControlEvent I × W)) : RightAt view older ev := by
  cases ev with
  | did a =>
    cases a with
    | overflow site =>
      cases site with
      | lastPing => cases h
      | lastKeepAlive => cases h
      | lastPong => cases h
      | lastUdpAuth => cases h
      | _ => exact ⟨by simp, by simp, by simp⟩
    | stoppedResponding => exact h.elim
    | _ => trivial
  | _ => trivial

/-- Quiet steps. -/
theorem TimesRight.steps {U : ControlConfig I (MaintainedControl I A) S → (S → S) → Prop}
    {env : Env UInt64 (MaintainedControl I A) S}
    {c₀ c : ControlConfig I (MaintainedControl I A) S} (h : TimesRight c₀.log)
    (hsteps : Steps Event.Quiet U env c₀ c) : TimesRight c.log := by
  refine hsteps.invariant (J := fun c : ControlConfig I (MaintainedControl I A) S =>
    TimesRight c.log) h ?_ ?_ fun _ _ h _ => h
  · intro c h
    exact h.cons trivial
  · intro c ev h hev
    exact h.cons (hev.rightAt _ _)

end

namespace MaintainedControl

variable {clock : ℕ → UInt64} {addr : SocketAddr} {start : UInt64} {since : ℕ}
  {c : ControlConfig I (MaintainedControl I A) (MaintainedControl I A)}

/-- Where an update stands: nothing wrong has happened, and the last pong was noted at the reading
that it should be. -/
structure OnTime (p : Platform) (addr : SocketAddr) (start : UInt64) (since : ℕ)
    (c : ControlConfig I (MaintainedControl I A) (MaintainedControl I A)) : Prop where
  right : TimesRight c.log
  since_le : since ≤ c.log.length
  last_pong : c.state.last_pong = p.pongNotedAt addr start since c.log
  control_addr : c.state.control.conn.control_addr = addr

/-- An event that is right about the times, and notes none. -/
theorem OnTime.record (h : OnTime p addr start since c) {ev : ControlEvent I}
    (hev : RightAt c.state c.log ev) (hunnoted : ev.Unnoted) :
    OnTime p addr start since (c.record (ControlOp.whole clock) ev) where
  right := h.right.cons hev
  since_le := h.since_le.trans (Nat.le_succ _)
  last_pong := h.last_pong.trans (pongNotedAt_cons h.since_le hunnoted _).symm
  control_addr := h.control_addr

/-- Datagrams that are exchanged leave the last pong that was noted. -/
theorem pongNotedAt_append {log : List (ControlEvent I × W)} (hsince : since ≤ log.length)
    (new : List (ControlEvent I × W)) (hnew : ∀ e ∈ new, e.1.Exchange) :
    p.pongNotedAt addr start since (new ++ log) = p.pongNotedAt addr start since log := by
  induction new with
  | nil => rfl
  | cons e new ih =>
    have htail := ih fun e he => hnew e (List.mem_cons_of_mem _ he)
    have hlength : since ≤ (new ++ log).length := by
      rw [List.length_append]
      omega
    exact (pongNotedAt_cons hlength (hnew e List.mem_cons_self).unnoted e.2).trans htail

/-- A request under a timer. -/
theorem OnTime.sendOrExpire (h : OnTime p addr start since c)
    {x : ControlM I (MaintainedControl I A) (EstablishedControl I A) ControlError Unit}
    (hx : EstablishedControl.Tends x) (hlog : ∀ env c, wp env x c fun _ c' =>
      ∃ new, c'.log = new ++ c.log ∧ ∀ e ∈ new, e.1.Exchange) :
    wp (ControlOp.whole clock) (MaintainedControl.sendOrExpire (E := E) x) c
      (Kept (fun c' => OnTime p addr start since c' ∧
        c'.state.last_keep_alive = c.state.last_keep_alive) fun _ _ => True) := by
  have hsend : wp (ControlOp.whole clock) (onControl x) c
      (Kept (fun c' => OnTime p addr start since c' ∧
        c'.state.last_keep_alive = c.state.last_keep_alive) fun _ _ => True) := by
    refine wp_mono (onControl_steps (P := fun _ c' =>
      c'.state.conn.control_addr = c.state.control.conn.control_addr ∧
        ∃ new, c'.log = new ++ c.log ∧ ∀ e ∈ new, e.1.Exchange) fun env' =>
      wp_mono (wp_and (hx env' _) (hlog env' _)) fun _ _ hr =>
        ⟨hr.1.1, EstablishedControl.control_addr_of_steps hr.1.1, hr.2⟩) ?_
    -- What the request adds to the log are datagrams, none of which notes a pong.
    rintro r c' ⟨hsteps, ⟨haddr, new, hnew, hall⟩, hstate⟩
    refine ⟨⟨⟨h.right.steps hsteps, h.since_le.trans hsteps.length_le, ?_,
      haddr.trans h.control_addr⟩, ?_⟩, fun _ _ => trivial⟩
    · rw [hstate]
      refine h.last_pong.trans ?_
      rw [show c'.log = new ++ c.log from hnew]
      exact (pongNotedAt_append h.since_le new hall).symm
    · rw [hstate]
  unfold MaintainedControl.sendOrExpire
  refine kept_bind (kept_attempt (kept_tryTimeout hsend)) fun r c₁ h₁ _ => ?_
  obtain ⟨h₁, hkeep⟩ := h₁
  split
  · exact kept_pure ⟨h₁, hkeep⟩ trivial
  · exact wp_modify ⟨⟨⟨h₁.right, h₁.since_le, h₁.last_pong, h₁.control_addr⟩, hkeep⟩,
      fun _ _ => trivial⟩

/-- `a - b` on `u64` that does not overflow does nothing else. -/
theorem wp_subU64_of_le {env : Env UInt64 W S} {c : ControlConfig I W S} {site : Site}
    {a b : UInt64} (hle : b ≤ a) {Φ : Except (Stop E) UInt64 → ControlConfig I W S → Prop}
    (h : Φ (.ok (a - b)) c) :
    wp env (subU64 p site a b) c Φ := by
  unfold subU64
  rw [if_pos hle]
  exact wp_pure h

/-- A request that is sent when it is due. -/
theorem OnTime.request {due : Prop} [Decidable due] (h : OnTime p addr start since c)
    {f : MaintainedControl I A → MaintainedControl I A}
    (hcontrol : ∀ self, (f self).control = self.control)
    (hpong : ∀ self, (f self).last_pong = self.last_pong)
    {x : ControlM I (MaintainedControl I A) (EstablishedControl I A) ControlError Unit}
    (hx : EstablishedControl.Tends x) (hlog : ∀ env c, wp env x c fun _ c' =>
      ∃ new, c'.log = new ++ c.log ∧ ∀ e ∈ new, e.1.Exchange) :
    wp (ControlOp.whole clock) (if due then do modify (E := E) f; MaintainedControl.sendOrExpire x
      else pure ()) c (Kept (fun c' => OnTime p addr start since c' ∧
        (c'.state.last_keep_alive = c.state.last_keep_alive ∨
          c'.state.last_keep_alive = (f c.state).last_keep_alive)) fun _ _ => True) := by
  split
  · apply wp_modify_bind
    have hnoted : OnTime p addr start since (c.update f) := by
      refine ⟨h.right, h.since_le, (hpong c.state).trans h.last_pong, ?_⟩
      show (f c.state).control.conn.control_addr = addr
      rw [hcontrol]
      exact h.control_addr
    exact wp_mono (hnoted.sendOrExpire hx hlog) fun _ _ hr => ⟨⟨hr.1.1, .inr hr.1.2⟩, hr.2⟩
  · exact kept_pure ⟨h, .inl rfl⟩ trivial

/-- A ping exchanges datagrams at most. -/
theorem sendPing_exchanges {env : Env UInt64 W (EstablishedControl I A)}
    {c : ControlConfig I W (EstablishedControl I A)} (request_id now : UInt64) :
    wp env (EstablishedControl.sendPing p request_id now) c fun _ c' =>
      ∃ new, c'.log = new ++ c.log ∧ ∀ e ∈ new, e.1.Exchange := by
  unfold EstablishedControl.sendPing
  apply wp_get_bind
  exact wp_mono (EstablishedControl.send_framed _ _) fun _ _ hr => hr.2.2

/-- So does a keep-alive. -/
theorem sendKeepAlive_exchanges {env : Env UInt64 W (EstablishedControl I A)}
    {c : ControlConfig I W (EstablishedControl I A)} (request_id : UInt64) :
    wp env (EstablishedControl.sendKeepAlive p request_id) c fun _ c' =>
      ∃ new, c'.log = new ++ c.log ∧ ∀ e ∈ new, e.1.Exchange := by
  unfold EstablishedControl.sendKeepAlive
  apply wp_get_bind
  exact wp_mono (EstablishedControl.send_framed _ _) fun _ _ hr => hr.2.2

/-- The ping. -/
theorem OnTime.pingIfDue (h : OnTime p addr start since c) {now : UInt64}
    (hle : c.state.last_ping ≤ now) :
    wp (ControlOp.whole clock) (MaintainedControl.pingIfDue (E := E) p now) c
      (Kept (fun c' => OnTime p addr start since c' ∧
        c'.state.last_keep_alive = c.state.last_keep_alive) fun _ _ => True) := by
  unfold MaintainedControl.pingIfDue
  apply wp_get_bind
  refine wp_bind (Q := fun r c' => r = .ok (now - c.state.last_ping) ∧ c' = c)
    (wp_subU64_of_le hle ⟨rfl, rfl⟩) ?_ fun s c₁ h₁ => by cases h₁.1
  rintro since c₁ ⟨-, hc₁⟩
  subst hc₁
  refine wp_mono (h.request (f := fun self => { self with last_ping := now }) (fun _ => rfl)
    (fun _ => rfl)
    (fun env c => wp_get_bind (EstablishedControl.send_tends _ _ env c))
    fun env c => sendPing_exchanges _ _) fun r c' hr => ⟨⟨hr.1.1, ?_⟩, hr.2⟩
  rcases hr.1.2 with hkeep | hkeep
  · exact hkeep
  · exact hkeep

/-- The keep-alive. -/
theorem OnTime.keepAliveIfDue (h : OnTime p addr start since c) {now : UInt64}
    (hle : c.state.last_keep_alive ≤ now) :
    wp (ControlOp.whole clock) (MaintainedControl.keepAliveIfDue (E := E) p now) c
      (Kept (OnTime p addr start since) fun _ _ => True) := by
  unfold MaintainedControl.keepAliveIfDue
  apply wp_get_bind
  refine wp_bind (Q := fun r c' => r = .ok (now - c.state.last_keep_alive) ∧ c' = c)
    (wp_subU64_of_le hle ⟨rfl, rfl⟩) ?_ fun s c₁ h₁ => by cases h₁.1
  rintro since c₁ ⟨-, hc₁⟩
  subst hc₁
  exact wp_mono (h.request (f := fun self => { self with last_keep_alive := now }) (fun _ => rfl)
    (fun _ => rfl)
    (fun env c => wp_get_bind (EstablishedControl.send_tends _ _ env c))
    fun env c => sendKeepAlive_exchanges _) fun r c' hr => ⟨hr.1.1, hr.2⟩

/-- A message, or none, in one turn of the loop: the last pong is noted as it should be, unless the
message is a pong, which is worked on. -/
theorem OnTime.recvFeedMsg (h : OnTime p addr start since c) :
    wp (ControlOp.whole clock) (timeout (F := E) (onControl (EstablishedControl.recvFeedMsg p))) c
      (Kept (fun c' => TimesRight c'.log) fun r c' =>
        (∀ feed, r = some (.ok feed) → feed.pong? = none → OnTime p addr start since c') ∧
        (∀ feed pong, r = some (.ok feed) → feed.pong? = some pong →
          since ≤ c'.log.length ∧ c'.state.control.conn.control_addr = addr ∧
            (current c'.log).bind (p.pongFrom addr) = some pong) ∧
        ((∀ feed, r ≠ some (.ok feed)) → OnTime p addr start since c')) := by
  unfold timeout
  apply wp_mapResult
  refine wp_mono (onControl_steps (R := Event.Quiet) (P := fun r c' =>
    c'.state.conn.control_addr = c.state.control.conn.control_addr ∧
    (∀ feed, r = .ok feed → (current c'.log).bind (p.pongFrom c'.state.conn.control_addr) =
      feed.pong?) ∧
    (∀ feed, r = .ok feed → feed.pong? = none →
      p.pongNotedAt addr start since c'.log = p.pongNotedAt addr start since c.log) ∧
    ∀ s, r = .error s → (∀ reason, s ≠ .panicked reason) →
      p.pongNotedAt addr start since c'.log = p.pongNotedAt addr start since c.log) ?_) ?_
  · -- The message is the one of the datagram that is worked on.
    intro env'
    refine wp_mono (wp_and (EstablishedControl.recvFeedMsg_steps .refl)
      (EstablishedControl.recvFeedMsg_notedAt h.since_le)) fun r c' hr =>
      ⟨hr.1.1, EstablishedControl.control_addr_of_steps hr.1.1, fun feed hfeed => ?_, hr.2⟩
    obtain ⟨d, hd, hsource, hread⟩ := hr.1.2 feed hfeed
    rw [hd]
    show p.pongFrom _ d = _
    unfold Platform.pongFrom
    rw [if_pos hsource, hread]
  · rintro r c' ⟨hsteps, ⟨haddr, hpong, hnone, herror⟩, hstate⟩
    have hright := h.right.steps hsteps
    have hsince := h.since_le.trans hsteps.length_le
    have haddr := haddr.trans h.control_addr
    -- Without a pong the session is on time as before.
    have hontime (hsame : p.pongNotedAt addr start since c'.log =
        p.pongNotedAt addr start since c.log) : OnTime p addr start since c' := by
      refine ⟨hright, hsince, ?_, haddr⟩
      rw [hstate, hsame]
      exact h.last_pong
    refine ⟨hright, fun a ha => ⟨?_, ?_, ?_⟩⟩
    · rintro feed rfl hfeed
      rcases r with (_ | (_ | _) | _ | _) | feed'
      all_goals cases ha
      exact hontime (hnone feed rfl hfeed)
    · rintro feed pong rfl hfeed
      rcases r with (_ | (_ | _) | _ | _) | feed'
      all_goals cases ha
      refine ⟨hsince, haddr, ?_⟩
      rw [← haddr, ← hfeed]
      exact hpong feed rfl
    · intro hne
      rcases r with (_ | (_ | _) | _ | _) | feed'
      · exact hontime (herror _ rfl (by simp))
      · exact hontime (herror _ rfl (by simp))
      · cases ha
      · cases ha
      · cases ha
      · cases ha
        exact absurd rfl (hne feed')

/-- What is done with a message: a pong is noted. -/
theorem onUpdateFeed_onTime (timeouts : ℕ) (feed : ControlFeed) (hright : TimesRight c.log)
    (hother : feed.pong? = none → OnTime p addr start since c)
    (hpong : ∀ pong, feed.pong? = some pong → since ≤ c.log.length ∧
      c.state.control.conn.control_addr = addr ∧
      (current c.log).bind (p.pongFrom addr) = some pong) :
    wp (ControlOp.whole clock) (onUpdateFeed (E := E) timeouts feed) c
      (Kept (fun c' => TimesRight c'.log) fun _ c' => OnTime p addr start since c') := by
  unfold onUpdateFeed
  split
  · exact kept_pure hright (hother rfl)
  · exact kept_pure hright (hother rfl)
  · rename_i msg
    obtain ⟨request_id, content⟩ := msg
    split
    · rename_i hcontent
      cases hcontent
      exact kept_pure hright (hother rfl)
    · rename_i hcontent
      cases hcontent
      have h := hother rfl
      refine wp_bind (Q := fun r c' => r = .ok () ∧ OnTime p addr start since c') ?_ ?_
        fun s c₁ h₁ => by cases h₁.1
      · refine wp_setControlState fun c' hset => ⟨rfl, ?_⟩
        have hsent : OnTime p addr start since (c.update (sent .reconnecting)) :=
          ⟨h.right, h.since_le, h.last_pong, h.control_addr⟩
        cases hset with
        | same _ => exact h
        | published _ _ => exact hsent.record trivial trivial
        | lost _ _ => exact hsent
      · rintro _ c₁ ⟨-, h₁⟩
        apply wp_modify_bind
        exact kept_pure h₁.right ⟨h₁.right, h₁.since_le, h₁.last_pong, h₁.control_addr⟩
    · rename_i pong hcontent
      cases hcontent
      obtain ⟨hsince, haddr, hcurrent⟩ := hpong pong rfl
      -- The reading at which the pong is noted is the one that `pongNotedAt` finds.
      apply wp_now_bind
      apply wp_modify_bind
      have hright' : TimesRight (c.tick (ControlOp.whole clock)).log := hright.cons trivial
      refine kept_pure hright' ⟨hright', hsince.trans (Nat.le_succ _), ?_, haddr⟩
      exact (pongNotedAt_pong hsince hcurrent _ _).symm
    · rename_i hcontent
      refine kept_pure hright (hother ?_)
      unfold ControlFeed.pong?
      split
      · rename_i heq
        cases heq
        exact absurd rfl (hcontent _)
      · rfl

/-- One turn of the loop. -/
theorem OnTime.updateTurn (h : OnTime p addr start since c) (timeouts : ℕ) :
    wp (ControlOp.whole clock) (MaintainedControl.updateTurn (E := E) p timeouts) c
      (Kept (fun c' => TimesRight c'.log) fun _ c' => OnTime p addr start since c') := by
  unfold MaintainedControl.updateTurn
  refine kept_bind h.recvFeedMsg fun r c₁ h₁ hr => ?_
  obtain ⟨hother, hpong, hnone⟩ := hr
  split
  · rename_i feed
    exact onUpdateFeed_onTime timeouts feed h₁ (hother feed rfl) fun pong => hpong feed pong rfl
  · exact kept_pure h₁ (hnone fun feed hfeed => by cases hfeed)
  · have h₁' := hnone fun feed hfeed => by cases hfeed
    split
    · exact kept_pure h₁ h₁'
    · exact kept_pure h₁ h₁'

/-- What is due is sent, and messages are received. -/
theorem OnTime.tend (h : OnTime p addr start since c)
    (hcurrent : (current c.log).bind (p.pongFrom addr) = none)
    (hping : c.state.last_ping ≤ clock c.ticks) (hkeep : c.state.last_keep_alive ≤ clock c.ticks) :
    wp (ControlOp.whole clock) (MaintainedControl.tend (E := E) p) c
      (Kept (fun c' => TimesRight c'.log) fun r c' => r = none → OnTime p addr start since c') := by
  unfold MaintainedControl.tend
  apply wp_now_bind
  -- The reading at the start notes nothing, since no pong is worked on.
  have h₁ : OnTime p addr start since (c.tick (ControlOp.whole clock)) := by
    refine ⟨h.right.cons trivial, h.since_le.trans (Nat.le_succ _), h.last_pong.trans ?_,
      h.control_addr⟩
    exact (pongNotedAt_read h.since_le hcurrent _ _).symm
  refine wp_bind (h₁.pingIfDue hping) ?_ fun s c₂ h₂ => kept_error h₂.1.1.right
  rintro _ c₂ ⟨⟨h₂, hsame⟩, -⟩
  have hkeep₂ : c₂.state.last_keep_alive ≤ clock c.ticks := by
    rw [hsame]
    exact hkeep
  refine wp_bind (h₂.keepAliveIfDue hkeep₂) ?_ fun s c₃ h₃ => kept_error h₃.1.right
  rintro _ c₃ ⟨h₃, -⟩
  -- Every turn of the loop leaves the session on time, or ends the update.
  refine kept_mono (kept_forLoop_all (J := fun _ c => OnTime p addr start since c)
    (K := OnTime p addr start since) (P := fun _ _ => True) ?_ (fun _ _ h => h) 30 0 h₃.right h₃)
    fun r c' _ hr => hr.1
  intro timeouts c _ h
  exact kept_mono (h.updateTurn timeouts) fun r c' _ hr =>
    ⟨fun _ _ => hr, fun _ => hr, fun _ _ => trivial⟩

/-- The check at the end: the endpoint has stopped responding only when it should. -/
theorem OnTime.checkPong (h : OnTime p addr start since c)
    (hle : c.state.last_pong ≠ 0 → c.state.last_pong ≤ clock c.ticks) :
    wp (ControlOp.whole clock) (MaintainedControl.checkPong (E := E) p) c fun _ c' =>
      TimesRight c'.log := by
  unfold MaintainedControl.checkPong
  apply wp_get_bind
  split
  · rename_i hne
    have hle := hle hne
    apply wp_now_bind
    have hright : TimesRight (c.tick (ControlOp.whole clock)).log := h.right.cons trivial
    refine wp_bind (Q := fun r c' => r = .ok (clock c.ticks - c.state.last_pong) ∧
      c' = c.tick (ControlOp.whole clock)) (wp_subU64_of_le hle ⟨rfl, rfl⟩) ?_
      fun s c₁ h₁ => by cases h₁.1
    rintro since c₁ ⟨hsince, hc₁⟩
    subst hc₁
    injection hsince with hsince
    split
    · -- The difference is exact, so it says how old the pong is.
      rename_i hlate
      have hstopped : TimesRight ((c.tick (ControlOp.whole clock)).record (ControlOp.whole clock)
          (.did .stoppedResponding)).log := by
        refine hright.cons ⟨clock c.ticks, rfl, ?_⟩
        show c.state.last_pong.toNat + 6000 < (clock c.ticks).toNat
        rw [hsince, UInt64.lt_iff_toNat_lt, UInt64.toNat_sub_of_le _ _ hle] at hlate
        have hbound := UInt64.le_iff_toNat_le.1 hle
        have hconst : (6000 : UInt64).toNat = 6000 := rfl
        omega
      apply wp_act_bind
      apply wp_modify_bind
      refine wp_bind (Q := fun _ c' => TimesRight c'.log) ?_ (fun _ c₂ h₂ => wp_modify h₂)
        fun _ _ h => h
      refine wp_setControlState fun c' hset => ?_
      rcases hset.log_eq with heq | ⟨w, heq⟩
      · rw [heq]
        exact hstopped
      · rw [heq]
        exact TimesRight.cons hstopped trivial
    · exact wp_pure hright
  · exact wp_pure h.right

/-- The upkeep, under a script whose last reading of the clock is not behind the last pong. -/
theorem OnTime.serve (h : OnTime p addr start since c)
    (hcurrent : (current c.log).bind (p.pongFrom addr) = none)
    (hping : c.state.last_ping ≤ clock c.ticks) (hkeep : c.state.last_keep_alive ≤ clock c.ticks)
    {script : List (Item (Answer I))}
    (hend : let tended := MaintainedControl.tend (E := E) p (ControlOp.whole clock) script c
      let noted := p.pongNotedAt addr start since tended.config.log
      tended.result = .ok none → noted ≠ 0 → noted ≤ clock tended.config.ticks) :
    TimesRight
      (MaintainedControl.serve (E := E) p (ControlOp.whole clock) script c).config.log := by
  obtain ⟨htended, hnone⟩ := h.tend (E := E) hcurrent hping hkeep script
  unfold MaintainedControl.serve
  apply run_bind (Φ := fun _ c' => TimesRight c'.log)
  · intro event hevent
    cases event with
    | some event => exact htended
    | none =>
      have hontime := hnone none hevent rfl
      refine wp_bind (Φ := fun _ c' => TimesRight c'.log) (hontime.checkPong ?_)
        (fun _ _ h => wp_pure h) (fun _ _ h => h) _
      rw [hontime.last_pong]
      exact hend hevent
  · intro stop _
    exact htended

/-- A session that was registered works on its registration, which is no pong. -/
theorem authenticate_current {env : Env UInt64 W (EstablishedControl I A)}
    {c : ControlConfig I W (EstablishedControl I A)} (addr : SocketAddr) :
    wp env (EstablishedControl.authenticate p) c fun r c' => r = .ok () →
      (current c'.log).bind (p.pongFrom addr) = none := by
  unfold EstablishedControl.authenticate
  refine wp_bind (Q := fun r c' => ∀ registered, r = .ok registered →
    (current c'.log).bind (p.pongFrom addr) = none) ?_ ?_ fun s c₁ _ hs => by cases hs
  · apply wp_zoom
    refine wp_mono (ConnectedControl.authenticate_kept ConnectedControl.conserves_steps
      (Steps.refl.record trivial)) fun r c' hr registered hregistered => ?_
    obtain ⟨request_id, d, hd, -, hread⟩ := hr.2 registered hregistered
    rw [show current c'.log = some d from hd]
    show p.pongFrom addr d = none
    unfold Platform.pongFrom
    rw [hread]
    split
    · rfl
    · rfl
  · intro registered c₁ h₁
    apply EstablishedControl.wp_onRegistered
    · intro _ _
      exact h₁ registered rfl
    · intro _ w _
      exact h₁ registered rfl

/-- The time of the last pong once the session can be used: the one that is noted, and for a session
that was expired at `now` the last reading of the clock in its registration. -/
def renewedAt (self : MaintainedControl I A) (now : UInt64) (log : List (ControlEvent I × W)) :
    UInt64 :=
  if self.control.isExpiredAt now = none then self.last_pong
  else (readings log).head?.getD self.last_pong

/-- The session `m` can be used again: it has not moved, and works on no pong. -/
structure Renewed (p : Platform) (m : MaintainedControl I A)
    (c : ControlConfig I (MaintainedControl I A) (MaintainedControl I A)) : Prop where
  control_addr : c.state.control.conn.control_addr = m.control.conn.control_addr
  current : (current c.log).bind (p.pongFrom m.control.conn.control_addr) = none
  last_ping : c.state.last_ping = m.last_ping
  last_keep_alive : c.state.last_keep_alive = m.last_keep_alive

/-- The upkeep of a session that can be used begins on time. -/
theorem Renewed.onTime {m : MaintainedControl I A} (h : Renewed p m c)
    (hright : TimesRight c.log) (hpong : c.state.last_pong = start) :
    OnTime p m.control.conn.control_addr start c.log.length c where
  right := hright
  since_le := le_rfl
  last_pong := hpong.trans (pongNotedAt_start le_rfl).symm
  control_addr := h.control_addr

/-- The registration of an expired session notes the time of its end as that of a pong. -/
theorem reauthenticate_renewed (hright : TimesRight c.log) :
    wp (ControlOp.whole clock) (reauthenticate (E := E) p) c fun r c' => TimesRight c'.log ∧
      (r = .ok true → Renewed p c.state c' ∧
        (readings c'.log).head? = some c'.state.last_pong) := by
  refine wp_reauthenticate (P := fun r c₂ => TimesRight c₂.log ∧
    (r = .ok () → Renewed p c.state c₂)) ?_ (fun _ _ _ h₂ _ => ⟨h₂.1, fun hr => by cases hr⟩) ?_ ?_
  · intro c₁ hset₁
    have h₁ : TimesRight c₁.log := by
      rcases hset₁.log_eq with heq | ⟨w, heq⟩
      · rwa [heq]
      · rw [heq]
        exact hright.cons trivial
    have hstate₁ := hset₁.state_eq
    refine wp_mono (onControl_steps (R := Event.Quiet) (P := fun r c' =>
      c'.state.conn.control_addr = c₁.state.control.conn.control_addr ∧ (r = .ok () →
        (current c'.log).bind (p.pongFrom c.state.control.conn.control_addr) = none)) ?_) ?_
    · intro env'
      exact wp_mono (wp_and (EstablishedControl.authenticate_steps .refl) (authenticate_current _))
        fun _ _ hr => ⟨hr.1.1, EstablishedControl.control_addr_of_steps hr.1.1, hr.2⟩
    · rintro r c' ⟨hsteps, ⟨haddr, hcurrent⟩, hstate⟩
      rw [hstate₁] at haddr hstate
      refine ⟨h₁.steps hsteps, fun hr => ⟨haddr, hcurrent hr, ?_, ?_⟩⟩
      · rw [hstate]
      · rw [hstate]
  · rintro s c₂ ⟨h₂, -⟩ c₃
    refine ⟨⟨?_, fun hr => by cases hr⟩, fun n => ⟨?_, fun hr => by cases hr⟩,
      h₂, fun hr => by cases hr⟩
    · exact TimesRight.cons h₂ trivial
    · exact TimesRight.cons h₂ trivial
  · -- The reading before the state is set is the one that is noted as the last pong.
    rintro c₂ ⟨h₂, hrenewed⟩ c₃ c₄ hset₄
    obtain ⟨haddr, hcurrent, hping, hkeep⟩ := hrenewed rfl
    have hright₃ : TimesRight c₃.log := TimesRight.cons h₂ trivial
    have hrenewed₃ : Renewed p c.state c₃ := ⟨haddr, hcurrent, hping, hkeep⟩
    have hsent : Renewed p c.state (c₃.update (sent .connected)) := ⟨haddr, hcurrent, hping, hkeep⟩
    cases hset₄ with
    | same _ => exact ⟨hright₃, fun _ => ⟨hrenewed₃, rfl⟩⟩
    | published _ _ =>
      exact ⟨hright₃.cons trivial, fun _ => ⟨⟨haddr, hcurrent, hping, hkeep⟩, rfl⟩⟩
    | lost _ _ => exact ⟨hright₃, fun _ => ⟨hsent, rfl⟩⟩

/-- A session that can be used. -/
theorem renew_renewed (m : MaintainedControl I A) (ticks : ℕ) :
    wp (ControlOp.whole clock) (renew (E := E) p) ⟨m, ticks, []⟩ fun r c' => TimesRight c'.log ∧
      (r = .ok true → Renewed p m c' ∧ c'.state.last_pong = m.renewedAt (clock ticks) c'.log) := by
  have hread (w : MaintainedControl I A) :
      TimesRight [((.read (clock ticks), w) : ControlEvent I × MaintainedControl I A)] :=
    timesRight_nil.cons trivial
  unfold renewedAt
  apply wp_renew
  · intro hfresh c' hc'
    have hfresh : m.control.isExpiredAt (clock ticks) = none := hfresh
    rw [if_pos hfresh]
    rcases hc' with rfl | rfl
    · exact ⟨timesRight_nil, fun _ => ⟨⟨rfl, rfl, rfl, rfl⟩, rfl⟩⟩
    · exact ⟨hread _, fun _ => ⟨⟨rfl, rfl, rfl, rfl⟩, rfl⟩⟩
  · intro hexpired c' hc'
    have hexpired : m.control.isExpiredAt (clock ticks) ≠ none := hexpired
    have hlast (c₁ : ControlConfig I (MaintainedControl I A) (MaintainedControl I A))
        (hright : TimesRight c₁.log) (hstate : c₁.state = m) :
        wp (ControlOp.whole clock) (reauthenticate (E := E) p) c₁ fun r c' => TimesRight c'.log ∧
          (r = .ok true → Renewed p m c' ∧ c'.state.last_pong =
            if m.control.isExpiredAt (clock ticks) = none then m.last_pong
            else (readings c'.log).head?.getD m.last_pong) := by
      refine wp_mono (reauthenticate_renewed hright) fun r c' hr => ⟨hr.1, fun htrue => ?_⟩
      obtain ⟨hrenewed, hhead⟩ := hr.2 htrue
      rw [hstate] at hrenewed
      refine ⟨hrenewed, ?_⟩
      rw [if_neg hexpired, hhead]
      rfl
    rcases hc' with rfl | rfl
    · exact hlast _ timesRight_nil rfl
    · exact hlast _ (hread _) rfl

end MaintainedControl

/-! ## Updates -/

namespace ControlOp

variable (p : Platform) (clock : ℕ → UInt64)

/-- The clock is steady in an update: the reading at the beginning of the upkeep, once the session
can be used, is not behind the last ping and the last keep-alive of the session; and the reading at
the end, when no message has ended the update before, is not behind the one at which the last pong
was noted, in this update or before it. -/
def Steady (s : MaintainedControl I A × ℕ) (script : List (Item (Answer I))) : Prop :=
  let renewed := MaintainedControl.renew (E := SetupError) p (whole clock) script ⟨s.1, s.2, []⟩
  renewed.result = .ok true →
    s.1.last_ping ≤ clock renewed.config.ticks ∧ s.1.last_keep_alive ≤ clock renewed.config.ticks ∧
      let tended := MaintainedControl.tend (E := SetupError) p (whole clock) renewed.rest
        renewed.config
      let noted := p.pongNotedAt s.1.control.conn.control_addr
        (s.1.renewedAt (clock s.2) renewed.config.log) renewed.config.log.length tended.config.log
      tended.result = .ok none → noted ≠ 0 → noted ≤ clock tended.config.ticks

variable {p clock}

/-- An update in which the clock is steady is right about all times. -/
theorem timesRight_of_steady {s : MaintainedControl I A × ℕ} {script : List (Item (Answer I))}
    (h : Steady p clock s script) :
    TimesRight (ControlOp.update.ran p clock s script).config.log := by
  obtain ⟨hright, husable⟩ := MaintainedControl.renew_renewed (E := SetupError) s.1 s.2 script
  have hupdate : TimesRight (MaintainedControl.update (E := SetupError) p (whole clock) script
      ⟨s.1, s.2, []⟩).config.log := by
    unfold MaintainedControl.update
    apply run_bind (Φ := fun _ c' => TimesRight c'.log)
    · intro usable hresult
      cases usable with
      | false => exact hright
      | true =>
        obtain ⟨hrenewed, hpong⟩ := husable hresult
        obtain ⟨hping, hkeep, hend⟩ := h hresult
        rw [← hrenewed.last_ping] at hping
        rw [← hrenewed.last_keep_alive] at hkeep
        exact (hrenewed.onTime hright hpong).serve hrenewed.current hping hkeep hend
    · intro stop _
      exact hright
  apply run_bind (Φ := fun _ c' => TimesRight c'.log)
  · intro _ _
    exact hupdate
  · intro _ _
    exact hupdate

/-- Along every run, whatever the environment does and whatever the clock reads, if the clock is
steady in every update, then no time of the upkeep overflows, and the endpoint is said to have
stopped responding only when the newest reading of the clock is more than six seconds after the last
pong that was noted. The last call of the run need not have returned. -/
theorem update_times_right (start : MaintainedControl I A × ℕ)
    (trace : List ((ControlOp I × List (Item (Answer I))) × Ran (Answer I) UInt64 Action
      (MaintainedControl I A) (MaintainedControl I A) SetupError Unit))
    (hsteady : Along (step p clock) (fun s a => a.1 = .update → Steady p clock s a.2) start trace) :
    Along (step p clock) (fun s a => a.1 = .update → TimesRight (a.1.ran p clock s a.2).config.log)
      start trace := by
  intro before a o s hprefix hrun hupdate
  have hright := timesRight_of_steady (hsteady before a o s hprefix hrun hupdate)
  rw [hupdate]
  exact hright

end ControlOp

end

namespace Sample

/-- A clock that goes back by ten seconds after the setup. -/
def backwards (n : ℕ) : UInt64 := if n = 2 then 10000 else 5

/-- The run of `setup` before that. -/
def backwardsRan :
    Ran (Answer Unit) UInt64 Action Unit Unit SetupError (MaintainedControl Unit Unit) :=
  ControlOp.setUp (platform false) backwards () () subscribed (maintainedSetUp (some 60000))

/-- The session that it leaves. -/
def backwardsStarted : MaintainedControl Unit Unit × ℕ :=
  (match backwardsRan.result with
    | .ok m => m
    | .error _ => maintained session, backwardsRan.config.ticks)

/-- An update in which no message arrives. -/
def silent : ControlOp Unit × List (Item (Answer Unit)) := (.update, List.replicate 10 (.elapsed 0))

/-- The time since the last pong has overflowed. -/
def pongOverflows : ControlEvent Unit → Bool
  | .did (.overflow .lastPong) => true
  | _ => false

end Sample

/-- After the clock has gone back, the time since the last pong overflows. -/
theorem ControlOp.not_timesRight_backwards :
    Sample.backwardsRan.result = .ok Sample.backwardsStarted.1 ∧
      ¬TimesRight (Sample.silent.1.ran (Sample.platform false) Sample.backwards
        Sample.backwardsStarted Sample.silent.2).config.log := by
  refine ⟨rfl, fun hright => ?_⟩
  have hany : ((Sample.silent.1.ran (Sample.platform false) Sample.backwards
      Sample.backwardsStarted Sample.silent.2).config.log.any fun e =>
        Sample.pongOverflows e.1) = true := by decide +kernel
  obtain ⟨⟨ev, view⟩, hmem, hoverflows⟩ := List.any_eq_true.1 hany
  obtain ⟨newer, older, hlog⟩ := List.append_of_mem hmem
  have hev : ev = .did (.overflow .lastPong) := by
    unfold Sample.pongOverflows at hoverflows
    split at hoverflows
    · rename_i heq
      exact heq
    · cases hoverflows
  rw [hev] at hlog
  have hat := hright (.did (.overflow .lastPong)) view older ⟨newer, hlog.symm⟩
  exact hat.2.2 rfl

/-- While the clock stands still, nothing of the kind happens. -/
theorem ControlOp.update_times_sample :
    Along (step (Sample.platform true) fun _ => 5) (fun s a => a.1 = .update →
        TimesRight (a.1.ran (Sample.platform true) (fun _ => 5) s a.2).config.log) Sample.started
      [(Sample.silent, Sample.ranOnce Sample.started Sample.silent)] := by
  apply update_times_right
  refine (along_snoc .nil Sample.silent _).2 ⟨along_nil, fun _ _ => ⟨?_, ?_, fun _ _ => ?_⟩⟩
  · decide +kernel
  · decide +kernel
  · decide +kernel

end PlayitAgent
