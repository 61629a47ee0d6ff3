import PlayitAgent.Control.RegisteredFlow

/-!
# The times of a pong

What `recv_feed_msg` computes from a pong: the time that it was under way, how far the two clocks
are apart, and when the session ends on the local clock. It computes on machine integers, three of
which the endpoint chooses, and neither checks them nor saturates throughout.
-/

namespace PlayitAgent

open Future

/-! ## Over the integers -/

/-- The time that a pong was under way: zero, if the local clock was set back. -/
def Pong.rtt (pong : Pong) (now : UInt64) : ℕ := now.toNat - pong.request_now.toNat

/-- The condition for the arithmetic on a pong to be exact, when the local clock reads `now`. The
pong is under way for less than `2^32` milliseconds; half of that is not more than the time of the
server, and both times are below `2^63`; and the session has not ended on the server, nor is its end
beyond `2^64` on the local clock. -/
structure Pong.Computable (pong : Pong) (now : UInt64) : Prop where
  rtt : pong.rtt now < 2 ^ 32
  half_rtt : pong.rtt now / 2 ≤ pong.server_now.toNat
  request_now : pong.request_now.toNat < 2 ^ 63
  server_ts : pong.server_now.toNat - pong.rtt now / 2 < 2 ^ 63
  expiry : ∀ expires_at ∈ pong.session_expire_at, pong.server_now.toNat ≤ expires_at.toNat ∧
    pong.request_now.toNat + max (expires_at.toNat - pong.server_now.toNat) (pong.rtt now) < 2 ^ 64

section
variable {I A W E : Type}

/-- The run has computed the times of a pong exactly, when the local clock has read `now`. -/
structure PongExact (pong : Pong) (now : UInt64)
    (ran : Ran (Answer I) UInt64 Action W (EstablishedControl I A) ControlError ControlFeed) :
    Prop where
  /-- It returns. -/
  returned : ∃ feed, ran.result = .ok feed
  /-- No operation overflows. -/
  no_overflow : ∀ site w, (.did (.overflow site), w) ∉ ran.config.log
  /-- `rtt` is `max(0, now - request_now)`. -/
  rtt : ∃ rtt : UInt32, ran.config.state.current_ping = some rtt ∧
    (rtt.toNat : ℤ) = max 0 ((now.toNat : ℤ) - pong.request_now.toNat)
  /-- `local_ts as i64` is `request_now`. -/
  local_ts : pong.request_now.toInt64.toInt = pong.request_now.toNat
  /-- `server_ts` is `server_now - rtt / 2`, and so is `server_ts as i64`. -/
  server_ts : ∃ server_ts : UInt64,
    (server_ts.toNat : ℤ) =
      pong.server_now.toNat - max 0 ((now.toNat : ℤ) - pong.request_now.toNat) / 2 ∧
    server_ts.toInt64.toInt = server_ts.toNat
  /-- `clock_offset` is `request_now - (server_now - rtt / 2)`. -/
  clock_offset : ran.config.state.clock_offset.toInt = pong.request_now.toNat -
    (pong.server_now.toNat - max 0 ((now.toNat : ℤ) - pong.request_now.toNat) / 2)
  /-- `registered.expires_at` is `request_now + max(0, (expires_at - server_now) - rtt)`. -/
  expires_at : ∀ expires_at ∈ pong.session_expire_at,
    (ran.config.state.registered.expires_at.toNat : ℤ) = pong.request_now.toNat +
      max 0 ((expires_at.toNat : ℤ) - pong.server_now.toNat -
        max 0 ((now.toNat : ℤ) - pong.request_now.toNat))

end

/-! ## Machine integers -/

/-- `max(0, now - request_now)`, as a difference of natural numbers. -/
theorem Pong.rtt_eq (pong : Pong) (now : UInt64) :
    max 0 ((now.toNat : ℤ) - pong.request_now.toNat) = pong.rtt now := by
  unfold Pong.rtt
  omega

/-- The greater of two words. -/
theorem toNat_max_uint64 (a b : UInt64) : (max a b).toNat = max a.toNat b.toNat := by
  have hmax : max a b = if a ≤ b then b else a := rfl
  rw [hmax]
  split
  · next h =>
    have hle := UInt64.le_iff_toNat_le.1 h
    omega
  · next h =>
    have hlt := UInt64.lt_iff_toNat_lt.1 (UInt64.not_le.1 h)
    omega

/-- `(now.max(request_now) - request_now) as u32` is exact below `2^32`. -/
theorem Pong.toNat_rtt {pong : Pong} {now : UInt64} (h : pong.rtt now < 2 ^ 32) :
    (max now pong.request_now - pong.request_now).toUInt32.toNat = pong.rtt now := by
  have hmax := toNat_max_uint64 now pong.request_now
  have hle : pong.request_now ≤ max now pong.request_now := by
    rw [UInt64.le_iff_toNat_le, hmax]
    exact le_max_right _ _
  unfold Pong.rtt at h ⊢
  rw [UInt64.toNat_toUInt32, UInt64.toNat_sub_of_le _ _ hle, hmax]
  omega

/-- `(expires_at - server_now).max(rtt as u64)` is exact before the end of the session. -/
theorem Pong.toNat_timeToLive {pong : Pong} {expires_at : UInt64} (rtt : UInt32)
    (h : pong.server_now ≤ expires_at) :
    (max (expires_at - pong.server_now) rtt.toUInt64).toNat =
      max (expires_at.toNat - pong.server_now.toNat) rtt.toNat := by
  rw [toNat_max_uint64, UInt64.toNat_sub_of_le _ _ h, UInt32.toNat_toUInt64]

/-- `x as i64` is exact below `2^63`, and only there. -/
theorem toInt_toInt64_iff (x : UInt64) : x.toInt64.toInt = x.toNat ↔ x.toNat < 2 ^ 63 := by
  have hx : x.toInt64.toInt = x.toBitVec.toInt := rfl
  have hnat : x.toBitVec.toNat = x.toNat := rfl
  rw [hx, BitVec.toInt_eq_toNat_cond, hnat]
  have hlt := x.toNat_lt
  split
  · omega
  · omega

/-- `a - b` on `i64`, of two words below `2^63`. -/
theorem toInt_sub_toInt64 {a b : UInt64} (ha : a.toNat < 2 ^ 63) (hb : b.toNat < 2 ^ 63) :
    (a.toInt64 - b.toInt64).toInt = a.toNat - b.toNat := by
  rw [Int64.toInt_sub, (toInt_toInt64_iff a).2 ha, (toInt_toInt64_iff b).2 hb]
  rw [Int.bmod_eq_of_le]
  · omega
  · omega

/-! ## The code -/

namespace EstablishedControl

variable {I A W E : Type} {p : Platform} {env : Env UInt64 W (EstablishedControl I A)}
  {c : ControlConfig I W (EstablishedControl I A)} {pong : Pong}

/-- Up to the expiry, the arithmetic on a pong is exact under the first four conditions. -/
theorem wp_onPong {Φ : Except (Stop E) Unit → ControlConfig I W (EstablishedControl I A) → Prop}
    (hrtt : pong.rtt (env.clock c.ticks) < 2 ^ 32)
    (hhalf : pong.rtt (env.clock c.ticks) / 2 ≤ pong.server_now.toNat)
    (hrequest : pong.request_now.toNat < 2 ^ 63)
    (hserver : pong.server_now.toNat - pong.rtt (env.clock c.ticks) / 2 < 2 ^ 63)
    (h : ∀ (rtt : UInt32) (clock_offset : Int64), rtt.toNat = pong.rtt (env.clock c.ticks) →
      clock_offset.toInt = pong.request_now.toNat -
        (pong.server_now.toNat - ((pong.rtt (env.clock c.ticks) / 2 : ℕ) : ℤ)) →
      wp env (match pong.session_expire_at with
        | some expires_at => onSessionExpireAt p pong rtt expires_at
        | none => pure ())
        ((c.tick env).update fun self => { self with clock_offset, current_ping := some rtt }) Φ) :
    wp env (onPong p pong) c Φ := by
  unfold onPong
  apply wp_now_bind
  -- The code's `rtt`, and what is subtracted from the time of the server.
  have hcode := Pong.toNat_rtt hrtt
  set rtt := (max (env.clock c.ticks) pong.request_now - pong.request_now).toUInt32 with hset
  have hhalf' : (rtt / 2).toUInt64.toNat = pong.rtt (env.clock c.ticks) / 2 := by
    rw [UInt32.toNat_toUInt64, UInt32.toNat_div, hcode]
    rfl
  have hle : (rtt / 2).toUInt64 ≤ pong.server_now := by
    rw [UInt64.le_iff_toNat_le, hhalf']
    exact hhalf
  have hts : (pong.server_now - (rtt / 2).toUInt64).toNat =
      pong.server_now.toNat - pong.rtt (env.clock c.ticks) / 2 := by
    rw [UInt64.toNat_sub_of_le _ _ hle, hhalf']
  have hoffset := toInt_sub_toInt64 hrequest (b := pong.server_now - (rtt / 2).toUInt64)
    (by rw [hts]; exact hserver)
  have hcasts : (pong.request_now.toInt64 -
      (pong.server_now - (rtt / 2).toUInt64).toInt64).toInt = pong.request_now.toInt64.toInt -
        (pong.server_now - (rtt / 2).toUInt64).toInt64.toInt := by
    rw [hoffset, (toInt_toInt64_iff _).2 hrequest,
      (toInt_toInt64_iff _).2 (by rw [hts]; exact hserver)]
  show wp env (subU64 p .serverTs pong.server_now (rtt / 2).toUInt64 >>= _) _ _
  unfold subU64
  rw [if_pos hle]
  apply wp_pure_bind
  unfold subI64
  rw [if_pos hcasts]
  apply wp_pure_bind
  apply wp_modify_bind
  -- The difference of two words below `2^63` is not the least word.
  have hmin : pong.request_now.toInt64 - (pong.server_now - (rtt / 2).toUInt64).toInt64 ≠
      Int64.minValue := by
    intro heq
    rw [heq] at hoffset
    have hvalue : Int64.minValue.toInt = -2 ^ 63 := rfl
    rw [hvalue, hts] at hoffset
    omega
  unfold absI64
  rw [if_neg hmin]
  apply wp_pure_bind
  apply wp_modify_bind
  refine h rtt (pong.request_now.toInt64 - (pong.server_now - (rtt / 2).toUInt64).toInt64) hcode ?_
  rw [hoffset, hts]
  omega

/-- The expiry is exact under the last condition. -/
theorem wp_onSessionExpireAt {rtt : UInt32} {expires_at : UInt64}
    (hserver : pong.server_now.toNat ≤ expires_at.toNat)
    (hsum : pong.request_now.toNat + max (expires_at.toNat - pong.server_now.toNat) rtt.toNat <
      2 ^ 64) :
    wp env (onSessionExpireAt (E := E) p pong rtt expires_at) c fun r c' =>
      r = .ok () ∧ c'.log = c.log ∧ c'.state.current_ping = c.state.current_ping ∧
        c'.state.clock_offset = c.state.clock_offset ∧
        c'.state.registered.expires_at.toNat = pong.request_now.toNat +
          (expires_at.toNat - pong.server_now.toNat - rtt.toNat) := by
  have hle : pong.server_now ≤ expires_at := UInt64.le_iff_toNat_le.2 hserver
  have httl := Pong.toNat_timeToLive rtt hle
  have hadd : (pong.request_now + max (expires_at - pong.server_now) rtt.toUInt64).toNat =
      pong.request_now.toNat + max (expires_at.toNat - pong.server_now.toNat) rtt.toNat := by
    rw [UInt64.toNat_add, httl, Nat.mod_eq_of_lt hsum]
  have hmono : pong.request_now ≤
      pong.request_now + max (expires_at - pong.server_now) rtt.toUInt64 := by
    rw [UInt64.le_iff_toNat_le, hadd]
    omega
  have hrtt : rtt.toUInt64 ≤
      pong.request_now + max (expires_at - pong.server_now) rtt.toUInt64 := by
    rw [UInt64.le_iff_toNat_le, hadd, UInt32.toNat_toUInt64]
    omega
  unfold onSessionExpireAt
  apply wp_modify_bind
  rw [subU64, if_pos hle]
  apply wp_pure_bind
  rw [addU64, if_pos hmono]
  apply wp_pure_bind
  rw [subU64, if_pos hrtt]
  apply wp_pure_bind
  refine wp_modify ⟨rfl, rfl, rfl, rfl, ?_⟩
  show (pong.request_now + max (expires_at - pong.server_now) rtt.toUInt64 -
    rtt.toUInt64).toNat = _
  rw [UInt64.toNat_sub_of_le _ _ hrtt, hadd, UInt32.toNat_toUInt64]
  omega

/-- An operation has overflowed. -/
def Overflowed (c : ControlConfig I W (EstablishedControl I A)) : Prop :=
  ∃ site w, (.did (.overflow site), w) ∈ c.log

/-- What has overflowed is on the log for good. -/
theorem absorbs_overflowed (env : Env UInt64 W (EstablishedControl I A)) (feed : ControlFeed) :
    Absorbs (I := I) env feed Overflowed where
  tick _ := fun ⟨site, w, h⟩ => ⟨site, w, .tail _ h⟩
  overflow _ _ _ := fun ⟨site, w, h⟩ => ⟨site, w, .tail _ h⟩
  update _ _ _ h := h

/-- Without the last condition, an operation on the expiry overflows. -/
theorem onSessionExpireAt_overflows {rtt : UInt32} {expires_at : UInt64}
    (h : ¬(pong.server_now.toNat ≤ expires_at.toNat ∧
      pong.request_now.toNat + max (expires_at.toNat - pong.server_now.toNat) rtt.toNat <
        2 ^ 64)) :
    wp env (onSessionExpireAt (E := E) p pong rtt expires_at) c
      (Kept Overflowed fun _ _ => True) := by
  have hJ := absorbs_overflowed (I := I) env (.response ⟨0, .pong pong⟩)
  have hhere (c : ControlConfig I W (EstablishedControl I A)) (site : Site) :
      Overflowed (c.record env (.did (.overflow site))) := ⟨site, _, .head _⟩
  have hend (c : ControlConfig I W (EstablishedControl I A)) (hc : Overflowed c) (sum : UInt64) :
      wp env (do
        let expires_at ← subU64 p .expiresAtRtt sum rtt.toUInt64
        Future.modify (E := E) fun self =>
          { self with registered := { self.registered with expires_at } }) c
        (Kept Overflowed fun _ _ => True) := by
    refine kept_bind (subU64_kept hc (hhere c _) _ _) fun expires_at c' hc' _ => ?_
    exact hJ.modify hc' ⟨fun _ => rfl, fun _ => rfl, fun _ => rfl, fun _ => .inl rfl⟩
  unfold onSessionExpireAt
  apply wp_modify_bind
  rcases Nat.lt_or_ge expires_at.toNat pong.server_now.toNat with hlt | hserver
  · -- The session has ended on the server.
    have hnot : ¬pong.server_now ≤ expires_at := by
      rw [UInt64.le_iff_toNat_le]
      omega
    rw [subU64, if_neg hnot]
    refine kept_bind (overflow_kept (hhere _ _) _) fun ttl c₂ h₂ _ => ?_
    refine kept_bind (addU64_kept h₂ (hhere c₂ _) _ _) fun sum c₃ h₃ _ => ?_
    exact hend c₃ h₃ sum
  · -- Its end is beyond the local clock.
    have hle : pong.server_now ≤ expires_at := UInt64.le_iff_toNat_le.2 hserver
    have httl := Pong.toNat_timeToLive rtt hle
    have hnot : ¬pong.request_now ≤
        pong.request_now + max (expires_at - pong.server_now) rtt.toUInt64 := by
      rw [UInt64.le_iff_toNat_le, UInt64.toNat_add, httl]
      have hbound := expires_at.toNat_lt
      have hbound' := rtt.toNat_lt
      have hbound'' := pong.request_now.toNat_lt
      omega
    rw [subU64, if_pos hle]
    apply wp_pure_bind
    rw [addU64, if_neg hnot]
    refine kept_bind (overflow_kept (hhere _ _) _) fun sum c₃ h₃ _ => ?_
    exact hend c₃ h₃ sum

/-- A message of the endpoint is received. -/
theorem recv_received (env : Env UInt64 W (ConnectedControl I)) (conn : ConnectedControl I)
    (ticks : ℕ) (script : List (Item (Answer I))) {d : Datagram} {feed : ControlFeed}
    (hsource : d.source = conn.control_addr)
    (hread : p.readFeed (d.bytes.take 1024) = .ok feed) :
    ∃ conn' w, ConnectedControl.recv p env (.answer (.received (.ok d)) :: script)
      ⟨conn, ticks, []⟩ =
        ⟨.ok feed, script, ⟨conn', ticks, [(.answered (.received (.ok d)), w)]⟩⟩ := by
  have hdatagram (c : ControlConfig I W (ConnectedControl I))
      (hc : c.state.control_addr = conn.control_addr) :
      ∃ conn', ConnectedControl.onDatagram p { d with bytes := d.bytes.take 1024 } env script c =
        ⟨.ok feed, script, ⟨conn', c.ticks, c.log⟩⟩ := by
    have hnot : ¬(d.source ≠ c.state.control_addr) := not_not.2 (hsource.trans hc.symm)
    unfold ConnectedControl.onDatagram
    rw [hread]
    show ∃ conn', (if d.source ≠ c.state.control_addr then
        Future.fail (.invalidRemote c.state.control_addr d.source)
      else do
        Future.modify (ConnectedControl.noted feed)
        pure feed : ControlM I W (ConnectedControl I) ControlError ControlFeed) env script
      (c.update _) = _
    rw [if_neg hnot]
    exact ⟨_, rfl⟩
  let resized : ConnectedControl I :=
    { conn with buffer := ConnectedControl.resize conn.buffer 1024 }
  obtain ⟨conn', hconn'⟩ := hdatagram
    ⟨resized, ticks, [(.answered (.received (.ok d)), env.look resized)]⟩ rfl
  exact ⟨conn', _, hconn'⟩

/-- A call of `recv_feed_msg` to which the endpoint answers with a pong works on that pong. -/
theorem recvFeedMsg_pong (env : Env UInt64 W (EstablishedControl I A))
    (self : EstablishedControl I A) (ticks : ℕ) (script : List (Item (Answer I))) {d : Datagram}
    {request_id : UInt64}
    (hsource : d.source = self.conn.control_addr)
    (hread : p.readFeed (d.bytes.take 1024) = .ok (.response ⟨request_id, .pong pong⟩)) :
    ∃ conn w,
      EstablishedControl.recvFeedMsg p env (.answer (.received (.ok d)) :: script)
        ⟨self, ticks, []⟩ =
      (onPong p pong >>= fun _ => pure (.response ⟨request_id, .pong pong⟩)) env script
        ⟨{ self with conn }, ticks, [(.answered (.received (.ok d)), w)]⟩ := by
  obtain ⟨conn, w, hrecv⟩ := recv_received ⟨env.clock, fun conn => env.look { self with conn }⟩
    self.conn ticks script hsource hread
  refine ⟨conn, w, ?_⟩
  show Future.bind (onConn (ConnectedControl.recv p)) _ env _ _ = _
  unfold Future.bind onConn Future.zoom
  rw [hrecv]
  rfl

/-- Under the condition, the times of a pong are computed exactly. -/
theorem wp_onPong_of_computable (hlog : ∀ site w, (.did (.overflow site), w) ∉ c.log)
    (h : pong.Computable (env.clock c.ticks)) (feed : ControlFeed) :
    wp env (onPong p pong >>= fun _ => pure feed) c fun r c' => ∀ rest,
      PongExact pong (env.clock c.ticks) ⟨r, rest, c'⟩ := by
  have hrtt := pong.rtt_eq (env.clock c.ticks)
  have hlocal := (toInt_toInt64_iff _).2 h.request_now
  -- The time of the server, when the ping was sent.
  have hserver : ∃ server_ts : UInt64,
      (server_ts.toNat : ℤ) = pong.server_now.toNat - (pong.rtt (env.clock c.ticks) : ℤ) / 2 ∧
      server_ts.toInt64.toInt = server_ts.toNat := by
    have hhalf := h.half_rtt
    have hbound := pong.server_now.toNat_lt
    have hvalue : (UInt64.ofNat (pong.server_now.toNat - pong.rtt (env.clock c.ticks) / 2)).toNat =
        pong.server_now.toNat - pong.rtt (env.clock c.ticks) / 2 :=
      UInt64.toNat_ofNat_of_lt' (lt_of_le_of_lt (Nat.sub_le _ _) hbound)
    refine ⟨UInt64.ofNat (pong.server_now.toNat - pong.rtt (env.clock c.ticks) / 2), ?_, ?_⟩
    · rw [hvalue]
      omega
    · rw [toInt_toInt64_iff, hvalue]
      exact h.server_ts
  refine wp_bind (Q := fun r c' => r = .ok () ∧ (∀ site w, (.did (.overflow site), w) ∉ c'.log) ∧
    (∃ rtt : UInt32, c'.state.current_ping = some rtt ∧
      rtt.toNat = pong.rtt (env.clock c.ticks)) ∧
    (c'.state.clock_offset.toInt = pong.request_now.toNat -
      (pong.server_now.toNat - ((pong.rtt (env.clock c.ticks) / 2 : ℕ) : ℤ))) ∧
    ∀ expires_at ∈ pong.session_expire_at, c'.state.registered.expires_at.toNat =
      pong.request_now.toNat + (expires_at.toNat - pong.server_now.toNat -
        pong.rtt (env.clock c.ticks))) ?_ ?_ ?_
  · refine wp_onPong h.rtt h.half_rtt h.request_now h.server_ts fun rtt clock_offset hr ho => ?_
    have hlog' : ∀ site w, (.did (.overflow site), w) ∉ (c.tick env).log := by
      rintro site w (_ | ⟨_, hmem⟩)
      exact hlog site w hmem
    cases hexpire : pong.session_expire_at with
    | none => exact wp_pure ⟨rfl, hlog', ⟨rtt, rfl, hr⟩, ho, fun _ hmem => by cases hmem⟩
    | some expires_at =>
      obtain ⟨hle, hsum⟩ := h.expiry expires_at hexpire
      refine wp_mono (wp_onSessionExpireAt hle (by rw [hr]; exact hsum)) fun r c' hr' => ?_
      obtain ⟨hres, hsame, hping, hoff, hat⟩ := hr'
      refine ⟨hres, ?_, ⟨rtt, hping, hr⟩, ?_, ?_⟩
      · rw [hsame]
        exact hlog'
      · rw [hoff]
        exact ho
      · rintro _ ⟨⟩
        rw [hat, hr]
  · rintro _ c' ⟨-, hover, ⟨rtt, hping, hr⟩, hoff, hat⟩
    refine wp_pure fun rest => ⟨⟨feed, rfl⟩, hover, ⟨rtt, hping, ?_⟩, hlocal, ?_, ?_, ?_⟩
    · rw [hr, hrtt]
    · rw [hrtt]
      exact hserver
    · rw [hoff, hrtt]
      rfl
    · intro expires_at hmem
      have hle := (h.expiry expires_at hmem).1
      rw [hat expires_at hmem, hrtt]
      omega
  · rintro s c' ⟨hres, -⟩
    cases hres

/-- Where the times of a pong are computed exactly, the condition holds. -/
theorem wp_computable_of_exact (feed : ControlFeed) :
    wp env (onPong p pong >>= fun _ => pure feed) c fun r c' => ∀ rest,
      PongExact pong (env.clock c.ticks) ⟨r, rest, c'⟩ → pong.Computable (env.clock c.ticks) := by
  have hrtt := pong.rtt_eq (env.clock c.ticks)
  by_cases hfirst : pong.rtt (env.clock c.ticks) < 2 ^ 32 ∧
      pong.rtt (env.clock c.ticks) / 2 ≤ pong.server_now.toNat ∧ pong.request_now.toNat < 2 ^ 63 ∧
      pong.server_now.toNat - pong.rtt (env.clock c.ticks) / 2 < 2 ^ 63
  · obtain ⟨h₁, h₂, h₃, h₄⟩ := hfirst
    -- What remains is that an expiry out of range overflows.
    by_cases hexpiry : ∀ expires_at ∈ pong.session_expire_at,
        pong.server_now.toNat ≤ expires_at.toNat ∧ pong.request_now.toNat +
          max (expires_at.toNat - pong.server_now.toNat) (pong.rtt (env.clock c.ticks)) < 2 ^ 64
    · exact fun script rest _ => ⟨h₁, h₂, h₃, h₄, hexpiry⟩
    · push Not at hexpiry
      obtain ⟨expires_at, hmem, hout⟩ := hexpiry
      refine wp_mono (Φ := fun _ c' => Overflowed c') ?_ fun r c' hover rest hexact => ?_
      · refine wp_bind (Q := fun _ c' => Overflowed c') ?_ (fun _ _ h => wp_pure h) fun _ _ h => h
        refine wp_onPong h₁ h₂ h₃ h₄ fun rtt clock_offset hr _ => ?_
        rw [show pong.session_expire_at = some expires_at from hmem]
        refine wp_mono (onSessionExpireAt_overflows ?_) fun _ _ hk => hk.1
        rw [hr, not_and, not_lt]
        exact hout
      · obtain ⟨site, w, hmem⟩ := hover
        exact absurd hmem (hexact.no_overflow site w)
  · intro script rest hexact
    refine absurd ?_ hfirst
    obtain ⟨rtt, -, hr⟩ := hexact.rtt
    obtain ⟨server_ts, hs, hcast⟩ := hexact.server_ts
    have hlocal := (toInt_toInt64_iff _).1 hexact.local_ts
    have hserver := (toInt_toInt64_iff _).1 hcast
    have hbound := rtt.toNat_lt
    rw [hrtt] at hr hs
    omega

end EstablishedControl

section
variable {I A W : Type}

/-- Whatever the endpoint sends for a pong, and whatever the clock shows then, `recv_feed_msg`
computes the times of the pong exactly, with no operation that overflows or truncates, if and only
if they are in range and the session has not yet ended on the server. -/
theorem pong_exact_iff_computable (p : Platform) (env : Env UInt64 W (EstablishedControl I A))
    (self : EstablishedControl I A) (ticks : ℕ) (d : Datagram) (script : List (Item (Answer I)))
    (request_id : UInt64) (pong : Pong) (hsource : d.source = self.conn.control_addr)
    (hread : p.readFeed (d.bytes.take 1024) = .ok (.response ⟨request_id, .pong pong⟩)) :
    PongExact pong (env.clock ticks) (EstablishedControl.recvFeedMsg p env
        (.answer (.received (.ok d)) :: script) ⟨self, ticks, []⟩) ↔
      pong.Computable (env.clock ticks) := by
  obtain ⟨conn, w, hrun⟩ := EstablishedControl.recvFeedMsg_pong env self ticks script hsource hread
  rw [hrun]
  have hlog : ∀ site w', (.did (.overflow site), w') ∉
      [((.answered (.received (.ok d)) : ControlEvent I), w)] := by
    rintro site w' (_ | ⟨_, ⟨⟩⟩)
  constructor
  · intro hexact
    exact EstablishedControl.wp_computable_of_exact (c := ⟨_, ticks, _⟩) _ script _ hexact
  · intro h
    exact EstablishedControl.wp_onPong_of_computable (c := ⟨_, ticks, _⟩) hlog h _ script _

end

/-! ## A session that has ended on the server -/

namespace Sample

/-- A pong as a datagram of the endpoint: the server's time is 1000, and the session ends at
the given one. -/
def pongDatagram (expires_at : UInt64) : Datagram where
  bytes :=
    match (ControlFeed.encoding Wire.crate).writeTo
      (.response ⟨200, .pong (pong 40000 (some expires_at))⟩) Sink.vec with
    | .ok (_, out) => out.written
    | .error _ => []
  source := endpoint

end Sample

/-- A session that has ended on the server: a release build stores an end before the ping was sent,
and a build that checks for overflows panics. -/
theorem not_pongExact :
    let ran (overflow_checks : Bool) :=
      EstablishedControl.recvFeedMsg (Sample.platform overflow_checks) (Sample.env 1200)
        [.answer (.received (.ok (Sample.pongDatagram 500)))] ⟨Sample.session, 0, []⟩
    (ran false).config.state.registered.expires_at = 300 ∧
      (ran true).result = .error (.panicked .overflow) ∧
      ∀ overflow_checks,
        ¬PongExact (Sample.pong 40000 (some 500)) 1200 (ran overflow_checks) := by
  refine ⟨rfl, rfl, fun overflow_checks hexact => ?_⟩
  cases overflow_checks with
  | false =>
    have hvalue := hexact.expires_at 500 rfl
    exact absurd hvalue (by decide)
  | true =>
    obtain ⟨feed, hfeed⟩ := hexact.returned
    cases hfeed

/-- A session that has not ended. -/
theorem pong_exact_sample :
    PongExact (Sample.pong 40000 (some 60000)) 1200
      (EstablishedControl.recvFeedMsg (Sample.platform false) (Sample.env 1200)
        [.answer (.received (.ok (Sample.pongDatagram 60000)))] ⟨Sample.session, 0, []⟩) := by
  refine (pong_exact_iff_computable (Sample.platform false) (Sample.env 1200) Sample.session 0
    (Sample.pongDatagram 60000) [] 200 (Sample.pong 40000 (some 60000)) rfl rfl).2 ?_
  refine ⟨by decide, by decide, by decide, by decide, ?_⟩
  rintro _ ⟨⟩
  exact ⟨by decide, by decide⟩

end PlayitAgent
