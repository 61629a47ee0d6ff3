import Mathlib.Data.UInt
import Mathlib.Data.Set.Card
import Mathlib.Data.FinEnum
import PlayitAgent.Control.Connected

/-!
# Local addresses

`LanAddress` of `agent_core/src/network/lan_address.rs` with `shuffle` of `utils/shuffle.rs`: from
which address of `127.0.0.0/8`, and for UDP from which port, the agent speaks to an origin in the
name of a player.

`shuffle` is a permutation of the 32-bit words, and so the players are spread evenly: each address
but two stands for the same number of players.
-/

namespace PlayitAgent

/-! ## The code -/

/-- `shuffle`. -/
def shuffle (v : UInt32) : UInt32 :=
  let v := ((v >>> 16) ^^^ v) * 0x45d9f3
  let v := ((v >>> 16) ^^^ v) * 0x45d9f3
  (v >>> 16) ^^^ v

/-- The word of an IPv6 address at a bit, counted from the low end: `BigEndian::read_u32` of four of
its octets. -/
def Ipv6Addr.word (ip : Ipv6Addr) (start : ℕ) : UInt32 := .ofBitVec (ip.extractLsb' start 32)

/-- `shuffle_ip_to_u32`. -/
def shuffleIpToU32 : IpAddr → UInt32
  | .v4 ip => ip
  | .v6 ip => shuffle (Ipv6Addr.word ip 96) ^^^ shuffle (Ipv6Addr.word ip 64) ^^^
      shuffle (Ipv6Addr.word ip 32) ^^^ shuffle (Ipv6Addr.word ip 0)

/-- `as_local_masked`. -/
def asLocalMasked (ip : UInt32) : UInt32 :=
  let ip := shuffle ip &&& 0x00FFFFFF
  let ip := if ip = 0 then 1 else ip
  ip ||| 0x7F000000

/-- `map_to_local_ip4`. -/
def mapToLocalIp4 (ip : IpAddr) : Ipv4Addr := asLocalMasked (shuffleIpToU32 ip)

/-- `SocketAddr::port`. -/
def SocketAddr.port : SocketAddr → UInt16
  | .v4 addr => addr.port
  | .v6 addr => addr.port

/-- The port that `LanAddress::udp_socket` prefers for a player of a tunnel. -/
def udpLocalPort (peer : SocketAddr) (tunnel_id : UInt64) : UInt16 :=
  let rand_id := shuffle peer.port.toUInt32 ^^^ shuffle (tunnel_id >>> 32).toUInt32 ^^^
    shuffle tunnel_id.toUInt32 ^^^ shuffleIpToU32 peer.ip
  (2048 + rand_id % (0xFFFF - 2048)).toUInt16

/-- `LanAddress::udp_socket`, given the outcome of `UdpSocket::bind` for each address. No address is
tried twice. -/
def udpSocket {Socket : Type} (bind : SocketAddr → Except IoError Socket) (special_lan_ip : Bool)
    (peer target : SocketAddr) (tunnel_id : UInt64) : Except IoError Socket :=
  let local_port := udpLocalPort peer tunnel_id
  if special_lan_ip then
    let local_ip := asLocalMasked (shuffleIpToU32 peer.ip)
    match bind (.v4 ⟨local_ip, local_port⟩) with
    | .ok v => .ok v
    | .error _ =>
      match bind (.v4 ⟨local_ip, 0⟩) with
      | .ok v => .ok v
      | .error _ => bind (.v4 ⟨0, 0⟩)
  else
    let bind_addr : SocketAddr := match target with
      | .v4 _ => .v4 ⟨0, local_port⟩
      | .v6 _ => .v6 ⟨0, local_port, 0, 0⟩
    let fallback_addr : SocketAddr := match target with
      | .v4 _ => .v4 ⟨0, 0⟩
      | .v6 _ => .v6 ⟨0, 0, 0, 0⟩
    match bind bind_addr with
    | .ok v => .ok v
    | .error _ => bind fallback_addr

/-! ## `shuffle` is a permutation -/

/-- A word with its high half put on its low half. -/
def xorShift (v : UInt32) : UInt32 := (v >>> 16) ^^^ v

/-- The high half is still there, and so the fold undoes itself. -/
theorem xorShift_xorShift (v : UInt32) : xorShift (xorShift v) = v := by
  apply UInt32.toBitVec_inj.1
  simp only [xorShift, UInt32.toBitVec_xor, UInt32.toBitVec_shiftRight]
  have hamount : (16 : UInt32).toBitVec % 32 = 16#32 := rfl
  rw [hamount, BitVec.ushiftRight_eq', BitVec.ushiftRight_eq']
  apply BitVec.eq_of_getLsbD_eq
  intro i hi
  have hhigh : v.toBitVec.getLsbD (16 + (16 + i)) = false :=
    BitVec.getLsbD_of_ge _ _ (by omega)
  simp [hhigh]

/-- The inverse of `shuffle`. -/
def unshuffle (v : UInt32) : UInt32 :=
  xorShift (xorShift (xorShift v * 0xdd72673b) * 0xdd72673b)

/-- The multiplier of `shuffle` has an inverse modulo `2^32`. -/
theorem mul_multiplier_mul_inverse (v : UInt32) : v * 0x45d9f3 * 0xdd72673b = v := by
  have hinverse : (0x45d9f3 * 0xdd72673b : UInt32) = 1 := by decide
  rw [UInt32.mul_assoc, hinverse, UInt32.mul_one]

/-- The multiplier of `shuffle` is the inverse of its inverse. -/
theorem mul_inverse_mul_multiplier (v : UInt32) : v * 0xdd72673b * 0x45d9f3 = v := by
  have hinverse : (0xdd72673b * 0x45d9f3 : UInt32) = 1 := by decide
  rw [UInt32.mul_assoc, hinverse, UInt32.mul_one]

/-- `shuffle` in terms of its rounds. -/
theorem shuffle_eq (v : UInt32) :
    shuffle v = xorShift (xorShift (xorShift v * 0x45d9f3) * 0x45d9f3) := rfl

/-- `shuffle`, as a permutation. -/
def shuffleEquiv : UInt32 ≃ UInt32 where
  toFun := shuffle
  invFun := unshuffle
  left_inv v := by
    rw [shuffle_eq, unshuffle, xorShift_xorShift, mul_multiplier_mul_inverse, xorShift_xorShift,
      mul_multiplier_mul_inverse, xorShift_xorShift]
  right_inv v := by
    rw [shuffle_eq, unshuffle, xorShift_xorShift, mul_inverse_mul_multiplier, xorShift_xorShift,
      mul_inverse_mul_multiplier, xorShift_xorShift]

/-! ## The four words of an IPv6 address -/

/-- The words of an IPv6 address, the most significant first. -/
def Ipv6Addr.wordsEquiv : Ipv6Addr ≃ UInt32 × UInt32 × UInt32 × UInt32 where
  toFun ip := (Ipv6Addr.word ip 96, Ipv6Addr.word ip 64, Ipv6Addr.word ip 32, Ipv6Addr.word ip 0)
  invFun w := w.1.toBitVec ++ w.2.1.toBitVec ++ w.2.2.1.toBitVec ++ w.2.2.2.toBitVec
  left_inv ip := by
    apply BitVec.eq_of_getLsbD_eq
    intro i hi
    simp only [Ipv6Addr.word, BitVec.getLsbD_append, BitVec.getLsbD_extractLsb']
    split_ifs <;> simp <;> grind
  right_inv w := by
    obtain ⟨w₀, w₁, w₂, w₃⟩ := w
    simp only [Prod.mk.injEq, ← UInt32.toBitVec_inj, Ipv6Addr.word]
    refine ⟨?_, ?_, ?_, ?_⟩ <;>
    · apply BitVec.eq_of_getLsbD_eq
      intro i hi
      simp only [BitVec.getLsbD_append, BitVec.getLsbD_extractLsb', hi, decide_true, Bool.true_and]
      split_ifs <;> first | omega | (congr 1; omega)

/-- Two words, the first one with the second put on it. -/
def xorEquiv {α : Type} (f : α → UInt32) : UInt32 × α ≃ UInt32 × α where
  toFun p := (p.1 ^^^ f p.2, p.2)
  invFun p := (p.1 ^^^ f p.2, p.2)
  left_inv p := by simp only [UInt32.xor_assoc, UInt32.xor_self, UInt32.xor_zero]
  right_inv p := by simp only [UInt32.xor_assoc, UInt32.xor_self, UInt32.xor_zero]

/-- What `shuffle_ip_to_u32` makes of an IPv6 address, and three words beside it that tell which of
the addresses with that outcome it is. -/
def shuffledEquiv : Ipv6Addr ≃ UInt32 × UInt32 × UInt32 × UInt32 :=
  Ipv6Addr.wordsEquiv.trans <|
    (shuffleEquiv.prodCongr (.refl _)).trans <|
      xorEquiv fun w => shuffle w.1 ^^^ shuffle w.2.1 ^^^ shuffle w.2.2

/-- The first word is the outcome. -/
theorem shuffledEquiv_fst (ip : Ipv6Addr) : (shuffledEquiv ip).1 = shuffleIpToU32 (.v6 ip) := by
  simp only [shuffledEquiv, xorEquiv, shuffleEquiv, Ipv6Addr.wordsEquiv, shuffleIpToU32,
    Equiv.trans_apply, Equiv.coe_fn_mk, Equiv.prodCongr_apply, Prod.map_apply, Equiv.refl_apply,
    UInt32.xor_assoc]

/-! ## How many players share an address -/

/-- How many blocks of 256 words are masked to an address. -/
def localShare (local_ip : Ipv4Addr) : ℕ :=
  if Ipv4Addr.isLoopback local_ip then
    if local_ip = 0x7F000000 then 0 else if local_ip = 0x7F000001 then 2 else 1
  else 0

/-- A word, split into its low bits and its high byte. -/
def lowHighEquiv : UInt32 ≃ Fin (2 ^ 24) × Fin (2 ^ 8) where
  toFun v := (⟨v.toNat % 2 ^ 24, by omega⟩, ⟨v.toNat / 2 ^ 24, by have := v.toNat_lt; omega⟩)
  invFun p := .ofNat (2 ^ 24 * p.2 + p.1)
  left_inv v := by
    have hlt := v.toNat_lt
    apply UInt32.toNat_inj.1
    rw [UInt32.toNat_ofNat']
    dsimp only
    omega
  right_inv p := by
    obtain ⟨⟨low, hlow⟩, high, hhigh⟩ := p
    have hlt : (2 ^ 24 * high + low) % 2 ^ 32 = 2 ^ 24 * high + low := by omega
    simp only [Prod.mk.injEq, Fin.mk.injEq, UInt32.toNat_ofNat', hlt]
    omega

/-- What `as_local_masked` makes of the low bits of a word. -/
def localMask (low : ℕ) : ℕ := 2 ^ 24 * 127 + if low = 0 then 1 else low

/-- `as_local_masked`, in numbers. -/
theorem toNat_asLocalMasked (ip : UInt32) :
    (asLocalMasked ip).toNat = localMask ((shuffle ip).toNat % 2 ^ 24) := by
  have hlow : (shuffle ip &&& 0x00FFFFFF).toNat = (shuffle ip).toNat % 2 ^ 24 := by
    rw [UInt32.toNat_and]
    exact Nat.and_two_pow_sub_one_eq_mod _ 24
  have hor : ∀ v : UInt32, v.toNat < 2 ^ 24 →
      (v ||| 0x7F000000).toNat = 2 ^ 24 * 127 + v.toNat := by
    intro v hv
    rw [UInt32.toNat_or, Nat.or_comm, Nat.two_pow_add_eq_or_of_lt hv]
    rfl
  unfold asLocalMasked localMask
  dsimp only
  by_cases hzero : (shuffle ip).toNat % 2 ^ 24 = 0
  · have hword : shuffle ip &&& 0x00FFFFFF = 0 := by
      apply UInt32.toNat_inj.1
      rw [hlow, hzero]
      rfl
    rw [if_pos hword, if_pos hzero]
    exact hor 1 (by decide)
  · have hword : shuffle ip &&& 0x00FFFFFF ≠ 0 := by
      intro h
      rw [h] at hlow
      exact hzero hlow.symm
    rw [if_neg hword, if_neg hzero, hor _ (by omega), hlow]

/-- The low parts that are masked to a number: its own low part, and zero beside one. -/
theorem localMask_eq_iff {low n : ℕ} (hlow : low < 2 ^ 24) :
    localMask low = n ↔
      n / 2 ^ 24 = 127 ∧ n % 2 ^ 24 ≠ 0 ∧ (low = n % 2 ^ 24 ∨ low = 0 ∧ n % 2 ^ 24 = 1) := by
  unfold localMask
  split_ifs <;> omega

/-- `localShare`, in numbers. -/
theorem localShare_eq (local_ip : Ipv4Addr) :
    localShare local_ip =
      if local_ip.toNat / 2 ^ 24 = 127 ∧ local_ip.toNat % 2 ^ 24 ≠ 0 then
        if local_ip.toNat % 2 ^ 24 = 1 then 2 else 1
      else 0 := by
  have hloopback : Ipv4Addr.isLoopback local_ip = true ↔ local_ip.toNat / 2 ^ 24 = 127 := by
    rw [Ipv4Addr.isLoopback, beq_iff_eq, ← UInt32.toNat_inj, UInt32.toNat_shiftRight]
    simp [Nat.shiftRight_eq_div_pow]
  have hzero : local_ip = 0x7F000000 ↔ local_ip.toNat = 2 ^ 24 * 127 := UInt32.toNat_inj.symm
  have hone : local_ip = 0x7F000001 ↔ local_ip.toNat = 2 ^ 24 * 127 + 1 := UInt32.toNat_inj.symm
  unfold localShare
  simp only [hloopback, hzero, hone]
  split_ifs <;> omega

/-- How many of the low parts are masked to an address. -/
theorem natCard_localMask (local_ip : Ipv4Addr) :
    Nat.card {low : Fin (2 ^ 24) // localMask low = local_ip.toNat} = localShare local_ip := by
  rw [localShare_eq]
  generalize local_ip.toNat = n
  have hmod : n % 2 ^ 24 < 2 ^ 24 := by omega
  have hiff : ∀ low : Fin (2 ^ 24), localMask low = n ↔ n / 2 ^ 24 = 127 ∧ n % 2 ^ 24 ≠ 0 ∧
      (low = ⟨n % 2 ^ 24, hmod⟩ ∨ low = 0 ∧ n % 2 ^ 24 = 1) := by
    intro low
    rw [localMask_eq_iff low.isLt, Fin.ext_iff, Fin.ext_iff, Fin.val_zero]
  rw [← Set.coe_ofPred, Nat.card_coe_set_eq]
  split_ifs with hnet hone
  · have hpair : {low : Fin (2 ^ 24) | localMask low = n} = {0, 1} := by
      refine Set.ext fun low => ?_
      have h1 : (⟨n % 2 ^ 24, hmod⟩ : Fin (2 ^ 24)) = 1 := Fin.ext hone
      rw [Set.mem_ofPred_eq, hiff, h1]
      grind
    rw [hpair, Set.ncard_pair (by decide)]
  · have hsingle : {low : Fin (2 ^ 24) | localMask low = n} = {⟨n % 2 ^ 24, hmod⟩} := by
      refine Set.ext fun low => ?_
      rw [Set.mem_ofPred_eq, hiff]
      grind
    rw [hsingle, Set.ncard_singleton]
  · have hempty : {low : Fin (2 ^ 24) | localMask low = n} = ∅ := by
      refine Set.ext fun low => ?_
      rw [Set.mem_ofPred_eq, hiff]
      grind
    rw [hempty, Set.ncard_empty]

/-- Of an outcome that depends on the first of two parts only, there are as many inputs as of that
part, for each value of the second one. -/
theorem natCard_fiber_of_fst {α β γ : Type} (e : α ≃ β × γ) {p : α → Prop} {q : β → Prop}
    (h : ∀ x, p x ↔ q (e x).1) : Nat.card {x // p x} = Nat.card {y // q y} * Nat.card γ := by
  rw [← Nat.card_prod]
  exact Nat.card_congr ((e.subtypeEquiv h).trans Equiv.prodSubtypeFstEquivSubtypeProd)

/-- How many words are masked to an address. -/
theorem natCard_asLocalMasked (local_ip : Ipv4Addr) :
    Nat.card {ip : UInt32 // asLocalMasked ip = local_ip} = localShare local_ip * 2 ^ 8 := by
  have hfiber : ∀ ip : UInt32, asLocalMasked ip = local_ip ↔
      localMask ((shuffleEquiv.trans lowHighEquiv) ip).1 = local_ip.toNat := by
    intro ip
    rw [← UInt32.toNat_inj, toNat_asLocalMasked]
    rfl
  rw [natCard_fiber_of_fst (shuffleEquiv.trans lowHighEquiv)
    (q := fun low => localMask low = local_ip.toNat) hfiber, natCard_localMask, Nat.card_fin]

/-- The number of 32-bit words. -/
theorem natCard_uInt32 : Nat.card UInt32 = 2 ^ 32 := by
  rw [Nat.card_eq_fintype_card, ← FinEnum.card_eq_fintypeCard, FinEnum.card_UInt32]

/-- Every address of `127.0.0.0/8` stands for the same number of players: `2^8` of those with an
IPv4 address, and `2^104` of those with an IPv6 address. Only `127.0.0.0` stands for none, and
`127.0.0.1` for twice as many. No other address stands for any. -/
theorem local_addresses_share_players (local_ip : Ipv4Addr) :
    Nat.card {ip : Ipv4Addr // mapToLocalIp4 (.v4 ip) = local_ip} = localShare local_ip * 2 ^ 8 ∧
    Nat.card {ip : Ipv6Addr // mapToLocalIp4 (.v6 ip) = local_ip} =
      localShare local_ip * 2 ^ 104 := by
  refine ⟨natCard_asLocalMasked local_ip, ?_⟩
  have hfiber : ∀ ip : Ipv6Addr, mapToLocalIp4 (.v6 ip) = local_ip ↔
      asLocalMasked (shuffledEquiv ip).1 = local_ip := by
    intro ip
    rw [shuffledEquiv_fst]
    rfl
  rw [natCard_fiber_of_fst shuffledEquiv (q := fun v => asLocalMasked v = local_ip) hfiber,
    natCard_asLocalMasked, Nat.card_prod, Nat.card_prod, natCard_uInt32]
  ring

/-- The socket that `udp_socket` returns was bound to one of the addresses it tries. -/
theorem bound_of_udpSocket {Socket : Type} {bind : SocketAddr → Except IoError Socket}
    {special_lan_ip : Bool} {peer target : SocketAddr} {tunnel_id : UInt64} {socket : Socket}
    (h : udpSocket bind special_lan_ip peer target tunnel_id = .ok socket) :
    ∃ addr, bind addr = .ok socket := by
  unfold udpSocket at h
  dsimp only at h
  split at h
  · split at h
    · next v hv => exact ⟨_, hv.trans h⟩
    · split at h
      · next v hv => exact ⟨_, hv.trans h⟩
      · exact ⟨_, h⟩
  · split at h
    · next v hv => exact ⟨_, hv.trans h⟩
    · exact ⟨_, h⟩

end PlayitAgent
