import Mathlib.Data.List.Induction
import Mathlib.Tactic.Ring

/-!
# Big-endian words

A number is written big-endian in `k` bytes by `beBytes k`, most significant byte first, and read
back by `beNat`. `beNat_beBytes` and `beBytes_beNat` say that the two undo each other: the first on
numbers below `256^k`, the second on any byte string of length `k`.
-/

namespace PlayitAgent

/-- The `k` low bytes of `n`, most significant first; bits at and above `256^k` are dropped. -/
def beBytes : ℕ → ℕ → List UInt8
  | 0, _ => []
  | k + 1, n => beBytes k (n / 256) ++ [UInt8.ofNat n]

/-- The number that a byte string spells, most significant byte first. -/
def beNat (bs : List UInt8) : ℕ := bs.foldl (fun acc b => 256 * acc + b.toNat) 0

/-- `beBytes k` writes `k` bytes. -/
@[simp]
theorem length_beBytes (k n : ℕ) : (beBytes k n).length = k := by
  induction k generalizing n with
  | zero => rfl
  | succ k ih => simp [beBytes, ih]

/-- The last byte is the low one. -/
theorem beNat_append_singleton (bs : List UInt8) (b : UInt8) :
    beNat (bs ++ [b]) = 256 * beNat bs + b.toNat := by
  simp [beNat]

/-- Reading what was written gives the number back, modulo `256^k`. -/
theorem beNat_beBytes (k n : ℕ) : beNat (beBytes k n) = n % 256 ^ k := by
  induction k generalizing n with
  | zero => simp [beBytes, beNat, Nat.mod_one]
  | succ k ih =>
    have hlow : (UInt8.ofNat n).toNat = n % 256 := UInt8.toNat_ofNat'
    rw [beBytes, beNat_append_singleton, ih, hlow, pow_succ', Nat.mod_mul, add_comm]

/-- `k` bytes spell a number below `256^k`. -/
theorem beNat_lt (bs : List UInt8) : beNat bs < 256 ^ bs.length := by
  induction bs using List.reverseRecOn with
  | nil => simp [beNat]
  | append_singleton bs b ih =>
    have hb := b.toNat_lt
    rw [beNat_append_singleton, List.length_append, List.length_singleton, pow_succ]
    omega

/-- Writing what was read gives the bytes back. -/
theorem beBytes_beNat (bs : List UInt8) : beBytes bs.length (beNat bs) = bs := by
  induction bs using List.reverseRecOn with
  | nil => rfl
  | append_singleton bs b ih =>
    have hb : b.toNat < 256 := b.toNat_lt
    have hdiv : (256 * beNat bs + b.toNat) / 256 = beNat bs := by omega
    have hlow : UInt8.ofNat (256 * beNat bs + b.toNat) = b := by
      apply UInt8.toNat_inj.mp
      rw [UInt8.toNat_ofNat']
      omega
    rw [List.length_append, List.length_singleton, beBytes, beNat_append_singleton, hdiv, ih, hlow]

end PlayitAgent
