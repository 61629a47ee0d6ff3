import PlayitAgent.Proto.ControlRoundTrip

/-!
# What the check of the MTU pattern accepts

`read_and_verify_mtu_pattern` compares chunks of 128 bytes with a slice of an array that holds the
pattern 512 times. The slice starts at the index of the chunk modulo four, so that it is the piece
of the repeated pattern at the index of the chunk, whatever the length is. So the check accepts the
repeated pattern and nothing else.
-/

namespace PlayitAgent

/-- A byte string starts with so many bytes of the repeated pattern. -/
def StartsWithMtuPattern (len : ℕ) (b : List UInt8) : Prop :=
  len ≤ b.length ∧ ∀ i < len, b[i]? = some (mtuPatternByte i)

/-- To start with the pattern is to be the pattern and something else. -/
theorem startsWithMtuPattern_iff (len : ℕ) (b : List UInt8) :
    StartsWithMtuPattern len b ↔ b = mtuPatternFrom 0 len ++ b.drop len := by
  constructor
  · rintro ⟨hlen, hbytes⟩
    have htake : b.take len = mtuPatternFrom 0 len := by
      apply List.ext_getElem?
      intro i
      by_cases hi : i < len
      · rw [List.getElem?_take_of_lt hi, hbytes i hi]
        simp [mtuPatternFrom, hi]
      · have hout : (b.take len)[i]? = none := by
          rw [List.getElem?_eq_none_iff, List.length_take]
          omega
        have hout' : (mtuPatternFrom 0 len)[i]? = none := by
          rw [List.getElem?_eq_none_iff, length_mtuPatternFrom]
          omega
        rw [hout, hout']
    rw [← htake, List.take_append_drop]
  · intro hb
    have hlen : len ≤ b.length := by
      rw [hb, List.length_append, length_mtuPatternFrom]
      omega
    refine ⟨hlen, fun i hi => ?_⟩
    rw [hb, List.getElem?_append_left (by rw [length_mtuPatternFrom]; exact hi)]
    simp [mtuPatternFrom, hi]

/-! ## The loop -/

/-- From any index on, the loop has consumed the rest of the pattern when it succeeds. -/
theorem consumes_readAndVerifyMtuPatternFrom (len i : ℕ) :
    Consumes (readAndVerifyMtuPatternFrom len i) fun _ bs => bs = mtuPatternFrom i (len - i) := by
  -- The induction is that of the loop, of which a turn reads 128 bytes at most.
  induction i using readAndVerifyMtuPatternFrom.induct len with
  | case1 i hi size ih =>
    rw [readAndVerifyMtuPatternFrom, if_pos hi]
    have hsize : size = min (len - i) 128 := rfl
    obtain ⟨hrange, hslice⟩ := slice_mtuTestPattern i size (by omega)
    have hsplit : mtuPatternFrom i (len - i) =
        mtuPatternFrom i size ++ mtuPatternFrom (i + size) (len - (i + size)) := by
      rw [← mtuPatternFrom_add]
      congr 1
      omega
    refine (Consumes.readExact size).bind fun buffer bs hbs => ?_
    obtain ⟨rfl, -⟩ := hbs
    simp only [← hsize, hrange, if_false, hslice]
    -- The chunk is the piece of the pattern, or the check fails here.
    by_cases hchunk : bs = mtuPatternFrom i size
    · simp only [hchunk, ne_eq, not_true, if_false]
      refine ih.mono fun _ cs hcs => ?_
      rw [hcs, hsplit]
    · simp only [hchunk, ne_eq, not_false_eq_true, if_true]
      refine Consumes.bind (P := fun _ _ => False) Consumes.throw fun _ _ hfalse => ?_
      exact hfalse.elim
  | case2 i hi =>
    rw [readAndVerifyMtuPatternFrom, if_neg hi]
    refine Consumes.pure ?_
    rw [Nat.sub_eq_zero_of_le (by omega)]
    rfl

/-- From any index on, the loop does not panic. -/
theorem readAndVerifyMtuPatternFrom_ne_panic (len i : ℕ) (b : List UInt8) (p : Panic) :
    readAndVerifyMtuPatternFrom len i b ≠ .error (.panic p) := by
  induction i using readAndVerifyMtuPatternFrom.induct len generalizing b with
  | case1 i hi size ih =>
    rw [readAndVerifyMtuPatternFrom, if_pos hi]
    have hsize : size = min (len - i) 128 := rfl
    -- The one panic is the slice of the array, which is in range.
    obtain ⟨hrange, hslice⟩ := slice_mtuTestPattern i size (by omega)
    intro h
    simp only [← hsize, bind, StateT.bind, readExact] at h
    split_ifs at h with hlen
    · simp only [Except.bind, hslice] at h
      split_ifs at h with hchunk
      · cases h
      · exact ih _ h
    · cases h
  | case2 i hi =>
    rw [readAndVerifyMtuPatternFrom, if_neg hi]
    intro h
    cases h

/-! ## What is accepted -/

/-- The check succeeds exactly on what starts with the repeated pattern, and leaves what follows. -/
theorem readAndVerifyMtuPattern_eq_ok_iff (len : ℕ) (b rest : List UInt8) :
    readAndVerifyMtuPattern len b = .ok ((), rest) ↔ b = mtuPatternFrom 0 len ++ rest := by
  constructor
  · intro h
    obtain ⟨bs, hb, hbs⟩ := consumes_readAndVerifyMtuPatternFrom len 0 b () rest h
    rw [hb, hbs, Nat.sub_zero]
  · intro hb
    have hdecodes := decodes_readAndVerifyMtuPatternFrom len 0 rest
    rw [Nat.sub_zero, ← hb] at hdecodes
    exact hdecodes

/-- What `write_mtu_pattern` writes. -/
theorem emits_writeMtuPattern {len : ℕ} (hlen : len ≤ 2048) :
    Emits (writeMtuPattern len) len (mtuPatternFrom 0 len) := by
  have htake : mtuTestPattern.take len = mtuPatternFrom 0 len := by
    have hslice := take_drop_mtuTestPattern (i := 0) (n := len) (by omega)
    rw [List.drop_zero] at hslice
    exact hslice
  have hwrite := (Emits.writeAll (mtuTestPattern.take len)).bind
    (f := fun _ => pure len) (Emits.pure len)
  rw [List.append_nil, htake] at hwrite
  unfold writeMtuPattern
  simp only [hlen, not_true, if_false]
  rw [htake]
  exact hwrite

/-- On every byte string and for every length, the check returns without a panic. It succeeds
exactly when there are so many bytes and each of them is that of the pattern at its index modulo
four, and then it has consumed exactly these bytes. So for the lengths that `write_mtu_pattern` can
write, it accepts what that writes and nothing else. -/
theorem mtu_pattern_check_exact (len : ℕ) (b : List UInt8) :
    (∀ p, readAndVerifyMtuPattern len b ≠ .error (.panic p)) ∧
    (∀ rest, readAndVerifyMtuPattern len b = .ok ((), rest) ↔
      StartsWithMtuPattern len b ∧ rest = b.drop len) ∧
    (len ≤ 2048 → ∃ written, writeMtuPattern len Sink.vec = .ok (len, ⟨written, none⟩) ∧
      written.length = len ∧
      ∀ rest, readAndVerifyMtuPattern len b = .ok ((), rest) ↔ b = written ++ rest) := by
  refine ⟨readAndVerifyMtuPatternFrom_ne_panic len 0 b, fun rest => ?_, fun hlen => ?_⟩
  · rw [readAndVerifyMtuPattern_eq_ok_iff, startsWithMtuPattern_iff]
    constructor
    · intro hb
      have hrest : rest = b.drop len := by
        rw [hb, List.drop_append_of_le_length (by rw [length_mtuPatternFrom])]
        simp
      exact ⟨hrest ▸ hb, hrest⟩
    · rintro ⟨hb, rfl⟩
      exact hb
  · refine ⟨mtuPatternFrom 0 len, (emits_writeMtuPattern hlen).run_vec, length_mtuPatternFrom 0 len,
      fun rest => ?_⟩
    exact readAndVerifyMtuPattern_eq_ok_iff len b rest

end PlayitAgent
