/-
  Lib.Widened — singles as doubles.
-/
import Tidex.Lib.Binary32

namespace Tidex.Lib

open F64

namespace F64

lemma absBits_ofParts {negative : Bool} {word : Nat} (h : word < 2 ^ 63) :
    (ofParts negative word).absBits = word := by
  unfold absBits ofParts
  cases negative with
  | false =>
    show (0 + word % 2 ^ 63) % 2 ^ 63 = word
    omega
  | true =>
    show (2 ^ 63 + word % 2 ^ 63) % 2 ^ 63 = word
    omega

/-- A number of units below a power of two rounds to a word that is not above that power's. -/
lemma roundBits_le {n k : Nat} (hk : 53 ≤ k) (h : n < 2 ^ k) :
    roundBits n 1 ≤ (k - 51) * 2 ^ 52 := by
  unfold roundBits
  rw [Nat.div_one]
  have hlog : Nat.log2 n < k := by
    by_cases hzero : n = 0
    · rw [hzero]
      have hnone : Nat.log2 0 = 0 := by decide
      omega
    · exact (Nat.log2_lt hzero).mpr h
  have hnear : nearestEven n (1 * 2 ^ (Nat.log2 n - 52)) ≤ 2 ^ 53 := by
    refine F32.nearestEven_le ?_ ?_
    · rw [Nat.one_mul]
      exact Nat.two_pow_pos _
    · rw [Nat.one_mul, ← Nat.pow_add]
      have hlt : n < 2 ^ (Nat.log2 n + 1) := Nat.lt_log2_self
      have hle : 2 ^ (Nat.log2 n + 1) ≤ 2 ^ (53 + (Nat.log2 n - 52)) :=
        Nat.pow_le_pow_right (by decide) (by omega)
      omega
  show min (_ + _) infBits ≤ _
  omega

lemma isFinite_round {negative : Bool} {n : Nat} (h : n < 2 ^ 1204) :
    (round negative n 1).isFinite = true := by
  have hword := roundBits_le (show 53 ≤ 1204 by decide) h
  have hinf : infBits = 2047 * 2 ^ 52 := by decide
  have hbits : (round negative n 1).absBits = roundBits n 1 := absBits_ofParts (by omega)
  unfold isFinite
  rw [hbits, decide_eq_true_iff]
  omega

lemma magnitude_neg (x : F64) : x.neg.magnitude = x.magnitude := by
  have hbits : x.neg.absBits = x.absBits := absBits_ofParts (Nat.mod_lt _ (by decide))
  unfold magnitude
  rw [hbits]

lemma isFinite_neg {x : F64} (h : x.isFinite = true) : x.neg.isFinite = true := by
  have hbits : x.neg.absBits = x.absBits := absBits_ofParts (Nat.mod_lt _ (by decide))
  unfold isFinite at h ⊢
  rw [hbits]
  exact h

lemma natAbs_scaled (x : F64) : x.scaled.natAbs = x.magnitude := by
  unfold scaled
  split <;> omega

lemma isInfinite_of_isFinite {x : F64} (h : x.isFinite = true) : x.isInfinite = false := by
  unfold isFinite at h
  unfold isInfinite
  rw [decide_eq_true_eq] at h
  rw [beq_eq_false_iff_ne]
  omega

lemma isFinite_add {x y : F64} (hx : x.isFinite = true) (hy : y.isFinite = true)
    (hxle : x.magnitude ≤ 2 ^ 1202) (hyle : y.magnitude ≤ 2 ^ 1202) :
    (x.add y).isFinite = true := by
  have hxabs := natAbs_scaled x
  have hyabs := natAbs_scaled y
  have hsum : (x.scaled + y.scaled).natAbs < 2 ^ 1204 := by
    omega
  unfold add
  rw [isNaN_of_isFinite hx, isNaN_of_isFinite hy, isInfinite_of_isFinite hx,
    isInfinite_of_isFinite hy]
  simp only [Bool.or_self, Bool.false_eq_true, if_false]
  split
  · cases x.isSignNegative && y.isSignNegative <;> decide
  · exact isFinite_round hsum

end F64

namespace F32

lemma magnitude_lt_pow {x : F32} (h : x.isFinite = true) : x.magnitude < 2 ^ 277 := by
  have hlt : x.absBits < 255 * 2 ^ 23 := by
    unfold isFinite at h
    exact of_decide_eq_true h
  unfold magnitude
  show (if x.absBits / 2 ^ 23 = 0 then x.absBits
    else (2 ^ 23 + x.absBits % 2 ^ 23) * 2 ^ (x.absBits / 2 ^ 23 - 1)) < 2 ^ 277
  by_cases hzero : x.absBits / 2 ^ 23 = 0
  · rw [if_pos hzero]
    omega
  · rw [if_neg hzero]
    have hscale : 2 ^ (x.absBits / 2 ^ 23 - 1) ≤ 2 ^ 253 :=
      Nat.pow_le_pow_right (by decide) (by omega)
    have hstep : (2 ^ 23 + x.absBits % 2 ^ 23) * 2 ^ (x.absBits / 2 ^ 23 - 1) ≤
        (2 ^ 23 + x.absBits % 2 ^ 23) * 2 ^ 253 := Nat.mul_le_mul_left _ hscale
    omega

lemma toF64_of_isFinite {x : F32} (h : x.isFinite = true) :
    x.toF64 = round x.isSignNegative (x.magnitude * unit) 1 ∧ x.magnitude * unit < 2 ^ 1202 := by
  have hlt : x.absBits < infBits := by
    unfold isFinite at h
    exact of_decide_eq_true h
  have hnan : x.isNaN = false := by
    unfold isNaN
    rw [decide_eq_false_iff_not]
    omega
  have hinf : x.isInfinite = false := by
    unfold isInfinite
    rw [beq_eq_false_iff_ne]
    omega
  refine ⟨?_, ?_⟩
  · unfold toF64
    rw [hnan, hinf, if_neg Bool.false_ne_true, if_neg Bool.false_ne_true]
  · have hpow : 2 ^ 277 * unit = 2 ^ 1202 := by decide +kernel
    rw [← hpow]
    exact Nat.mul_lt_mul_of_pos_right (magnitude_lt_pow h) unit_pos

lemma isFinite_toF64 {x : F32} (h : x.isFinite = true) : x.toF64.isFinite = true := by
  obtain ⟨hround, hlt⟩ := toF64_of_isFinite h
  rw [hround]
  exact isFinite_round (by omega)

lemma magnitude_toF64_le {x : F32} (h : x.isFinite = true) : x.toF64.magnitude ≤ 2 ^ 1202 := by
  obtain ⟨hround, hlt⟩ := toF64_of_isFinite h
  have hbits : x.toF64.absBits = F64.roundBits (x.magnitude * unit) 1 := by
    have hword := F64.roundBits_le (show 53 ≤ 1202 by decide) hlt
    rw [hround]
    exact F64.absBits_ofParts (by omega)
  have hword := F64.roundBits_le (show 53 ≤ 1202 by decide) hlt
  have hbound : (F64.ofParts false (1151 * 2 ^ 52)).magnitude = 2 ^ 1202 := by decide +kernel
  have hboundBits : (F64.ofParts false (1151 * 2 ^ 52)).absBits = 1151 * 2 ^ 52 := by decide
  rw [← hbound, ← Nat.not_lt, F64.magnitude_lt_iff, hboundBits, hbits]
  omega

/-- The difference of two widened singles is finite. -/
lemma isFinite_sub {x y : F32} (hx : x.isFinite = true) (hy : y.isFinite = true) :
    (x.toF64 - y.toF64).isFinite = true := by
  have hyle := magnitude_toF64_le hy
  rw [← magnitude_neg] at hyle
  exact isFinite_add (isFinite_toF64 hx) (isFinite_neg (isFinite_toF64 hy))
    (magnitude_toF64_le hx) hyle

end F32

end Tidex.Lib
