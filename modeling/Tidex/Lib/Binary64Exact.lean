/-
  Lib.Binary64Exact — the rational number that a finite double stands for.
-/
import Mathlib.Tactic.Linarith
import Mathlib.Tactic.Positivity
import Tidex.Lib.Binary64

namespace Tidex.Lib.F64

/-! ## Magnitudes -/

lemma magnitudeWord_lt {f g : Nat} (hfg : f < g) {m n : Nat} (hm : m < 2 ^ 52) :
    (if f = 0 then m else (2 ^ 52 + m) * 2 ^ (f - 1)) <
      (if g = 0 then n else (2 ^ 52 + n) * 2 ^ (g - 1)) := by
  rw [if_neg (by omega : ¬g = 0)]
  have hbase : 2 ^ 52 * 2 ^ (g - 1) ≤ (2 ^ 52 + n) * 2 ^ (g - 1) :=
    Nat.mul_le_mul_right _ (by omega)
  by_cases hzero : f = 0
  · rw [if_pos hzero]
    have hone : 1 ≤ 2 ^ (g - 1) := Nat.one_le_two_pow
    omega
  · rw [if_neg hzero]
    have hstep : (2 ^ 52 + m) * 2 ^ (f - 1) < 2 ^ 53 * 2 ^ (f - 1) :=
      Nat.mul_lt_mul_of_pos_right (by omega) (by positivity)
    have hdouble : 2 ^ 53 * 2 ^ (f - 1) = 2 ^ 52 * 2 ^ f := by
      rw [← Nat.pow_add, ← Nat.pow_add]
      congr 1
      omega
    have hgrow : 2 ^ 52 * 2 ^ f ≤ 2 ^ 52 * 2 ^ (g - 1) :=
      Nat.mul_le_mul_left _ (Nat.pow_le_pow_right (by decide) (by omega))
    omega

lemma magnitude_eq (x : F64) : x.magnitude = if x.absBits / 2 ^ 52 = 0 then x.absBits % 2 ^ 52
    else (2 ^ 52 + x.absBits % 2 ^ 52) * 2 ^ (x.absBits / 2 ^ 52 - 1) := by
  unfold magnitude
  by_cases hzero : x.absBits / 2 ^ 52 = 0
  · rw [if_pos hzero, if_pos hzero]
    have hlt : x.absBits < 2 ^ 52 := by omega
    rw [Nat.mod_eq_of_lt hlt]
  · rw [if_neg hzero, if_neg hzero]

variable {x y : F64}

lemma magnitude_lt (h : x.absBits < y.absBits) : x.magnitude < y.magnitude := by
  rw [magnitude_eq, magnitude_eq]
  have hxlt : x.absBits % 2 ^ 52 < 2 ^ 52 := Nat.mod_lt _ (by decide)
  by_cases hfield : x.absBits / 2 ^ 52 = y.absBits / 2 ^ 52
  · -- one binade: the fractions decide
    have hmod : x.absBits % 2 ^ 52 < y.absBits % 2 ^ 52 := by omega
    rw [hfield]
    by_cases hzero : y.absBits / 2 ^ 52 = 0
    · rw [if_pos hzero, if_pos hzero]
      exact hmod
    · rw [if_neg hzero, if_neg hzero]
      exact Nat.mul_lt_mul_of_pos_right (by omega) (by positivity)
  · apply magnitudeWord_lt _ hxlt
    omega

lemma magnitude_lt_iff : x.magnitude < y.magnitude ↔ x.absBits < y.absBits := by
  constructor
  · intro h
    by_contra hle
    rcases Nat.lt_or_ge y.absBits x.absBits with hlt | hge
    · have hmag := magnitude_lt hlt
      omega
    · have heq : x.absBits = y.absBits := by omega
      rw [magnitude_eq, magnitude_eq, heq] at h
      exact absurd h (Nat.lt_irrefl _)
  · exact magnitude_lt

lemma magnitude_eq_zero {x : F64} : x.magnitude = 0 ↔ x.absBits = 0 := by
  have hzero : (zero false).magnitude = 0 := by decide
  have hbits : (zero false).absBits = 0 := by decide
  have hlt := @magnitude_lt_iff (zero false) x
  rw [hzero, hbits] at hlt
  omega

/-! ## Values -/

/-- The rational number that a finite double stands for. -/
def exact (x : F64) : ℚ := x.scaled / unit

lemma unit_pos : (0 : ℚ) < unit := by
  unfold unit
  positivity

lemma scaled_lt_iff : x.scaled < y.scaled ↔ x.key < y.key := by
  have hlt := @magnitude_lt_iff x y
  have hgt := @magnitude_lt_iff y x
  have hx := @magnitude_eq_zero x
  unfold scaled key
  by_cases hxs : x.isSignNegative = true <;> by_cases hys : y.isSignNegative = true
  · rw [if_pos hxs, if_pos hys, if_pos hxs, if_pos hys]
    omega
  · rw [if_pos hxs, if_neg hys, if_pos hxs, if_neg hys]
    omega
  · rw [if_neg hxs, if_pos hys, if_neg hxs, if_pos hys]
    omega
  · rw [if_neg hxs, if_neg hys, if_neg hxs, if_neg hys]
    omega

lemma exact_lt_iff : x.exact < y.exact ↔ x.key < y.key := by
  unfold exact
  rw [div_lt_div_iff_of_pos_right unit_pos, Int.cast_lt, scaled_lt_iff]

lemma isNaN_of_isFinite {x : F64} (h : x.isFinite = true) : x.isNaN = false := by
  unfold isFinite at h
  unfold isNaN
  rw [decide_eq_true_eq] at h
  rw [decide_eq_false_iff_not]
  omega

/-- Comparing finite doubles compares their values. -/
lemma lt?_iff (hx : x.isFinite = true) (hy : y.isFinite = true) :
    x.lt? y = true ↔ x.exact < y.exact := by
  unfold lt?
  rw [isNaN_of_isFinite hx, isNaN_of_isFinite hy, exact_lt_iff]
  simp

lemma le?_iff (hx : x.isFinite = true) (hy : y.isFinite = true) :
    x.le? y = true ↔ x.exact ≤ y.exact := by
  have hnot := not_congr (@exact_lt_iff y x)
  rw [not_lt, not_lt] at hnot
  unfold le?
  rw [isNaN_of_isFinite hx, isNaN_of_isFinite hy, hnot]
  simp

lemma exact_zero : (zero false).exact = 0 := by
  have hscaled : (zero false).scaled = 0 := by decide
  unfold exact
  rw [hscaled, Int.cast_zero, zero_div]

end Tidex.Lib.F64
