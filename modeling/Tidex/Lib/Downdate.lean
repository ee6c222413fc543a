/-
  Lib.Downdate — what a measurement leaves of a covariance.

  Measuring a linear functional of a quantity, with noise, takes a matrix of rank
  one from its covariance.  What is left is a covariance again, below the one
  before, and the order of two measurements does not matter.
-/
import Mathlib.Algebra.Order.Star.Real
import Mathlib.Algebra.QuadraticDiscriminant
import Mathlib.LinearAlgebra.Matrix.PosDef

namespace Tidex.Lib

open Matrix

variable {n : Type} [Fintype n]

/-- The covariance after the functional `a` was measured with noise of variance `noise`. -/
noncomputable def downdate (m : Matrix n n ℝ) (a : n → ℝ) (noise : ℝ) : Matrix n n ℝ :=
  m - (noise + a ⬝ᵥ m *ᵥ a)⁻¹ • vecMulVec (m *ᵥ a) (m *ᵥ a)

variable {m : Matrix n n ℝ}

lemma dotProduct_mulVec_symm (hm : m.IsHermitian) (x y : n → ℝ) : x ⬝ᵥ m *ᵥ y = y ⬝ᵥ m *ᵥ x := by
  have htranspose : mᵀ = m := by
    rw [← conjTranspose_eq_transpose_of_trivial]
    exact hm
  calc x ⬝ᵥ m *ᵥ y = (x ᵥ* m) ⬝ᵥ y := dotProduct_mulVec x m y
    _ = (mᵀ *ᵥ x) ⬝ᵥ y := by rw [mulVec_transpose]
    _ = y ⬝ᵥ m *ᵥ x := by rw [htranspose, dotProduct_comm]

/-- A form that is nowhere negative satisfies the inequality of Cauchy and Schwarz. -/
lemma sq_le_of_posSemidef (hm : PosSemidef m) (x a : n → ℝ) :
    (x ⬝ᵥ m *ᵥ a) ^ 2 ≤ (x ⬝ᵥ m *ᵥ x) * (a ⬝ᵥ m *ᵥ a) := by
  have hline : ∀ t : ℝ, 0 ≤ (a ⬝ᵥ m *ᵥ a) * (t * t) + (2 * (x ⬝ᵥ m *ᵥ a)) * t
      + x ⬝ᵥ m *ᵥ x := by
    intro t
    have hpoint := hm.dotProduct_mulVec_nonneg (x + t • a)
    rw [star_trivial, mulVec_add, mulVec_smul, add_dotProduct, dotProduct_add, dotProduct_add,
      smul_dotProduct, smul_dotProduct, dotProduct_smul, dotProduct_smul,
      dotProduct_mulVec_symm hm.1 a x] at hpoint
    simp only [smul_eq_mul] at hpoint
    linarith
  have hdiscrim := discrim_le_zero hline
  unfold discrim at hdiscrim
  nlinarith

lemma downdate_posSemidef (hm : PosSemidef m) (a : n → ℝ) {noise : ℝ} (hnoise : 0 < noise) :
    PosSemidef (downdate m a noise) := by
  have hvariance : 0 ≤ a ⬝ᵥ m *ᵥ a := by
    have := hm.dotProduct_mulVec_nonneg a
    rwa [star_trivial] at this
  have hpos : 0 < noise + a ⬝ᵥ m *ᵥ a := by linarith
  refine PosSemidef.of_dotProduct_mulVec_nonneg ?_ ?_
  · have hrank : (vecMulVec (m *ᵥ a) (m *ᵥ a)).IsHermitian := by
      have := (posSemidef_vecMulVec_self_star (m *ᵥ a)).1
      rwa [star_trivial] at this
    unfold downdate
    exact hm.1.sub (hrank.smul (IsSelfAdjoint.all _))
  · intro x
    have hform : star x ⬝ᵥ downdate m a noise *ᵥ x =
        x ⬝ᵥ m *ᵥ x - (noise + a ⬝ᵥ m *ᵥ a)⁻¹ * (x ⬝ᵥ m *ᵥ a) ^ 2 := by
      unfold downdate
      rw [star_trivial, sub_mulVec, dotProduct_sub, smul_mulVec, dotProduct_smul,
        vecMulVec_mulVec, dotProduct_smul, smul_eq_mul]
      rw [dotProduct_comm (m *ᵥ a) x]
      simp only [MulOpposite.smul_eq_mul_unop, MulOpposite.unop_op]
      ring
    rw [hform, sub_nonneg, inv_mul_le_iff₀ hpos]
    have hsq := sq_le_of_posSemidef hm x a
    have hx : 0 ≤ x ⬝ᵥ m *ᵥ x := by
      have := hm.dotProduct_mulVec_nonneg x
      rwa [star_trivial] at this
    nlinarith

/-! ## Two measurements -/

noncomputable def correct (m : Matrix n n ℝ) (mean a : n → ℝ) (noise y : ℝ) : n → ℝ :=
  mean + ((noise + a ⬝ᵥ m *ᵥ a)⁻¹ * (y - a ⬝ᵥ mean)) • m *ᵥ a

lemma downdate_mulVec (m : Matrix n n ℝ) (a x : n → ℝ) (noise : ℝ) : downdate m a noise *ᵥ x =
      m *ᵥ x - ((noise + a ⬝ᵥ m *ᵥ a)⁻¹ * (x ⬝ᵥ m *ᵥ a)) • m *ᵥ a := by
  unfold downdate
  rw [sub_mulVec, smul_mulVec, vecMulVec_mulVec, dotProduct_comm (m *ᵥ a) x]
  ext i
  simp only [Pi.sub_apply, Pi.smul_apply, smul_eq_mul, MulOpposite.smul_eq_mul_unop,
    MulOpposite.unop_op]
  ring

/-- A measurement takes nothing negative away. -/
lemma sub_downdate_posSemidef (hm : PosSemidef m) (a : n → ℝ) {noise : ℝ} (hnoise : 0 < noise) :
    PosSemidef (m - downdate m a noise) := by
  have hvariance : 0 ≤ a ⬝ᵥ m *ᵥ a := by
    have hform := hm.dotProduct_mulVec_nonneg a
    rwa [star_trivial] at hform
  have hrank := posSemidef_vecMulVec_self_star (m *ᵥ a)
  rw [star_trivial] at hrank
  have heq : m - downdate m a noise =
      (noise + a ⬝ᵥ m *ᵥ a)⁻¹ • vecMulVec (m *ᵥ a) (m *ᵥ a) := by
    unfold downdate
    rw [sub_sub_cancel]
  rw [heq]
  exact hrank.smul (inv_nonneg.mpr (by linarith))

/-- What the second of two measurements adds to the first, in numbers: `d` and `e` are the
    variances of the two results and `c` is their covariance. -/
lemma second_step {d e c : ℝ} (hd : d ≠ 0) (hdet : d * e - c * c ≠ 0) (x y v w : ℝ) :
    d⁻¹ * (x * y) + (e - d⁻¹ * c * c)⁻¹ * ((v - d⁻¹ * c * x) * (w - d⁻¹ * c * y)) =
      (d * e - c * c)⁻¹ * (e * (x * y) + d * (v * w) - c * (x * w + v * y)) := by
  -- the variance of the second result, in the determinant of the two
  obtain ⟨det, hdefines⟩ : ∃ det, det = d * e - c * c := ⟨_, rfl⟩
  have he : e = (det + c * c) / d := by
    rw [hdefines]
    field_simp
    ring
  rw [← hdefines] at hdet ⊢
  have hsecond : e - d⁻¹ * c * c = det / d := by
    rw [he]
    field_simp
    ring
  rw [hsecond, he, inv_div]
  field_simp
  ring

section

variable {m : Matrix n n ℝ} (hm : PosSemidef m) (a b mean : n → ℝ) {noise noise' : ℝ}
  (hnoise : 0 < noise) (hnoise' : 0 < noise')

include hm hnoise hnoise'

/-- The results of two measurements are not the same, because of their noise. -/
lemma results_differ : noise + a ⬝ᵥ m *ᵥ a ≠ 0 ∧
    (noise + a ⬝ᵥ m *ᵥ a) * (noise' + b ⬝ᵥ m *ᵥ b) - (a ⬝ᵥ m *ᵥ b) * (a ⬝ᵥ m *ᵥ b) ≠ 0 := by
  have hform : ∀ x : n → ℝ, 0 ≤ x ⬝ᵥ m *ᵥ x := by
    intro x
    have hx := hm.dotProduct_mulVec_nonneg x
    rwa [star_trivial] at hx
  have hsq := sq_le_of_posSemidef hm a b
  have ha := hform a
  have hb := hform b
  refine ⟨by linarith, ?_⟩
  nlinarith

/-- What two measurements leave, in the numbers of the first. -/
lemma downdate_downdate_apply (i j : n) : downdate (downdate m a noise) b noise' i j = m i j -
      ((noise + a ⬝ᵥ m *ᵥ a) * (noise' + b ⬝ᵥ m *ᵥ b) - (a ⬝ᵥ m *ᵥ b) * (a ⬝ᵥ m *ᵥ b))⁻¹ *
        ((noise' + b ⬝ᵥ m *ᵥ b) * ((m *ᵥ a) i * (m *ᵥ a) j) +
          (noise + a ⬝ᵥ m *ᵥ a) * ((m *ᵥ b) i * (m *ᵥ b) j) -
          (a ⬝ᵥ m *ᵥ b) * ((m *ᵥ a) i * (m *ᵥ b) j + (m *ᵥ b) i * (m *ᵥ a) j)) := by
  obtain ⟨hfirst, hdet⟩ := results_differ hm a b hnoise hnoise'
  have hsymm := dotProduct_mulVec_symm hm.1 b a
  have hvariance : noise' + b ⬝ᵥ downdate m a noise *ᵥ b = noise' + b ⬝ᵥ m *ᵥ b -
      (noise + a ⬝ᵥ m *ᵥ a)⁻¹ * (a ⬝ᵥ m *ᵥ b) * (a ⬝ᵥ m *ᵥ b) := by
    rw [downdate_mulVec, dotProduct_sub, dotProduct_smul, hsymm, smul_eq_mul]
    ring
  rw [← second_step hfirst hdet]
  unfold downdate at hvariance ⊢
  rw [Matrix.sub_apply, Matrix.smul_apply, vecMulVec_apply, hvariance]
  have hvalue : ∀ k, ((m - (noise + a ⬝ᵥ m *ᵥ a)⁻¹ • vecMulVec (m *ᵥ a) (m *ᵥ a)) *ᵥ b) k =
      (m *ᵥ b) k - (noise + a ⬝ᵥ m *ᵥ a)⁻¹ * (a ⬝ᵥ m *ᵥ b) * (m *ᵥ a) k := by
    intro k
    have hk := congrFun (downdate_mulVec m a b noise) k
    rw [hsymm] at hk
    exact hk
  rw [hvalue, hvalue, Matrix.sub_apply, Matrix.smul_apply, vecMulVec_apply, smul_eq_mul,
    smul_eq_mul]
  ring

/-- Two measurements commute: what they leave of the covariance. -/
lemma downdate_comm :
    downdate (downdate m a noise) b noise' = downdate (downdate m b noise') a noise := by
  ext i j
  rw [downdate_downdate_apply hm a b hnoise hnoise', downdate_downdate_apply hm b a hnoise' hnoise,
    dotProduct_mulVec_symm hm.1 b a]
  congr 2
  · ring
  · ring

/-- What two measurements make of the mean. -/
lemma correct_correct_apply (y z : ℝ) (i : n) :
    correct (downdate m a noise) (correct m mean a noise y) b noise' z i = mean i +
      ((noise + a ⬝ᵥ m *ᵥ a) * (noise' + b ⬝ᵥ m *ᵥ b) - (a ⬝ᵥ m *ᵥ b) * (a ⬝ᵥ m *ᵥ b))⁻¹ *
        ((noise' + b ⬝ᵥ m *ᵥ b) * ((y - a ⬝ᵥ mean) * (m *ᵥ a) i) +
          (noise + a ⬝ᵥ m *ᵥ a) * ((z - b ⬝ᵥ mean) * (m *ᵥ b) i) -
          (a ⬝ᵥ m *ᵥ b) * ((y - a ⬝ᵥ mean) * (m *ᵥ b) i + (z - b ⬝ᵥ mean) * (m *ᵥ a) i)) := by
  obtain ⟨hfirst, hdet⟩ := results_differ hm a b hnoise hnoise'
  have hsymm := dotProduct_mulVec_symm hm.1 b a
  rw [← second_step hfirst hdet]
  unfold correct
  rw [downdate_mulVec, dotProduct_sub, dotProduct_smul, dotProduct_add, dotProduct_smul, hsymm]
  simp only [Pi.add_apply, Pi.sub_apply, Pi.smul_apply, smul_eq_mul]
  have hvariance : noise' + (b ⬝ᵥ m *ᵥ b -
      (noise + a ⬝ᵥ m *ᵥ a)⁻¹ * (a ⬝ᵥ m *ᵥ b) * (a ⬝ᵥ m *ᵥ b)) = noise' + b ⬝ᵥ m *ᵥ b -
        (noise + a ⬝ᵥ m *ᵥ a)⁻¹ * (a ⬝ᵥ m *ᵥ b) * (a ⬝ᵥ m *ᵥ b) := by ring
  rw [hvariance]
  ring

/-- Two measurements commute: what they make of the mean. -/
lemma correct_comm (y z : ℝ) :
    correct (downdate m a noise) (correct m mean a noise y) b noise' z =
      correct (downdate m b noise') (correct m mean b noise' z) a noise y := by
  ext i
  rw [correct_correct_apply hm a b mean hnoise hnoise',
    correct_correct_apply hm b a mean hnoise' hnoise, dotProduct_mulVec_symm hm.1 b a]
  congr 2
  · ring
  · ring

end

end Tidex.Lib
