/-
  Lib.QuadraticForm — lowering the coordinates of a quadratic form.
-/
import Tidex.Lib.Downdate

namespace Tidex.Lib

open Matrix Function Finset

variable {n : Type} [Fintype n] {m : Matrix n n ℝ} {x y : n → ℝ}

noncomputable def quadraticForm (m : Matrix n n ℝ) (x : n → ℝ) : ℝ := x ⬝ᵥ m *ᵥ x

/-! ## One coordinate -/

section

variable [DecidableEq n]

lemma form_lower (hm : m.IsHermitian) (x : n → ℝ) (i : n) (δ : ℝ) :
    quadraticForm m (update x i (x i - δ)) =
      quadraticForm m x - 2 * δ * (m *ᵥ x) i + δ * δ * m i i := by
  have hupdate : update x i (x i - δ) = x - δ • Pi.single i 1 := by
    funext j
    by_cases hj : j = i
    · subst hj
      simp
    · simp [update_of_ne hj, Pi.single_eq_of_ne hj]
  have hcolumn : x ⬝ᵥ m *ᵥ (Pi.single i 1) = (m *ᵥ x) i := by
    rw [dotProduct_mulVec_symm hm, single_one_dotProduct]
  have hdiagonal : (Pi.single i 1 : n → ℝ) ⬝ᵥ m *ᵥ (Pi.single i 1) = m i i := by
    rw [single_one_dotProduct, mulVec_single_one]
    rfl
  unfold quadraticForm
  rw [hupdate, mulVec_sub, mulVec_smul, sub_dotProduct, dotProduct_sub, dotProduct_sub,
    smul_dotProduct, smul_dotProduct, dotProduct_smul, dotProduct_smul, hcolumn, hdiagonal,
    single_one_dotProduct]
  simp only [smul_eq_mul]
  ring

/-- Down to the minimum along a coordinate, the form does not rise. -/
lemma form_lower_le (hm : m.IsHermitian) {i : n} {δ : ℝ} (hδ : 0 ≤ δ)
    (hle : δ * m i i ≤ (m *ᵥ x) i) (hgradient : 0 ≤ (m *ᵥ x) i) :
    quadraticForm m (update x i (x i - δ)) ≤ quadraticForm m x := by
  have hsquare : δ * (δ * m i i) ≤ δ * (m *ᵥ x) i := mul_le_mul_of_nonneg_left hle hδ
  have hrelief : 0 ≤ δ * (m *ᵥ x) i := mul_nonneg hδ hgradient
  rw [form_lower hm]
  linarith

end

/-! ## Signs -/

/-- The matrix whose entries take the signs of their row and column. -/
noncomputable def withSigns (m : Matrix n n ℝ) (s : n → ℝ) : Matrix n n ℝ :=
  Matrix.of fun i j => m i j * s i * s j

lemma form_withSigns (m : Matrix n n ℝ) (s x : n → ℝ) :
    quadraticForm (withSigns m s) x = quadraticForm m (s * x) := by
  unfold quadraticForm withSigns
  simp only [dotProduct, mulVec, of_apply, Pi.mul_apply, mul_sum]
  refine sum_congr rfl ?_
  intro i _
  refine sum_congr rfl ?_
  intro j _
  ring

lemma posSemidef_withSigns (hm : PosSemidef m) (s : n → ℝ) : PosSemidef (withSigns m s) := by
  refine PosSemidef.of_dotProduct_mulVec_nonneg ?_ ?_
  · ext i j
    have hsymm := hm.1.apply i j
    rw [star_trivial] at hsymm
    rw [conjTranspose_apply, star_trivial]
    show m j i * s j * s i = m i j * s i * s j
    rw [hsymm]
    ring
  · intro x
    have hform := form_withSigns m s x
    have hnonneg := hm.dotProduct_mulVec_nonneg (s * x)
    rw [star_trivial] at hnonneg ⊢
    unfold quadraticForm at hform
    rw [hform]
    exact hnonneg

/-! ## Entries that are not negative -/

lemma mulVec_mono (hm : ∀ i j, 0 ≤ m i j) (h : ∀ i, y i ≤ x i) (i : n) :
    (m *ᵥ y) i ≤ (m *ᵥ x) i := by
  refine sum_le_sum ?_
  intro j _
  exact mul_le_mul_of_nonneg_left (h j) (hm i j)

lemma mulVec_nonneg (hm : ∀ i j, 0 ≤ m i j) (hx : ∀ i, 0 ≤ x i) (i : n) : 0 ≤ (m *ᵥ x) i :=
  sum_nonneg fun j _ => mul_nonneg (hm i j) (hx j)

lemma diagonal_mul_le (hm : ∀ i j, 0 ≤ m i j) (hx : ∀ i, 0 ≤ x i) (i : n) :
    m i i * x i ≤ (m *ᵥ x) i :=
  single_le_sum (fun j _ => mul_nonneg (hm i j) (hx j)) (mem_univ i)

/-- Without negative entries the form is monotone. -/
lemma form_mono (hm : ∀ i j, 0 ≤ m i j) (hy : ∀ i, 0 ≤ y i) (h : ∀ i, y i ≤ x i) :
    quadraticForm m y ≤ quadraticForm m x := by
  refine sum_le_sum ?_
  intro i _
  exact mul_le_mul (h i) (mulVec_mono hm h i) (mulVec_nonneg hm hy i) (le_trans (hy i) (h i))

lemma form_le_of_small (hm : ∀ i j, 0 ≤ m i j) (hx : ∀ i, 0 ≤ x i) {t : ℝ} (ht : 0 ≤ t)
    (h : ∀ i, x i ≤ t ∨ (m *ᵥ x) i ≤ t) : quadraticForm m x ≤ t * (∑ i, x i + ∑ i, (m *ᵥ x) i) := by
  have hgradient : ∀ i, 0 ≤ (m *ᵥ x) i := mulVec_nonneg hm hx
  rw [← sum_add_distrib, mul_sum]
  refine sum_le_sum ?_
  intro i _
  rcases h i with hsmall | hsmall
  · calc x i * (m *ᵥ x) i ≤ t * (m *ᵥ x) i := mul_le_mul_of_nonneg_right hsmall (hgradient i)
      _ ≤ t * (x i + (m *ᵥ x) i) := mul_le_mul_of_nonneg_left (by linarith [hx i]) ht
  · calc x i * (m *ᵥ x) i ≤ x i * t := mul_le_mul_of_nonneg_left hsmall (hx i)
      _ = t * x i := mul_comm _ _
      _ ≤ t * (x i + (m *ᵥ x) i) := mul_le_mul_of_nonneg_left (by linarith [hgradient i]) ht

end Tidex.Lib
