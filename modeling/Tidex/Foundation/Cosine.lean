/-
  Foundation.Cosine — the cosine of two vectors.
-/
import Tidex.Foundation.Exact

namespace Tidex

open Tidex.Lib List

/-! ## The function -/

section

variable {K : Type} [Scalar K]

/-- A value brought between two bounds. -/
def clamp (low high value : K) : K :=
  if Scalar.lt value low then low else if Scalar.lt high value then high else value

def cosine (a b : List K) : BrainResult K := do
  failIf (a.length ≠ b.length) (invalid "cosine_dimension_mismatch")
  let leftNorm ← norm a
  let rightNorm ← norm b
  failIf (Scalar.eq leftNorm 0 ∨ Scalar.eq rightNorm 0) (.numerical "cosine_zero_norm")
  let value := sumFrom 0 (List.zipWith (fun left right => left / leftNorm * (right / rightNorm)) a b)
  failIf (¬Scalar.isFinite value) (.numerical "cosine_non_finite_result")
  return clamp (-1) 1 value

end

/-! ## Over exact reals -/

def squareSum (a : List ℝ) : ℝ := (a.map fun x => x * x).sum

noncomputable def cosineOf (a b : List ℝ) : ℝ :=
  (List.zipWith (· * ·) a b).sum / (Real.sqrt (squareSum a) * Real.sqrt (squareSum b))

lemma squareSum_nonneg (a : List ℝ) : 0 ≤ squareSum a := by
  apply sum_nonneg
  intro y hy
  obtain ⟨x, -, rfl⟩ := mem_map.mp hy
  exact mul_self_nonneg x

lemma squareSum_pos {a : List ℝ} (h : ∃ x ∈ a, x ≠ 0) : 0 < squareSum a := by
  induction a with
  | nil =>
    obtain ⟨x, hx, -⟩ := h
    cases hx
  | cons y a ih =>
    have hrest := squareSum_nonneg a
    show 0 < ((y :: a).map fun x => x * x).sum
    rw [map_cons, sum_cons]
    by_cases hy : y = 0
    · obtain ⟨x, hx, hne⟩ := h
      rcases mem_cons.mp hx with hx | hx
      · rw [hx] at hne
        exact absurd hy hne
      · have hpos := ih ⟨x, hx, hne⟩
        unfold squareSum at hpos
        rw [hy]
        linarith
    · have hpos := mul_self_pos.mpr hy
      unfold squareSum at hrest
      linarith

lemma squareSum_eq_zero {a : List ℝ} (h : ¬∃ x ∈ a, x ≠ 0) : squareSum a = 0 := by
  apply sum_eq_zero
  intro y hy
  obtain ⟨x, hx, rfl⟩ := mem_map.mp hy
  have hzero : x = 0 := by
    by_contra hne
    exact h ⟨x, hx, hne⟩
  rw [hzero, mul_zero]

variable {a b : List ℝ}

lemma inner_mul_inner_le (h : a.length = b.length) :
    (zipWith (· * ·) a b).sum * (zipWith (· * ·) a b).sum ≤ squareSum a * squareSum b := by
  -- a square polynomial that is never negative
  have hsquare : ∀ (t : ℝ) (a b : List ℝ), a.length = b.length →
      0 ≤ t * t * squareSum a + 2 * t * (zipWith (· * ·) a b).sum + squareSum b := by
    intro t a
    induction a with
    | nil =>
      intro b hb
      rw [length_nil] at hb
      rw [length_eq_zero_iff.mp hb.symm]
      simp [squareSum]
    | cons x a ih =>
      intro b hb
      cases b with
      | nil => cases hb
      | cons y b =>
        have hrest := ih b (by simpa using hb)
        have hhead := mul_self_nonneg (t * x + y)
        unfold squareSum at hrest ⊢
        rw [map_cons, map_cons, sum_cons, sum_cons, zipWith_cons_cons, sum_cons]
        nlinarith [hrest, hhead]
  by_cases hzero : squareSum a = 0
  · have hall : ∀ x ∈ a, x = 0 := by
      intro x hx
      by_contra hne
      exact absurd hzero (squareSum_pos ⟨x, hx, hne⟩).ne'
    have hsum : (zipWith (· * ·) a b).sum = 0 := by
      clear h hsquare hzero
      induction a generalizing b with
      | nil => simp
      | cons x a ih =>
        cases b with
        | nil => simp
        | cons y b =>
          rw [zipWith_cons_cons, sum_cons, hall x mem_cons_self,
            ih fun z hz => hall z (mem_cons_of_mem _ hz)]
          ring
    rw [hsum, hzero]
    linarith
  · have hpos : 0 < squareSum a := lt_of_le_of_ne (squareSum_nonneg a) (Ne.symm hzero)
    have hat := hsquare (-(zipWith (· * ·) a b).sum / squareSum a) a b h
    have hexpand : -(zipWith (· * ·) a b).sum / squareSum a *
        (-(zipWith (· * ·) a b).sum / squareSum a) * squareSum a +
          2 * (-(zipWith (· * ·) a b).sum / squareSum a) * (zipWith (· * ·) a b).sum +
          squareSum b =
        squareSum b - (zipWith (· * ·) a b).sum * (zipWith (· * ·) a b).sum /
          squareSum a := by
      field_simp
      ring
    rw [hexpand, sub_nonneg, div_le_iff₀ hpos] at hat
    linarith

/-- The cosine is at most one in absolute value. -/
lemma abs_cosineOf_le (h : a.length = b.length) : |cosineOf a b| ≤ 1 := by
  have hle := inner_mul_inner_le h
  have hroot : |(zipWith (· * ·) a b).sum| ≤
      Real.sqrt (squareSum a) * Real.sqrt (squareSum b) := by
    rw [← Real.sqrt_mul (squareSum_nonneg a), ← Real.sqrt_mul_self_eq_abs]
    exact Real.sqrt_le_sqrt hle
  unfold cosineOf
  rw [abs_div, abs_of_nonneg (mul_nonneg (Real.sqrt_nonneg _) (Real.sqrt_nonneg _))]
  exact div_le_one_of_le₀ hroot (mul_nonneg (Real.sqrt_nonneg _) (Real.sqrt_nonneg _))

lemma clamp_of_mem {low high value : ℝ} (hlow : low ≤ value) (hhigh : value ≤ high) :
    clamp low high value = value := by
  unfold clamp
  rw [if_neg, if_neg]
  · rw [exact_lt]
    exact not_lt.mpr hhigh
  · rw [exact_lt]
    exact not_lt.mpr hlow

/-- The clamped sum of scaled products is the cosine. -/
lemma cosine_exact (hlength : a.length = b.length) (ha : ∃ x ∈ a, x ≠ 0) (hb : ∃ x ∈ b, x ≠ 0) :
    cosine a b = .ok (cosineOf a b) := by
  have hane : a ≠ [] := by
    obtain ⟨x, hx, -⟩ := ha
    exact ne_nil_of_mem hx
  have hbne : b ≠ [] := by
    obtain ⟨x, hx, -⟩ := hb
    exact ne_nil_of_mem hx
  have hasqrt : Real.sqrt (squareSum a) ≠ 0 := (Real.sqrt_pos.mpr (squareSum_pos ha)).ne'
  have hbsqrt : Real.sqrt (squareSum b) ≠ 0 := (Real.sqrt_pos.mpr (squareSum_pos hb)).ne'
  have hscaled : ∀ (s t : ℝ), ∀ a b : List ℝ,
      (zipWith (fun left right => left / s * (right / t)) a b).sum =
        (zipWith (· * ·) a b).sum / (s * t) := by
    intro s t a
    induction a with
    | nil =>
      intro b
      simp
    | cons x a ih =>
      intro b
      cases b with
      | nil => simp
      | cons y b =>
        rw [zipWith_cons_cons, zipWith_cons_cons, sum_cons, sum_cons, ih b,
          add_div, div_mul_div_comm]
  have hbound := abs_le.mp (abs_cosineOf_le hlength)
  unfold cosine
  rw [norm_exact hane, norm_exact hbne]
  have hasum : (a.map fun x => x * x).sum = squareSum a := rfl
  have hbsum : (b.map fun x => x * x).sum = squareSum b := rfl
  simp only [hlength, ne_eq, not_true_eq_false, failIf, if_false, ok_bind, hasum, hbsum, exact_eq,
    hasqrt, hbsqrt, or_self, exact_isFinite, sumFrom_exact, hscaled, zero_add]
  show Except.ok (clamp (-1) 1 (cosineOf a b)) = _
  rw [clamp_of_mem hbound.1 hbound.2]

lemma cosine_ok (ha : a ≠ []) (hb : b ≠ []) : (∃ c, cosine a b = .ok c) ↔
      a.length = b.length ∧ (∃ x ∈ a, x ≠ 0) ∧ ∃ x ∈ b, x ≠ 0 := by
  constructor
  · intro h
    obtain ⟨c, hc⟩ := h
    unfold cosine at hc
    rw [norm_exact ha, norm_exact hb] at hc
    by_cases hlength : a.length = b.length
    · simp only [hlength, ne_eq, not_true_eq_false, failIf, if_false, ok_bind, exact_eq] at hc
      refine ⟨hlength, ?_, ?_⟩
      · by_contra hzero
        have hsum : (a.map fun x => x * x).sum = 0 := squareSum_eq_zero hzero
        rw [hsum, Real.sqrt_zero, if_pos (.inl rfl)] at hc
        cases hc
      · by_contra hzero
        have hsum : (b.map fun x => x * x).sum = 0 := squareSum_eq_zero hzero
        rw [hsum, Real.sqrt_zero, if_pos (.inr rfl)] at hc
        cases hc
    · rw [failIf, if_pos hlength] at hc
      cases hc
  · intro h
    exact ⟨_, cosine_exact h.1 h.2.1 h.2.2⟩

end Tidex
