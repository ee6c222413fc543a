/-
  Analysis.Posterior — scores and results over exact reals.

  Over exact reals an aperture with a unit vector can always be scored, and its result always
  assimilated.
-/
import Tidex.Analysis.Active
import Tidex.Foundation.Exact

namespace Tidex.Analysis

open Tidex.Lib List

/-! ## Sound values -/

/-- A posterior of some dimension: its covariance is one. -/
structure Covers (n : Nat) (posterior : GaussianAperturePosterior ℝ) : Prop where
  mean_length : posterior.mean.length = n
  rows_length : posterior.covariance.length = n
  row_length : ∀ row ∈ posterior.covariance, row.length = n
  psd : Matrix.PosSemidef (asMatrix n posterior.covariance)

/-- A candidate with a unit vector of some dimension. -/
structure Usable (n : Nat) (candidate : ApertureCandidate ℝ) : Prop where
  vector_length : candidate.sensingVector.length = n
  unit : (candidate.sensingVector.map fun x => x * x).sum = 1
  noise_pos : 0 < candidate.noiseVariance
  cost_nonneg : 0 ≤ candidate.cost
  risk_nonneg : 0 ≤ candidate.risk
  risk_le : candidate.risk ≤ 1

variable {n : Nat} {candidate : ApertureCandidate ℝ} {posterior : GaussianAperturePosterior ℝ}
  {m : DenseMatrix ℝ}

lemma validateCandidate_exact (h : Usable n candidate) :
    validateCandidate candidate n = .ok () := by
  unfold validateCandidate
  rw [failIf_ok, exact_any_infinite, sumFrom_exact, h.unit]
  simp only [h.vector_length, ne_eq, not_true_eq_false, Bool.false_eq_true, exact_le, exact_lt,
    exact_isFinite, exact_lit, false_or, not_or, not_not]
  refine ⟨?_, not_le.mpr h.noise_pos, not_lt.mpr h.cost_nonneg, h.risk_nonneg, h.risk_le⟩
  norm_num

section

variable (hvalid : validateCandidate candidate n = .ok ())

include hvalid

lemma vector_length_of_valid : candidate.sensingVector.length = n := by
  unfold validateCandidate at hvalid
  rw [failIf_ok, not_or, not_not] at hvalid
  exact hvalid.1

lemma noise_pos_of_valid : 0 < candidate.noiseVariance := by
  unfold validateCandidate at hvalid
  simp only [failIf_ok, not_or, exact_le, not_le] at hvalid
  exact hvalid.2.2.2.1

end

/-! ## Scores -/

lemma scoreAperture_exact (hm : m.Square n) (h : Usable n candidate) (costWeight riskWeight : ℝ) :
    ∃ score, scoreAperture m costWeight riskWeight candidate = .ok score := by
  obtain ⟨q, hq, hlength, -⟩ := DenseMatrix.matvec_exact hm h.vector_length
  unfold scoreAperture
  rw [hq, ok_bind, dot_asVector h.vector_length hlength, ok_bind]
  exact ⟨_, rfl⟩

/-- Scoring does not fail. -/
lemma chooseActiveAperture_exact (hpos : 0 < n) (hm : m.Square n)
    (hpsd : Matrix.PosSemidef (asMatrix n m.rows)) (h : Usable n candidate)
    {costWeight riskWeight : ℝ} (hcost : 0 ≤ costWeight) (hrisk : 0 ≤ riskWeight) :
    ∃ score, chooseActiveAperture [candidate] m costWeight riskWeight = .ok score := by
  obtain ⟨score, hscore⟩ := scoreAperture_exact hm h costWeight riskWeight
  have hcandidate : validateCandidate candidate m.cols = .ok () := by
    rw [hm.cols_eq]
    exact validateCandidate_exact h
  have hstep : chooseStep m costWeight riskWeight ([], none) candidate =
      .ok ([candidate.apertureId], some score) := by
    unfold chooseStep
    rw [hcandidate, ok_bind, hscore]
    simp [failIf, betterScore, pure, Except.pure]
  refine ⟨score, ?_⟩
  unfold chooseActiveAperture validateCovariance
  rw [validateSymmetricPsd_exact hpos hm hpsd, ok_bind, foldlM_cons, hstep, ok_bind, foldlM_nil]
  simp [failIf, not_lt.mpr hcost, not_lt.mpr hrisk, okOr, pure, Except.pure]

/-! ## Results -/

/-- The update is the downdate of the covariance: it is symmetric and has no negative
    variance already. -/
lemma downdated_exact (hm : m.Square n) (hpsd : Matrix.PosSemidef (asMatrix n m.rows))
    (a : Fin n → ℝ) {noise : ℝ} (hnoise : 0 < noise) {projected : List ℝ}
    (hprojected : asVector n projected = (asMatrix n m.rows).mulVec a) :
    asMatrix n (downdated m projected (noise + a ⬝ᵥ (asMatrix n m.rows).mulVec a)).rows =
      downdate (asMatrix n m.rows) a noise := by
  have hdowndate := downdate_posSemidef hpsd a hnoise
  have hvalue : ∀ i j : Fin n, m.get i j - projected.getD i 0 * projected.getD j 0 /
      (noise + a ⬝ᵥ (asMatrix n m.rows).mulVec a) = downdate (asMatrix n m.rows) a noise i j := by
    intro i j
    unfold downdate
    rw [← hprojected, Matrix.sub_apply, Matrix.smul_apply, Matrix.vecMulVec_apply, smul_eq_mul,
      div_eq_inv_mul]
    rfl
  ext i j
  unfold downdated
  rw [hm.rows_length, asMatrix_squareMatrix]
  simp only []
  by_cases hij : (i : Nat) = j
  · rw [if_pos hij, exact_max]
    obtain rfl := Fin.ext hij
    have hdiag := hdowndate.diag_nonneg (i := i)
    rw [hvalue i i]
    exact max_eq_left hdiag
  · rw [if_neg hij]
    have hsymm := hdowndate.1.apply i j
    rw [star_trivial] at hsymm
    have hhalf : (Scalar.lit 5 1 : ℝ) = 1 / 2 := by
      rw [exact_lit]
      norm_num
    rw [hvalue i j, hvalue j i, hsymm, hhalf]
    split
    · ring
    · ring

lemma variance_nonneg (hpsd : Matrix.PosSemidef (asMatrix n m.rows)) (a : Fin n → ℝ) :
    0 ≤ a ⬝ᵥ (asMatrix n m.rows).mulVec a := by
  have h := hpsd.dotProduct_mulVec_nonneg a
  rwa [star_trivial] at h

lemma updatePosteriorCovariance_exact (hpos : 0 < n) (hm : m.Square n)
    (hpsd : Matrix.PosSemidef (asMatrix n m.rows))
    (hvalid : validateCandidate candidate n = .ok ()) :
    ∃ updated, updatePosteriorCovariance m candidate = .ok updated ∧ updated.Square n ∧
      asMatrix n updated.rows = downdate (asMatrix n m.rows)
        (asVector n candidate.sensingVector) candidate.noiseVariance := by
  have hvector_length := vector_length_of_valid hvalid
  have hnoise := noise_pos_of_valid hvalid
  obtain ⟨q, hq, hlength, hvector⟩ := DenseMatrix.matvec_exact hm hvector_length
  have hvariance := variance_nonneg hpsd (asVector n candidate.sensingVector)
  have hdenominator := add_pos_of_pos_of_nonneg hnoise hvariance
  have hsquare : (downdated m q (candidate.noiseVariance + asVector n candidate.sensingVector ⬝ᵥ
      (asMatrix n m.rows).mulVec (asVector n candidate.sensingVector))).Square n := by
    unfold downdated
    rw [hm.rows_length]
    exact squareMatrix_square n _
  have hdowndate := downdated_exact hm hpsd _ hnoise hvector
  have hpsd' := downdate_posSemidef hpsd (asVector n candidate.sensingVector) hnoise
  rw [← hdowndate] at hpsd'
  refine ⟨_, ?_, hsquare, hdowndate⟩
  unfold updatePosteriorCovariance validateCovariance
  rw [validateSymmetricPsd_exact hpos hm hpsd, ok_bind, hm.cols_eq, hvalid, ok_bind, hq, ok_bind,
    dot_asVector hvector_length hlength, ok_bind, hvector]
  simp only [exact_max, max_eq_left hvariance, exact_isFinite, not_true_eq_false, exact_le,
    false_or, failIf, if_neg (not_le.mpr hdenominator), ok_bind]
  rw [validateSymmetricPsd_exact hpos hsquare hpsd', ok_bind]
  rfl

lemma matrixFromSquareRows_exact (hpos : 0 < n) (hposterior : Covers n posterior) :
    ∃ m, matrixFromSquareRows posterior.covariance = .ok m ∧ m.rows = posterior.covariance ∧
      m.Square n := by
  obtain ⟨m, hm, hrows, hsquare⟩ := DenseMatrix.fromRows_exact hpos hposterior.rows_length
    hposterior.row_length
  have hpsd : Matrix.PosSemidef (asMatrix n m.rows) := by
    rw [hrows]
    exact hposterior.psd
  have hempty : m.rows.isEmpty = false := by
    rw [isEmpty_eq_false_iff]
    intro hnil
    have hrowsLength := hsquare.rows_length
    rw [hnil, length_nil] at hrowsLength
    omega
  refine ⟨m, ?_, hrows, hsquare⟩
  unfold matrixFromSquareRows validateCovariance
  rw [hm, ok_bind, validateSymmetricPsd_exact hpos hsquare hpsd]
  simp [failIf, hsquare.rows_length, hsquare.cols_eq, hempty, pure, Except.pure]

/-- Assimilating is the downdate of the covariance and the correction of the mean. -/
lemma assimilates (hpos : 0 < n) (hposterior : Covers n posterior)
    (hvalid : validateCandidate candidate n = .ok ()) (observedValue : ℝ) :
    ∃ posterior', assimilateApertureResult posterior candidate observedValue = .ok posterior' ∧
      Covers n posterior' ∧
      asMatrix n posterior'.covariance = downdate (asMatrix n posterior.covariance)
        (asVector n candidate.sensingVector) candidate.noiseVariance ∧
      asVector n posterior'.mean = correct (asMatrix n posterior.covariance)
        (asVector n posterior.mean) (asVector n candidate.sensingVector) candidate.noiseVariance
        observedValue := by
  have hvector_length := vector_length_of_valid hvalid
  have hnoise := noise_pos_of_valid hvalid
  obtain ⟨m, hmatrix, hrows, hsquare⟩ := matrixFromSquareRows_exact hpos hposterior
  have hpsd := hposterior.psd
  rw [← hrows] at hpsd ⊢
  obtain ⟨q, hq, hlength, hvector⟩ := DenseMatrix.matvec_exact hsquare hvector_length
  obtain ⟨updated, hupdated, hsquare', hdowndate⟩ :=
    updatePosteriorCovariance_exact hpos hsquare hpsd hvalid
  have hvariance := variance_nonneg hpsd (asVector n candidate.sensingVector)
  have hdenominator := add_pos_of_pos_of_nonneg hnoise hvariance
  have hmean : posterior.mean.isEmpty = false := by
    rw [isEmpty_eq_false_iff]
    intro hnil
    have hmeanLength := hposterior.mean_length
    rw [hnil, length_nil] at hmeanLength
    omega
  -- the gain of the update and how far the value is from its prediction
  let denominator := candidate.noiseVariance + asVector n candidate.sensingVector ⬝ᵥ
    (asMatrix n m.rows).mulVec (asVector n candidate.sensingVector)
  let innovation := observedValue -
    asVector n candidate.sensingVector ⬝ᵥ asVector n posterior.mean
  have hrun : assimilateApertureResult posterior candidate observedValue = .ok
      { mean := zipWith
          (fun prior gainNumerator => prior + gainNumerator / denominator * innovation)
          posterior.mean q
        covariance := updated.rows } := by
    unfold assimilateApertureResult
    rw [hmatrix, ok_bind, hsquare.cols_eq, hvalid, ok_bind, hq, ok_bind,
      dot_asVector hvector_length hlength, ok_bind,
      dot_asVector hvector_length hposterior.mean_length, hupdated, hvector,
      exact_any_infinite, hmean, hsquare.rows_length, hposterior.mean_length]
    simp only [exact_max, max_eq_left hvariance, exact_isFinite, not_true_eq_false, exact_le, ne_eq,
      Bool.false_eq_true, or_self, or_false, failIf, if_neg (not_le.mpr hdenominator), if_false,
      ok_bind]
    rfl
  refine ⟨_, hrun, ⟨?_, hsquare'.rows_length, ?_, ?_⟩, hdowndate, ?_⟩
  · rw [length_zipWith, hlength, hposterior.mean_length, Nat.min_self]
  · intro row hrow
    rw [updated.shape row hrow, hsquare'.cols_eq]
  · show Matrix.PosSemidef (asMatrix n updated.rows)
    rw [hdowndate]
    exact downdate_posSemidef hpsd _ hnoise
  · funext i
    have hi : (i : Nat) < (zipWith
        (fun prior gainNumerator => prior + gainNumerator / denominator * innovation)
        posterior.mean q).length := by
      rw [length_zipWith, hlength, hposterior.mean_length, Nat.min_self]
      exact i.isLt
    have hgain : q.getD i 0 = (asMatrix n m.rows).mulVec
        (asVector n candidate.sensingVector) i := by
      rw [← hvector]
      rfl
    show (zipWith _ posterior.mean q).getD i 0 = _
    rw [getD_eq_getElem _ _ hi, getElem_zipWith]
    have hi_mean : (i : Nat) < posterior.mean.length := by
      rw [hposterior.mean_length]
      exact i.isLt
    have hi_q : (i : Nat) < q.length := by
      rw [hlength]
      exact i.isLt
    rw [getD_eq_getElem _ _ hi_q] at hgain
    rw [hgain, ← getD_eq_getElem posterior.mean 0 hi_mean]
    unfold correct
    rw [Pi.add_apply, Pi.smul_apply, smul_eq_mul, div_eq_mul_inv]
    show asVector n posterior.mean i + _ = asVector n posterior.mean i + _
    congr 1
    ring

/-- Assimilating does not fail and leaves a posterior of the same dimension. -/
lemma assimilateApertureResult_exact (hpos : 0 < n) (hposterior : Covers n posterior)
    (h : Usable n candidate) (observedValue : ℝ) :
    ∃ posterior', assimilateApertureResult posterior candidate observedValue = .ok posterior' ∧
      Covers n posterior' := by
  obtain ⟨posterior', hrun, hcovers, -⟩ :=
    assimilates hpos hposterior (validateCandidate_exact h) observedValue
  exact ⟨posterior', hrun, hcovers⟩

end Tidex.Analysis
