/-
  Analysis.Assimilation — a posterior through a series of results.

  Over exact reals a posterior takes up any series of results of valid apertures. Every result
  takes a semidefinite part from the covariance, the clamps at zero change nothing, and the
  order of the results does not matter.
-/
import Tidex.Analysis.Posterior

namespace Tidex.Analysis

open Tidex.Lib List

def assimilateResults {K : Type} [Spectral K] (posterior : GaussianAperturePosterior K)
    (results : List (ApertureCandidate K × K)) : BrainResult (GaussianAperturePosterior K) :=
  results.foldlM (fun posterior result => assimilateApertureResult posterior result.1 result.2)
    posterior

variable {n : Nat} {posterior other : GaussianAperturePosterior ℝ}
  {candidate candidate' : ApertureCandidate ℝ}

/-! ## One result -/

/-- Both clamps of an update keep the value they are given. -/
def ClampsIdle (posterior : GaussianAperturePosterior ℝ) (candidate : ApertureCandidate ℝ) :
    Prop :=
  ∀ covariance projected variance, matrixFromSquareRows posterior.covariance = .ok covariance →
    covariance.matvec candidate.sensingVector = .ok projected →
    dot candidate.sensingVector projected = .ok variance →
    Scalar.max variance 0 = variance ∧
      ∀ row < covariance.rows.length,
        Scalar.max (covariance.get row row - projected.getD row 0 * projected.getD row 0 /
            (candidate.noiseVariance + variance)) 0 =
          covariance.get row row - projected.getD row 0 * projected.getD row 0 /
            (candidate.noiseVariance + variance)

lemma clampsIdle (hpos : 0 < n) (hposterior : Covers n posterior)
    (hvalid : validateCandidate candidate n = .ok ()) : ClampsIdle posterior candidate := by
  have hvector_length := vector_length_of_valid hvalid
  obtain ⟨m, hmatrix, hrows, hsquare⟩ := matrixFromSquareRows_exact hpos hposterior
  have hpsd := hposterior.psd
  rw [← hrows] at hpsd
  obtain ⟨q, hq, hlength, hvector⟩ := DenseMatrix.matvec_exact hsquare hvector_length
  intro covariance projected variance hcovariance hprojected hdot
  rw [hmatrix, Except.ok.injEq] at hcovariance
  subst hcovariance
  rw [hq, Except.ok.injEq] at hprojected
  subst hprojected
  rw [dot_asVector hvector_length hlength, Except.ok.injEq, hvector] at hdot
  subst hdot
  refine ⟨max_eq_left (variance_nonneg hpsd _), ?_⟩
  intro row hrow
  rw [hsquare.rows_length] at hrow
  -- the value at the diagonal is a variance of the downdate
  have hdiag := (downdate_posSemidef hpsd (asVector n candidate.sensingVector)
    (noise_pos_of_valid hvalid)).diag_nonneg (i := ⟨row, hrow⟩)
  unfold downdate at hdiag
  rw [← hvector, Matrix.sub_apply, Matrix.smul_apply, Matrix.vecMulVec_apply, smul_eq_mul,
    ← div_eq_inv_mul, hvector] at hdiag
  have hvalue : q.getD row 0 = (asMatrix n m.rows).mulVec
      (asVector n candidate.sensingVector) ⟨row, hrow⟩ := by
    rw [← hvector]
    rfl
  rw [hvalue]
  exact max_eq_left hdiag

/-- A posterior is known by its covariance and its mean. -/
lemma Covers.ext (h : Covers n posterior) (h' : Covers n other)
    (hcovariance : asMatrix n posterior.covariance = asMatrix n other.covariance)
    (hmean : asVector n posterior.mean = asVector n other.mean) : posterior = other := by
  have hlist : ∀ a b : List ℝ, a.length = n → b.length = n →
      (∀ i : Fin n, a.getD i 0 = b.getD i 0) → a = b := by
    intro a b ha hb hget
    refine ext_getElem (by omega) ?_
    intro i hi hi'
    have hvalue := hget ⟨i, by omega⟩
    rwa [getD_eq_getElem a 0 hi, getD_eq_getElem b 0 hi'] at hvalue
  obtain ⟨mean, covariance⟩ := posterior
  obtain ⟨mean', covariance'⟩ := other
  have hmeans : mean = mean' := hlist mean mean' h.mean_length h'.mean_length (congrFun hmean)
  have hrows : covariance = covariance' := by
    have hlength := h.rows_length
    have hlength' := h'.rows_length
    simp only at hlength hlength' hcovariance
    refine ext_getElem (by omega) ?_
    intro i hi hi'
    refine hlist _ _ (h.row_length _ (getElem_mem hi))
      (h'.row_length _ (getElem_mem hi')) ?_
    intro j
    have hentry := congrFun (congrFun hcovariance ⟨i, by omega⟩) j
    unfold asMatrix at hentry
    simp only [Matrix.of_apply] at hentry
    rwa [getD_eq_getElem covariance [] hi, getD_eq_getElem covariance' [] hi'] at hentry
  rw [hmeans, hrows]

/-! ## Two results -/

/-- Two results may come in either order. -/
lemma assimilate_comm (hpos : 0 < n) (hposterior : Covers n posterior)
    (hvalid : validateCandidate candidate n = .ok ())
    (hvalid' : validateCandidate candidate' n = .ok ()) (y z : ℝ) :
    (assimilateApertureResult posterior candidate y >>= fun next =>
        assimilateApertureResult next candidate' z) =
      (assimilateApertureResult posterior candidate' z >>= fun next =>
        assimilateApertureResult next candidate y) := by
  obtain ⟨left, hleft, hleftCovers, hleftCovariance, hleftMean⟩ :=
    assimilates hpos hposterior hvalid y
  obtain ⟨right, hright, hrightCovers, hrightCovariance, hrightMean⟩ :=
    assimilates hpos hposterior hvalid' z
  obtain ⟨left', hleft', hleftCovers', hleftCovariance', hleftMean'⟩ :=
    assimilates hpos hleftCovers hvalid' z
  obtain ⟨right', hright', hrightCovers', hrightCovariance', hrightMean'⟩ :=
    assimilates hpos hrightCovers hvalid y
  have hnoise := noise_pos_of_valid hvalid
  have hnoise' := noise_pos_of_valid hvalid'
  rw [hleft, hright, ok_bind, ok_bind, hleft', hright']
  congr 1
  refine hleftCovers'.ext hrightCovers' ?_ ?_
  · rw [hleftCovariance', hleftCovariance, hrightCovariance', hrightCovariance]
    exact downdate_comm hposterior.psd _ _ hnoise hnoise'
  · rw [hleftMean', hleftMean, hleftCovariance, hrightMean', hrightMean, hrightCovariance]
    exact correct_comm hposterior.psd _ _ _ hnoise hnoise' y z

/-! ## Any series of results -/

variable {results results' : List (ApertureCandidate ℝ × ℝ)}

lemma assimilateResults_ok (hpos : 0 < n) (hposterior : Covers n posterior)
    (hvalid : ∀ result ∈ results, validateCandidate result.1 n = .ok ()) :
    ∃ final, assimilateResults posterior results = .ok final ∧ Covers n final := by
  refine foldlM_ok_of_step (Covers n) hposterior ?_
  intro state result hresult hstate
  obtain ⟨next, hnext, hcovers, -⟩ := assimilates hpos hstate (hvalid result hresult) result.2
  exact ⟨next, hnext, hcovers⟩

/-- Any order of the results ends in the same posterior. -/
lemma assimilateResults_perm (hpos : 0 < n) (hposterior : Covers n posterior)
    (hvalid : ∀ result ∈ results, validateCandidate result.1 n = .ok ())
    (hperm : results.Perm results') :
    assimilateResults posterior results = assimilateResults posterior results' := by
  induction hperm generalizing posterior with
  | nil => rfl
  | cons result _ ih =>
    obtain ⟨next, hnext, hcovers, -⟩ :=
      assimilates hpos hposterior (hvalid result mem_cons_self) result.2
    unfold assimilateResults at ih ⊢
    rw [foldlM_cons, foldlM_cons, hnext, ok_bind, ok_bind]
    exact ih hcovers fun result' hresult' => hvalid result' (mem_cons_of_mem _ hresult')
  | swap x y rest =>
    have hx := hvalid x (mem_cons_of_mem _ mem_cons_self)
    have hy := hvalid y mem_cons_self
    have hpair : ∀ a b : ApertureCandidate ℝ × ℝ, assimilateResults posterior (a :: b :: rest) =
        ((assimilateApertureResult posterior a.1 a.2 >>= fun next =>
          assimilateApertureResult next b.1 b.2) >>= fun next =>
            assimilateResults next rest) := by
      intro a b
      unfold assimilateResults
      rw [foldlM_cons, bind_assoc]
      exact bind_congr fun _ => foldlM_cons
    rw [hpair, hpair, assimilate_comm hpos hposterior hy hx]
  | trans hfirst _ ih ih' =>
    rw [ih hposterior hvalid]
    exact ih' hposterior fun result hresult => hvalid result (hfirst.mem_iff.mpr hresult)

/-- **Assimilation is free of order and only gains certainty**: any series of results of
    valid apertures is taken up; each step leaves a covariance below the one before, with no
    larger trace and no value changed by a clamp; any order ends in the same posterior. -/
theorem assimilation_order_free (hpos : 0 < n) (hposterior : Covers n posterior)
    (hvalid : ∀ result ∈ results, validateCandidate result.1 n = .ok ()) :
    ∃ final, assimilateResults posterior results = .ok final ∧ Covers n final ∧
      (∀ before result after, results = before ++ result :: after →
        ∃ state next, assimilateResults posterior before = .ok state ∧
          assimilateApertureResult state result.1 result.2 = .ok next ∧
          Covers n state ∧ Covers n next ∧
          Matrix.PosSemidef (asMatrix n state.covariance - asMatrix n next.covariance) ∧
          (asMatrix n next.covariance).trace ≤ (asMatrix n state.covariance).trace ∧
          ClampsIdle state result.1) ∧
      ∀ results', results.Perm results' → assimilateResults posterior results' = .ok final := by
  obtain ⟨final, hfinal, hcovers⟩ := assimilateResults_ok hpos hposterior hvalid
  refine ⟨final, hfinal, hcovers, ?_, ?_⟩
  · intro before result after hsplit
    rw [hsplit] at hvalid
    obtain ⟨state, hstate, hstateCovers⟩ := assimilateResults_ok hpos hposterior
      fun earlier hearlier => hvalid earlier (mem_append_left _ hearlier)
    have hresult := hvalid result (mem_append_right _ mem_cons_self)
    obtain ⟨next, hnext, hnextCovers, hcovariance, -⟩ :=
      assimilates hpos hstateCovers hresult result.2
    have hbelow := sub_downdate_posSemidef hstateCovers.psd
      (asVector n result.1.sensingVector) (noise_pos_of_valid hresult)
    rw [← hcovariance] at hbelow
    have htrace := hbelow.trace_nonneg
    rw [Matrix.trace_sub, sub_nonneg] at htrace
    exact ⟨state, next, hstate, hnext, hstateCovers, hnextCovers, hbelow, htrace,
      clampsIdle hpos hstateCovers hresult⟩
  · intro results' hperm
    rw [← assimilateResults_perm hpos hposterior hvalid hperm]
    exact hfinal

/-- One direction is known without doubt, and the same sensing vector is measured twice. -/
noncomputable def halfKnown : GaussianAperturePosterior ℝ where
  mean := [0, 0]
  covariance := (squareMatrix 2 fun row col => if row = col ∧ row = 0 then 1 else 0).rows

noncomputable def diagonalAperture : ApertureCandidate ℝ where
  apertureId := ⟨"diagonal", by decide⟩
  sensingVector := [1, 1]
  noiseVariance := 1
  cost := 0
  risk := 0

lemma halfKnown_covers : Covers 2 halfKnown := by
  refine ⟨rfl, rfl, ?_, ?_⟩
  · intro row hrow
    obtain ⟨r, -, rfl⟩ := mem_map.mp hrow
    rfl
  · have hdiagonal : asMatrix 2 halfKnown.covariance =
        Matrix.diagonal fun i : Fin 2 => if i = 0 then (1 : ℝ) else 0 := by
      ext i j
      unfold halfKnown
      rw [asMatrix_squareMatrix, Matrix.diagonal_apply]
      fin_cases i <;> fin_cases j <;> rfl
    rw [hdiagonal]
    refine Matrix.PosSemidef.diagonal ?_
    intro i
    show (0 : ℝ) ≤ if i = 0 then 1 else 0
    split
    · norm_num
    · exact le_refl 0

lemma diagonalAperture_valid : validateCandidate diagonalAperture 2 = .ok () := by
  unfold validateCandidate diagonalAperture
  rw [failIf_ok, exact_any_infinite, sumFrom_exact]
  simp
  norm_num

theorem halfKnown_order_free : 0 < 2 ∧ Covers 2 halfKnown ∧
    ∃ final, assimilateResults halfKnown [(diagonalAperture, 1), (diagonalAperture, 3)] =
        .ok final ∧
      assimilateResults halfKnown [(diagonalAperture, 3), (diagonalAperture, 1)] = .ok final := by
  have hvalid : ∀ result ∈ [(diagonalAperture, (1 : ℝ)), (diagonalAperture, 3)],
      validateCandidate result.1 2 = .ok () := by
    intro result hresult
    rcases mem_pair.mp hresult with rfl | rfl
    · exact diagonalAperture_valid
    · exact diagonalAperture_valid
  obtain ⟨final, hfinal, -, -, horders⟩ :=
    assimilation_order_free (by omega) halfKnown_covers hvalid
  exact ⟨by omega, halfKnown_covers, final, hfinal, horders _ (Perm.swap _ _ [])⟩

end Tidex.Analysis
