/-
  Analysis.Active — scoring apertures and assimilating their results.

  The information an aperture would bring about a Gaussian posterior, and the
  posterior after its result is known.
-/
import Tidex.Foundation.Linalg
import Tidex.Foundation.Names

namespace Tidex.Analysis

open Tidex.Lib

/-- An aperture that a session may run. -/
structure ApertureCandidate (K : Type) where
  apertureId : ApertureId
  sensingVector : List K
  noiseVariance : K
  cost : K
  risk : K

structure ApertureScore (K : Type) where
  apertureId : ApertureId
  informationGain : K
  objective : K

structure GaussianAperturePosterior (K : Type) where
  mean : List K
  covariance : List (List K)

variable {K : Type} [Spectral K]

/-! ## Scores -/

def validateCandidate (candidate : ApertureCandidate K) (dimension : Nat) : BrainResult Unit :=
  failIf (candidate.sensingVector.length ≠ dimension
      ∨ (candidate.sensingVector.any fun value => !Scalar.isFinite value)
      ∨ Scalar.le (sumFrom 0 (candidate.sensingVector.map fun value => value * value))
          (Scalar.lit 1 30)
      ∨ Scalar.le candidate.noiseVariance 0
      ∨ ¬Scalar.isFinite candidate.noiseVariance
      ∨ ¬Scalar.isFinite candidate.cost
      ∨ Scalar.lt candidate.cost 0
      ∨ ¬Scalar.isFinite candidate.risk
      ∨ ¬(Scalar.le 0 candidate.risk ∧ Scalar.le candidate.risk 1))
    (invalid "active_candidate_invalid")

def validateCovariance (covariance : DenseMatrix K) : BrainResult Unit :=
  validateSymmetricPsd covariance "active_covariance"

def scoreAperture (posteriorCov : DenseMatrix K) (costWeight riskWeight : K)
    (candidate : ApertureCandidate K) : BrainResult (ApertureScore K) := do
  let q ← posteriorCov.matvec candidate.sensingVector
  let variance ← dot candidate.sensingVector q
  let snr := Scalar.max variance 0 / candidate.noiseVariance
  let informationGain := Scalar.lit 5 1 * Scalar.ln (1 + snr)
  return { apertureId := candidate.apertureId
           informationGain := informationGain
           objective := informationGain - costWeight * candidate.cost - riskWeight * candidate.risk }

def betterScore (best : Option (ApertureScore K)) (score : ApertureScore K) : ApertureScore K :=
  match best with
  | none => score
  | some current =>
    if Scalar.lt current.objective score.objective
        || (Scalar.eq score.objective current.objective
          && decide (score.apertureId.asStr < current.apertureId.asStr)) then score
    else current

/-- One candidate of the choice, with the names seen and the best score so far. -/
def chooseStep (posteriorCov : DenseMatrix K) (costWeight riskWeight : K)
    (acc : List ApertureId × Option (ApertureScore K)) (candidate : ApertureCandidate K) :
    BrainResult (List ApertureId × Option (ApertureScore K)) := do
  validateCandidate candidate posteriorCov.cols
  failIf (candidate.apertureId ∈ acc.1) (invalid "active_duplicate_aperture_id")
  let score ← scoreAperture posteriorCov costWeight riskWeight candidate
  return (candidate.apertureId :: acc.1, some (betterScore acc.2 score))

def chooseActiveAperture (candidates : List (ApertureCandidate K)) (posteriorCov : DenseMatrix K)
    (costWeight riskWeight : K) : BrainResult (ApertureScore K) := do
  validateCovariance posteriorCov
  failIf (¬Scalar.isFinite costWeight ∨ Scalar.lt costWeight 0
      ∨ ¬Scalar.isFinite riskWeight ∨ Scalar.lt riskWeight 0)
    (invalid "active_objective_weights_invalid")
  let (_, best) ← candidates.foldlM (chooseStep posteriorCov costWeight riskWeight) ([], none)
  okOr best (invalid "active_no_candidates")

/-! ## Results -/

/-- The covariance after a result: less what the aperture explains, made symmetric. -/
def downdated (posteriorCov : DenseMatrix K) (projected : List K) (denominator : K) :
    DenseMatrix K :=
  let value := fun row col =>
    posteriorCov.get row col - projected.getD row 0 * projected.getD col 0 / denominator
  squareMatrix posteriorCov.rows.length fun row col =>
    if row = col then Scalar.max (value row row) 0
    else if col < row then Scalar.lit 5 1 * (value row col + value col row)
    else Scalar.lit 5 1 * (value col row + value row col)

def updatePosteriorCovariance (posteriorCov : DenseMatrix K) (candidate : ApertureCandidate K) :
    BrainResult (DenseMatrix K) := do
  validateCovariance posteriorCov
  validateCandidate candidate posteriorCov.cols
  let projected ← posteriorCov.matvec candidate.sensingVector
  let variance ← dot candidate.sensingVector projected
  let denominator := candidate.noiseVariance + Scalar.max variance 0
  failIf (¬Scalar.isFinite denominator ∨ Scalar.le denominator 0)
    (.numerical "active_posterior_update_degenerate")
  let updated := downdated posteriorCov projected denominator
  validateCovariance updated
  return updated

def matrixFromSquareRows (rows : List (List K)) : BrainResult (DenseMatrix K) := do
  let matrix ← DenseMatrix.fromRows rows
  failIf (matrix.rows.length ≠ matrix.cols ∨ matrix.rows.isEmpty)
    (invalid "active_posterior_rows_shape")
  validateCovariance matrix
  return matrix

def assimilateApertureResult (posterior : GaussianAperturePosterior K)
    (candidate : ApertureCandidate K) (observedValue : K) :
    BrainResult (GaussianAperturePosterior K) := do
  failIf (posterior.mean.isEmpty ∨ (posterior.mean.any fun value => !Scalar.isFinite value)
      ∨ ¬Scalar.isFinite observedValue)
    (invalid "active_posterior_mean_invalid")
  let covariance ← matrixFromSquareRows posterior.covariance
  failIf (covariance.rows.length ≠ posterior.mean.length) (invalid "active_posterior_mean_shape")
  validateCandidate candidate covariance.cols
  let projected ← covariance.matvec candidate.sensingVector
  let variance ← dot candidate.sensingVector projected
  let denominator := candidate.noiseVariance + Scalar.max variance 0
  failIf (Scalar.le denominator 0 ∨ ¬Scalar.isFinite denominator)
    (.numerical "active_posterior_assimilation_degenerate")
  let predictedValue ← dot candidate.sensingVector posterior.mean
  let innovation := observedValue - predictedValue
  let mean := List.zipWith
    (fun prior gainNumerator => prior + gainNumerator / denominator * innovation)
    posterior.mean projected
  let updatedCovariance ← updatePosteriorCovariance covariance candidate
  return { mean := mean, covariance := updatedCovariance.rows }

end Tidex.Analysis
