/-
  Analysis.TrustRegion — contracting a proposal to a budget.

  A proposal has a cost, a quadratic form of its coefficients.
-/
import Tidex.Foundation.Cosine

namespace Tidex.Analysis

open Tidex.Lib

/-! ## Costs -/

inductive TrustRegionAllocationPolicy where
  | unspecified
  | uniformQuadraticScalingV1
  | causalPriorityContractionV1
  | geodesicPythagorasScalingV1
  deriving DecidableEq

structure TrustRegionResult (K : Type) where
  proposedCoefficients : List K
  acceptedCoefficients : List K
  proposedQuadraticCost : K
  acceptedQuadraticCost : K
  maxQuadraticCost : K
  /-- The lowest retained fraction of the magnitudes. -/
  scale : K
  constrained : Bool
  allocationPolicy : TrustRegionAllocationPolicy
  componentRetention : List K
  causalPriorityWeights : Option (List K)

section

variable {K : Type} [Spectral K]

def validateQuadraticMetric (matrix : DenseMatrix K) : BrainResult Unit :=
  validateSymmetricPsd matrix "trust_region_metric"

def quadraticCost (covariance : DenseMatrix K) (coefficients : List K) : BrainResult K := do
  validateQuadraticMetric covariance
  failIf (covariance.rows.length ≠ coefficients.length ∨ coefficients.isEmpty ∨
    coefficients.any fun value => !Scalar.isFinite value) (invalid "trust_region_shape")
  let product ← covariance.matvec coefficients
  let cost ← dot coefficients product
  failIf (Scalar.lt cost (-Scalar.sqrt Scalar.epsilon))
    (.numerical "trust_region_negative_psd_cost")
  return Scalar.max cost 0

/-- The sign of a number, positive at zero. -/
def signum (x : K) : K := if Scalar.lt x 0 then -1 else 1

def signedMagnitudeMetric (covariance : DenseMatrix K) (coefficients : List K) :
    BrainResult (DenseMatrix K) := do
  failIf (covariance.rows.length ≠ coefficients.length ∨ covariance.cols ≠ coefficients.length ∨
    coefficients.isEmpty) (invalid "causal_trust_region_shape")
  let out := squareMatrix coefficients.length fun row col =>
    covariance.get row col * signum (coefficients.getD row 0) * signum (coefficients.getD col 0)
  validateQuadraticMetric out
  return out

/-! ## One iteration -/

def candidateTolerance (magnitudes gradient : List K) : K :=
  Scalar.sqrt Scalar.epsilon *
    (1 + sumFrom 0 (magnitudes.map Scalar.abs) + sumFrom 0 (gradient.map Scalar.abs))

/-- A coordinate is taken instead of the one so far when it has less priority for the relief. -/
def candidateStep (magnitudes gradient priorities : List K) (tolerance : K)
    (selected : Option (Nat × K)) (index : Nat) : BrainResult (Option (Nat × K)) :=
  if Scalar.le (magnitudes.getD index 0) tolerance || Scalar.le (gradient.getD index 0) tolerance
  then return selected
  else do
    let ratio := priorities.getD index 0 / (Scalar.lit 2 0 * gradient.getD index 0)
    failIf (¬Scalar.isFinite ratio ∨ Scalar.le ratio 0)
      (integrity "causal_trust_region_priority_ratio_invalid")
    return if selected.all fun best => Scalar.lt ratio (best.2 - tolerance) ||
        (Scalar.le (Scalar.abs (ratio - best.2)) tolerance && decide (index < best.1))
      then some (index, ratio) else selected

def causalPriorityCandidate (metric : DenseMatrix K) (magnitudes priorities : List K) :
    BrainResult (Option Nat) := do
  let gradient ← metric.matvec magnitudes
  let tolerance := candidateTolerance magnitudes gradient
  let selected ← (List.range magnitudes.length).foldlM
    (candidateStep magnitudes gradient priorities tolerance) none
  return selected.map Prod.fst

/-- Magnitudes with one of them lowered, not below zero. -/
def contracted (magnitudes : List K) (index : Nat) (decrement : K) : List K :=
  magnitudes.set index (Scalar.max (magnitudes.getD index 0 - decrement) 0)

/-- Half the interval in which the budget is crossed. -/
def bisectStep (metric : DenseMatrix K) (budget : K) (magnitudes : List K) (index : Nat)
    (bounds : K × K) : BrainResult (K × K) := do
  let middle := (bounds.1 + bounds.2) * Scalar.lit 5 1
  let cost ← quadraticCost metric (contracted magnitudes index middle)
  return if Scalar.lt budget cost then (middle, bounds.2) else (bounds.1, middle)

/-- The upper end of the interval after 96 steps. -/
def bisect (metric : DenseMatrix K) (budget : K) (magnitudes : List K) (index : Nat)
    (decrement : K) : BrainResult K := do
  let bounds ← (List.range 96).foldlM
    (fun bounds _ => bisectStep metric budget magnitudes index bounds) (0, decrement)
  return bounds.2

/-- What one iteration comes to: the cost was within the budget, or a coordinate was lowered to
    the budget, or to the minimum along it. -/
inductive Contraction (K : Type) where
  | reached
  | boundary (magnitudes : List K)
  | minimum (magnitudes : List K)

/-- How far a coordinate is lowered: to the minimum along it, or to zero where the cost is flat. -/
def decrementOf (tolerance diagonal gradient magnitude : K) : K :=
  if Scalar.lt tolerance diagonal then clamp 0 magnitude (gradient / diagonal) else magnitude

def noLawfulContraction : BrainError := integrity "causal_trust_region_no_lawful_contraction"
def zeroRelief : BrainError := integrity "causal_trust_region_zero_relief"
def nonconvexCoordinate : BrainError := .numerical "causal_trust_region_nonconvex_coordinate"
def budgetNotReached : BrainError := .numerical "causal_trust_region_budget_not_reached"

def contractOnce (metric : DenseMatrix K) (budget tolerance : K) (priorities magnitudes : List K) :
    BrainResult (Contraction K) := do
  let accepted ← quadraticCost metric magnitudes
  if Scalar.le accepted (budget + tolerance) then return .reached
  let candidate ← causalPriorityCandidate metric magnitudes priorities
  let index ← okOr candidate noLawfulContraction
  let gradient ← metric.matvec magnitudes
  let diagonal := metric.get index index
  failIf (¬Scalar.isFinite diagonal ∨ Scalar.lt diagonal 0 ∨
    ¬Scalar.isFinite (gradient.getD index 0)) (integrity "causal_trust_region_curvature_invalid")
  let bestDecrement :=
    decrementOf tolerance diagonal (gradient.getD index 0) (magnitudes.getD index 0)
  failIf (Scalar.le bestDecrement tolerance) zeroRelief
  let best := contracted magnitudes index bestDecrement
  let bestCost ← quadraticCost metric best
  failIf (Scalar.lt (accepted + tolerance) bestCost) nonconvexCoordinate
  if Scalar.le bestCost (budget + tolerance) then
    let high ← bisect metric budget magnitudes index bestDecrement
    return .boundary (contracted magnitudes index high)
  return .minimum best

/-! ## Whole runs -/

def contractLoop (metric : DenseMatrix K) (budget tolerance : K) (priorities : List K) :
    Nat → List K → BrainResult (List K)
  | 0, magnitudes => return magnitudes
  | iterations + 1, magnitudes => do
    match ← contractOnce metric budget tolerance priorities magnitudes with
    | .reached => return magnitudes
    | .boundary lowered => return lowered
    | .minimum best => contractLoop metric budget tolerance priorities iterations best

def maxIterations (count : Nat) : Nat := max (count * 128) 128

/-- The bound within which costs count as equal. -/
def costTolerance (proposed budget : K) : K :=
  Scalar.sqrt Scalar.epsilon * (1 + Scalar.abs proposed + Scalar.abs budget)

def contractMagnitudes (metric : DenseMatrix K) (budget tolerance : K) (priorities : List K)
    (proposed : K) (magnitudes : List K) : BrainResult (List K) :=
  if Scalar.lt (budget + tolerance) proposed then
    contractLoop metric budget tolerance priorities (maxIterations magnitudes.length) magnitudes
  else return magnitudes

def retention (original accepted : K) : K :=
  if Scalar.le original Scalar.epsilon then 1 else clamp 0 1 (accepted / original)

def applyCausalPriorityTrustRegion (covariance : DenseMatrix K) (coefficients : List K)
    (maxQuadraticCost : K) (causalPriorityWeights : List K) :
    BrainResult (TrustRegionResult K) := do
  failIf (¬Scalar.isFinite maxQuadraticCost ∨ Scalar.lt maxQuadraticCost 0 ∨
    coefficients.isEmpty ∨ (coefficients.any fun value => !Scalar.isFinite value) ∨
    causalPriorityWeights.length ≠ coefficients.length ∨
    causalPriorityWeights.any fun value => !Scalar.isFinite value || Scalar.le value 0)
    (invalid "causal_trust_region_contract_invalid")
  validateQuadraticMetric covariance
  let proposed ← quadraticCost covariance coefficients
  let tolerance := costTolerance proposed maxQuadraticCost
  let signedMetric ← signedMagnitudeMetric covariance coefficients
  let originalMagnitudes := coefficients.map Scalar.abs
  let magnitudes ← contractMagnitudes signedMetric maxQuadraticCost tolerance
    causalPriorityWeights proposed originalMagnitudes
  let accepted ← quadraticCost signedMetric magnitudes
  failIf (Scalar.lt (maxQuadraticCost + tolerance) accepted) budgetNotReached
  let componentRetention := List.zipWith retention originalMagnitudes magnitudes
  return {
    proposedCoefficients := coefficients
    acceptedCoefficients := List.zipWith
      (fun coefficient magnitude => signum coefficient * magnitude) coefficients magnitudes
    proposedQuadraticCost := proposed
    acceptedQuadraticCost := accepted
    maxQuadraticCost := maxQuadraticCost
    scale := componentRetention.foldl Scalar.min 1
    constrained := Scalar.lt accepted (proposed - tolerance)
    allocationPolicy := .causalPriorityContractionV1
    componentRetention := componentRetention
    causalPriorityWeights := some causalPriorityWeights }

end

end Tidex.Analysis
