/-
  Learning.Session — an adaptive session in memory.

  A session holds the posterior and which apertures were completed.
-/
import Tidex.Learning.Target

namespace Tidex.Learning

open Tidex.Lib Tidex.Analysis

/-! ## Policies, sessions and steps -/

structure AdaptiveLearningPolicy (K : Type) where
  schema : String
  outcomeUtilityWeight : K
  maximizeObservedValue : Bool

structure AdaptiveLearningSession (K : Type) where
  schema : String
  targetDigest : Sha256Digest
  policy : AdaptiveLearningPolicy K
  policyDigest : Sha256Digest
  capabilityIds : List CapabilityId
  posterior : GaussianAperturePosterior K
  completedApertureIds : List ApertureId

structure AdaptiveLearningStep (K : Type) where
  schema : String
  apertureId : ApertureId
  capabilityWeights : List K
  activeCapabilityIds : List CapabilityId
  noiseVariance : K
  cost : K
  risk : K
  informationGain : K
  predictedOutcome : K
  outcomeUtility : K
  objective : K

/-- The digests of the serialized target and policy. -/
class LearningDigests (K : Type) where
  targetDigest : LearningTarget K → Sha256Digest
  policyDigest : AdaptiveLearningPolicy K → Sha256Digest

open LearningDigests

variable {K : Type} [Spectral K] [LearningDigests K]

def validatePolicy (policy : AdaptiveLearningPolicy K) : BrainResult Unit :=
  failIf (policy.schema ≠ "tidex.adaptive_learning_policy/v1"
      ∨ ¬Scalar.isFinite policy.outcomeUtilityWeight
      ∨ Scalar.le policy.outcomeUtilityWeight 0)
    (invalid "adaptive_learning_policy_contract_invalid")

/-- The prior of a session: mean zero and the identity. -/
def priorPosterior (dimension : Nat) : GaussianAperturePosterior K where
  mean := List.replicate dimension 0
  covariance := (List.range dimension).map fun row =>
    (List.range dimension).map fun col => if row = col then 1 else 0

def startAdaptiveLearning (target : LearningTarget K) (policy : AdaptiveLearningPolicy K) :
    BrainResult (AdaptiveLearningSession K) := do
  validateTarget target
  validatePolicy policy
  return { schema := "tidex.adaptive_learning_session/v1"
           targetDigest := targetDigest target
           policy := policy
           policyDigest := policyDigest policy
           capabilityIds := target.capabilityIds
           posterior := priorPosterior target.capabilityIds.length
           completedApertureIds := [] }

def validateAdaptiveSession (target : LearningTarget K) (session : AdaptiveLearningSession K) :
    BrainResult Unit := do
  validateTarget target
  failIf (session.schema ≠ "tidex.adaptive_learning_session/v1"
      ∨ session.targetDigest ≠ targetDigest target
      ∨ session.policyDigest ≠ policyDigest session.policy
      ∨ session.capabilityIds ≠ target.capabilityIds
      ∨ session.posterior.mean.length ≠ target.capabilityIds.length
      ∨ session.posterior.covariance.length ≠ target.capabilityIds.length
      ∨ session.posterior.covariance.any fun row => row.length != target.capabilityIds.length)
    (integrity "adaptive_learning_session_contract_invalid")
  validatePolicy session.policy
  failIf (¬session.completedApertureIds.Nodup)
    (integrity "adaptive_learning_completed_aperture_duplicate")

/-! ## Tolerant comparison -/

def sameF64 (left right : K) : Bool :=
  Scalar.isFinite left && Scalar.isFinite right
    && Scalar.le (Scalar.abs (left - right))
      (Scalar.sqrt Scalar.epsilon * Scalar.lit 64 0
        * (1 + Scalar.max (Scalar.abs left) (Scalar.abs right)))

def sameF64Vector (left right : List K) : Bool :=
  left.length == right.length && (left.zip right).all fun pair => sameF64 pair.1 pair.2

def sameStep (left right : AdaptiveLearningStep K) : Bool :=
  left.schema == right.schema
    && decide (left.apertureId = right.apertureId)
    && sameF64Vector left.capabilityWeights right.capabilityWeights
    && decide (left.activeCapabilityIds = right.activeCapabilityIds)
    && sameF64 left.noiseVariance right.noiseVariance
    && sameF64 left.cost right.cost
    && sameF64 left.risk right.risk
    && sameF64 left.informationGain right.informationGain
    && sameF64 left.predictedOutcome right.predictedOutcome
    && sameF64 left.outcomeUtility right.outcomeUtility
    && sameF64 left.objective right.objective

/-! ## The next aperture -/

/-- A candidate with what its choice is based on. -/
structure Selection (K : Type) where
  candidate : ApertureCandidate K
  informationGain : K
  predictedOutcome : K
  outcomeUtility : K
  objective : K

def remainingCandidates (session : AdaptiveLearningSession K)
    (candidates : List (ApertureCandidate K)) : List (ApertureCandidate K) :=
  candidates.filter fun candidate => decide (candidate.apertureId ∉ session.completedApertureIds)

/-- A better objective replaces the selection, and so does a smaller name with the same one. -/
def replaces (selected : Option (Selection K)) (selection : Selection K) : Bool :=
  match selected with
  | none => true
  | some current =>
    Scalar.lt current.objective selection.objective
      || (Scalar.eq selection.objective current.objective
        && decide (selection.candidate.apertureId.asStr < current.candidate.apertureId.asStr))

/-- One candidate, scored and compared with the selection so far. -/
def selectStep (target : LearningTarget K) (session : AdaptiveLearningSession K)
    (covariance : DenseMatrix K) (selected : Option (Selection K))
    (candidate : ApertureCandidate K) : BrainResult (Option (Selection K)) := do
  let direction : K := if session.policy.maximizeObservedValue then 1 else -1
  let score ← chooseActiveAperture [candidate] covariance target.costWeight target.riskWeight
  let predictedOutcome ← dot candidate.sensingVector session.posterior.mean
  let outcomeUtility := direction * session.policy.outcomeUtilityWeight * predictedOutcome
  let objective := score.objective + outcomeUtility
  failIf (¬Scalar.isFinite objective ∨ ¬Scalar.isFinite predictedOutcome
      ∨ ¬Scalar.isFinite outcomeUtility)
    (.numerical "adaptive_learning_outcome_objective_non_finite")
  let selection := ⟨candidate, score.informationGain, predictedOutcome, outcomeUtility, objective⟩
  return if replaces selected selection then some selection else selected

def activeCapabilities (target : LearningTarget K) (sensingVector : List K) : List CapabilityId :=
  (sensingVector.zip target.capabilityIds).filterMap fun pair =>
    if Scalar.lt (Scalar.lit 1 12) (Scalar.abs pair.1) then some pair.2 else none

def Selection.step (selected : Selection K) (target : LearningTarget K) :
    AdaptiveLearningStep K where
  schema := "tidex.adaptive_learning_step/v1"
  apertureId := selected.candidate.apertureId
  capabilityWeights := selected.candidate.sensingVector
  activeCapabilityIds := activeCapabilities target selected.candidate.sensingVector
  noiseVariance := selected.candidate.noiseVariance
  cost := selected.candidate.cost
  risk := selected.candidate.risk
  informationGain := selected.informationGain
  predictedOutcome := selected.predictedOutcome
  outcomeUtility := selected.outcomeUtility
  objective := selected.objective

def nextLearningAperture (generate : LearningTarget K → BrainResult (List (ApertureCandidate K)))
    (target : LearningTarget K) (session : AdaptiveLearningSession K) :
    BrainResult (AdaptiveLearningStep K) := do
  validateAdaptiveSession target session
  failIf (session.completedApertureIds.length ≥ target.planSteps)
    (invalid "adaptive_learning_plan_step_budget_exhausted")
  let candidates ← generate target
  let remaining := remainingCandidates session candidates
  failIf (remaining.isEmpty) (invalid "adaptive_learning_no_remaining_apertures")
  let covariance ← DenseMatrix.fromRows session.posterior.covariance
  let best ← remaining.foldlM (selectStep target session covariance) none
  let selected ← okOr best (integrity "adaptive_learning_selected_missing")
  return selected.step target

/-! ## Results -/

def assimilateLearningResult
    (generate : LearningTarget K → BrainResult (List (ApertureCandidate K)))
    (target : LearningTarget K) (session : AdaptiveLearningSession K)
    (step : AdaptiveLearningStep K) (observedValue : K) :
    BrainResult (AdaptiveLearningSession K) := do
  validateAdaptiveSession target session
  failIf (step.schema ≠ "tidex.adaptive_learning_step/v1"
      ∨ step.apertureId ∈ session.completedApertureIds)
    (invalid "adaptive_learning_step_contract_invalid")
  let expected ← nextLearningAperture generate target session
  failIf (¬sameStep expected step) (integrity "adaptive_learning_step_not_current_canonical_choice")
  let candidates ← generate target
  let canonical ← okOr (candidates.find? fun candidate => candidate.apertureId = step.apertureId)
    (integrity "adaptive_learning_aperture_unknown")
  let posterior ← assimilateApertureResult session.posterior canonical observedValue
  return { session with
           posterior := posterior
           completedApertureIds := session.completedApertureIds ++ [step.apertureId] }

def completeStep (generate : LearningTarget K → BrainResult (List (ApertureCandidate K)))
    (target : LearningTarget K) (session : AdaptiveLearningSession K) (observedValue : K) :
    BrainResult (AdaptiveLearningSession K) := do
  let step ← nextLearningAperture generate target session
  assimilateLearningResult generate target session step observedValue

end Tidex.Learning
