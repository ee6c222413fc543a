/-
  Learning.Admission — what a procedural record must satisfy to be used.

  Every entry point of the memory authenticates the record it is given: the shape of each
  part, and that the record was sealed under the digest of its own content.
-/
import Tidex.Learning.Experience
import Tidex.Lib.Frame

namespace Tidex.Learning

open Tidex.Lib Sha256Digest

/-! ## Limits and domains -/

def maxAttempts : Nat := 16384
def maxDriftRecords : Nat := 4096
def maxSolverRunFailures : Nat := 16384
def maxAdviceResults : Nat := 128
def maxIndependentEvaluationGroups : Nat := 1000000
def maxMatrixDimension : Nat := 2 ^ 40
def maxExplicitMatrixElements : Nat := 2 ^ 31
def maxBlocks : Nat := 1000000
def maxIterations : Nat := 100000000
def maxComputeUnits : Nat := 1000000000000000

def attemptDomain : String := "TIDEX:PROCEDURAL-ATTEMPT:v4\x00"
def configurationDomain : String := "TIDEX:SOLVER-CONFIGURATION:v2\x00"
def evaluationDesignDomain : String := "TIDEX:EVALUATION-DESIGN:v2\x00"
def driftDomain : String := "TIDEX:PROCEDURAL-DRIFT:v4\x00"
def observedDriftEvidenceDomain : String := "TIDEX:OBSERVED-FUNCTIONAL-DRIFT-EVIDENCE:v2\x00"
def solverRunFailureDomain : String := "TIDEX:SOLVER-RUN-FAILURE:v4\x00"
def u32Width : Nat := 2 ^ 32
def u64Width : Nat := 2 ^ 64

def isZeroDigest (value : Sha256Digest) : Bool :=
  value.hex.toList.all (· == '0')

/-- The double of a value, without a negative zero. -/
def isCanonicalFinite (value : FiniteF64) : Bool :=
  !F64.eq? value.get (F64.zero false) || value.get.bits == (F64.zero false).bits

def unitInterval (value : FiniteF64) : Bool :=
  F64.le? (F64.zero false) value.get && F64.le? value.get (F64.ofNat 1)

def isNegative (value : FiniteF64) : Bool := F64.lt? value.get (F64.zero false)
def isPositive (value : FiniteF64) : Bool := F64.lt? (F64.zero false) value.get

/-! ## The problem -/

def MatrixDimensions.validateAxes (d : MatrixDimensions) : BrainResult Unit :=
  let minDimension := min d.rows d.columns
  failIf (d.rows = 0 ∨ d.columns = 0 ∨ d.rows > maxMatrixDimension
      ∨ d.columns > maxMatrixDimension
      ∨ (d.estimatedEffectiveRank.any fun rank => rank > minDimension)
      ∨ d.blockCount > maxBlocks ∨ d.blockCount > d.columns)
    (invalid "procedural_matrix_dimensions_invalid")

def StatisticalProfile.validate (p : StatisticalProfile) : BrainResult Unit :=
  failIf ((p.log10Condition.any fun value => isNegative value || !isCanonicalFinite value)
      ∨ (p.outlierFraction.any fun value => !unitInterval value || !isCanonicalFinite value)
      ∨ (p.observedSparsity.any fun value => !unitInterval value || !isCanonicalFinite value)
      ∨ (p.noiseFraction.any fun value => !unitInterval value || !isCanonicalFinite value))
    (invalid "procedural_statistical_profile_invalid")

def Applicability.blockCountValid (a : Applicability) : Bool :=
  match a.profile.structure_ with
  | .blockStructured | .groupSparse => a.dimensions.blockCount > 0
  | .dense | .sparse | .lowRankObserved | .mixed | .operatorOnly => a.dimensions.blockCount == 0

/-- A design that is materialized is within the budget of elements. -/
def Applicability.validateElements (a : Applicability) : BrainResult Unit :=
  match a.profile.structure_ with
  | .operatorOnly => .ok ()
  | _ => do
    let elements ← checkedMul u64Width a.dimensions.rows a.dimensions.columns
      (invalid "procedural_matrix_elements_overflow")
    failIf (elements > maxExplicitMatrixElements)
      (invalid "procedural_explicit_matrix_budget_exceeded")

def Applicability.validate (a : Applicability) : BrainResult Unit := do
  a.dimensions.validateAxes
  a.statistics.validate
  failIf (a.blockCountValid = false) (invalid "procedural_block_count_semantics_invalid")
  a.validateElements

/-! ## The solver -/

def SolverConfiguration.parametersValid (c : SolverConfiguration) : Bool :=
  match c.family, c.parameters with
  | .choleskyRidgeLowRank, .lowRank rank => rank > 0
  | .randomizedSvd, .randomizedLowRank rank oversampling =>
    rank > 0 && oversampling > 0 && rank + oversampling < u32Width
  | .directJacobiSvd, .direct | .pivotedQr, .direct | .divideConquerSvd, .direct => true
  | .iterativeLsqr, .iterative | .iterativeLsmr, .iterative => true
  | .robustMEstimator, .robust tuningConstant =>
    isPositive tuningConstant && isCanonicalFinite tuningConstant
  | .sparseProximal, .sparse maximumNonzero =>
    maximumNonzero > 0 && maximumNonzero ≤ maxExplicitMatrixElements
  | .groupSparseProximal, .groupSparse maximumGroups =>
    maximumGroups > 0 && maximumGroups ≤ maxBlocks
  | .blockStructured, .blockStructured maximumBlocks =>
    maximumBlocks > 0 && maximumBlocks ≤ maxBlocks
  | .fullRankGradient, .fullRank | .orthogonalizedFullRank, .fullRank => true
  | .externalProposal, .external _ declaredImplementationDigest =>
    !isZeroDigest declaredImplementationDigest
  | .hybridRuntime, .hybrid => true
  | .softwareOnly, .software => true
  | _, _ => false

def SolverConfiguration.controlFieldsValid (c : SolverConfiguration) : Bool :=
  match c.family with
  | .choleskyRidgeLowRank =>
    (c.regularization.any isPositive) && c.tolerance.isSome && c.maxIterations.isNone
  | .pivotedQr | .divideConquerSvd =>
    c.regularization.isNone && c.tolerance.isSome && c.maxIterations.isNone
  | .directJacobiSvd | .iterativeLsqr | .iterativeLsmr | .robustMEstimator | .sparseProximal
  | .groupSparseProximal | .blockStructured | .fullRankGradient | .orthogonalizedFullRank
  | .randomizedSvd =>
    c.regularization.isNone && c.tolerance.isSome && c.maxIterations.isSome
  | .externalProposal | .hybridRuntime | .softwareOnly =>
    c.regularization.isNone && c.tolerance.isNone && c.maxIterations.isNone

def SolverConfiguration.validate (c : SolverConfiguration) : BrainResult Unit := do
  failIf ((c.regularization.any fun value => isNegative value || !isCanonicalFinite value)
      ∨ (c.tolerance.any fun value => !isPositive value || !isCanonicalFinite value)
      ∨ (c.maxIterations.any fun value => value == 0 || value > Learning.maxIterations))
    (invalid "solver_configuration_invalid")
  failIf (c.parametersValid = false)
    (invalid "solver_configuration_parameter_semantics_invalid")
  failIf (c.controlFieldsValid = false) (invalid "solver_configuration_control_fields_invalid")

def SolverParameters.compatible (p : SolverParameters) (a : Applicability) : Bool :=
  let minimumDimension := min a.dimensions.rows a.dimensions.columns
  match p with
  | .lowRank rank => rank ≤ minimumDimension
  | .randomizedLowRank rank oversampling =>
    rank + oversampling < u32Width && rank + oversampling ≤ minimumDimension
  | .groupSparse maximumGroups =>
    a.profile.structure_ == .groupSparse && maximumGroups ≤ a.dimensions.blockCount
  | .blockStructured maximumBlocks =>
    a.profile.structure_ == .blockStructured && maximumBlocks ≤ a.dimensions.blockCount
  | .sparse _ | .direct | .iterative | .robust _ | .fullRank | .external _ _ | .hybrid
  | .software => true

def SolverConfiguration.validateFor (c : SolverConfiguration) (a : Applicability) :
    BrainResult Unit := do
  c.validate
  a.validate
  failIf (c.parameters.compatible a = false)
    (invalid "solver_configuration_applicability_mismatch")

def SolverConfiguration.rank (c : SolverConfiguration) : Option Nat :=
  match c.parameters with
  | .lowRank rank | .randomizedLowRank rank _ => some rank
  | _ => none

/-! ## Bindings and evidence -/

def CapabilityContext.validateNonzero (c : CapabilityContext) : BrainResult Unit :=
  failIf (isZeroDigest c.systemEnvelopeDigest ∨ isZeroDigest c.capabilityIrDigest
      ∨ isZeroDigest c.baseArtifactDigest ∨ isZeroDigest c.targetProfileDigest)
    (invalid "procedural_capability_context_zero_digest")

def SolverArtifactContext.validateNonzero (c : SolverArtifactContext) : BrainResult Unit :=
  failIf (isZeroDigest c.problemDigest ∨ isZeroDigest c.solverPolicyDigest
      ∨ isZeroDigest c.candidateDigest)
    (invalid "procedural_solver_context_zero_digest")

def AttemptBindings.validateNonzero (b : AttemptBindings) : BrainResult Unit := do
  b.capability.validateNonzero
  b.solver.validateNonzero

def ResearchValidation.validate (v : ResearchValidation) : BrainResult Unit :=
  failIf (isZeroDigest v.reportReceiptDigest ∨ isZeroDigest v.receiptDigest
      ∨ isZeroDigest v.evaluatorPolicyDigest ∨ isZeroDigest v.evaluationDesignDigest
      ∨ v.independentGroupCount = 0
      ∨ v.independentGroupCount > maxIndependentEvaluationGroups)
    (invalid "research_validation_invalid")

def OutcomeMetrics.validate (m : OutcomeMetrics) : BrainResult Unit :=
  failIf ((m.solverRelativeResidual.any fun value => isNegative value || !isCanonicalFinite value)
      ∨ (m.deterministicWorkUnits.any fun units => units == 0 || units > maxComputeUnits))
    (invalid "procedural_outcome_metrics_invalid")

def OutcomeMetrics.isComplete (m : OutcomeMetrics) : Bool :=
  m.solverRelativeResidual.isSome && m.independentGateAdvanced == some true

def correctionMatches (status : AttemptStatus) (correction : CorrectionStatus) : Bool :=
  match status, correction with
  | .validated, .independentlyValidated => true
  | .rejected, .proposed | .rejected, .refuted | .failed, .proposed | .failed, .refuted => true
  | .inconclusive, .appliedUnverified => true
  | _, _ => false

def AttemptOutcome.validate (o : AttemptOutcome) : BrainResult Unit := do
  o.metrics.validate
  let needsFailure := o.status == .rejected || o.status == .failed
  failIf (needsFailure ≠ o.failure.isSome
      ∨ (o.status = .validated ∧ o.metrics.isComplete = false)
      ∨ (o.correction.any fun correction => !correctionMatches o.status correction.status))
    (invalid "procedural_outcome_semantics_invalid")

def appliedMatches (status : AttemptStatus) (correction : CorrectionStatus) : Bool :=
  match status, correction with
  | .validated, .independentlyValidated => true
  | .rejected, .refuted | .failed, .refuted => true
  | .inconclusive, .appliedUnverified => true
  | _, _ => false

def AttemptOutcome.validateAppliedCorrection (o : AttemptOutcome)
    (appliedCorrection : Option CorrectionKind) : BrainResult Unit :=
  let semanticsValid :=
    match appliedCorrection, o.correction with
    | none, none => true
    | none, some correction => correction.status == .proposed
    | some applied, some correction =>
      applied == correction.kind && appliedMatches o.status correction.status
    | some _, none => false
  failIf (semanticsValid = false) (invalid "procedural_applied_correction_semantics_invalid")

def AttemptLineage.validateShape (l : AttemptLineage) : BrainResult Unit :=
  match l.ordinal, l.parentAttemptDigest with
  | 0, none | _ + 1, some _ => .ok ()
  | 0, some _ | _ + 1, none => .error (invalid "procedural_lineage_shape_invalid")

/-! ## Records -/

section

variable [Platform]

def AttemptProjection.calculateDigest (a : AttemptProjection) : Sha256Digest :=
  digestDomain attemptDomain (toVec a)

/-- An attempt was evaluated, or rejected before that, or ended without a verdict. -/
def AttemptProjection.evidenceShapeValid (a : AttemptProjection) : Bool :=
  match a.researchValidation, a.solverRejectionReceipt, a.outcome.status with
  | some _, none, _ => true
  | none, some receipt, .rejected => !isZeroDigest receipt && a.outcome.correction.isNone
  | none, none, .inconclusive => true
  | _, _, _ => false

def AttemptProjection.evaluationInvalid (a : AttemptProjection) : Bool :=
  a.researchValidation.any fun evaluation =>
    !returns evaluation.validate (fun _ => true)
      || evaluation.evaluatedCandidateDigest != a.bindings.solver.candidateDigest

def SolverAttempt.authenticate (a : SolverAttempt) : BrainResult Unit := do
  a.bindings.validateNonzero
  a.applicability.validate
  a.configuration.validateFor a.applicability
  a.lineage.validateShape
  a.outcome.validate
  a.outcome.validateAppliedCorrection a.appliedCorrection
  failIf (a.observedRevision = 0 ∨ (a.lineage.ordinal = 0 ∧ a.appliedCorrection.isSome)
      ∨ a.evidenceShapeValid = false ∨ a.evaluationInvalid)
    (invalid "procedural_attempt_binding_invalid")
  failIf (a.calculateDigest ≠ a.attemptDigest) (integrity "procedural_attempt_digest_mismatch")

/-- What a drift record between two reports is evidenced by. -/
def observedDriftReceipt (previous current : Sha256Digest) : Sha256Digest :=
  digestDomain observedDriftEvidenceDomain
    (frame previous.hex.toByteArray ++ frame current.hex.toByteArray)

def DriftScope.fromAttempt (a : SolverAttempt) : Option DriftScope :=
  a.researchValidation.map fun validation => {
    systemEnvelopeDigest := a.bindings.capability.systemEnvelopeDigest
    capabilityId := a.bindings.capability.capabilityId
    capabilityIrDigest := a.bindings.capability.capabilityIrDigest
    baseArtifactDigest := a.bindings.capability.baseArtifactDigest
    targetProfileDigest := a.bindings.capability.targetProfileDigest
    candidateDigest := a.bindings.solver.candidateDigest
    evaluationDesignDigest := validation.evaluationDesignDigest
    evaluatorPolicyDigest := validation.evaluatorPolicyDigest }

def DriftScope.validate (s : DriftScope) : BrainResult Unit :=
  failIf (isZeroDigest s.systemEnvelopeDigest ∨ isZeroDigest s.capabilityIrDigest
      ∨ isZeroDigest s.baseArtifactDigest ∨ isZeroDigest s.targetProfileDigest
      ∨ isZeroDigest s.candidateDigest ∨ isZeroDigest s.evaluationDesignDigest
      ∨ isZeroDigest s.evaluatorPolicyDigest)
    (invalid "procedural_drift_scope_invalid")

def DriftProjection.calculateDigest (d : DriftProjection) : Sha256Digest :=
  digestDomain driftDomain (toVec d)

def DriftRecord.authenticate (d : DriftRecord) : BrainResult Unit := do
  d.scope.validate
  failIf (d.detectedRevision = 0 ∨ d.invalidatesThroughRevision = 0
      ∨ d.invalidatesThroughRevision ≠ d.detectedRevision
      ∨ d.previousReportReceipt = d.currentReportReceipt
      ∨ isZeroDigest d.previousReportReceipt ∨ isZeroDigest d.currentReportReceipt
      ∨ isZeroDigest d.evidenceReceiptDigest)
    (invalid "procedural_drift_record_invalid")
  failIf (d.calculateDigest ≠ d.driftDigest) (integrity "procedural_drift_digest_mismatch")
  failIf (observedDriftReceipt d.previousReportReceipt d.currentReportReceipt
      ≠ d.evidenceReceiptDigest)
    (integrity "procedural_drift_receipt_mismatch")

def SolverRunFailureProjection.calculateDigest (f : SolverRunFailureProjection) : Sha256Digest :=
  digestDomain solverRunFailureDomain (toVec f)

def SolverRunFailureRecord.authenticate (f : SolverRunFailureRecord) : BrainResult Unit := do
  f.capability.validateNonzero
  failIf (isZeroDigest f.problemDigest ∨ isZeroDigest f.solverPolicyDigest
      ∨ isZeroDigest f.runReceiptDigest ∨ f.observedRevision = 0
      ∨ (f.deterministicWorkUnits.any fun units => units == 0 || units > maxComputeUnits))
    (invalid "procedural_solver_run_failure_invalid")
  f.applicability.validate
  failIf (f.calculateDigest ≠ f.failureDigest)
    (integrity "procedural_solver_run_failure_digest_mismatch")

end

end Tidex.Learning
