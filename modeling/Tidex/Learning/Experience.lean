/-
  Learning.Experience — the records of procedural memory.

  A solver attempt says what was tried on which problem, a run failure that no candidate
  came of it, a drift record that two reports disagree about one candidate.
-/
import Tidex.Foundation.Finite
import Tidex.Foundation.Names

namespace Tidex.Learning

open Tidex.Lib

/-! ## The problem -/

inductive ProceduralSchema where
  | current
  deriving DecidableEq

def ProceduralSchema.wire : ProceduralSchema → String
  | .current => "tidex.procedural_memory/v4"

instance : Serialize ProceduralSchema := serializeName ProceduralSchema.wire

inductive NumericPrecision where
  | bfloat16
  | float16
  | float32
  | float64
  | mixed
  | exact
  deriving DecidableEq

def NumericPrecision.wire : NumericPrecision → String
  | .bfloat16 => "bfloat16"
  | .float16 => "float16"
  | .float32 => "float32"
  | .float64 => "float64"
  | .mixed => "mixed"
  | .exact => "exact"

instance : Serialize NumericPrecision := serializeName NumericPrecision.wire

inductive MatrixStructure where
  | dense
  | sparse
  | groupSparse
  | blockStructured
  | lowRankObserved
  | mixed
  | operatorOnly
  deriving DecidableEq

def MatrixStructure.wire : MatrixStructure → String
  | .dense => "dense"
  | .sparse => "sparse"
  | .groupSparse => "group_sparse"
  | .blockStructured => "block_structured"
  | .lowRankObserved => "low_rank_observed"
  | .mixed => "mixed"
  | .operatorOnly => "operator_only"

instance : Serialize MatrixStructure := serializeName MatrixStructure.wire

inductive ExecutionSemantics where
  | pureTensor
  | stateful
  | externalEffects
  | hybridRuntime
  | softwareOnly
  deriving DecidableEq

def ExecutionSemantics.wire : ExecutionSemantics → String
  | .pureTensor => "pure_tensor"
  | .stateful => "stateful"
  | .externalEffects => "external_effects"
  | .hybridRuntime => "hybrid_runtime"
  | .softwareOnly => "software_only"

instance : Serialize ExecutionSemantics := serializeName ExecutionSemantics.wire

/-- The axes of a design. -/
structure MatrixDimensions where
  rows : Nat
  columns : Nat
  estimatedEffectiveRank : Option Nat
  blockCount : Nat
  deriving DecidableEq

instance : Serialize MatrixDimensions where
  toJson d := .obj [("rows", toJson d.rows), ("columns", toJson d.columns),
    ("estimated_effective_rank", toJson d.estimatedEffectiveRank),
    ("block_count", toJson d.blockCount)]

structure StatisticalProfile where
  log10Condition : Option FiniteF64
  outlierFraction : Option FiniteF64
  observedSparsity : Option FiniteF64
  noiseFraction : Option FiniteF64
  deriving DecidableEq

instance : Serialize StatisticalProfile where
  toJson p := .obj [("log10_condition", toJson p.log10Condition),
    ("outlier_fraction", toJson p.outlierFraction),
    ("observed_sparsity", toJson p.observedSparsity),
    ("noise_fraction", toJson p.noiseFraction)]

structure NumericProblemProfile where
  precision : NumericPrecision
  structure_ : MatrixStructure
  executionSemantics : ExecutionSemantics
  deriving DecidableEq

instance : Serialize NumericProblemProfile where
  toJson p := .obj [("precision", toJson p.precision), ("structure", toJson p.structure_),
    ("execution_semantics", toJson p.executionSemantics)]

/-- Retrieval-only mathematical context of a problem. -/
structure Applicability where
  dimensions : MatrixDimensions
  statistics : StatisticalProfile
  profile : NumericProblemProfile
  deriving DecidableEq

instance : Serialize Applicability where
  toJson a := .obj [("dimensions", toJson a.dimensions), ("statistics", toJson a.statistics),
    ("profile", toJson a.profile)]

/-! ## The solver -/

inductive SolverFamily where
  | choleskyRidgeLowRank
  | directJacobiSvd
  | pivotedQr
  | divideConquerSvd
  | iterativeLsqr
  | iterativeLsmr
  | randomizedSvd
  | robustMEstimator
  | sparseProximal
  | groupSparseProximal
  | blockStructured
  | fullRankGradient
  | orthogonalizedFullRank
  | externalProposal
  | hybridRuntime
  | softwareOnly
  deriving DecidableEq

def SolverFamily.wire : SolverFamily → String
  | .choleskyRidgeLowRank => "cholesky_ridge_low_rank"
  | .directJacobiSvd => "direct_jacobi_svd"
  | .pivotedQr => "pivoted_qr"
  | .divideConquerSvd => "divide_conquer_svd"
  | .iterativeLsqr => "iterative_lsqr"
  | .iterativeLsmr => "iterative_lsmr"
  | .randomizedSvd => "randomized_svd"
  | .robustMEstimator => "robust_m_estimator"
  | .sparseProximal => "sparse_proximal"
  | .groupSparseProximal => "group_sparse_proximal"
  | .blockStructured => "block_structured"
  | .fullRankGradient => "full_rank_gradient"
  | .orthogonalizedFullRank => "orthogonalized_full_rank"
  | .externalProposal => "external_proposal"
  | .hybridRuntime => "hybrid_runtime"
  | .softwareOnly => "software_only"

instance : Serialize SolverFamily := serializeName SolverFamily.wire

inductive SolverRepresentationKind where
  | lowRank
  | dense
  | sparse
  | block
  deriving DecidableEq

def SolverRepresentationKind.wire : SolverRepresentationKind → String
  | .lowRank => "low_rank"
  | .dense => "dense"
  | .sparse => "sparse"
  | .block => "block"

instance : Serialize SolverRepresentationKind := serializeName SolverRepresentationKind.wire

inductive SolverParameters where
  | lowRank (rank : Nat)
  | randomizedLowRank (rank oversampling : Nat)
  | direct
  | iterative
  | robust (tuningConstant : FiniteF64)
  | sparse (maximumNonzero : Nat)
  | groupSparse (maximumGroups : Nat)
  | blockStructured (maximumBlocks : Nat)
  | fullRank
  | external (representation : SolverRepresentationKind)
      (declaredImplementationDigest : Sha256Digest)
  | hybrid
  | software
  deriving DecidableEq

instance : Serialize SolverParameters where
  toJson
    | .lowRank rank => .obj [("low_rank", .obj [("rank", toJson rank)])]
    | .randomizedLowRank rank oversampling =>
      .obj [("randomized_low_rank",
        .obj [("rank", toJson rank), ("oversampling", toJson oversampling)])]
    | .direct => .str "direct"
    | .iterative => .str "iterative"
    | .robust tuningConstant =>
      .obj [("robust", .obj [("tuning_constant", toJson tuningConstant)])]
    | .sparse maximumNonzero =>
      .obj [("sparse", .obj [("maximum_nonzero", toJson maximumNonzero)])]
    | .groupSparse maximumGroups =>
      .obj [("group_sparse", .obj [("maximum_groups", toJson maximumGroups)])]
    | .blockStructured maximumBlocks =>
      .obj [("block_structured", .obj [("maximum_blocks", toJson maximumBlocks)])]
    | .fullRank => .str "full_rank"
    | .external representation digest =>
      .obj [("external", .obj [("representation", toJson representation),
        ("declared_implementation_digest", toJson digest)])]
    | .hybrid => .str "hybrid"
    | .software => .str "software"

structure SolverConfiguration where
  family : SolverFamily
  parameters : SolverParameters
  regularization : Option FiniteF64
  tolerance : Option FiniteF64
  maxIterations : Option Nat
  deriving DecidableEq

instance : Serialize SolverConfiguration where
  toJson c := .obj [("family", toJson c.family), ("parameters", toJson c.parameters),
    ("regularization", toJson c.regularization), ("tolerance", toJson c.tolerance),
    ("max_iterations", toJson c.maxIterations)]

/-! ## What an attempt is bound to -/

structure CapabilityContext where
  systemEnvelopeDigest : Sha256Digest
  capabilityId : CapabilityId
  capabilityIrDigest : Sha256Digest
  baseArtifactDigest : Sha256Digest
  targetProfileDigest : Sha256Digest
  deriving DecidableEq

instance : Serialize CapabilityContext where
  toJson c := .obj [("system_envelope_digest", toJson c.systemEnvelopeDigest),
    ("capability_id", toJson c.capabilityId),
    ("capability_ir_digest", toJson c.capabilityIrDigest),
    ("base_artifact_digest", toJson c.baseArtifactDigest),
    ("target_profile_digest", toJson c.targetProfileDigest)]

structure SolverArtifactContext where
  problemDigest : Sha256Digest
  solverPolicyDigest : Sha256Digest
  candidateDigest : Sha256Digest
  deriving DecidableEq

instance : Serialize SolverArtifactContext where
  toJson c := .obj [("problem_digest", toJson c.problemDigest),
    ("solver_policy_digest", toJson c.solverPolicyDigest),
    ("candidate_digest", toJson c.candidateDigest)]

structure AttemptBindings where
  capability : CapabilityContext
  solver : SolverArtifactContext
  deriving DecidableEq

instance : Serialize AttemptBindings where
  toJson b := .obj [("capability", toJson b.capability), ("solver", toJson b.solver)]

/-- The paired report an attempt was evaluated by, and the gate decided on it. -/
structure ResearchValidation where
  reportReceiptDigest : Sha256Digest
  receiptDigest : Sha256Digest
  evaluatorPolicyDigest : Sha256Digest
  evaluationDesignDigest : Sha256Digest
  evaluatedCandidateDigest : Sha256Digest
  independentGroupCount : Nat
  deriving DecidableEq

instance : SerializeSome ResearchValidation where
  toJson v := .obj [("report_receipt_digest", toJson v.reportReceiptDigest),
    ("receipt_digest", toJson v.receiptDigest),
    ("evaluator_policy_digest", toJson v.evaluatorPolicyDigest),
    ("evaluation_design_digest", toJson v.evaluationDesignDigest),
    ("evaluated_candidate_digest", toJson v.evaluatedCandidateDigest),
    ("independent_group_count", toJson v.independentGroupCount)]

/-! ## The outcome -/

inductive AttemptStatus where
  | validated
  | rejected
  | failed
  | inconclusive
  deriving DecidableEq

def AttemptStatus.wire : AttemptStatus → String
  | .validated => "validated"
  | .rejected => "rejected"
  | .failed => "failed"
  | .inconclusive => "inconclusive"

instance : Serialize AttemptStatus := serializeName AttemptStatus.wire

inductive FailureKind where
  | illConditioned
  | rankInsufficient
  | residualTooLarge
  | outlierSensitivity
  | divergence
  | nonFinite
  | invariantRegression
  | crossCapabilityInterference
  | evaluationInstability
  | resourceExhaustion
  | residencyMismatch
  | evidenceInvalid
  deriving DecidableEq

def FailureKind.wire : FailureKind → String
  | .illConditioned => "ill_conditioned"
  | .rankInsufficient => "rank_insufficient"
  | .residualTooLarge => "residual_too_large"
  | .outlierSensitivity => "outlier_sensitivity"
  | .divergence => "divergence"
  | .nonFinite => "non_finite"
  | .invariantRegression => "invariant_regression"
  | .crossCapabilityInterference => "cross_capability_interference"
  | .evaluationInstability => "evaluation_instability"
  | .resourceExhaustion => "resource_exhaustion"
  | .residencyMismatch => "residency_mismatch"
  | .evidenceInvalid => "evidence_invalid"

instance : Serialize FailureKind := serializeName FailureKind.wire

inductive FailureStage where
  | diagnosis
  | solve
  | materialization
  | researchValidation
  | canary
  deriving DecidableEq

def FailureStage.wire : FailureStage → String
  | .diagnosis => "diagnosis"
  | .solve => "solve"
  | .materialization => "materialization"
  | .researchValidation => "research_validation"
  | .canary => "canary"

instance : Serialize FailureStage := serializeName FailureStage.wire

inductive FailureSeverity where
  | recoverable
  | serious
  | hardInvariant
  deriving DecidableEq

def FailureSeverity.wire : FailureSeverity → String
  | .recoverable => "recoverable"
  | .serious => "serious"
  | .hardInvariant => "hard_invariant"

instance : Serialize FailureSeverity := serializeName FailureSeverity.wire

structure FailureRecord where
  kind : FailureKind
  stage : FailureStage
  severity : FailureSeverity
  deriving DecidableEq

instance : SerializeSome FailureRecord where
  toJson f := .obj [("kind", toJson f.kind), ("stage", toJson f.stage),
    ("severity", toJson f.severity)]

inductive CorrectionKind where
  | increaseRank
  | reduceRank
  | increaseRegularization
  | switchToPivotedQr
  | switchToSvd
  | switchToIterative
  | switchToRobustEstimator
  | switchToSparse
  | switchToBlockStructured
  | escalateFullRank
  | selectHybridResidency
  | selectSoftwareResidency
  | expandIndependentEvidence
  | repairEvaluator
  deriving DecidableEq

def CorrectionKind.wire : CorrectionKind → String
  | .increaseRank => "increase_rank"
  | .reduceRank => "reduce_rank"
  | .increaseRegularization => "increase_regularization"
  | .switchToPivotedQr => "switch_to_pivoted_qr"
  | .switchToSvd => "switch_to_svd"
  | .switchToIterative => "switch_to_iterative"
  | .switchToRobustEstimator => "switch_to_robust_estimator"
  | .switchToSparse => "switch_to_sparse"
  | .switchToBlockStructured => "switch_to_block_structured"
  | .escalateFullRank => "escalate_full_rank"
  | .selectHybridResidency => "select_hybrid_residency"
  | .selectSoftwareResidency => "select_software_residency"
  | .expandIndependentEvidence => "expand_independent_evidence"
  | .repairEvaluator => "repair_evaluator"

instance : SerializeSome CorrectionKind where
  toJson k := .str k.wire
  toJson_injective := by
    intro a b h
    have h := Json.str.inj h
    cases a <;> cases b <;> first | rfl | exact absurd h (by decide)

inductive CorrectionStatus where
  | proposed
  | appliedUnverified
  | independentlyValidated
  | refuted
  deriving DecidableEq

def CorrectionStatus.wire : CorrectionStatus → String
  | .proposed => "proposed"
  | .appliedUnverified => "applied_unverified"
  | .independentlyValidated => "independently_validated"
  | .refuted => "refuted"

instance : Serialize CorrectionStatus := serializeName CorrectionStatus.wire

structure CorrectionRecord where
  kind : CorrectionKind
  status : CorrectionStatus
  deriving DecidableEq

instance : SerializeSome CorrectionRecord where
  toJson c := .obj [("kind", toJson c.kind), ("status", toJson c.status)]

structure OutcomeMetrics where
  solverRelativeResidual : Option FiniteF64
  independentGateAdvanced : Option Bool
  deterministicWorkUnits : Option Nat
  deriving DecidableEq

instance : Serialize OutcomeMetrics where
  toJson m := .obj [("solver_relative_residual", toJson m.solverRelativeResidual),
    ("independent_gate_advanced", toJson m.independentGateAdvanced),
    ("deterministic_work_units", toJson m.deterministicWorkUnits)]

structure AttemptOutcome where
  status : AttemptStatus
  metrics : OutcomeMetrics
  failure : Option FailureRecord
  correction : Option CorrectionRecord
  deriving DecidableEq

instance : Serialize AttemptOutcome where
  toJson o := .obj [("status", toJson o.status), ("metrics", toJson o.metrics),
    ("failure", toJson o.failure), ("correction", toJson o.correction)]

/-! ## Attempts -/

/-- The place of an attempt in its line: a root, or the next after a parent. -/
structure AttemptLineage where
  lineageId : Sha256Digest
  ordinal : Nat
  parentAttemptDigest : Option Sha256Digest
  deriving DecidableEq

instance : Serialize AttemptLineage where
  toJson l := .obj [("lineage_id", toJson l.lineageId), ("ordinal", toJson l.ordinal),
    ("parent_attempt_digest", toJson l.parentAttemptDigest)]

structure AttemptProjection where
  schema : ProceduralSchema
  bindings : AttemptBindings
  applicability : Applicability
  configuration : SolverConfiguration
  lineage : AttemptLineage
  observedRevision : Nat
  researchValidation : Option ResearchValidation
  solverRejectionReceipt : Option Sha256Digest
  outcome : AttemptOutcome
  appliedCorrection : Option CorrectionKind
  deriving DecidableEq

instance : Serialize AttemptProjection where
  toJson a := .obj [("schema", toJson a.schema), ("bindings", toJson a.bindings),
    ("applicability", toJson a.applicability), ("configuration", toJson a.configuration),
    ("lineage", toJson a.lineage), ("observed_revision", toJson a.observedRevision),
    ("research_validation", toJson a.researchValidation),
    ("solver_rejection_receipt", toJson a.solverRejectionReceipt),
    ("outcome", toJson a.outcome), ("applied_correction", toJson a.appliedCorrection)]

/-- One immutable attempt: its content and the digest it was sealed under. -/
structure SolverAttempt extends AttemptProjection where
  attemptDigest : Sha256Digest
  deriving DecidableEq

abbrev SolverAttempt.projection (a : SolverAttempt) : AttemptProjection := a.toAttemptProjection

/-! ## Drift -/

inductive DriftKind where
  | observedFunctionalChange
  deriving DecidableEq

def DriftKind.wire : DriftKind → String
  | .observedFunctionalChange => "observed_functional_change"

instance : Serialize DriftKind := serializeName DriftKind.wire

/-- What a change of reports is about: one candidate under one research design. -/
structure DriftScope where
  systemEnvelopeDigest : Sha256Digest
  capabilityId : CapabilityId
  capabilityIrDigest : Sha256Digest
  baseArtifactDigest : Sha256Digest
  targetProfileDigest : Sha256Digest
  candidateDigest : Sha256Digest
  evaluationDesignDigest : Sha256Digest
  evaluatorPolicyDigest : Sha256Digest
  deriving DecidableEq

instance : Serialize DriftScope where
  toJson s := .obj [("system_envelope_digest", toJson s.systemEnvelopeDigest),
    ("capability_id", toJson s.capabilityId),
    ("capability_ir_digest", toJson s.capabilityIrDigest),
    ("base_artifact_digest", toJson s.baseArtifactDigest),
    ("target_profile_digest", toJson s.targetProfileDigest),
    ("candidate_digest", toJson s.candidateDigest),
    ("evaluation_design_digest", toJson s.evaluationDesignDigest),
    ("evaluator_policy_digest", toJson s.evaluatorPolicyDigest)]

namespace DriftScope

/-- The fields in the order they are compared in. -/
def key (s : DriftScope) : List String :=
  [s.systemEnvelopeDigest.hex, s.capabilityId.asStr, s.capabilityIrDigest.hex,
    s.baseArtifactDigest.hex, s.targetProfileDigest.hex, s.candidateDigest.hex,
    s.evaluationDesignDigest.hex, s.evaluatorPolicyDigest.hex]

lemma key_injective : Function.Injective key := by
  intro a b h
  obtain ⟨⟨_, _⟩, ⟨_, _⟩, ⟨_, _⟩, ⟨_, _⟩, ⟨_, _⟩, ⟨_, _⟩, ⟨_, _⟩, ⟨_, _⟩⟩ := a
  obtain ⟨⟨_, _⟩, ⟨_, _⟩, ⟨_, _⟩, ⟨_, _⟩, ⟨_, _⟩, ⟨_, _⟩, ⟨_, _⟩, ⟨_, _⟩⟩ := b
  simpa [key] using h

instance : Ord DriftScope := ordBy key
instance : Std.TransOrd DriftScope := transOrd_ordBy key
instance : Std.LawfulEqOrd DriftScope := lawfulEqOrd_ordBy key_injective

end DriftScope

/-- What the digest of a drift record is computed from. -/
structure DriftProjection where
  schema : ProceduralSchema
  scope : DriftScope
  kind : DriftKind
  detectedRevision : Nat
  invalidatesThroughRevision : Nat
  previousReportReceipt : Sha256Digest
  currentReportReceipt : Sha256Digest
  evidenceReceiptDigest : Sha256Digest
  deriving DecidableEq

instance : Serialize DriftProjection where
  toJson d := .obj [("schema", toJson d.schema), ("scope", toJson d.scope),
    ("kind", toJson d.kind), ("detected_revision", toJson d.detectedRevision),
    ("invalidates_through_revision", toJson d.invalidatesThroughRevision),
    ("previous_report_receipt", toJson d.previousReportReceipt),
    ("current_report_receipt", toJson d.currentReportReceipt),
    ("evidence_receipt_digest", toJson d.evidenceReceiptDigest)]

/-- Evidence-bound invalidation of the attempts up to a revision. -/
structure DriftRecord extends DriftProjection where
  driftDigest : Sha256Digest
  deriving DecidableEq

/-! ## Runs without a candidate -/

inductive SolverRunSubject where
  | portfolio
  deriving DecidableEq

instance : Serialize SolverRunSubject where
  toJson
    | .portfolio => .obj [("scope", .str "portfolio")]
  toJson_injective := by
    intro a b _
    cases a
    cases b
    rfl

inductive SolverResourceLimitKind where
  | cases
  | dimensions
  | materializedElements
  | memory
  | compute
  | time
  | numericalRange
  | unclassified
  deriving DecidableEq

def SolverResourceLimitKind.wire : SolverResourceLimitKind → String
  | .cases => "cases"
  | .dimensions => "dimensions"
  | .materializedElements => "materialized_elements"
  | .memory => "memory"
  | .compute => "compute"
  | .time => "time"
  | .numericalRange => "numerical_range"
  | .unclassified => "unclassified"

instance : Serialize SolverResourceLimitKind := serializeName SolverResourceLimitKind.wire

inductive SolverRunRejectionReason where
  | degenerateDesign
  | rankDeficientForRequiredContract
  | nonFiniteInput
  | policyConstraintViolated
  | numericalInvariantViolated
  | evidenceInvalid
  deriving DecidableEq

def SolverRunRejectionReason.wire : SolverRunRejectionReason → String
  | .degenerateDesign => "degenerate_design"
  | .rankDeficientForRequiredContract => "rank_deficient_for_required_contract"
  | .nonFiniteInput => "non_finite_input"
  | .policyConstraintViolated => "policy_constraint_violated"
  | .numericalInvariantViolated => "numerical_invariant_violated"
  | .evidenceInvalid => "evidence_invalid"

instance : Serialize SolverRunRejectionReason := serializeName SolverRunRejectionReason.wire

inductive SolverRunUnknownReason where
  | resourceLimit (kind : SolverResourceLimitKind)
  | backendUnavailable
  | backendNotApplicable
  | diagnosticUnavailable
  | convergenceNotEstablished
  deriving DecidableEq

instance : Serialize SolverRunUnknownReason where
  toJson
    | .resourceLimit kind => .obj [("resource_limit", toJson kind)]
    | .backendUnavailable => .str "backend_unavailable"
    | .backendNotApplicable => .str "backend_not_applicable"
    | .diagnosticUnavailable => .str "diagnostic_unavailable"
    | .convergenceNotEstablished => .str "convergence_not_established"

inductive SolverRunFailureOutcome where
  | rejected (reason : SolverRunRejectionReason)
  | boundedUnknown (reason : SolverRunUnknownReason)
  deriving DecidableEq

instance : Serialize SolverRunFailureOutcome where
  toJson
    | .rejected reason => .obj [("status", .str "rejected"), ("reason", toJson reason)]
    | .boundedUnknown reason =>
      .obj [("status", .str "bounded_unknown"), ("reason", toJson reason)]

structure SolverRunFailureProjection where
  schema : ProceduralSchema
  capability : CapabilityContext
  problemDigest : Sha256Digest
  solverPolicyDigest : Sha256Digest
  applicability : Applicability
  subject : SolverRunSubject
  outcome : SolverRunFailureOutcome
  observedRevision : Nat
  deterministicWorkUnits : Option Nat
  runReceiptDigest : Sha256Digest
  deriving DecidableEq

instance : Serialize SolverRunFailureProjection where
  toJson f := .obj [("schema", toJson f.schema), ("capability", toJson f.capability),
    ("problem_digest", toJson f.problemDigest),
    ("solver_policy_digest", toJson f.solverPolicyDigest),
    ("applicability", toJson f.applicability), ("subject", toJson f.subject),
    ("outcome", toJson f.outcome), ("observed_revision", toJson f.observedRevision),
    ("deterministic_work_units", toJson f.deterministicWorkUnits),
    ("run_receipt_digest", toJson f.runReceiptDigest)]

/-- Evidence of a run that ended before any candidate was produced. -/
structure SolverRunFailureRecord extends SolverRunFailureProjection where
  failureDigest : Sha256Digest
  deriving DecidableEq

abbrev SolverRunFailureRecord.projection (f : SolverRunFailureRecord) :
    SolverRunFailureProjection := f.toSolverRunFailureProjection

end Tidex.Learning
