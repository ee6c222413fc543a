/-
  Learning.Memory — the procedural memory, a reducer over records.

  The memory keeps the records it was given and indexes over them.
-/
import Tidex.Learning.Admission
import Tidex.Governance.Types

namespace Tidex.Learning

open Tidex.Lib

/-! ## Keys of the indexes -/

/-- What keeps the experience of one capability, base and target apart from others. -/
structure IsolationKey where
  systemEnvelopeDigest : Sha256Digest
  capabilityId : CapabilityId
  capabilityIrDigest : Sha256Digest
  baseArtifactDigest : Sha256Digest
  targetProfileDigest : Sha256Digest
  solverPolicyDigest : Sha256Digest
  deriving DecidableEq

namespace IsolationKey

/-- The fields in the order they are compared in. -/
def key (k : IsolationKey) : List String :=
  [k.systemEnvelopeDigest.hex, k.capabilityId.asStr, k.capabilityIrDigest.hex,
    k.baseArtifactDigest.hex, k.targetProfileDigest.hex, k.solverPolicyDigest.hex]

lemma key_injective : Function.Injective key := by
  intro a b h
  obtain ⟨⟨_, _⟩, ⟨_, _⟩, ⟨_, _⟩, ⟨_, _⟩, ⟨_, _⟩, ⟨_, _⟩⟩ := a
  obtain ⟨⟨_, _⟩, ⟨_, _⟩, ⟨_, _⟩, ⟨_, _⟩, ⟨_, _⟩, ⟨_, _⟩⟩ := b
  simpa [key] using h

instance : Ord IsolationKey := ordBy key
instance : Std.TransOrd IsolationKey := transOrd_ordBy key
instance : Std.LawfulEqOrd IsolationKey := lawfulEqOrd_ordBy key_injective

def fromBindings (b : AttemptBindings) : IsolationKey where
  systemEnvelopeDigest := b.capability.systemEnvelopeDigest
  capabilityId := b.capability.capabilityId
  capabilityIrDigest := b.capability.capabilityIrDigest
  baseArtifactDigest := b.capability.baseArtifactDigest
  targetProfileDigest := b.capability.targetProfileDigest
  solverPolicyDigest := b.solver.solverPolicyDigest

end IsolationKey

structure LineagePlace where
  lineageId : Sha256Digest
  ordinal : Nat
  deriving DecidableEq

instance : Ord LineagePlace := ordByPair LineagePlace.lineageId LineagePlace.ordinal
instance : Std.TransOrd LineagePlace :=
  transOrd_ordByPair LineagePlace.lineageId LineagePlace.ordinal
instance : Std.LawfulEqOrd LineagePlace := lawfulEqOrd_ordByPair (by
  intro a b hid hordinal
  obtain ⟨_, _⟩ := a
  obtain ⟨_, _⟩ := b
  cases hid
  cases hordinal
  rfl)

def AttemptLineage.place (l : AttemptLineage) : LineagePlace := ⟨l.lineageId, l.ordinal⟩

/-! ## The memory -/

inductive RecordDisposition where
  | inserted
  | alreadyPresent
  deriving DecidableEq

/-- The records and the indexes over them. -/
structure ProceduralMemory where
  attempts : BTreeMap Sha256Digest SolverAttempt
  solverRunFailures : BTreeMap Sha256Digest SolverRunFailureRecord
  attemptsByIsolation : BTreeMap IsolationKey (BTreeSet Sha256Digest)
  evidenceReceipts : BTreeSet Sha256Digest
  researchReportReceipts : BTreeMap Sha256Digest Sha256Digest
  solverCandidateRejectionReceipts : BTreeMap Sha256Digest Sha256Digest
  solverRunReceipts : BTreeMap Sha256Digest Sha256Digest
  evaluationDesignSizes : BTreeMap Sha256Digest Nat
  lineagePositions : BTreeMap LineagePlace Sha256Digest
  driftRecords : BTreeMap Sha256Digest DriftRecord
  invalidatedThrough : BTreeMap DriftScope Nat

def ProceduralMemory.new : ProceduralMemory where
  attempts := ∅
  solverRunFailures := ∅
  attemptsByIsolation := ∅
  evidenceReceipts := ∅
  researchReportReceipts := ∅
  solverCandidateRejectionReceipts := ∅
  solverRunReceipts := ∅
  evaluationDesignSizes := ∅
  lineagePositions := ∅
  driftRecords := ∅
  invalidatedThrough := ∅

/-! ## Attempts -/

/-- The same evidence, whatever revision and place it is replayed at. -/
def attemptEvidenceSemanticsEqual (left right : SolverAttempt) : Bool :=
  left.schema == right.schema && left.bindings == right.bindings
    && left.applicability == right.applicability && left.configuration == right.configuration
    && left.researchValidation == right.researchValidation
    && left.solverRejectionReceipt == right.solverRejectionReceipt
    && left.outcome == right.outcome && left.appliedCorrection == right.appliedCorrection

def correctionIsRealized (parent child : SolverAttempt) : CorrectionKind → Bool
  | .increaseRank =>
    match parent.configuration.rank, child.configuration.rank with
    | some parentRank, some childRank => childRank > parentRank
    | _, _ => false
  | .reduceRank =>
    match parent.configuration.rank, child.configuration.rank with
    | some parentRank, some childRank => childRank < parentRank
    | _, _ => false
  | .increaseRegularization =>
    match parent.configuration.regularization, child.configuration.regularization with
    | some parentValue, some childValue => F64.lt? parentValue.get childValue.get
    | _, _ => false
  | .switchToPivotedQr => child.configuration.family == .pivotedQr
  | .switchToSvd =>
    child.configuration.family == .directJacobiSvd
      || child.configuration.family == .divideConquerSvd
  | .switchToIterative =>
    child.configuration.family == .iterativeLsqr || child.configuration.family == .iterativeLsmr
  | .switchToRobustEstimator => child.configuration.family == .robustMEstimator
  | .switchToSparse =>
    child.configuration.family == .sparseProximal
      || child.configuration.family == .groupSparseProximal
  | .switchToBlockStructured => child.configuration.family == .blockStructured
  | .escalateFullRank =>
    child.configuration.family == .fullRankGradient
      || child.configuration.family == .orthogonalizedFullRank
  | .selectHybridResidency => child.configuration.family == .hybridRuntime
  | .selectSoftwareResidency => child.configuration.family == .softwareOnly
  | .expandIndependentEvidence =>
    match parent.researchValidation, child.researchValidation with
    | some parentEvaluation, some childEvaluation =>
      childEvaluation.independentGroupCount > parentEvaluation.independentGroupCount
    | _, _ => false
  | .repairEvaluator =>
    match parent.researchValidation, child.researchValidation with
    | some parentEvaluation, some childEvaluation =>
      childEvaluation.evaluatorPolicyDigest != parentEvaluation.evaluatorPolicyDigest
    | _, _ => false

def continuesLineage (parent child : SolverAttempt) : Bool :=
  parent.lineage.lineageId == child.lineage.lineageId
    && parent.lineage.ordinal + 1 < u64Width
    && parent.lineage.ordinal + 1 == child.lineage.ordinal
    && parent.observedRevision < child.observedRevision
    && IsolationKey.fromBindings parent.bindings == IsolationKey.fromBindings child.bindings
    && parent.bindings.solver.problemDigest == child.bindings.solver.problemDigest

def validateApplied (parent child : SolverAttempt) : BrainResult Unit :=
  match child.appliedCorrection with
  | none => .ok ()
  | some applied => do
    let proposed := parent.outcome.correction.any fun correction =>
      correction.kind == applied && correction.status != .refuted
    failIf (proposed = false) (integrity "procedural_lineage_correction_mismatch")
    failIf (correctionIsRealized parent child applied = false)
      (integrity "procedural_lineage_correction_not_realized")

namespace ProceduralMemory

def validateLineage (m : ProceduralMemory) (a : SolverAttempt) : BrainResult Unit := do
  failIf (a.lineage.place ∈ m.lineagePositions) (integrity "procedural_lineage_position_fork")
  match a.lineage.ordinal, a.lineage.parentAttemptDigest with
  | 0, none => return ()
  | 0, some _ | _ + 1, none => throw (invalid "procedural_lineage_shape_invalid")
  | _ + 1, some parentDigest =>
    let parent ← okOr m.attempts[parentDigest]? (integrity "procedural_lineage_parent_missing")
    failIf (continuesLineage parent a = false) (integrity "procedural_lineage_parent_mismatch")
    validateApplied parent a

/-- Whether the report an attempt was evaluated by is already registered with the same
    evidence; a report, receipt or design used otherwise is refused. -/
def reportPresent (m : ProceduralMemory) (a : SolverAttempt) : BrainResult Bool :=
  match a.researchValidation with
  | none => .ok false
  | some evaluation =>
    match m.researchReportReceipts[evaluation.reportReceiptDigest]? with
    | some existingDigest => do
      let existing ← okOr m.attempts[existingDigest]?
        (integrity "procedural_research_receipt_index_dangling")
      failIf (attemptEvidenceSemanticsEqual existing a = false)
        (integrity "procedural_research_report_relabel")
      return true
    | none => do
      failIf (evaluation.receiptDigest ∈ m.evidenceReceipts)
        (integrity "procedural_evaluation_receipt_relabel")
      failIf ((m.evaluationDesignSizes[evaluation.evaluationDesignDigest]?).any
          (· != evaluation.independentGroupCount))
        (integrity "procedural_evaluation_design_relabel")
      return false

/-- Whether the rejection of an attempt is already registered with the same evidence. -/
def rejectionPresent (m : ProceduralMemory) (a : SolverAttempt) : BrainResult Bool :=
  match a.solverRejectionReceipt with
  | none => .ok false
  | some receipt =>
    match m.solverCandidateRejectionReceipts[receipt]? with
    | some existingDigest => do
      let existing ← okOr m.attempts[existingDigest]?
        (integrity "procedural_solver_rejection_receipt_index_dangling")
      failIf (attemptEvidenceSemanticsEqual existing a = false)
        (integrity "procedural_solver_rejection_receipt_relabel")
      return true
    | none => return false

/-- Enter an attempt into the records and every index. -/
def insertAttempt (m : ProceduralMemory) (a : SolverAttempt) : ProceduralMemory where
  attempts := m.attempts.insert a.attemptDigest a
  solverRunFailures := m.solverRunFailures
  attemptsByIsolation :=
    let isolation := IsolationKey.fromBindings a.bindings
    m.attemptsByIsolation.insert isolation
      ((m.attemptsByIsolation.getD isolation ∅).insert a.attemptDigest)
  evidenceReceipts :=
    match a.researchValidation with
    | none => m.evidenceReceipts
    | some evaluation => m.evidenceReceipts.insert evaluation.receiptDigest
  researchReportReceipts :=
    match a.researchValidation with
    | none => m.researchReportReceipts
    | some evaluation =>
      m.researchReportReceipts.insert evaluation.reportReceiptDigest a.attemptDigest
  solverCandidateRejectionReceipts :=
    match a.solverRejectionReceipt with
    | none => m.solverCandidateRejectionReceipts
    | some receipt => m.solverCandidateRejectionReceipts.insert receipt a.attemptDigest
  solverRunReceipts := m.solverRunReceipts
  evaluationDesignSizes :=
    match a.researchValidation with
    | none => m.evaluationDesignSizes
    | some evaluation =>
      m.evaluationDesignSizes.insertIfNew evaluation.evaluationDesignDigest
        evaluation.independentGroupCount
  lineagePositions := m.lineagePositions.insert a.lineage.place a.attemptDigest
  driftRecords := m.driftRecords
  invalidatedThrough := m.invalidatedThrough

/-- Enter an attempt that is not there under its digest. -/
def recordNewAttempt (m : ProceduralMemory) (a : SolverAttempt) :
    BrainResult (ProceduralMemory × RecordDisposition) := do
  match ← m.reportPresent a with
  | true => return (m, .alreadyPresent)
  | false =>
    match ← m.rejectionPresent a with
    | true => return (m, .alreadyPresent)
    | false =>
      failIf (m.attempts.size ≥ maxAttempts) (invalid "procedural_attempt_capacity_exceeded")
      m.validateLineage a
      return (m.insertAttempt a, .inserted)

def recordAttempt [Platform] (m : ProceduralMemory) (a : SolverAttempt) :
    BrainResult (ProceduralMemory × RecordDisposition) := do
  a.authenticate
  match m.attempts[a.attemptDigest]? with
  | some existing =>
    failIf (existing ≠ a) (integrity "procedural_attempt_digest_collision")
    return (m, .alreadyPresent)
  | none => m.recordNewAttempt a

/-! ## Drift -/

def attemptForReportReceipt (m : ProceduralMemory) (receipt : Sha256Digest) :
    BrainResult SolverAttempt := do
  let attemptDigest ← okOr m.researchReportReceipts[receipt]?
    (integrity "procedural_drift_report_not_registered")
  okOr m.attempts[attemptDigest]? (integrity "procedural_drift_report_index_dangling")

def driftBound (d : DriftRecord) (previous current : SolverAttempt)
    (previousScope currentScope : DriftScope) : Bool :=
  previousScope == d.scope && currentScope == d.scope
    && previous.observedRevision < current.observedRevision
    && d.detectedRevision == current.observedRevision
    && d.invalidatesThroughRevision == current.observedRevision

/-- The last revision invalidated in a scope, with a record taken into account. -/
def invalidateThrough (known : Option Nat) (revision : Nat) : Nat :=
  match known with
  | none => revision
  | some known => max known revision

def insertDrift (m : ProceduralMemory) (d : DriftRecord) : ProceduralMemory :=
  { m with
    invalidatedThrough := m.invalidatedThrough.insert d.scope
      (invalidateThrough m.invalidatedThrough[d.scope]? d.invalidatesThroughRevision)
    evidenceReceipts := m.evidenceReceipts.insert d.evidenceReceiptDigest
    driftRecords := m.driftRecords.insert d.driftDigest d }

def recordNewDrift (m : ProceduralMemory) (d : DriftRecord) :
    BrainResult (ProceduralMemory × RecordDisposition) := do
  failIf (m.driftRecords.size ≥ maxDriftRecords) (invalid "procedural_drift_capacity_exceeded")
  let previous ← m.attemptForReportReceipt d.previousReportReceipt
  let current ← m.attemptForReportReceipt d.currentReportReceipt
  let previousScope ← okOr (DriftScope.fromAttempt previous)
    (integrity "procedural_drift_previous_validation_missing")
  let currentScope ← okOr (DriftScope.fromAttempt current)
    (integrity "procedural_drift_current_validation_missing")
  failIf (driftBound d previous current previousScope currentScope = false)
    (integrity "procedural_drift_revision_binding_mismatch")
  failIf (d.evidenceReceiptDigest ∈ m.evidenceReceipts)
    (integrity "procedural_drift_receipt_relabel")
  return (m.insertDrift d, .inserted)

def recordDrift [Platform] (m : ProceduralMemory) (d : DriftRecord) :
    BrainResult (ProceduralMemory × RecordDisposition) := do
  d.authenticate
  match m.driftRecords[d.driftDigest]? with
  | some existing =>
    failIf (existing ≠ d) (integrity "procedural_drift_digest_collision")
    return (m, .alreadyPresent)
  | none => m.recordNewDrift d

end ProceduralMemory

structure VerifiedCandidateVariantBinding where
  variantId : Governance.VariantId
  candidateDigest : Sha256Digest

/-! ## Runs without a candidate -/

/-- The same run, whatever revision it is replayed at. -/
def solverRunReceiptSemanticsEqual (left right : SolverRunFailureRecord) : Bool :=
  left.schema == right.schema && left.capability == right.capability
    && left.problemDigest == right.problemDigest
    && left.solverPolicyDigest == right.solverPolicyDigest
    && left.applicability == right.applicability && left.subject == right.subject
    && left.outcome == right.outcome
    && left.deterministicWorkUnits == right.deterministicWorkUnits
    && left.runReceiptDigest == right.runReceiptDigest

namespace ProceduralMemory

def insertFailure (m : ProceduralMemory) (f : SolverRunFailureRecord) : ProceduralMemory :=
  { m with
    solverRunReceipts := m.solverRunReceipts.insert f.runReceiptDigest f.failureDigest
    solverRunFailures := m.solverRunFailures.insert f.failureDigest f }

def recordNewFailure (m : ProceduralMemory) (f : SolverRunFailureRecord) :
    BrainResult (ProceduralMemory × RecordDisposition) := do
  failIf (m.solverRunFailures.size ≥ maxSolverRunFailures)
    (invalid "procedural_solver_run_failure_capacity_exceeded")
  match m.solverRunReceipts[f.runReceiptDigest]? with
  | some existingDigest =>
    let existing ← okOr m.solverRunFailures[existingDigest]?
      (integrity "procedural_solver_run_receipt_index_dangling")
    failIf (solverRunReceiptSemanticsEqual existing f = false)
      (integrity "procedural_solver_run_receipt_relabel")
    return (m, .alreadyPresent)
  | none => return (m.insertFailure f, .inserted)

def recordSolverRunFailure [Platform] (m : ProceduralMemory) (f : SolverRunFailureRecord) :
    BrainResult (ProceduralMemory × RecordDisposition) := do
  f.authenticate
  match m.solverRunFailures[f.failureDigest]? with
  | some existing =>
    failIf (existing ≠ f) (integrity "procedural_solver_run_failure_digest_collision")
    return (m, .alreadyPresent)
  | none => m.recordNewFailure f

/-! ## Replay -/

def recorded {α : Type} (record : ProceduralMemory → α →
      BrainResult (ProceduralMemory × RecordDisposition))
    (m : ProceduralMemory) (x : α) : BrainResult ProceduralMemory := do
  let (m, _) ← record m x
  return m

def replayOrder (left right : SolverAttempt) : Ordering :=
  (compare left.lineage.lineageId right.lineage.lineageId).then
    ((compare left.lineage.ordinal right.lineage.ordinal).then
      (compare left.attemptDigest right.attemptDigest))

/-- Rebuild a memory from records in any order. -/
def rebuildWithSolverFailures [Platform] (attempts : List SolverAttempt)
    (solverRunFailures : List SolverRunFailureRecord) (drifts : List DriftRecord) :
    BrainResult ProceduralMemory := do
  failIf (attempts.length > maxAttempts ∨ drifts.length > maxDriftRecords)
    (invalid "procedural_rebuild_capacity_exceeded")
  failIf (solverRunFailures.length > maxSolverRunFailures)
    (invalid "procedural_rebuild_capacity_exceeded")
  let attempts := attempts.mergeSort fun left right => (replayOrder left right).isLE
  let solverRunFailures := solverRunFailures.mergeSort fun left right =>
    (compare left.failureDigest right.failureDigest).isLE
  let drifts := drifts.mergeSort fun left right =>
    (compare left.driftDigest right.driftDigest).isLE
  let m ← attempts.foldlM (recorded recordAttempt) new
  let m ← solverRunFailures.foldlM (recorded recordSolverRunFailure) m
  drifts.foldlM (recorded recordDrift) m

end ProceduralMemory

/-! ## Histories -/

inductive MemoryCall where
  | recordAttempt (a : SolverAttempt)
  | recordSolverRunFailure (f : SolverRunFailureRecord)
  | deriveFunctionalChange (binding : VerifiedCandidateVariantBinding)
      (previous current : Governance.PairedEvaluationReport)
  | recordDrift (d : DriftRecord)

namespace ProceduralMemory

def after (m : ProceduralMemory) (result : BrainResult (ProceduralMemory × RecordDisposition)) :
    ProceduralMemory :=
  match result with
  | .ok (m', _) => m'
  | .error _ => m

def call [Platform] (m : ProceduralMemory) : MemoryCall → ProceduralMemory
  | .recordAttempt a => m.after (m.recordAttempt a)
  | .recordSolverRunFailure f => m.after (m.recordSolverRunFailure f)
  | .deriveFunctionalChange _ _ _ => m
  | .recordDrift d => m.after (m.recordDrift d)

def history [Platform] (calls : List MemoryCall) : ProceduralMemory :=
  calls.foldl call new

end ProceduralMemory

end Tidex.Learning
