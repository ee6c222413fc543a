/-
  Learning.Known — evidence the memory already has is not entered again.
-/
import Tidex.Learning.Replay
import Tidex.Lib.InPlace

namespace Tidex.Learning

open Tidex.Lib List Option Set
open Tidex.Lib.BTreeMap
open Tidex.Lib.InPlace (check write outcome settled outcome_check_bind outcome_look_bind)

/-! ## Recording in place -/

namespace ProceduralMemory

abbrev Reduction : Type := InPlace BrainError ProceduralMemory RecordDisposition

def registerEvaluation (a : SolverAttempt) : InPlace BrainError ProceduralMemory Unit :=
  match a.researchValidation with
  | none => pure ()
  | some evaluation => do
    write fun m => { m with
      evidenceReceipts := m.evidenceReceipts.insert evaluation.receiptDigest }
    write fun m => { m with
      researchReportReceipts :=
        m.researchReportReceipts.insert evaluation.reportReceiptDigest a.attemptDigest }
    write fun m => { m with
      evaluationDesignSizes :=
        m.evaluationDesignSizes.insertIfNew evaluation.evaluationDesignDigest
          evaluation.independentGroupCount }

def registerRejection (a : SolverAttempt) : InPlace BrainError ProceduralMemory Unit :=
  match a.solverRejectionReceipt with
  | none => pure ()
  | some receipt =>
    write fun m => { m with
      solverCandidateRejectionReceipts :=
        m.solverCandidateRejectionReceipts.insert receipt a.attemptDigest }

def recordAttemptInPlace [Platform] (a : SolverAttempt) : Reduction := do
  check fun _ => a.authenticate
  match ← check fun m => .ok m.attempts[a.attemptDigest]? with
  | some existing =>
    check fun _ => failIf (existing ≠ a) (integrity "procedural_attempt_digest_collision")
    return .alreadyPresent
  | none =>
    match ← check fun m => m.reportPresent a with
    | true => return .alreadyPresent
    | false =>
      match ← check fun m => m.rejectionPresent a with
      | true => return .alreadyPresent
      | false =>
        check fun m => failIf (m.attempts.size ≥ maxAttempts)
          (invalid "procedural_attempt_capacity_exceeded")
        check fun m => m.validateLineage a
        registerEvaluation a
        registerRejection a
        write fun m => { m with
          lineagePositions := m.lineagePositions.insert a.lineage.place a.attemptDigest }
        write fun m => { m with
          attemptsByIsolation :=
            let isolation := IsolationKey.fromBindings a.bindings
            m.attemptsByIsolation.insert isolation
              ((m.attemptsByIsolation.getD isolation ∅).insert a.attemptDigest) }
        write fun m => { m with attempts := m.attempts.insert a.attemptDigest a }
        return .inserted

def recordSolverRunFailureInPlace [Platform] (f : SolverRunFailureRecord) : Reduction := do
  check fun _ => f.authenticate
  match ← check fun m => .ok m.solverRunFailures[f.failureDigest]? with
  | some existing =>
    check fun _ =>
      failIf (existing ≠ f) (integrity "procedural_solver_run_failure_digest_collision")
    return .alreadyPresent
  | none =>
    check fun m => failIf (m.solverRunFailures.size ≥ maxSolverRunFailures)
      (invalid "procedural_solver_run_failure_capacity_exceeded")
    match ← check fun m => .ok m.solverRunReceipts[f.runReceiptDigest]? with
    | some existingDigest =>
      let existing ← check fun m => okOr m.solverRunFailures[existingDigest]?
        (integrity "procedural_solver_run_receipt_index_dangling")
      check fun _ => failIf (solverRunReceiptSemanticsEqual existing f = false)
        (integrity "procedural_solver_run_receipt_relabel")
      return .alreadyPresent
    | none =>
      write fun m => { m with
        solverRunReceipts := m.solverRunReceipts.insert f.runReceiptDigest f.failureDigest }
      write fun m => { m with
        solverRunFailures := m.solverRunFailures.insert f.failureDigest f }
      return .inserted

def recordDriftInPlace [Platform] (d : DriftRecord) : Reduction := do
  check fun _ => d.authenticate
  match ← check fun m => .ok m.driftRecords[d.driftDigest]? with
  | some existing =>
    check fun _ => failIf (existing ≠ d) (integrity "procedural_drift_digest_collision")
    return .alreadyPresent
  | none =>
    check fun m => failIf (m.driftRecords.size ≥ maxDriftRecords)
      (invalid "procedural_drift_capacity_exceeded")
    let previous ← check fun m => m.attemptForReportReceipt d.previousReportReceipt
    let current ← check fun m => m.attemptForReportReceipt d.currentReportReceipt
    let previousScope ← check fun _ => okOr (DriftScope.fromAttempt previous)
      (integrity "procedural_drift_previous_validation_missing")
    let currentScope ← check fun _ => okOr (DriftScope.fromAttempt current)
      (integrity "procedural_drift_current_validation_missing")
    check fun _ => failIf (driftBound d previous current previousScope currentScope = false)
      (integrity "procedural_drift_revision_binding_mismatch")
    check fun m => failIf (d.evidenceReceiptDigest ∈ m.evidenceReceipts)
      (integrity "procedural_drift_receipt_relabel")
    write fun m => { m with
      invalidatedThrough := m.invalidatedThrough.insert d.scope
        (invalidateThrough m.invalidatedThrough[d.scope]? d.invalidatesThroughRevision) }
    write fun m => { m with
      evidenceReceipts := m.evidenceReceipts.insert d.evidenceReceiptDigest }
    write fun m => { m with driftRecords := m.driftRecords.insert d.driftDigest d }
    return .inserted

section

variable [Platform] {m : ProceduralMemory} {a : SolverAttempt}

section

omit [Platform]

lemma outcome_registerEvaluation_bind {k : Unit → Reduction} :
    outcome (registerEvaluation a >>= k) m = outcome (k ()) { m with
      evidenceReceipts := (m.insertAttempt a).evidenceReceipts
      researchReportReceipts := (m.insertAttempt a).researchReportReceipts
      evaluationDesignSizes := (m.insertAttempt a).evaluationDesignSizes } := by
  unfold registerEvaluation insertAttempt
  cases a.researchValidation with
  | none => rfl
  | some evaluation => rfl

lemma outcome_registerRejection_bind {k : Unit → Reduction} :
    outcome (registerRejection a >>= k) m = outcome (k ()) { m with
      solverCandidateRejectionReceipts :=
        (m.insertAttempt a).solverCandidateRejectionReceipts } := by
  unfold registerRejection insertAttempt
  cases a.solverRejectionReceipt with
  | none => rfl
  | some receipt => rfl

end

lemma recordAttemptInPlace_outcome :
    outcome (recordAttemptInPlace a) m = settled m (m.recordAttempt a) := by
  unfold recordAttemptInPlace recordAttempt
  refine outcome_check_bind fun _ _ => ?_
  rw [outcome_look_bind]
  cases m.attempts[a.attemptDigest]? with
  | some existing => exact outcome_check_bind fun _ _ => rfl
  | none =>
    refine outcome_check_bind fun present _ => ?_
    cases present with
    | true => rfl
    | false =>
      refine outcome_check_bind fun present _ => ?_
      cases present with
      | true => rfl
      | false =>
        refine outcome_check_bind fun _ _ => ?_
        refine outcome_check_bind fun _ _ => ?_
        rw [outcome_registerEvaluation_bind, outcome_registerRejection_bind]
        rfl

lemma recordSolverRunFailureInPlace_outcome {f : SolverRunFailureRecord} :
    outcome (recordSolverRunFailureInPlace f) m = settled m (m.recordSolverRunFailure f) := by
  unfold recordSolverRunFailureInPlace recordSolverRunFailure
  refine outcome_check_bind fun _ _ => ?_
  rw [outcome_look_bind]
  cases m.solverRunFailures[f.failureDigest]? with
  | some existing => exact outcome_check_bind fun _ _ => rfl
  | none =>
    refine outcome_check_bind fun _ _ => ?_
    rw [outcome_look_bind]
    cases m.solverRunReceipts[f.runReceiptDigest]? with
    | some existingDigest =>
      refine outcome_check_bind fun existing _ => ?_
      exact outcome_check_bind fun _ _ => rfl
    | none => rfl

lemma recordDriftInPlace_outcome {d : DriftRecord} :
    outcome (recordDriftInPlace d) m = settled m (m.recordDrift d) := by
  unfold recordDriftInPlace recordDrift
  refine outcome_check_bind fun _ _ => ?_
  rw [outcome_look_bind]
  cases m.driftRecords[d.driftDigest]? with
  | some existing => exact outcome_check_bind fun _ _ => rfl
  | none =>
    refine outcome_check_bind fun _ _ => ?_
    refine outcome_check_bind fun previous _ => ?_
    refine outcome_check_bind fun current _ => ?_
    refine outcome_check_bind fun previousScope _ => ?_
    refine outcome_check_bind fun currentScope _ => ?_
    refine outcome_check_bind fun _ _ => ?_
    exact outcome_check_bind fun _ _ => rfl

end

/-! ## The same evidence -/

end ProceduralMemory

def SolverAttempt.SameEvidence (a b : SolverAttempt) : Prop :=
  b.projection = { a.projection with lineage := b.lineage, observedRevision := b.observedRevision }

def SolverAttempt.Receipted (a : SolverAttempt) : Prop :=
  a.researchValidation.isSome = true ∨ a.solverRejectionReceipt.isSome = true

def SolverRunFailureRecord.SameRun (f g : SolverRunFailureRecord) : Prop :=
  g.projection = { f.projection with observedRevision := g.observedRevision }

variable {a b : SolverAttempt}

lemma SolverAttempt.SameEvidence.researchValidation_eq (h : a.SameEvidence b) :
    b.researchValidation = a.researchValidation := by
  have heq := congrArg AttemptProjection.researchValidation h
  exact heq

lemma SolverAttempt.SameEvidence.solverRejectionReceipt_eq (h : a.SameEvidence b) :
    b.solverRejectionReceipt = a.solverRejectionReceipt := by
  have heq := congrArg AttemptProjection.solverRejectionReceipt h
  exact heq

variable {f g : SolverRunFailureRecord}

lemma SolverRunFailureRecord.SameRun.runReceiptDigest_eq (h : f.SameRun g) :
    g.runReceiptDigest = f.runReceiptDigest := by
  have heq := congrArg SolverRunFailureProjection.runReceiptDigest h
  exact heq

lemma attemptEvidenceSemanticsEqual_of_sameEvidence (h : a.SameEvidence b) :
    attemptEvidenceSemanticsEqual a b = true := by
  obtain ⟨pa, da⟩ := a
  obtain ⟨pb, db⟩ := b
  unfold SolverAttempt.SameEvidence at h
  have h' : pb = { pa with lineage := pb.lineage, observedRevision := pb.observedRevision } := h
  rw [h']
  simp [attemptEvidenceSemanticsEqual]

lemma solverRunReceiptSemanticsEqual_of_sameRun (h : f.SameRun g) :
    solverRunReceiptSemanticsEqual f g = true := by
  obtain ⟨pf, df⟩ := f
  obtain ⟨pg, dg⟩ := g
  have h' : pg = { pf with observedRevision := pg.observedRevision } := h
  rw [h']
  simp [solverRunReceiptSemanticsEqual]

namespace ProceduralMemory

section

variable [Platform] {m : ProceduralMemory} {r : Records} {a b : SolverAttempt}

section

omit [Platform]

lemma Holds.reportPresent_of_sameEvidence (h : Holds m r) (ha : a ∈ r.attempts)
    (hsame : a.SameEvidence b) {evaluation : ResearchValidation}
    (hevaluation : a.researchValidation = some evaluation) : m.reportPresent b = .ok true := by
  have hb : b.researchValidation = some evaluation := by
    rw [← hevaluation]
    exact hsame.researchValidation_eq
  have hentry : m.researchReportReceipts[evaluation.reportReceiptDigest]? =
      some a.attemptDigest := by
    rw [h.reports]
    refine ⟨a, ha, ?_⟩
    rw [SolverAttempt.reportEntry, hevaluation, map_some]
  have hfound : m.attempts[a.attemptDigest]? = some a := h.attempt_iff.mpr ⟨ha, rfl⟩
  have hequal : ¬attemptEvidenceSemanticsEqual a b = false := by
    rw [attemptEvidenceSemanticsEqual_of_sameEvidence hsame]
    decide
  simp only [reportPresent, hb, hentry, bind_ok, okOr_ok, failIf_ok, exists_const]
  exact ⟨a, hfound, hequal, rfl⟩

lemma Holds.rejectionPresent_of_sameEvidence (h : Holds m r) (ha : a ∈ r.attempts)
    (hsame : a.SameEvidence b) {receipt : Sha256Digest}
    (hreceipt : a.solverRejectionReceipt = some receipt) : m.rejectionPresent b = .ok true := by
  have hb : b.solverRejectionReceipt = some receipt := by
    rw [← hreceipt]
    exact hsame.solverRejectionReceipt_eq
  have hentry : m.solverCandidateRejectionReceipts[receipt]? = some a.attemptDigest := by
    rw [h.rejections]
    refine ⟨a, ha, ?_⟩
    rw [SolverAttempt.rejectionEntry, hreceipt, map_some]
  have hfound : m.attempts[a.attemptDigest]? = some a := h.attempt_iff.mpr ⟨ha, rfl⟩
  have hequal : ¬attemptEvidenceSemanticsEqual a b = false := by
    rw [attemptEvidenceSemanticsEqual_of_sameEvidence hsame]
    decide
  simp only [rejectionPresent, hb, hentry, bind_ok, okOr_ok, failIf_ok, exists_const]
  exact ⟨a, hfound, hequal, rfl⟩

lemma Holds.recordNewAttempt_of_sameEvidence (h : Holds m r) (ha : a ∈ r.attempts)
    (hreceipted : a.Receipted) (hsame : a.SameEvidence b) :
    m.recordNewAttempt b = .ok (m, .alreadyPresent) := by
  rw [recordNewAttempt, bind_ok]
  cases hevaluation : a.researchValidation with
  | some evaluation => exact ⟨true, h.reportPresent_of_sameEvidence ha hsame hevaluation, rfl⟩
  | none =>
    have hb : b.researchValidation = none := by
      rw [← hevaluation]
      exact hsame.researchValidation_eq
    have hfalse : m.reportPresent b = .ok false := by
      rw [reportPresent, hb]
    rcases hreceipted with hsome | hsome
    · rw [hevaluation] at hsome
      cases hsome
    · obtain ⟨receipt, hreceipt⟩ := isSome_iff_exists.mp hsome
      refine ⟨false, hfalse, ?_⟩
      rw [bind_ok]
      exact ⟨true, h.rejectionPresent_of_sameEvidence ha hsame hreceipt, rfl⟩

end

lemma recordAttempt_again (h : Holds m r) (ha : a ∈ r.attempts) (hreceipted : a.Receipted)
    (hsame : a.SameEvidence b) (hb : b.authenticate = .ok ()) :
    m.recordAttempt b = .ok (m, .alreadyPresent) ↔
      ∀ existing, m.attempts[b.attemptDigest]? = some existing → existing = b := by
  rw [recordAttempt, seq_ok, and_iff_right hb]
  cases hfound : m.attempts[b.attemptDigest]? with
  | some existing =>
    simp only [bind_ok, failIf_ok, ne_eq, not_not, exists_const, pure_ok, and_true, some.injEq]
    constructor
    · intro heq other hother
      rw [← hother]
      exact heq
    · intro hall
      exact hall existing rfl
  | none =>
    constructor
    · intro _ existing habsurd
      cases habsurd
    · intro _
      exact h.recordNewAttempt_of_sameEvidence ha hreceipted hsame

/-- A recorded run failure is present only while there is room for another, or under its
    own digest. -/
lemma recordSolverRunFailure_again (h : Holds m r) {f g : SolverRunFailureRecord}
    (hf : f ∈ r.failures) (hsame : f.SameRun g) (hg : g.authenticate = .ok ()) :
    m.recordSolverRunFailure g = .ok (m, .alreadyPresent) ↔
      m.solverRunFailures[g.failureDigest]? = some g ∨
        m.solverRunFailures[g.failureDigest]? = none ∧
          m.solverRunFailures.size < maxSolverRunFailures := by
  have hentry : m.solverRunReceipts[g.runReceiptDigest]? = some f.failureDigest := by
    rw [h.runs]
    refine ⟨f, hf, ?_⟩
    rw [SolverRunFailureRecord.runEntry, hsame.runReceiptDigest_eq]
  have hfound : m.solverRunFailures[f.failureDigest]? = some f := h.failure_iff.mpr ⟨hf, rfl⟩
  have hequal : ¬solverRunReceiptSemanticsEqual f g = false := by
    rw [solverRunReceiptSemanticsEqual_of_sameRun hsame]
    decide
  rw [recordSolverRunFailure, seq_ok, and_iff_right hg]
  cases hlookup : m.solverRunFailures[g.failureDigest]? with
  | some existing =>
    simp only [bind_ok, failIf_ok, ne_eq, not_not, exists_const, pure_ok, and_true,
      some.injEq, reduceCtorEq, false_and, or_false]
  | none =>
    simp only [recordNewFailure, hentry, bind_ok, failIf_ok, okOr_ok, exists_const,
      ge_iff_le, not_le, reduceCtorEq, false_or, true_and]
    constructor
    · intro hpresent
      exact hpresent.1
    · intro hroom
      exact ⟨hroom, f, hfound, hequal, rfl⟩

end

/-! ## Any history -/

inductive Recording where
  | attempt (a : SolverAttempt)
  | solverRunFailure (f : SolverRunFailureRecord)
  | drift (d : DriftRecord)

def Recording.inPlace [Platform] : Recording → Reduction
  | .attempt a => recordAttemptInPlace a
  | .solverRunFailure f => recordSolverRunFailureInPlace f
  | .drift d => recordDriftInPlace d

/-- The call as a function that returns the new memory. -/
def Recording.result [Platform] (m : ProceduralMemory) :
    Recording → BrainResult (ProceduralMemory × RecordDisposition)
  | .attempt a => m.recordAttempt a
  | .solverRunFailure f => m.recordSolverRunFailure f
  | .drift d => m.recordDrift d

lemma Recording.outcome_inPlace [Platform] {m : ProceduralMemory} {c : Recording} :
    outcome c.inPlace m = settled m (c.result m) := by
  cases c with
  | attempt a => exact recordAttemptInPlace_outcome
  | solverRunFailure f => exact recordSolverRunFailureInPlace_outcome
  | drift d => exact recordDriftInPlace_outcome

/-- **Known evidence, in every memory that calls lead to.** -/
theorem known_evidence_iff [Platform] (calls : List MemoryCall) :
    (∀ (digest : Sha256Digest) (a b : SolverAttempt),
      (history calls).attempts[digest]? = some a → a.Receipted → a.SameEvidence b →
      b.authenticate = .ok () → (outcome (recordAttemptInPlace b) (history calls) =
            (.ok .alreadyPresent, history calls) ↔
          ∀ existing, (history calls).attempts[b.attemptDigest]? = some existing → existing = b)) ∧
      (∀ (digest : Sha256Digest) (f g : SolverRunFailureRecord),
        (history calls).solverRunFailures[digest]? = some f → f.SameRun g →
        g.authenticate = .ok () → (outcome (recordSolverRunFailureInPlace g) (history calls) =
              (.ok .alreadyPresent, history calls) ↔
            (history calls).solverRunFailures[g.failureDigest]? = some g ∨
              (history calls).solverRunFailures[g.failureDigest]? = none ∧
                (history calls).solverRunFailures.size < maxSolverRunFailures)) ∧
      ∀ (m : ProceduralMemory) (c : Recording) (e : BrainError),
        (outcome c.inPlace m).1 = .error e → (outcome c.inPlace m).2 = m := by
  obtain ⟨r, hsound⟩ := history_sound calls
  refine ⟨?_, ?_, ?_⟩
  · intro digest a b ha hreceipted hsame hb
    obtain ⟨hmem, -⟩ := hsound.holds.attempt_iff.mp ha
    rw [recordAttemptInPlace_outcome, InPlace.settled_eq_ok]
    exact recordAttempt_again hsound.holds hmem hreceipted hsame hb
  · intro digest f g hf hsame hg
    obtain ⟨hmem, -⟩ := hsound.holds.failure_iff.mp hf
    rw [recordSolverRunFailureInPlace_outcome, InPlace.settled_eq_ok]
    exact recordSolverRunFailure_again hsound.holds hmem hsame hg
  · intro m c e herror
    rw [Recording.outcome_inPlace] at herror ⊢
    exact InPlace.state_of_settled_error herror

/-! ## A full memory -/

namespace FullMemory

open MemorySample (capability applicability digest digest_nonzero)

/-- The digest whose text is a number. -/
def numbered (n : Nat) : Sha256Digest :=
  ⟨String.ofList (hexText 64 n), isValidStr_of_hexDigits (length_hexText 64 n)
    fun _ hc => mem_hexDigits_of_mem_hexText hc⟩

lemma numbered_inj {n k : Nat} (hn : n < 16 ^ 64) (hk : k < 16 ^ 64)
    (h : numbered n = numbered k) : n = k := by
  have htext := congrArg Sha256Digest.hex h
  exact hexText_inj hn hk (String.ofList_injective htext)

lemma numbered_nonzero {n : Nat} (hpos : 0 < n) (hn : n < 16 ^ 64) :
    isZeroDigest (numbered n) = false := by
  rw [← Bool.not_eq_true]
  intro hzero
  simp only [isZeroDigest, numbered, String.toList_ofList, List.all_eq_true, beq_iff_eq] at hzero
  have htext : hexText 64 n = hexText 64 0 := by
    rw [eq_replicate_of_mem hzero, length_hexText]
    decide
  have hnone := hexText_inj hn (Nat.pow_pos (by decide)) htext
  omega

/-- A run that ended for want of a backend, under a receipt of its own. -/
def projection (revision i : Nat) : SolverRunFailureProjection where
  schema := .current
  capability := capability
  problemDigest := digest
  solverPolicyDigest := digest
  applicability := applicability
  subject := .portfolio
  outcome := .boundedUnknown .backendUnavailable
  observedRevision := revision
  deterministicWorkUnits := none
  runReceiptDigest := numbered (i + 1)

def preimage (revision i : Nat) : ByteArray :=
  solverRunFailureDomain.toByteArray ++ toVec (projection revision i)

/-- What is hashed: the runs at two revisions, as many as a memory has room for. -/
def inputs : Set ByteArray :=
  {bytes | ∃ revision i, (revision = 1 ∨ revision = 2) ∧ i < maxSolverRunFailures ∧
    bytes = preimage revision i}

lemma receipt_lt {i : Nat} (hi : i < maxSolverRunFailures) : i + 1 < 16 ^ 64 := by
  have hmax : maxSolverRunFailures < 16 ^ 64 - 1 := by decide
  omega

lemma projection_inj {revision revision' i i' : Nat} (hi : i < maxSolverRunFailures)
    (hi' : i' < maxSolverRunFailures) (h : projection revision i = projection revision' i') :
    revision = revision' ∧ i = i' := by
  have hrevision := congrArg SolverRunFailureProjection.observedRevision h
  have hreceipt := congrArg SolverRunFailureProjection.runReceiptDigest h
  have hnumber := numbered_inj (receipt_lt hi) (receipt_lt hi') hreceipt
  exact ⟨hrevision, Nat.succ_injective hnumber⟩

section

variable [Platform]

def run (revision i : Nat) : SolverRunFailureRecord :=
  { projection revision i with failureDigest := (projection revision i).calculateDigest }

lemma run_receipt {revision i : Nat} : (run revision i).runReceiptDigest = numbered (i + 1) :=
  rfl

lemma run_authentic {revision i : Nat} (hrevision : revision = 1 ∨ revision = 2)
    (hi : i < maxSolverRunFailures) : (run revision i).authenticate = .ok () := by
  have hreceipt : isZeroDigest (numbered (i + 1)) = false :=
    numbered_nonzero (Nat.succ_pos i) (receipt_lt hi)
  have hpos : ¬revision = 0 := by omega
  rw [SolverRunFailureRecord.authenticate, seq_ok, seq_ok, seq_ok]
  refine ⟨?_, ?_, ?_, ?_⟩
  · simp [run, projection, capability, CapabilityContext.validateNonzero, digest_nonzero]
  · simp [run, projection, digest_nonzero, hreceipt, hpos]
  · show applicability.validate = .ok ()
    decide
  · rw [failIf_ok, not_not]
    rfl

lemma run_digest_inj (hsha : InjOn Platform.sha256 inputs) {revision revision' i i' : Nat}
    (hrevision : revision = 1 ∨ revision = 2) (hrevision' : revision' = 1 ∨ revision' = 2)
    (hi : i < maxSolverRunFailures) (hi' : i' < maxSolverRunFailures)
    (h : (run revision i).failureDigest = (run revision' i').failureDigest) :
    revision = revision' ∧ i = i' := by
  have hbytes : preimage revision i = preimage revision' i' :=
    hsha ⟨revision, i, hrevision, hi, rfl⟩ ⟨revision', i', hrevision', hi', rfl⟩ h
  have hvec := (ByteArray.append_right_inj _).mp hbytes
  exact projection_inj hi hi' (toVec_injective hvec)

/-- The first runs, each recorded once. -/
def calls (n : Nat) : List MemoryCall :=
  (List.range n).map fun i => .recordSolverRunFailure (run 1 i)

lemma calls_succ (n : Nat) : calls (n + 1) = calls n ++ [.recordSolverRunFailure (run 1 n)] := by
  rw [calls, range_succ, map_append, map_singleton, calls]

lemma history_calls (hsha : InjOn Platform.sha256 inputs) {n : Nat}
    (hn : n ≤ maxSolverRunFailures) :
    ∃ r, Holds (history (calls n)) r ∧ (∀ f, f ∈ r.failures ↔ ∃ i < n, f = run 1 i) ∧
      (history (calls n)).solverRunFailures.size = n := by
  induction n with
  | zero =>
    refine ⟨Records.none, Holds.new, ?_, rfl⟩
    intro f
    simp [Records.none]
  | succ n ih =>
    obtain ⟨r, hholds, hfailures, hsize⟩ := ih (Nat.le_of_succ_le hn)
    have hadmits : (history (calls n)).AdmitsFailure (run 1 n) := by
      refine ⟨run_authentic (.inl rfl) hn, ?_, ?_, by omega⟩
      · rw [eq_none_iff_forall_ne_some]
        intro f hf
        obtain ⟨hmem, hdigest⟩ := hholds.failure_iff.mp hf
        obtain ⟨i, hi, rfl⟩ := (hfailures f).mp hmem
        have hsame := run_digest_inj hsha (.inl rfl) (.inl rfl) (by omega) hn hdigest
        omega
      · rw [eq_none_iff_forall_ne_some]
        intro found hfound
        obtain ⟨f, hmem, hentry⟩ := (hholds.runs _ _).mp hfound
        obtain ⟨i, hi, rfl⟩ := (hfailures f).mp hmem
        simp only [SolverRunFailureRecord.runEntry, run_receipt, some.injEq,
          Prod.mk.injEq] at hentry
        have hsame := numbered_inj (receipt_lt (by omega)) (receipt_lt hn) hentry.1
        omega
    have hnext : history (calls (n + 1)) = (history (calls n)).insertFailure (run 1 n) := by
      have hbase : (calls n).foldl call new = history (calls n) := rfl
      rw [history, calls_succ, foldl_append, hbase, foldl_cons, foldl_nil, call,
        hadmits.recorded, after]
    rw [hnext]
    refine ⟨r.withFailure (run 1 n), hholds.insertFailure hadmits, ?_, ?_⟩
    · intro f
      show f ∈ insert (run 1 n) r.failures ↔ _
      rw [mem_insert_iff, hfailures]
      constructor
      · intro h
        rcases h with rfl | ⟨i, hi, rfl⟩
        · exact ⟨n, Nat.lt_succ_self n, rfl⟩
        · exact ⟨i, Nat.lt_succ_of_lt hi, rfl⟩
      · intro h
        obtain ⟨i, hi, rfl⟩ := h
        rcases Nat.lt_succ_iff_lt_or_eq.mp hi with hlt | rfl
        · exact .inr ⟨i, hlt, rfl⟩
        · exact .inl rfl
    · have hinsert := size_insert_new (v := run 1 n) (getElem?_none.mp hadmits.digest)
      show ((history (calls n)).solverRunFailures.insert (run 1 n).failureDigest
        (run 1 n)).size = n + 1
      omega

lemma refuses (hsha : InjOn Platform.sha256 inputs) :
    ¬∀ (calls : List MemoryCall) (digest : Sha256Digest) (f g : SolverRunFailureRecord),
      (history calls).solverRunFailures[digest]? = some f → f.SameRun g → g.authenticate = .ok () →
        outcome (recordSolverRunFailureInPlace g) (history calls) =
          (.ok .alreadyPresent, history calls) := by
  intro hclaim
  have hroom : 0 < maxSolverRunFailures := by decide
  obtain ⟨r, hholds, hfailures, hsize⟩ := history_calls hsha (Nat.le_refl _)
  have hfirst : run 1 0 ∈ r.failures := (hfailures _).mpr ⟨0, hroom, rfl⟩
  have hsame : (run 1 0).SameRun (run 2 0) := rfl
  have hauthentic : (run 2 0).authenticate = .ok () := run_authentic (.inr rfl) hroom
  have hagain := hclaim (calls maxSolverRunFailures) _ (run 1 0) (run 2 0)
    (hholds.failure_iff.mpr ⟨hfirst, rfl⟩) hsame hauthentic
  rw [recordSolverRunFailureInPlace_outcome, InPlace.settled_eq_ok,
    recordSolverRunFailure_again hholds hfirst hsame hauthentic] at hagain
  rcases hagain with hfound | ⟨-, hlt⟩
  · obtain ⟨hmem, -⟩ := hholds.failure_iff.mp hfound
    obtain ⟨i, hi, heq⟩ := (hfailures _).mp hmem
    have habsurd := run_digest_inj hsha (.inr rfl) (.inl rfl) hroom hi
      (congrArg SolverRunFailureRecord.failureDigest heq)
    omega
  · omega

end

open Classical in
/-- A hash that tells the runs of the sample apart. -/
noncomputable def code (bytes : ByteArray) : Nat :=
  if h : ∃ p : Nat × Nat, (p.1 = 1 ∨ p.1 = 2) ∧ p.2 < maxSolverRunFailures ∧
      bytes = preimage p.1 p.2 then 2 * h.choose.2 + h.choose.1 else 0

lemma code_injOn : InjOn (fun bytes => numbered (code bytes)) inputs := by
  have hspec : ∀ bytes ∈ inputs, ∃ revision i, (revision = 1 ∨ revision = 2) ∧
      i < maxSolverRunFailures ∧ bytes = preimage revision i ∧ code bytes = 2 * i + revision := by
    intro bytes hbytes
    have hexists : ∃ p : Nat × Nat, (p.1 = 1 ∨ p.1 = 2) ∧ p.2 < maxSolverRunFailures ∧
        bytes = preimage p.1 p.2 := by
      obtain ⟨revision, i, hrevision, hi, heq⟩ := hbytes
      exact ⟨(revision, i), hrevision, hi, heq⟩
    obtain ⟨hrevision, hi, heq⟩ := hexists.choose_spec
    refine ⟨_, _, hrevision, hi, heq, ?_⟩
    rw [code, dif_pos hexists]
  have hmax : 2 * maxSolverRunFailures + 2 < 16 ^ 64 := by decide
  intro bytes hbytes bytes' hbytes' h
  obtain ⟨revision, i, hrevision, hi, heq, hcode⟩ := hspec bytes hbytes
  obtain ⟨revision', i', hrevision', hi', heq', hcode'⟩ := hspec bytes' hbytes'
  have hnumber : code bytes = code bytes' := numbered_inj (by omega) (by omega) h
  have hrevisions : revision = revision' := by omega
  have hindices : i = i' := by omega
  rw [heq, heq', hrevisions, hindices]

/-- **A full memory refuses a run failure it already has**, whatever hash tells the runs apart,
    and there is such a hash. -/
theorem refuses_known_run : (∃ platform : Platform, Set.InjOn platform.sha256 inputs) ∧
      ∀ [Platform], Set.InjOn Platform.sha256 inputs →
        ¬∀ (calls : List MemoryCall) (digest : Sha256Digest) (f g : SolverRunFailureRecord),
          (history calls).solverRunFailures[digest]? = some f → f.SameRun g →
          g.authenticate = .ok () → outcome (recordSolverRunFailureInPlace g) (history calls) =
              (.ok .alreadyPresent, history calls) := by
  refine ⟨⟨{ Platform.reference with sha256 := fun bytes => numbered (code bytes) }, ?_⟩, ?_⟩
  · exact code_injOn
  · intro platform hsha
    exact refuses hsha

end FullMemory

end ProceduralMemory

end Tidex.Learning
