/-
  Learning.Reducer — what a procedural memory holds.
-/
import Tidex.Learning.Memory
import Tidex.Lib.Index

namespace Tidex.Learning

open Tidex.Lib SolverAttempt
open Tidex.Lib.BTreeMap

/-! ## Entries -/

namespace SolverAttempt

def recordEntry (a : SolverAttempt) : Option (Sha256Digest × SolverAttempt) :=
  some (a.attemptDigest, a)

def reportEntry (a : SolverAttempt) : Option (Sha256Digest × Sha256Digest) :=
  a.researchValidation.map fun evaluation => (evaluation.reportReceiptDigest, a.attemptDigest)

/-- The receipt its candidate was rejected by. -/
def rejectionEntry (a : SolverAttempt) : Option (Sha256Digest × Sha256Digest) :=
  a.solverRejectionReceipt.map fun receipt => (receipt, a.attemptDigest)

def designEntry (a : SolverAttempt) : Option (Sha256Digest × Nat) :=
  a.researchValidation.map fun evaluation =>
    (evaluation.evaluationDesignDigest, evaluation.independentGroupCount)

def placeEntry (a : SolverAttempt) : Option (LineagePlace × Sha256Digest) :=
  some (a.lineage.place, a.attemptDigest)

def evaluationReceipt (a : SolverAttempt) : Option Sha256Digest :=
  a.researchValidation.map (·.receiptDigest)

def isolation (a : SolverAttempt) : IsolationKey := IsolationKey.fromBindings a.bindings

end SolverAttempt

def SolverRunFailureRecord.recordEntry (f : SolverRunFailureRecord) :
    Option (Sha256Digest × SolverRunFailureRecord) :=
  some (f.failureDigest, f)

def SolverRunFailureRecord.runEntry (f : SolverRunFailureRecord) :
    Option (Sha256Digest × Sha256Digest) :=
  some (f.runReceiptDigest, f.failureDigest)

def DriftRecord.recordEntry (d : DriftRecord) : Option (Sha256Digest × DriftRecord) :=
  some (d.driftDigest, d)

/-! ## What a memory holds -/

structure Records where
  attempts : Set SolverAttempt
  failures : Set SolverRunFailureRecord
  drifts : Set DriftRecord

namespace Records

def none : Records := ⟨∅, ∅, ∅⟩

def withAttempt (r : Records) (a : SolverAttempt) : Records :=
  { r with attempts := insert a r.attempts }

def withFailure (r : Records) (f : SolverRunFailureRecord) : Records :=
  { r with failures := insert f r.failures }

def withDrift (r : Records) (d : DriftRecord) : Records :=
  { r with drifts := insert d r.drifts }

end Records

namespace ProceduralMemory

def Evidences (r : Records) (receipt : Sha256Digest) : Prop :=
  (∃ a ∈ r.attempts, a.evaluationReceipt = some receipt) ∨
    ∃ d ∈ r.drifts, d.evidenceReceiptDigest = receipt

variable {a : SolverAttempt} {receipt : Sha256Digest}

lemma evidences_withAttempt {r : Records} : Evidences (r.withAttempt a) receipt ↔
      a.evaluationReceipt = some receipt ∨ Evidences r receipt := by
  show (∃ b ∈ insert a r.attempts, b.evaluationReceipt = some receipt) ∨ _ ↔ _
  rw [Set.exists_mem_insert, or_assoc, Evidences]
  exact Iff.rfl

variable {d : DriftRecord}

lemma evidences_withDrift {r : Records} : Evidences (r.withDrift d) receipt ↔
      d.evidenceReceiptDigest = receipt ∨ Evidences r receipt := by
  show _ ∨ (∃ e ∈ insert d r.drifts, e.evidenceReceiptDigest = receipt) ↔ _
  rw [Set.exists_mem_insert, or_left_comm, Evidences]
  exact Iff.rfl

/-- The memory keeps these records, and each index is the one over them. -/
structure Holds (m : ProceduralMemory) (r : Records) : Prop where
  attempts : Indexes m.attempts SolverAttempt.recordEntry r.attempts
  failures : Indexes m.solverRunFailures SolverRunFailureRecord.recordEntry r.failures
  isolation : Groups m.attemptsByIsolation SolverAttempt.isolation SolverAttempt.attemptDigest
    r.attempts
  evidence : ∀ receipt, receipt ∈ m.evidenceReceipts ↔ Evidences r receipt
  reports : Indexes m.researchReportReceipts SolverAttempt.reportEntry r.attempts
  rejections : Indexes m.solverCandidateRejectionReceipts SolverAttempt.rejectionEntry r.attempts
  runs : Indexes m.solverRunReceipts SolverRunFailureRecord.runEntry r.failures
  designs : Indexes m.evaluationDesignSizes SolverAttempt.designEntry r.attempts
  places : Indexes m.lineagePositions SolverAttempt.placeEntry r.attempts
  drifts : Indexes m.driftRecords DriftRecord.recordEntry r.drifts
  invalidated : Maxima m.invalidatedThrough (fun d : DriftRecord => d.scope)
    (fun d : DriftRecord => d.invalidatesThroughRevision) r.drifts

namespace Holds

variable {m m' : ProceduralMemory} {r : Records}

lemma new : Holds ProceduralMemory.new Records.none where
  attempts := Indexes.empty
  failures := Indexes.empty
  isolation := Groups.empty
  evidence := by
    intro receipt
    simp [ProceduralMemory.new, Evidences, Records.none]
  reports := Indexes.empty
  rejections := Indexes.empty
  runs := Indexes.empty
  designs := Indexes.empty
  places := Indexes.empty
  drifts := Indexes.empty
  invalidated := Maxima.empty

/-- The records determine the memory. -/
lemma unique (h : Holds m r) (h' : Holds m' r) : m = m' := by
  have hattempts := h.attempts.unique h'.attempts
  have hfailures := h.failures.unique h'.failures
  have hisolation := h.isolation.unique h'.isolation
  have hevidence : m.evidenceReceipts = m'.evidenceReceipts := by
    apply Std.ExtTreeSet.ext_mem
    intro receipt
    rw [h.evidence receipt, h'.evidence receipt]
  have hreports := h.reports.unique h'.reports
  have hrejections := h.rejections.unique h'.rejections
  have hruns := h.runs.unique h'.runs
  have hdesigns := h.designs.unique h'.designs
  have hplaces := h.places.unique h'.places
  have hdrifts := h.drifts.unique h'.drifts
  have hinvalidated := h.invalidated.unique h'.invalidated
  obtain ⟨_, _, _, _, _, _, _, _, _, _, _⟩ := m
  obtain ⟨_, _, _, _, _, _, _, _, _, _, _⟩ := m'
  cases hattempts
  cases hfailures
  cases hisolation
  cases hevidence
  cases hreports
  cases hrejections
  cases hruns
  cases hdesigns
  cases hplaces
  cases hdrifts
  cases hinvalidated
  rfl

lemma attempt_iff (h : Holds m r) {digest : Sha256Digest} {a : SolverAttempt} :
    m.attempts[digest]? = some a ↔ a ∈ r.attempts ∧ a.attemptDigest = digest := by
  rw [h.attempts digest a]
  constructor
  · intro hrecord
    obtain ⟨b, hb, hentry⟩ := hrecord
    cases hentry
    exact ⟨hb, rfl⟩
  · intro hrecord
    obtain ⟨ha, heq⟩ := hrecord
    subst heq
    exact ⟨a, ha, rfl⟩

lemma failure_iff (h : Holds m r) {digest : Sha256Digest} {f : SolverRunFailureRecord} :
    m.solverRunFailures[digest]? = some f ↔ f ∈ r.failures ∧ f.failureDigest = digest := by
  rw [h.failures digest f]
  constructor
  · intro hrecord
    obtain ⟨g, hg, hentry⟩ := hrecord
    cases hentry
    exact ⟨hg, rfl⟩
  · intro hrecord
    obtain ⟨hf, heq⟩ := hrecord
    subst heq
    exact ⟨f, hf, rfl⟩

lemma attempt_ext (h : Holds m r) {a b : SolverAttempt} (ha : a ∈ r.attempts)
    (hb : b ∈ r.attempts) (heq : a.attemptDigest = b.attemptDigest) : a = b := by
  have hentry : b.recordEntry = some (a.attemptDigest, b) := by
    rw [heq]
    rfl
  exact h.attempts.functional ha hb rfl hentry

lemma failure_ext (h : Holds m r) {f g : SolverRunFailureRecord} (hf : f ∈ r.failures)
    (hg : g ∈ r.failures) (heq : f.failureDigest = g.failureDigest) : f = g := by
  have hentry : g.recordEntry = some (f.failureDigest, g) := by
    rw [heq]
    rfl
  exact h.failures.functional hf hg rfl hentry

lemma drift_ext (h : Holds m r) {d e : DriftRecord} (hd : d ∈ r.drifts) (he : e ∈ r.drifts)
    (heq : d.driftDigest = e.driftDigest) : d = e := by
  have hentry : e.recordEntry = some (d.driftDigest, e) := by
    rw [heq]
    rfl
  exact h.drifts.functional hd he rfl hentry

end Holds

/-! ## What a record needs to be entered -/

/-- An attempt starts its line, or continues the line of a recorded one. -/
def Rooted (s : Set SolverAttempt) (a : SolverAttempt) : Prop :=
  (a.lineage.ordinal = 0 ∧ a.lineage.parentAttemptDigest = none) ∨
    ∃ parent ∈ s, a.lineage.parentAttemptDigest = some parent.attemptDigest ∧
      continuesLineage parent a = true ∧ validateApplied parent a = .ok ()

def Founded (s : Set SolverAttempt) (d : DriftRecord) : Prop :=
  ∃ previous ∈ s, ∃ current ∈ s, ∃ previousScope currentScope,
    previous.reportEntry = some (d.previousReportReceipt, previous.attemptDigest) ∧
    current.reportEntry = some (d.currentReportReceipt, current.attemptDigest) ∧
    DriftScope.fromAttempt previous = some previousScope ∧
    DriftScope.fromAttempt current = some currentScope ∧
    driftBound d previous current previousScope currentScope = true

lemma Rooted.mono {s t : Set SolverAttempt} (hst : s ⊆ t) (h : Rooted s a) : Rooted t a := by
  rcases h with hfirst | hlater
  · exact .inl hfirst
  · obtain ⟨parent, hparent, hrest⟩ := hlater
    exact .inr ⟨parent, hst hparent, hrest⟩

lemma Founded.mono {s t : Set SolverAttempt} (hst : s ⊆ t) (h : Founded s d) : Founded t d := by
  obtain ⟨previous, hprevious, current, hcurrent, hrest⟩ := h
  exact ⟨previous, hst hprevious, current, hst hcurrent, hrest⟩

lemma continuesLineage_ordinal {parent child : SolverAttempt}
    (h : continuesLineage parent child = true) :
    child.lineage.lineageId = parent.lineage.lineageId ∧
      child.lineage.ordinal = parent.lineage.ordinal + 1 ∧
      parent.observedRevision < child.observedRevision := by
  simp only [continuesLineage, Bool.and_eq_true, beq_iff_eq, decide_eq_true_eq] at h
  obtain ⟨⟨⟨⟨⟨hid, -⟩, hordinal⟩, hrevision⟩, -⟩, -⟩ := h
  exact ⟨hid.symm, hordinal.symm, hrevision⟩

variable {m m' : ProceduralMemory} {r : Records}

lemma validateLineage_ok (h : Holds m r) :
    m.validateLineage a = .ok () ↔ m.lineagePositions[a.lineage.place]? = none ∧
      Rooted r.attempts a := by
  have hplace : a.lineage.place ∉ m.lineagePositions ↔
      m.lineagePositions[a.lineage.place]? = none := getElem?_none.symm
  rw [validateLineage, seq_ok, failIf_ok, hplace]
  apply and_congr_right
  intro hnew
  rcases hordinal : a.lineage.ordinal with _ | n <;>
    rcases hparent : a.lineage.parentAttemptDigest with _ | parentDigest
  · simp [Rooted, hordinal, hparent, pure_ok]
  · -- a first place with a parent
    simp only [throw_ok, false_iff]
    intro hrooted
    rcases hrooted with hfirst | hlater
    · rw [hparent] at hfirst
      exact absurd hfirst.2 (by simp)
    · obtain ⟨parent, -, -, hcontinues, -⟩ := hlater
      have hnext := (continuesLineage_ordinal hcontinues).2.1
      omega
  · -- a later place without a parent
    simp only [throw_ok, false_iff]
    intro hrooted
    rcases hrooted with hfirst | hlater
    · omega
    · obtain ⟨parent, -, hdigest, -, -⟩ := hlater
      rw [hparent] at hdigest
      cases hdigest
  · simp only [bind_ok, okOr_ok, failIf_ok, exists_const, Bool.not_eq_false]
    constructor
    · intro hchecks
      obtain ⟨parent, hget, hcontinues, happlied⟩ := hchecks
      obtain ⟨hmem, hdigest⟩ := h.attempt_iff.mp hget
      refine .inr ⟨parent, hmem, ?_, hcontinues, happlied⟩
      rw [hparent, hdigest]
    · intro hrooted
      rcases hrooted with hfirst | hlater
      · omega
      · obtain ⟨parent, hmem, hdigest, hcontinues, happlied⟩ := hlater
        rw [hparent, Option.some.injEq] at hdigest
        exact ⟨parent, h.attempt_iff.mpr ⟨hmem, hdigest.symm⟩, hcontinues, happlied⟩

/-! ## Entering an attempt -/

/-- Nothing in the memory is against entering an attempt. -/
structure AdmitsAttempt [Platform] (m : ProceduralMemory) (a : SolverAttempt) : Prop where
  authentic : a.authenticate = .ok ()
  digest : m.attempts[a.attemptDigest]? = none
  report : ∀ k v, a.reportEntry = some (k, v) → m.researchReportReceipts[k]? = none
  receipt : ∀ receipt, a.evaluationReceipt = some receipt → receipt ∉ m.evidenceReceipts
  design : ∀ k n, a.designEntry = some (k, n) →
    ∀ known, m.evaluationDesignSizes[k]? = some known → known = n
  rejection : ∀ k v, a.rejectionEntry = some (k, v) →
    m.solverCandidateRejectionReceipts[k]? = none
  room : m.attempts.size < maxAttempts
  lineage : m.validateLineage a = .ok ()

lemma reportPresent_false : m.reportPresent a = .ok false ↔
      (∀ k v, a.reportEntry = some (k, v) → m.researchReportReceipts[k]? = none) ∧
      (∀ receipt, a.evaluationReceipt = some receipt → receipt ∉ m.evidenceReceipts) ∧
      (∀ k n, a.designEntry = some (k, n) →
        ∀ known, m.evaluationDesignSizes[k]? = some known → known = n) := by
  cases hevaluation : a.researchValidation with
  | none =>
    simp [reportPresent, reportEntry, evaluationReceipt, designEntry, hevaluation]
  | some evaluation =>
    rw [reportPresent, reportEntry, evaluationReceipt, designEntry, hevaluation]
    simp only [Option.map_some, Option.some.injEq, Prod.mk.injEq, and_imp, forall_eq',
      forall_apply_eq_imp_iff]
    cases hreport : m.researchReportReceipts[evaluation.reportReceiptDigest]? with
    | none =>
      simp only [bind_ok, failIf_ok, pure_ok, exists_const, and_true, true_and,
        Option.any_eq_true, not_exists, not_and, bne_iff_ne, ne_eq, not_not]
    | some existingDigest => simp only [bind_ok, pure_ok, reduceCtorEq, and_false,
        exists_false, false_and]

lemma rejectionPresent_false : m.rejectionPresent a = .ok false ↔
      ∀ k v, a.rejectionEntry = some (k, v) → m.solverCandidateRejectionReceipts[k]? = none := by
  cases hreceipt : a.solverRejectionReceipt with
  | none => simp [rejectionPresent, rejectionEntry, hreceipt]
  | some receipt =>
    rw [rejectionPresent, rejectionEntry, hreceipt]
    simp only [Option.map_some, Option.some.injEq, Prod.mk.injEq, and_imp, forall_eq',
      forall_apply_eq_imp_iff]
    cases hknown : m.solverCandidateRejectionReceipts[receipt]? with
    | none => simp only [pure_ok]
    | some existingDigest => simp only [bind_ok, pure_ok, reduceCtorEq, and_false, exists_false]

variable {disposition : RecordDisposition}

lemma recordAttempt_cases [Platform] (h : m.recordAttempt a = .ok (m', disposition)) :
    (disposition = .alreadyPresent ∧ m' = m) ∨
      (disposition = .inserted ∧ m' = m.insertAttempt a ∧ m.AdmitsAttempt a) := by
  rw [recordAttempt, seq_ok] at h
  obtain ⟨hauthentic, h⟩ := h
  cases hdigest : m.attempts[a.attemptDigest]? with
  | some existing =>
    simp only [hdigest, bind_ok, pure_ok, Prod.mk.injEq] at h
    obtain ⟨-, -, hm, hdisposition⟩ := h
    exact .inl ⟨hdisposition.symm, hm.symm⟩
  | none =>
    simp only [hdigest, recordNewAttempt, bind_ok] at h
    obtain ⟨present, hreport, h⟩ := h
    cases present with
    | true =>
      simp only [pure_ok, Prod.mk.injEq] at h
      exact .inl ⟨h.2.symm, h.1.symm⟩
    | false =>
      simp only [bind_ok] at h
      obtain ⟨present, hrejection, h⟩ := h
      cases present with
      | true =>
        simp only [pure_ok, Prod.mk.injEq] at h
        exact .inl ⟨h.2.symm, h.1.symm⟩
      | false =>
        simp only [bind_ok, failIf_ok, pure_ok, Prod.mk.injEq] at h
        obtain ⟨_, hroom, _, hlineage, hm, hdisposition⟩ := h
        obtain ⟨hreports, hreceipts, hdesigns⟩ := reportPresent_false.mp hreport
        refine .inr ⟨hdisposition.symm, hm.symm, ?_⟩
        exact {
          authentic := hauthentic
          digest := hdigest
          report := hreports
          receipt := hreceipts
          design := hdesigns
          rejection := rejectionPresent_false.mp hrejection
          room := Nat.lt_of_not_ge hroom
          lineage := hlineage }

lemma AdmitsAttempt.recorded [Platform] (h : m.AdmitsAttempt a) :
    m.recordAttempt a = .ok (m.insertAttempt a, .inserted) := by
  have hreport := reportPresent_false.mpr ⟨h.report, h.receipt, h.design⟩
  have hrejection := rejectionPresent_false.mpr h.rejection
  have hroom : ¬ m.attempts.size ≥ maxAttempts := Nat.not_le_of_lt h.room
  rw [recordAttempt, seq_ok]
  refine ⟨h.authentic, ?_⟩
  rw [h.digest]
  show m.recordNewAttempt a = _
  rw [recordNewAttempt, bind_ok]
  refine ⟨false, hreport, ?_⟩
  rw [bind_ok]
  refine ⟨false, hrejection, ?_⟩
  rw [seq_ok, seq_ok]
  exact ⟨failIf_ok.mpr hroom, h.lineage, rfl⟩

lemma Holds.insertAttempt [Platform] (h : Holds m r) (hadmits : m.AdmitsAttempt a) :
    Holds (m.insertAttempt a) (r.withAttempt a) where
  attempts := h.attempts.insert rfl hadmits.digest
  failures := h.failures
  isolation := h.isolation.insert
  evidence := by
    intro receipt
    rw [evidences_withAttempt, ← h.evidence receipt]
    cases hevaluation : a.researchValidation with
    | none =>
      have hnone : a.evaluationReceipt ≠ some receipt := by
        simp [evaluationReceipt, hevaluation]
      have hsame : (m.insertAttempt a).evidenceReceipts = m.evidenceReceipts := by
        simp [ProceduralMemory.insertAttempt, hevaluation]
      rw [hsame, or_iff_right hnone]
    | some evaluation =>
      have hentry : a.evaluationReceipt = some receipt ↔ receipt = evaluation.receiptDigest := by
        rw [evaluationReceipt, hevaluation, Option.map_some, Option.some.injEq]
        exact eq_comm
      have hinsert : (m.insertAttempt a).evidenceReceipts =
          m.evidenceReceipts.insert evaluation.receiptDigest := by
        simp [ProceduralMemory.insertAttempt, hevaluation]
      rw [hinsert, BTreeSet.mem_insert_iff, hentry]
  reports := by
    cases hevaluation : a.researchValidation with
    | none =>
      have hentry : a.reportEntry = none := by
        rw [reportEntry, hevaluation, Option.map_none]
      simp only [ProceduralMemory.insertAttempt, hevaluation]
      exact h.reports.skip hentry
    | some evaluation =>
      have hentry : a.reportEntry = some (evaluation.reportReceiptDigest, a.attemptDigest) := by
        rw [reportEntry, hevaluation, Option.map_some]
      simp only [ProceduralMemory.insertAttempt, hevaluation]
      exact h.reports.insert hentry (hadmits.report _ _ hentry)
  rejections := by
    cases hreceipt : a.solverRejectionReceipt with
    | none =>
      have hentry : a.rejectionEntry = none := by
        rw [rejectionEntry, hreceipt, Option.map_none]
      simp only [ProceduralMemory.insertAttempt, hreceipt]
      exact h.rejections.skip hentry
    | some receipt =>
      have hentry : a.rejectionEntry = some (receipt, a.attemptDigest) := by
        rw [rejectionEntry, hreceipt, Option.map_some]
      simp only [ProceduralMemory.insertAttempt, hreceipt]
      exact h.rejections.insert hentry (hadmits.rejection _ _ hentry)
  runs := h.runs
  designs := by
    cases hevaluation : a.researchValidation with
    | none =>
      have hentry : a.designEntry = none := by
        rw [designEntry, hevaluation, Option.map_none]
      simp only [ProceduralMemory.insertAttempt, hevaluation]
      exact h.designs.skip hentry
    | some evaluation =>
      have hentry : a.designEntry =
          some (evaluation.evaluationDesignDigest, evaluation.independentGroupCount) := by
        rw [designEntry, hevaluation, Option.map_some]
      simp only [ProceduralMemory.insertAttempt, hevaluation]
      exact h.designs.insertIfNew hentry (hadmits.design _ _ hentry)
  places := h.places.insert rfl ((validateLineage_ok h).mp hadmits.lineage).1
  drifts := h.drifts
  invalidated := h.invalidated

/-! ## Entering a run failure -/

/-- Nothing in the memory is against entering a run failure. -/
structure AdmitsFailure [Platform] (m : ProceduralMemory) (f : SolverRunFailureRecord) :
    Prop where
  authentic : f.authenticate = .ok ()
  digest : m.solverRunFailures[f.failureDigest]? = none
  run : m.solverRunReceipts[f.runReceiptDigest]? = none
  room : m.solverRunFailures.size < maxSolverRunFailures

variable {f : SolverRunFailureRecord}

lemma recordSolverRunFailure_cases [Platform]
    (h : m.recordSolverRunFailure f = .ok (m', disposition)) :
    (disposition = .alreadyPresent ∧ m' = m) ∨
      (disposition = .inserted ∧ m' = m.insertFailure f ∧ m.AdmitsFailure f) := by
  rw [recordSolverRunFailure, seq_ok] at h
  obtain ⟨hauthentic, h⟩ := h
  cases hdigest : m.solverRunFailures[f.failureDigest]? with
  | some existing =>
    simp only [hdigest, bind_ok, pure_ok, Prod.mk.injEq] at h
    obtain ⟨-, -, hm, hdisposition⟩ := h
    exact .inl ⟨hdisposition.symm, hm.symm⟩
  | none =>
    simp only [hdigest, recordNewFailure, seq_ok, failIf_ok] at h
    obtain ⟨hroom, h⟩ := h
    cases hrun : m.solverRunReceipts[f.runReceiptDigest]? with
    | some existingDigest =>
      simp only [hrun, bind_ok, pure_ok, Prod.mk.injEq] at h
      obtain ⟨-, -, -, -, hm, hdisposition⟩ := h
      exact .inl ⟨hdisposition.symm, hm.symm⟩
    | none =>
      simp only [hrun, pure_ok, Prod.mk.injEq] at h
      exact .inr ⟨h.2.symm, h.1.symm, hauthentic, hdigest, hrun, Nat.lt_of_not_ge hroom⟩

lemma AdmitsFailure.recorded [Platform] (h : m.AdmitsFailure f) :
    m.recordSolverRunFailure f = .ok (m.insertFailure f, .inserted) := by
  have hroom : ¬ m.solverRunFailures.size ≥ maxSolverRunFailures := Nat.not_le_of_lt h.room
  rw [recordSolverRunFailure, seq_ok]
  refine ⟨h.authentic, ?_⟩
  rw [h.digest]
  show m.recordNewFailure f = _
  rw [recordNewFailure, seq_ok]
  refine ⟨failIf_ok.mpr hroom, ?_⟩
  rw [h.run]
  rfl

lemma Holds.insertFailure [Platform] (h : Holds m r) (hadmits : m.AdmitsFailure f) :
    Holds (m.insertFailure f) (r.withFailure f) where
  attempts := h.attempts
  failures := h.failures.insert rfl hadmits.digest
  isolation := h.isolation
  evidence := h.evidence
  reports := h.reports
  rejections := h.rejections
  runs := h.runs.insert rfl hadmits.run
  designs := h.designs
  places := h.places
  drifts := h.drifts
  invalidated := h.invalidated

/-! ## Entering a drift record -/

/-- Nothing in the memory is against entering a drift record. -/
structure AdmitsDrift [Platform] (m : ProceduralMemory) (r : Records) (d : DriftRecord) :
    Prop where
  authentic : d.authenticate = .ok ()
  digest : m.driftRecords[d.driftDigest]? = none
  founded : Founded r.attempts d
  receipt : d.evidenceReceiptDigest ∉ m.evidenceReceipts
  room : m.driftRecords.size < maxDriftRecords

lemma attemptForReportReceipt_ok (h : Holds m r) : m.attemptForReportReceipt receipt = .ok a ↔
      a ∈ r.attempts ∧ a.reportEntry = some (receipt, a.attemptDigest) := by
  simp only [attemptForReportReceipt, bind_ok, okOr_ok]
  constructor
  · intro hlookup
    obtain ⟨digest, hreport, hattempt⟩ := hlookup
    obtain ⟨hmem, hdigest⟩ := h.attempt_iff.mp hattempt
    obtain ⟨b, hb, hentry⟩ := (h.reports receipt digest).mp hreport
    -- the digest under the report is that of the attempt that has the report
    have hbdigest : b.attemptDigest = digest := by
      obtain ⟨evaluation, -, hpair⟩ := Option.map_eq_some_iff.mp hentry
      exact congrArg Prod.snd hpair
    have hab : a = b := h.attempt_ext hmem hb (hdigest.trans hbdigest.symm)
    subst hab
    refine ⟨hmem, ?_⟩
    rw [hentry, hdigest]
  · intro hregistered
    obtain ⟨hmem, hentry⟩ := hregistered
    exact ⟨a.attemptDigest, (h.reports _ _).mpr ⟨a, hmem, hentry⟩,
      h.attempt_iff.mpr ⟨hmem, rfl⟩⟩

lemma recordDrift_cases [Platform] (hm : Holds m r)
    (h : m.recordDrift d = .ok (m', disposition)) : (disposition = .alreadyPresent ∧ m' = m) ∨
      (disposition = .inserted ∧ m' = m.insertDrift d ∧ m.AdmitsDrift r d) := by
  rw [recordDrift, seq_ok] at h
  obtain ⟨hauthentic, h⟩ := h
  cases hdigest : m.driftRecords[d.driftDigest]? with
  | some existing =>
    simp only [hdigest, bind_ok, pure_ok, Prod.mk.injEq] at h
    obtain ⟨-, -, hm, hdisposition⟩ := h
    exact .inl ⟨hdisposition.symm, hm.symm⟩
  | none =>
    simp only [hdigest, recordNewDrift, bind_ok, failIf_ok, okOr_ok, pure_ok,
      Prod.mk.injEq, exists_const, Bool.not_eq_false] at h
    obtain ⟨hroom, previous, hprevious, current, hcurrent, previousScope, hpreviousScope,
      currentScope, hcurrentScope, hbound, hreceipt, hm', hdisposition⟩ := h
    obtain ⟨hpreviousMem, hpreviousReport⟩ := (attemptForReportReceipt_ok hm).mp hprevious
    obtain ⟨hcurrentMem, hcurrentReport⟩ := (attemptForReportReceipt_ok hm).mp hcurrent
    refine .inr ⟨hdisposition.symm, hm'.symm, ?_⟩
    exact {
      authentic := hauthentic
      digest := hdigest
      founded := ⟨previous, hpreviousMem, current, hcurrentMem, previousScope, currentScope,
        hpreviousReport, hcurrentReport, hpreviousScope, hcurrentScope, hbound⟩
      receipt := hreceipt
      room := Nat.lt_of_not_ge hroom }

lemma AdmitsDrift.recorded [Platform] (hm : Holds m r) (h : m.AdmitsDrift r d) :
    m.recordDrift d = .ok (m.insertDrift d, .inserted) := by
  obtain ⟨previous, hpreviousMem, current, hcurrentMem, previousScope, currentScope,
    hpreviousReport, hcurrentReport, hpreviousScope, hcurrentScope, hbound⟩ := h.founded
  have hprevious := (attemptForReportReceipt_ok hm).mpr ⟨hpreviousMem, hpreviousReport⟩
  have hcurrent := (attemptForReportReceipt_ok hm).mpr ⟨hcurrentMem, hcurrentReport⟩
  have hroom : ¬ m.driftRecords.size ≥ maxDriftRecords := Nat.not_le_of_lt h.room
  rw [recordDrift, seq_ok]
  refine ⟨h.authentic, ?_⟩
  rw [h.digest]
  show m.recordNewDrift d = _
  simp only [recordNewDrift, bind_ok, failIf_ok, okOr_ok, pure_ok, exists_const,
    Bool.not_eq_false, and_true]
  exact ⟨hroom, previous, hprevious, current, hcurrent, previousScope, hpreviousScope,
    currentScope, hcurrentScope, hbound, h.receipt⟩

lemma invalidateThrough_eq (known : Option Nat) (revision : Nat) :
    invalidateThrough known revision = Maxima.raise known revision := by
  cases known with
  | none => rfl
  | some known => rfl

lemma Holds.insertDrift [Platform] (h : Holds m r) (hadmits : m.AdmitsDrift r d) :
    Holds (m.insertDrift d) (r.withDrift d) where
  attempts := h.attempts
  failures := h.failures
  isolation := h.isolation
  evidence := by
    intro receipt
    show receipt ∈ m.evidenceReceipts.insert d.evidenceReceiptDigest ↔ _
    rw [BTreeSet.mem_insert_iff, evidences_withDrift, h.evidence receipt]
    exact or_congr_left eq_comm
  reports := h.reports
  rejections := h.rejections
  runs := h.runs
  designs := h.designs
  places := h.places
  drifts := h.drifts.insert rfl hadmits.digest
  invalidated := by
    have hraised := h.invalidated.insert (x := d)
    rw [← invalidateThrough_eq] at hraised
    exact hraised

end ProceduralMemory

end Tidex.Learning
