/-
  Governance.Promotion — the evidence behind a promotion.
-/
import Tidex.Governance.Canary
import Tidex.Governance.Petfc

namespace Tidex.Governance

open Tidex.Lib List Std.ExtTreeSet CanaryState BTreeSet PairedEvaluationReport

/-! ## When a report passes a stage -/

/-- One metric of a report at a stage: its invariant is established, there are enough
    groups, and the interval of the effect is nowhere below the allowed regression. -/
def MetricPasses (report : PairedEvaluationReport) (policy : CanaryPolicy) (stage : CanaryStage)
    (entry : MetricId × MetricSpec) : Prop :=
  ∃ estimate rawRadius limit,
    report.estimates[entry.1]? = some estimate ∧
    (entry.2.hardInvariant = none ∨
      hardInvariantStatus policy.uncertaintyMultiplier.get entry.2 estimate =
        some (some .established)) ∧
    stage.minimumIndependentGroups ≤ estimate.independentGroups ∧
    estimate.pairedEffectObservedRadius = some rawRadius ∧
    policy.maximumRegression[entry.1]? = some limit ∧
    let oriented := entry.2.direction.orient estimate.pairedEffect.get
    let radius := policy.uncertaintyMultiplier.get * rawRadius.get
    (oriented + radius).lt? (-limit.get) = false ∧ (oriented - radius).lt? (-limit.get) = false

variable {report : PairedEvaluationReport} {policy : CanaryPolicy} {stage : CanaryStage}
  {acc acc' : CanaryScan}

lemma CanaryScan.recordHard_clean {metricId : MetricId}
    {status : Option (Option InvariantIntervalStatus)} : (acc.recordHard metricId status).Clean ↔
      acc.Clean ∧ (status = none ∨ status = some (some .established)) := by
  unfold CanaryScan.Clean
  rcases status with _ | _ | status
  · simp [CanaryScan.recordHard]
  · simp [CanaryScan.recordHard]
  · cases status <;> simp [CanaryScan.recordHard]

lemma CanaryScan.not_clean_insert {set : BTreeSet CanaryReason} {r : CanaryReason} :
    ¬(set.insert r).isEmpty = true := by
  simp

/-- A metric leaves a clean scan clean exactly when it passes. -/
lemma canaryMetric_clean {entry : MetricId × MetricSpec}
    (h : canaryMetric report policy stage acc entry = .ok acc') :
    acc'.Clean ↔ acc.Clean ∧ MetricPasses report policy stage entry := by
  obtain ⟨metricId, spec⟩ := entry
  simp only [canaryMetric, bind_ok, okOr_ok] at h
  obtain ⟨estimate, hestimate, h⟩ := h
  have hhard : (acc.recordHard metricId
      (hardInvariantStatus policy.uncertaintyMultiplier.get spec estimate)).Clean ↔ _ :=
    CanaryScan.recordHard_clean
  have hnone : hardInvariantStatus policy.uncertaintyMultiplier.get spec estimate = none ↔
      spec.hardInvariant = none := by
    rw [hardInvariantStatus, Option.map_eq_none_iff]
  rw [hnone] at hhard
  -- the scan after the invariant is recorded, whatever it found
  generalize acc.recordHard metricId _ = recorded at h hhard
  by_cases hgroups : estimate.independentGroups < stage.minimumIndependentGroups
  · rw [if_pos hgroups, pure_ok] at h
    subst h
    constructor
    · intro hclean
      exact absurd hclean.2.2 CanaryScan.not_clean_insert
    · intro hpasses
      obtain ⟨-, e, rawRadius, limit, he, -, henough, -⟩ := hpasses
      rw [hestimate] at he
      cases he
      omega
  rw [if_neg hgroups] at h
  cases hradius : estimate.pairedEffectObservedRadius with
  | none =>
    simp only [hradius, pure_ok] at h
    subst h
    constructor
    · intro hclean
      exact absurd hclean.2.2 CanaryScan.not_clean_insert
    · intro hpasses
      obtain ⟨-, e, rawRadius, limit, he, -, -, hsome, -⟩ := hpasses
      rw [hestimate] at he
      cases he
      rw [hradius] at hsome
      cases hsome
  | some rawRadius =>
    simp only [hradius, bind_ok, okOr_ok] at h
    obtain ⟨limit, hlimit, h⟩ := h
    have hfields : MetricPasses report policy stage (metricId, spec) ↔
        (spec.hardInvariant = none ∨
          hardInvariantStatus policy.uncertaintyMultiplier.get spec estimate =
            some (some .established)) ∧
        (spec.direction.orient estimate.pairedEffect.get
          + policy.uncertaintyMultiplier.get * rawRadius.get).lt? (-limit.get) = false ∧
        (spec.direction.orient estimate.pairedEffect.get
          - policy.uncertaintyMultiplier.get * rawRadius.get).lt? (-limit.get) = false := by
      constructor
      · intro hpasses
        obtain ⟨e, r, l, he, hinvariant, -, hr, hl, hupper, hlower⟩ := hpasses
        rw [hestimate] at he
        cases he
        rw [hradius] at hr
        cases hr
        rw [hlimit] at hl
        cases hl
        exact ⟨hinvariant, hupper, hlower⟩
      · intro hparts
        exact ⟨estimate, rawRadius, limit, hestimate, hparts.1, not_lt.mp hgroups, hradius,
          hlimit, hparts.2⟩
    rw [hfields, ← and_assoc, ← hhard]
    by_cases hupper : (spec.direction.orient estimate.pairedEffect.get
        + policy.uncertaintyMultiplier.get * rawRadius.get).lt? (-limit.get) = true
    · rw [if_pos hupper, pure_ok] at h
      subst h
      simp [CanaryScan.Clean, hupper]
    rw [if_neg hupper] at h
    by_cases hlower : (spec.direction.orient estimate.pairedEffect.get
        - policy.uncertaintyMultiplier.get * rawRadius.get).lt? (-limit.get) = true
    · rw [if_pos hlower, pure_ok] at h
      subst h
      simp [CanaryScan.Clean, hlower]
    · rw [if_neg hlower, pure_ok] at h
      subst h
      simp [hupper, hlower]

lemma canaryScan_clean {entries : List (MetricId × MetricSpec)}
    (h : entries.foldlM (canaryMetric report policy stage) acc = .ok acc') :
    acc'.Clean ↔ acc.Clean ∧ ∀ entry ∈ entries, MetricPasses report policy stage entry := by
  induction entries generalizing acc with
  | nil =>
    rw [foldlM_nil, pure_ok] at h
    subst h
    simp
  | cons entry entries ih =>
    rw [foldlM_cons, bind_ok] at h
    obtain ⟨mid, hmid, hrest⟩ := h
    rw [ih hrest, canaryMetric_clean hmid, forall_mem_cons, and_assoc]

/-! ## The binding of the three witnesses -/

section

variable [Platform]

def authenticateAdapterPromotionWitnesses (expectedCandidate : VariantId)
    (gate : CandidateGateDecision) (petfc : PetfcAssessment) (canary : CanaryState) :
    BrainResult Unit := do
  gate.authenticate
  petfc.authenticate
  canary.authenticate
  failIf (gate.candidateId ≠ expectedCandidate
      ∨ petfc.candidateId ≠ expectedCandidate
      ∨ canary.candidateId ≠ expectedCandidate
      ∨ gate.baselineId ≠ petfc.baselineId
      ∨ gate.baselineId ≠ canary.baselineId
      ∨ gate.metricCatalogDigest ≠ petfc.metricCatalogDigest
      ∨ gate.evaluationPolicyDigest ≠ petfc.evaluationPolicyDigest
      ∨ gate.evaluationPolicyDigest ≠ canary.evaluationPolicyDigest
      ∨ gate.independenceDesignDigest ≠ petfc.independenceDesignDigest
      ∨ gate.decisionDigest ≠ canary.gateDigest)
    (integrity "adapter_promotion_governance_binding_mismatch")
  failIf (gate.disposition ≠ .advanceCandidate
      ∨ petfc.disposition ≠ .compatibleForNextGate
      ∨ canary.phase ≠ .candidateValidated
      ∨ canary.lastDisposition ≠ some .candidateValidated
      ∨ ¬gate.reasons.isEmpty
      ∨ ¬petfc.reasons.isEmpty
      ∨ ¬canary.lastReasons.isEmpty)
    (integrity "adapter_promotion_governance_not_approved")
  failIf (gate.sourceEvidenceIds.isEmpty
      ∨ petfc.trajectoryEvidenceIds.isEmpty
      ∨ canary.evaluatedReports.isEmpty
      ∨ ¬BTreeSet.isDisjoint gate.sourceEvidenceIds petfc.trajectoryEvidenceIds
      ∨ ¬BTreeSet.isDisjoint petfc.trajectoryEvidenceIds canary.evaluatedEvidenceIds
      ∨ ¬BTreeSet.isSuperset canary.evaluatedEvidenceIds gate.sourceEvidenceIds
      ∨ canary.evaluatedEvidenceIds.size ≤ gate.sourceEvidenceIds.size
      ∨ petfc.trajectoryObservationWindow.endTick ≥ gate.sourceObservationWindow.startTick
      ∨ canary.lastObservationEndTick.all (· ≤ gate.sourceObservationWindow.endTick))
    (integrity "adapter_promotion_governance_evidence_invalid")

structure Binds (gate : CandidateGateDecision) (petfc : PetfcAssessment) (canary : CanaryState) :
    Prop where
  validated : canary.phase = .candidateValidated
  gate_petfc : ∀ e ∈ gate.sourceEvidenceIds, e ∉ petfc.trajectoryEvidenceIds
  petfc_canary : ∀ e ∈ petfc.trajectoryEvidenceIds, e ∉ canary.evaluatedEvidenceIds
  petfc_before :
    petfc.trajectoryObservationWindow.endTick < gate.sourceObservationWindow.startTick

variable {expected : VariantId} {gate : CandidateGateDecision} {petfc : PetfcAssessment}
  {s₀ s s' : CanaryState} {policy : CanaryPolicy} {policies : Set CanaryPolicy}
  {report : PairedEvaluationReport}

lemma authenticateAdapterPromotionWitnesses_spec
    (h : authenticateAdapterPromotionWitnesses expected gate petfc s = .ok ()) :
    Binds gate petfc s := by
  simp only [authenticateAdapterPromotionWitnesses, bind_ok, failIf_ok, not_or, ne_eq, not_not] at h
  obtain ⟨_, -, _, -, _, -, _, -, _, happroved, hevidence⟩ := h
  refine ⟨happroved.2.2.1, ?_, ?_, ?_⟩
  · exact isDisjoint_iff.mp hevidence.2.2.2.1
  · exact isDisjoint_iff.mp hevidence.2.2.2.2.1
  · exact not_le.mp hevidence.2.2.2.2.2.2.2.1

/-! ## Runs of a canary -/

/-- One accepted report: the stage that was awaited, and what it was evaluated with. -/
structure CanaryEvaluation where
  stageIndex : Nat
  specs : List MetricSpec
  report : PairedEvaluationReport

def CanaryEvaluation.Passes (policy : CanaryPolicy) (e : CanaryEvaluation) : Prop :=
  ∃ stage catalog, policy.stages[e.stageIndex]? = some stage ∧
    canonicalSpecs e.specs = .ok catalog ∧
    ∀ metricId spec, catalog[metricId]? = some spec →
      MetricPasses e.report policy stage (metricId, spec)

noncomputable instance (policy : CanaryPolicy) (e : CanaryEvaluation) :
    Decidable (e.Passes policy) := Classical.propDecidable _

def CanaryState.awaited (s : CanaryState) : Nat :=
  match s.phase with
  | .awaitingStage i => i
  | _ => 0

/-- The accepted reports that lead from one state to another, each under a policy of a set. -/
inductive CanaryRun (policies : Set CanaryPolicy) (s₀ : CanaryState) :
    List CanaryEvaluation → CanaryState → Prop
  | start : CanaryRun policies s₀ [] s₀
  | step {evals : List CanaryEvaluation} {s s' : CanaryState} {specs : List MetricSpec}
      {report : PairedEvaluationReport} {policy : CanaryPolicy}
      (hrun : CanaryRun policies s₀ evals s) (hpolicy : policy ∈ policies)
      (h : s.evaluateStage specs report policy = .ok s') :
      CanaryRun policies s₀ (evals ++ [⟨s.awaited, specs, report⟩]) s'

def CanaryPhase.stagesPassed (phase : CanaryPhase) (stageCount : Nat) : Nat :=
  match phase with
  | .awaitingStage i | .rollbackRequired i => i
  | .candidateValidated => stageCount

section

variable {catalog : MetricCatalog} {stage : CanaryStage} {acc : CanaryScan} {i : Nat}
  {specs : List MetricSpec} {evals : List CanaryEvaluation}

section

variable (h : Evaluates s specs report policy i stage catalog acc s')
include h

lemma Evaluates.clean_iff : acc.Clean ↔ CanaryEvaluation.Passes policy ⟨i, specs, report⟩ := by
  have hempty : CanaryScan.Clean ⟨∅, ∅, ∅⟩ := ⟨by rfl, by rfl, by rfl⟩
  rw [canaryScan_clean h.scan, and_iff_right hempty]
  constructor
  · intro hall
    refine ⟨stage, catalog, h.stage_eq, h.catalog_eq, ?_⟩
    intro metricId spec hspec
    exact hall (metricId, spec) (BTreeMap.mem_toList_iff.mpr hspec)
  · intro hpasses entry hentry
    obtain ⟨stage', catalog', hstage, hcatalog, hall⟩ := hpasses
    rw [h.stage_eq] at hstage
    cases hstage
    rw [h.catalog_eq] at hcatalog
    cases hcatalog
    exact hall entry.1 entry.2 (BTreeMap.mem_toList_iff.mp hentry)

lemma Evaluates.awaited_eq : s.awaited = i := by
  rw [awaited, h.phase_eq]

lemma Evaluates.stagesPassed : (acc.Clean ∧ s'.phase.stagesPassed policy.stages.length = i + 1) ∨
      (¬acc.Clean ∧ s'.phase.stagesPassed policy.stages.length = i) := by
  have hlt := h.index_lt
  rw [h.phase_next]
  rcases acc.outcome_phase i policy.stages.length with
    ⟨hdirty, hphase | hphase⟩ | ⟨hclean, -, hphase⟩ | ⟨hclean, hlast, hphase⟩ <;> rw [hphase]
  · exact .inr ⟨hdirty, rfl⟩
  · exact .inr ⟨hdirty, rfl⟩
  · exact .inl ⟨hclean, rfl⟩
  · refine .inl ⟨hclean, ?_⟩
    show policy.stages.length = i + 1
    omega

end

/-- What holds of the accepted reports of a canary and of the state they lead to. -/
structure CanaryRunInv (gate : CandidateGateDecision) (policy : CanaryPolicy)
    (evals : List CanaryEvaluation) (s : CanaryState) : Prop where
  policy_eq : s.policyDigest = policy.policyDigest
  stages : (evals.filter fun e => e.Passes policy).map CanaryEvaluation.stageIndex =
    List.range (s.phase.stagesPassed policy.stages.length)
  evidence : ∀ e, e ∈ s.evaluatedEvidenceIds ↔
    e ∈ gate.sourceEvidenceIds ∨ ∃ v ∈ evals, e ∈ v.report.evidenceIds
  gate_disjoint : ∀ v ∈ evals, ∀ e ∈ gate.sourceEvidenceIds, e ∉ v.report.evidenceIds
  disjoint : (evals.map CanaryEvaluation.report).Pairwise PairedEvaluationReport.DisjointFrom
  last_tick : ∃ tick, s.lastObservationEndTick = some tick ∧
    gate.sourceObservationWindow.endTick ≤ tick ∧
    ∀ v ∈ evals, v.report.observationWindow.endTick ≤ tick
  after_gate : ∀ v ∈ evals,
    gate.sourceObservationWindow.endTick < v.report.observationWindow.startTick
  ordered : (evals.map CanaryEvaluation.report).Pairwise PairedEvaluationReport.Before

lemma canaryRunInv_start (h : start gate policy = .ok s₀) : CanaryRunInv gate policy [] s₀ := by
  simp only [start, bind_ok, failIf_ok, pure_ok] at h
  obtain ⟨_, -, _, -, rfl⟩ := h
  refine ⟨rfl, rfl, ?_, by simp, Pairwise.nil, ?_, by simp, Pairwise.nil⟩
  · intro e
    show e ∈ gate.sourceEvidenceIds ↔ _
    simp
  · exact ⟨_, rfl, le_rfl, by simp⟩

/-- One accepted report keeps the invariant. -/
lemma CanaryRunInv.step (hs : CanaryRunInv gate policy evals s)
    (h : Evaluates s specs report policy i stage catalog acc s') :
    CanaryRunInv gate policy (evals ++ [⟨i, specs, report⟩]) s' := by
  obtain ⟨tick, htick, hgateTick, hlater⟩ := hs.last_tick
  have hafter := h.later tick htick
  have hdisjoint := h.disjoint
  have hwindow := report.observationWindow.start_le
  have hpassed : s.phase.stagesPassed policy.stages.length = i := by
    rw [h.phase_eq]
    rfl
  have hstages := hs.stages
  rw [hpassed] at hstages
  refine ⟨h.frame.2.2.2.trans hs.policy_eq, ?_, ?_, ?_, ?_, ?_, ?_, ?_⟩
  · rw [filter_append, map_append, hstages]
    rcases h.stagesPassed with ⟨hclean, hnext⟩ | ⟨hdirty, hnext⟩
    · rw [hnext, range_succ, filter_singleton, decide_eq_true (h.clean_iff.mp hclean)]
      rfl
    · rw [hnext, filter_singleton, decide_eq_false (fun hp => hdirty (h.clean_iff.mpr hp))]
      simp
  · intro e
    have hset : s'.evaluatedEvidenceIds =
        extend s.evaluatedEvidenceIds report.evidenceIds.toList := by
      rw [h.next]
      rfl
    rw [hset, mem_extend, hs.evidence, mem_toList]
    simp only [mem_append, mem_singleton, or_and_right, exists_or, exists_eq_left, or_assoc]
  · refine forall_mem_concat hs.gate_disjoint ?_
    intro e he
    exact hdisjoint e ((hs.evidence e).mpr (.inl he))
  · rw [map_append]
    refine pairwise_concat hs.disjoint ?_
    intro a ha e he
    obtain ⟨v, hv, rfl⟩ := mem_map.mp ha
    exact hdisjoint e ((hs.evidence e).mpr (.inr ⟨v, hv, he⟩))
  · refine ⟨report.observationWindow.endTick, by rw [h.next]; rfl, by omega, ?_⟩
    refine forall_mem_concat ?_ le_rfl
    intro v hv
    have := hlater v hv
    omega
  · refine forall_mem_concat hs.after_gate ?_
    show gate.sourceObservationWindow.endTick < report.observationWindow.startTick
    omega
  · rw [map_append]
    refine pairwise_concat hs.ordered ?_
    intro a ha
    obtain ⟨v, hv, rfl⟩ := mem_map.mp ha
    have hle := hlater v hv
    show v.report.observationWindow.endTick < report.observationWindow.startTick
    omega

/-- What holds after every sequence of accepted reports. -/
lemma CanaryRun.inv (hdigests : Set.InjOn CanaryPolicy.policyDigest policies)
    (hpolicy : policy ∈ policies) (hstart : CanaryState.start gate policy = .ok s₀)
    (h : CanaryRun policies s₀ evals s) : CanaryRunInv gate policy evals s := by
  induction h with
  | start => exact canaryRunInv_start hstart
  | step _ hpolicy' h ih =>
    obtain ⟨i, stage, catalog, acc, heval⟩ := evaluateStage_spec h
    have heq := hdigests hpolicy' hpolicy (heval.policy_eq.symm.trans ih.policy_eq)
    subst heq
    rw [heval.awaited_eq]
    exact ih.step heval

lemma evaluateStage_final (hphase : ∀ i, s.phase ≠ .awaitingStage i) :
    s.evaluateStage specs report policy ≠ .ok s' := by
  intro h
  obtain ⟨i, stage, catalog, acc, heval⟩ := evaluateStage_spec h
  exact hphase i heval.phase_eq

end

/-! ## The chain of evidence -/

/-- The evidence behind a promotion: every stage was passed once, in order; nothing was
    observed out of order; and no evidence was used twice. -/
structure EvidenceChain (policy : CanaryPolicy) (trajectory : List PairedEvaluationReport)
    (gate : PairedEvaluationReport) (evals : List CanaryEvaluation) : Prop where
  stages : (evals.filter fun e => e.Passes policy).map CanaryEvaluation.stageIndex =
    List.range policy.stages.length
  ordered : (gate :: evals.map CanaryEvaluation.report).Pairwise PairedEvaluationReport.Before
  trajectory_before : ∀ r ∈ trajectory, r.Before gate
  disjoint : (trajectory ++ gate :: evals.map CanaryEvaluation.report).Pairwise
    PairedEvaluationReport.DisjointFrom

/-- **The evidence chain of a promotion.** -/
theorem promotion_evidence_chain {petfcSpecs gateSpecs : List MetricSpec}
    {petfcPolicy : PetfcPolicy} {gatePolicy : CandidateGatePolicy}
    {trajectoryReports : List PairedEvaluationReport} {gateReport : PairedEvaluationReport}
    {t : PetfcTrajectory} {evals : List CanaryEvaluation}
    (hdigests : Set.InjOn CanaryPolicy.policyDigest policies) (hpolicy : policy ∈ policies)
    (htrajectory : PetfcTrajectory.Built petfcPolicy trajectoryReports t)
    (hpetfc : evaluatePetfc petfcSpecs t petfcPolicy = .ok petfc)
    (hgate : decideCandidate gateSpecs gateReport gatePolicy = .ok gate)
    (hstart : CanaryState.start gate policy = .ok s₀) (hrun : CanaryRun policies s₀ evals s)
    (haccepted : authenticateAdapterPromotionWitnesses expected gate petfc s = .ok ()) :
    EvidenceChain policy trajectoryReports gateReport evals ∧
      petfc.trajectoryObservationWindow.endTick < gate.sourceObservationWindow.startTick ∧
      ∀ u u' specs report policy', (∀ i, u.phase ≠ .awaitingStage i) →
        CanaryState.evaluateStage u specs report policy' ≠ .ok u' := by
  have hbinds := authenticateAdapterPromotionWitnesses_spec haccepted
  have hinv := hrun.inv hdigests hpolicy hstart
  have ht := htrajectory.inv
  have hassesses := evaluatePetfc_spec hpetfc
  have hdecides := decideCandidate_spec hgate
  have hpetfcEvidence : ∀ e, e ∈ petfc.trajectoryEvidenceIds ↔
      ∃ r ∈ trajectoryReports, e ∈ r.evidenceIds := by
    intro e
    rw [hassesses.evidence_eq]
    exact ht.evidence e
  refine ⟨⟨?_, ?_, ?_, ?_⟩, hbinds.petfc_before, ?_⟩
  · rw [hinv.stages, hbinds.validated]
    rfl
  · refine Pairwise.cons ?_ hinv.ordered
    intro r hr
    obtain ⟨v, hv, rfl⟩ := mem_map.mp hr
    have hafter := hinv.after_gate v hv
    rw [hdecides.window_eq] at hafter
    exact hafter
  · intro r hr
    -- the assessment's window ends with the last report of the trajectory
    obtain ⟨last, hlast, hwindow⟩ := hassesses.window_eq
    have hlastWindow := ht.last
    rw [hlast] at hlastWindow
    cases hlastReport : trajectoryReports.getLast? with
    | none =>
      rw [hlastReport] at hlastWindow
      cases hlastWindow
    | some lastReport =>
      rw [hlastReport] at hlastWindow
      have heq : last.observationWindow = lastReport.observationWindow :=
        Option.some.inj hlastWindow
      have hle := endTick_le_getLast ht.ordered hlastReport hr
      have hbefore := hbinds.petfc_before
      rw [hwindow, heq, hdecides.window_eq] at hbefore
      unfold Before
      omega
  · rw [pairwise_append]
    refine ⟨ht.disjoint, Pairwise.cons ?_ hinv.disjoint, ?_⟩
    · intro r hr e he
      obtain ⟨v, hv, rfl⟩ := mem_map.mp hr
      rw [← hdecides.evidence_eq] at he
      exact hinv.gate_disjoint v hv e he
    · intro r hr b hb e he hmem
      have hpetfcMem := (hpetfcEvidence e).mpr ⟨r, hr, he⟩
      rcases mem_cons.mp hb with rfl | hb
      · rw [← hdecides.evidence_eq] at hmem
        exact hbinds.gate_petfc e hmem hpetfcMem
      · obtain ⟨v, hv, rfl⟩ := mem_map.mp hb
        exact hbinds.petfc_canary e hpetfcMem ((hinv.evidence e).mpr (.inr ⟨v, hv, hmem⟩))
  · intro u u' specs report policy' hphase
    exact evaluateStage_final hphase

end

namespace Sample

attribute [local instance] Platform.reference

def firstEvidence : EvidenceId := ⟨"first", by decide⟩
def secondEvidence : EvidenceId := ⟨"second", by decide⟩
def thirdEvidence : EvidenceId := ⟨"third", by decide +kernel⟩

def estimate : PairedMetricEstimate where
  metricId := quality
  independentGroups := 2
  pairedCount := 2
  baselineCenter := finiteZero
  candidateCenter := finiteOne
  pairedEffect := finiteOne
  baselineObservedRadius := some finiteZero
  candidateObservedRadius := some finiteZero
  pairedEffectObservedRadius := some finiteZero

/-- A report of one metric, of two groups that improve by one. -/
noncomputable def reportDraft (evidence : EvidenceId) (window : ObservationWindow) :
    PairedEvaluationReport where
  baselineId := baseline
  candidateId := candidate
  metricCatalogDigest := metricCatalogDigest catalog
  evaluationPolicyDigest := ⟨salt⟩
  observationSetDigest := ⟨salt⟩
  independenceDesignDigest := ⟨salt⟩
  estimates := (∅ : BTreeMap _ _).insert quality estimate
  pairIds := ∅
  evidenceIds := (∅ : BTreeSet _).insert evidence
  observationWindow := window
  observationCount := 2
  independentGroupCount := 2
  minimumRequiredGroups := 2
  evidenceSufficient := true
  reportDigest := ⟨salt⟩

noncomputable def sealedReport (evidence : EvidenceId) (window : ObservationWindow) :
    PairedEvaluationReport :=
  { reportDraft evidence window with
    reportDigest := .fromProjection _ reportDomain (reportDraft evidence window).projection }

lemma sealedReport_authentic (evidence : EvidenceId) (window : ObservationWindow) :
    (sealedReport evidence window).authenticate = .ok () := by
  rw [PairedEvaluationReport.authenticate, failIf_ok]
  exact fun hne => hne rfl

noncomputable def trajectoryReport : PairedEvaluationReport :=
  sealedReport firstEvidence ⟨11, 12, by decide⟩

noncomputable def gateReport : PairedEvaluationReport :=
  sealedReport secondEvidence ⟨13, 14, by decide⟩

noncomputable def canaryReport : PairedEvaluationReport :=
  sealedReport thirdEvidence ⟨15, 16, by decide⟩

noncomputable def petfcPolicy : PetfcPolicy where
  metricCatalogDigest := metricCatalogDigest catalog
  qualityMetricId := quality
  metrics := (∅ : BTreeMap _ _).insert quality ⟨quality, finiteOne, finiteZero⟩
  path := ⟨1, 4, finiteOne, finiteOne, finiteZero, finiteOne⟩
  conservation := ⟨finiteZero, 0, finiteZero⟩
  utility := ⟨finiteZero, finiteZero, finiteZero, finiteZero⟩
  policyDigest := ⟨salt⟩

noncomputable def gatePolicy : CandidateGatePolicy where
  metricCatalogDigest := metricCatalogDigest catalog
  minimumIndependentGroups := 2
  uncertaintyMultiplier := finiteOne
  minimumImprovement := regression
  policyDigest := ⟨salt⟩

noncomputable def oneStagePolicy : CanaryPolicy where
  metricCatalogDigest := metricCatalogDigest catalog
  assignmentSalt := salt
  stages := [fullStage]
  uncertaintyMultiplier := finiteOne
  maximumRegression := regression
  policyDigest := ⟨salt⟩

noncomputable def trajectoryDraft : PetfcTrajectoryDraft where
  baselineId := baseline
  currentCandidateId := candidate
  metricCatalogDigest := metricCatalogDigest catalog
  evaluationPolicyDigest := ⟨salt⟩
  independenceDesignDigest := ⟨salt⟩
  petfcPolicyDigest := ⟨salt⟩
  points := [
    ⟨baseline, trajectoryReport.reportDigest, trajectoryReport.observationWindow, true,
      trajectoryReport.estimates.map fun _ _ => ⟨finiteZero, some finiteZero⟩,
      trajectoryReport.baselineCoordinates⟩,
    trajectoryReport.candidatePoint]
  reportDigests := (∅ : BTreeSet _).insert trajectoryReport.reportDigest
  evidenceIds := trajectoryReport.evidenceIds

noncomputable def trajectory : PetfcTrajectory :=
  ⟨trajectoryDraft, .fromProjection _ petfcTrajectoryDomain trajectoryDraft.projection⟩

lemma trajectory_started : PetfcTrajectory.start trajectoryReport petfcPolicy = .ok trajectory := by
  simp only [PetfcTrajectory.start, PetfcTrajectory.seal, bind_ok, failIf_ok, pure_ok,
    FiniteF64.new_ok]
  exact ⟨(), sealedReport_authentic _ _, (), fun hne => hne rfl, finiteZero, rfl, (),
    by decide +kernel, (), by decide +kernel, rfl⟩

lemma reports_scanned :
    returns (measurePetfc catalog trajectoryDraft.points 1 petfcPolicy) (fun m =>
      m.allFinite && decide (m.reasons.disposition baseline = .compatibleForNextGate)
        && m.reasons.all.isEmpty) = true ∧
    returns (catalog.toList.foldlM (gateMetric gateReport gatePolicy)
      ⟨∅, ∅, ∅, ∅, u64Width - 1⟩) (fun acc =>
      decide (acc.disposition = .advanceCandidate) && acc.all.isEmpty) = true ∧
    returns (catalog.toList.foldlM (canaryMetric canaryReport oneStagePolicy fullStage)
      ⟨∅, ∅, ∅⟩) (fun acc => decide (acc.outcome 0 1 = (.candidateValidated, .candidateValidated))
        && acc.all.isEmpty) = true := by
  decide +kernel

/-- Three reports whose witnesses bind, and the chain behind them. -/
theorem promotion_bound : ∃ (gate : CandidateGateDecision) (petfc : PetfcAssessment)
    (s : CanaryState), authenticateAdapterPromotionWitnesses candidate gate petfc s = .ok () ∧
      EvidenceChain oneStagePolicy [trajectoryReport] gateReport [⟨0, specs, canaryReport⟩] := by
  obtain ⟨hmeasure, hgateScan, hcanaryScan⟩ := reports_scanned
  obtain ⟨m, hm, hmTest⟩ := returns_iff.mp hmeasure
  obtain ⟨g, hg, hgTest⟩ := returns_iff.mp hgateScan
  obtain ⟨c, hc, hcTest⟩ := returns_iff.mp hcanaryScan
  simp only [Bool.and_eq_true, decide_eq_true_eq] at hmTest hgTest hcTest
  -- the assessment of the trajectory
  have htrajectory : trajectory.authenticate = .ok () := by
    rw [PetfcTrajectory.authenticate, failIf_ok]
    exact not_not.mpr rfl
  have hsize : trajectory.reportDigests.size = 1 := by decide +kernel
  have hmeasured : measurePetfc catalog trajectory.points trajectory.reportDigests.size
      petfcPolicy = .ok m := by
    rw [hsize]
    exact hm
  have hpetfcBound : petfcPolicy.metrics.size = catalog.size ∧
      ¬petfcPolicy.metrics.keys.any (· ∉ catalog) = true := by decide +kernel
  obtain ⟨petfc, hpetfc, hpetfcAuthentic, hpetfcDisposition, hpetfcReasons, hpetfcBaseline,
    hpetfcCandidate, hpetfcCatalog, hpetfcEvaluation, hpetfcIndependence, hpetfcEvidence,
    hpetfcWindow⟩ :=
    evaluatePetfc_ok htrajectory catalog_eq
      (by
        simp only [not_or, not_not, ne_eq]
        exact ⟨rfl, rfl, rfl, hpetfcBound⟩)
      (by rw [hsize]; decide) hmeasured hmTest.1.1 rfl rfl (by decide)
  -- the decision on the second report
  have hgateBound : gatePolicy.minimumImprovement.size = catalog.size ∧
      ¬gatePolicy.minimumImprovement.keys.any (· ∉ catalog) = true ∧
      gateReport.estimates.size = catalog.size ∧
      ¬gateReport.estimates.keys.any (· ∉ catalog) = true := by decide +kernel
  obtain ⟨gate, hgate, hgateDisposition, hgateReasons, hgateCatalog, hgateEvaluation,
    hgateIndependence⟩ :=
    decideCandidate_ok (sealedReport_authentic secondEvidence ⟨13, 14, by decide⟩) catalog_eq
      (by
        simp only [not_or, not_not, ne_eq]
        exact ⟨rfl, rfl, Nat.lt_irrefl 2, hgateBound⟩) hg
  have hdecides := decideCandidate_spec hgate
  -- the canary that starts on it, and the third report
  have hstart : ∃ s₀, CanaryState.start gate oneStagePolicy = .ok s₀ ∧
      s₀ = CanaryState.seal
        { baselineId := baseline
          candidateId := candidate
          gateDigest := gate.decisionDigest
          evaluationPolicyDigest := ⟨salt⟩
          policyDigest := ⟨salt⟩
          phase := .awaitingStage 0
          lastDisposition := none
          lastReasons := ∅
          evaluatedReports := ∅
          evaluatedEvidenceIds := gateReport.evidenceIds
          lastObservationEndTick := some 14 } := by
    have heligible : ¬(gate.disposition ≠ .advanceCandidate ∨
        gate.metricCatalogDigest ≠ oneStagePolicy.metricCatalogDigest) := by
      rw [hgateDisposition, hgTest.1, hgateCatalog]
      exact not_or.mpr ⟨not_not.mpr rfl, not_not.mpr rfl⟩
    simp only [CanaryState.start, bind_ok, failIf_ok, pure_ok]
    refine ⟨_, ⟨(), hdecides.authentic, (), heligible, rfl⟩, ?_⟩
    rw [hdecides.baselineId_eq, hdecides.candidateId_eq, hgateEvaluation, hdecides.evidence_eq,
      hdecides.window_eq]
    rfl
  obtain ⟨s₀, hstart, hs₀⟩ := hstart
  have hfresh : isDisjoint gateReport.evidenceIds canaryReport.evidenceIds = true := by
    decide +kernel
  obtain ⟨s, hs, hphase, hdisposition, hreasons, hreports, hevidence, htick, hevaluation⟩ :=
    evaluateStage_ok (show s₀.authenticate = .ok () by
        rw [hs₀]
        exact CanaryState.authenticate_seal _)
      (sealedReport_authentic thirdEvidence ⟨15, 16, by decide⟩)
      (show s₀.phase = .awaitingStage 0 by rw [hs₀]; rfl)
      (show oneStagePolicy.stages[0]? = some fullStage from rfl) catalog_eq
      (by
        rw [hs₀]
        simp only [not_or, not_not, ne_eq]
        exact ⟨rfl, rfl, rfl, rfl, rfl, rfl, not_mem_empty, hfresh,
          show ¬decide (15 ≤ 14) = true by decide⟩) hc
  obtain ⟨i, stage, cat, acc, heval⟩ := evaluateStage_spec hs
  obtain ⟨hbaseline, hcandidate, hgateDigest, -⟩ := heval.frame
  rw [hs₀] at hbaseline hcandidate hgateDigest hreports hevidence hevaluation
  have houtcome : c.outcome 0 oneStagePolicy.stages.length =
      (.candidateValidated, .candidateValidated) := hcTest.1
  rw [houtcome] at hphase hdisposition
  have hapart : isDisjoint gateReport.evidenceIds trajectory.evidenceIds = true ∧
      isDisjoint trajectory.evidenceIds (extend gateReport.evidenceIds
        canaryReport.evidenceIds.toList) = true ∧
      isSuperset (extend gateReport.evidenceIds canaryReport.evidenceIds.toList)
        gateReport.evidenceIds = true ∧
      ¬(extend gateReport.evidenceIds canaryReport.evidenceIds.toList).size ≤
        gateReport.evidenceIds.size ∧
      ¬gateReport.evidenceIds.isEmpty = true ∧ ¬trajectory.evidenceIds.isEmpty = true := by
    decide +kernel
  have hbinds : authenticateAdapterPromotionWitnesses candidate gate petfc s = .ok () := by
    simp only [authenticateAdapterPromotionWitnesses, bind_ok, failIf_ok, not_or, ne_eq, not_not]
    refine ⟨(), hdecides.authentic, (), hpetfcAuthentic, (), heval.authentic, (), ?_, (), ?_, ?_⟩
    · exact ⟨hdecides.candidateId_eq, hpetfcCandidate, hcandidate,
        hdecides.baselineId_eq.trans hpetfcBaseline.symm,
        hdecides.baselineId_eq.trans hbaseline.symm, hgateCatalog.trans hpetfcCatalog.symm,
        hgateEvaluation.trans hpetfcEvaluation.symm, hgateEvaluation.trans hevaluation.symm,
        hgateIndependence.trans hpetfcIndependence.symm, hgateDigest.symm⟩
    · rw [hgateReasons, hpetfcReasons, hreasons]
      exact ⟨hgateDisposition.trans hgTest.1, hpetfcDisposition.trans hmTest.1.2, hphase,
        hdisposition, hgTest.2, hmTest.2, hcTest.2⟩
    · rw [hdecides.evidence_eq, hpetfcEvidence, hevidence, hreports, htick, hdecides.window_eq,
        hpetfcWindow]
      exact ⟨hapart.2.2.2.2.1, hapart.2.2.2.2.2, by simp, hapart.1, hapart.2.1, hapart.2.2.1,
        hapart.2.2.2.1, show ¬12 ≥ 13 by decide, show ¬decide (16 ≤ 14) = true by decide⟩
  have hawaited : s₀.awaited = 0 := by
    rw [hs₀]
    rfl
  have hrun : CanaryRun {oneStagePolicy} s₀ [⟨s₀.awaited, specs, canaryReport⟩] s :=
    CanaryRun.step CanaryRun.start (Set.mem_singleton _) hs
  rw [hawaited] at hrun
  exact ⟨gate, petfc, s, hbinds, (promotion_evidence_chain (Set.injOn_singleton _ _)
    (Set.mem_singleton _) (.start trajectory_started) hpetfc hgate hstart hrun hbinds).1⟩

end Sample

end Tidex.Governance
