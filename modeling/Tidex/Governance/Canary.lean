/-
  Governance.Canary — sticky, staged exposure of a candidate.
-/
import Tidex.Governance.Gate
import Tidex.Foundation.Reference
import Mathlib.Data.List.Chain

namespace Tidex.Governance

open Tidex.Lib List BTreeSet Sha256Digest

/-! ## The policy -/

structure CanaryStage where
  exposurePerMillion : Nat
  minimumIndependentGroups : Nat
  exposure_pos : 0 < exposurePerMillion
  exposure_le : exposurePerMillion ≤ perMillion
  groups : 2 ≤ minimumIndependentGroups ∧ minimumIndependentGroups ≤ maxGroups
  deriving DecidableEq

instance : Serialize CanaryStage where
  toJson s := .obj [("exposure_per_million", toJson s.exposurePerMillion),
    ("minimum_independent_groups", toJson s.minimumIndependentGroups)]

structure CanaryPolicy where
  metricCatalogDigest : MetricCatalogDigest
  assignmentSalt : Sha256Digest
  stages : List CanaryStage
  uncertaintyMultiplier : FiniteF64
  maximumRegression : BTreeMap MetricId FiniteF64
  policyDigest : CanaryPolicyDigest

/-- A later stage exposes more, and asks for no fewer groups. -/
def stageOrder (pair : CanaryStage × CanaryStage) : BrainResult Unit :=
  failIf (pair.1.exposurePerMillion ≥ pair.2.exposurePerMillion
      ∨ pair.1.minimumIndependentGroups > pair.2.minimumIndependentGroups)
    (invalid "canary_stage_order_invalid")

def CanaryPolicy.new [Platform] (specs : List MetricSpec) (assignmentSalt : Sha256Digest)
    (stages : List CanaryStage) (uncertaintyMultiplier : F64)
    (maximumRegression : BTreeMap MetricId FiniteF64) : BrainResult CanaryPolicy := do
  let catalog ← canonicalSpecs specs
  let catalogDigest := Governance.metricCatalogDigest catalog
  let multiplier ← FiniteF64.new uncertaintyMultiplier
  failIf (assignmentSalt = zero
      ∨ stages.isEmpty
      ∨ stages.length > maxCanaryStages
      ∨ multiplier.get.le? f64Zero
      ∨ f64Ten.lt? multiplier.get
      ∨ maximumRegression.size ≠ catalog.size
      ∨ maximumRegression.toList.any fun entry => entry.1 ∉ catalog || entry.2.get.lt? f64Zero)
    (invalid "canary_policy_invalid")
  (windows2 stages).forM stageOrder
  let projection : Json := .obj [("metric_catalog_digest", toJson catalogDigest),
    ("assignment_salt", toJson assignmentSalt), ("stages", toJson stages),
    ("uncertainty_multiplier", toJson multiplier),
    ("maximum_regression", toJson maximumRegression)]
  return { metricCatalogDigest := catalogDigest
           assignmentSalt := assignmentSalt
           stages := stages
           uncertaintyMultiplier := multiplier
           maximumRegression := maximumRegression
           policyDigest := .fromProjection _ canaryPolicyDomain projection }

/-! ## The state -/

inductive CanaryPhase where
  | awaitingStage (stageIndex : Nat)
  | candidateValidated
  | rollbackRequired (stageIndex : Nat)
  deriving DecidableEq

instance : Serialize CanaryPhase where
  toJson
    | .awaitingStage i => .obj [("phase", .str "awaiting_stage"), ("stage_index", toJson i)]
    | .candidateValidated => .obj [("phase", .str "candidate_validated")]
    | .rollbackRequired i => .obj [("phase", .str "rollback_required"), ("stage_index", toJson i)]

inductive CanaryStageDisposition where
  | advanceStage
  | candidateValidated
  | boundedUnknown
  | rollbackRequired
  deriving DecidableEq

def CanaryStageDisposition.wire : CanaryStageDisposition → String
  | .advanceStage => "advance_stage"
  | .candidateValidated => "candidate_validated"
  | .boundedUnknown => "bounded_unknown"
  | .rollbackRequired => "rollback_required"

inductive CanaryReason where
  | provenHardViolation (metricId : MetricId)
  | hardInvariantNotEstablished (metricId : MetricId)
  | definiteRegression (metricId : MetricId)
  | possibleRegression (metricId : MetricId)
  | insufficientGroups (metricId : MetricId)
  deriving DecidableEq

namespace CanaryReason

def metricId : CanaryReason → MetricId
  | provenHardViolation m | hardInvariantNotEstablished m | definiteRegression m
  | possibleRegression m | insufficientGroups m => m

def wire : CanaryReason → String
  | provenHardViolation _ => "proven_hard_violation"
  | hardInvariantNotEstablished _ => "hard_invariant_not_established"
  | definiteRegression _ => "definite_regression"
  | possibleRegression _ => "possible_regression"
  | insufficientGroups _ => "insufficient_groups"

instance : Ord CanaryReason := ordByPair CanaryReason.ctorIdx metricId
instance : Std.TransOrd CanaryReason := transOrd_ordByPair CanaryReason.ctorIdx metricId

instance : Serialize CanaryReason where
  toJson r := .obj [("reason", .str r.wire), ("metric_id", toJson r.metricId)]
  toJson_injective := by
    intro a b h
    cases a <;> cases b <;> simp_all [wire, metricId]

end CanaryReason

structure CanaryStateDraft where
  baselineId : VariantId
  candidateId : VariantId
  gateDigest : CandidateGateDigest
  evaluationPolicyDigest : RobustEvaluationPolicyDigest
  policyDigest : CanaryPolicyDigest
  phase : CanaryPhase
  lastDisposition : Option CanaryStageDisposition
  lastReasons : BTreeSet CanaryReason
  evaluatedReports : BTreeSet PairedEvaluationDigest
  evaluatedEvidenceIds : BTreeSet EvidenceId
  lastObservationEndTick : Option Nat

structure CanaryState extends CanaryStateDraft where
  stateDigest : CanaryStateDigest

def CanaryStateDraft.projection (d : CanaryStateDraft) : Json :=
  .obj [("baseline_id", toJson d.baselineId), ("candidate_id", toJson d.candidateId),
    ("gate_digest", toJson d.gateDigest),
    ("evaluation_policy_digest", toJson d.evaluationPolicyDigest),
    ("policy_digest", toJson d.policyDigest), ("phase", toJson d.phase),
    ("last_disposition", toJson (d.lastDisposition.map CanaryStageDisposition.wire)),
    ("last_reasons", toJson d.lastReasons), ("evaluated_reports", toJson d.evaluatedReports),
    ("evaluated_evidence_ids", toJson d.evaluatedEvidenceIds),
    ("last_observation_end_tick", toJson d.lastObservationEndTick)]

def hexDigitValue (c : Char) : Option Nat :=
  if c.isDigit then some (c.toNat - 48)
  else if 'a' ≤ c ∧ c ≤ 'f' then some (c.toNat - 87)
  else if 'A' ≤ c ∧ c ≤ 'F' then some (c.toNat - 55)
  else none

/-- The value of hexadecimal digits, as `u64::from_str_radix` reads sixteen of them. -/
def fromHexDigits (digits : List Char) : Option Nat :=
  digits.foldlM (fun value c => (hexDigitValue c).map (value * 16 + ·)) 0

section

variable [Platform]

def CanaryState.seal (draft : CanaryStateDraft) : CanaryState :=
  ⟨draft, .fromProjection _ canaryStateDomain draft.projection⟩

namespace CanaryState

def authenticate (s : CanaryState) : BrainResult Unit :=
  failIf (SealedDigest.fromProjection _ canaryStateDomain s.projection ≠ s.stateDigest)
    (integrity "canary_state_digest_mismatch")

@[simp] lemma authenticate_seal (draft : CanaryStateDraft) :
    (CanaryState.seal draft).authenticate = .ok () := by
  rw [authenticate, failIf_ok]
  exact fun hne => hne rfl

def start (gate : CandidateGateDecision) (policy : CanaryPolicy) : BrainResult CanaryState := do
  gate.authenticate
  failIf (gate.disposition ≠ .advanceCandidate
      ∨ gate.metricCatalogDigest ≠ policy.metricCatalogDigest)
    (integrity "canary_candidate_not_eligible")
  return CanaryState.seal
    { baselineId := gate.baselineId
      candidateId := gate.candidateId
      gateDigest := gate.decisionDigest
      evaluationPolicyDigest := gate.evaluationPolicyDigest
      policyDigest := policy.policyDigest
      phase := .awaitingStage 0
      lastDisposition := none
      lastReasons := ∅
      evaluatedReports := ∅
      evaluatedEvidenceIds := gate.sourceEvidenceIds
      lastObservationEndTick := some gate.sourceObservationWindow.endTick }

def bucket (assignmentSalt : Sha256Digest) (baselineId candidateId : VariantId)
    (subject : CanarySubjectId) : BrainResult Nat := do
  let payload := tupleToVec [toJson assignmentSalt, toJson baselineId, toJson candidateId,
    toJson subject]
  let digest := digestDomain canaryBucketDomain payload
  let value ← okOr (fromHexDigits (digest.hex.toList.take 16))
    (integrity "canary_bucket_digest_invalid")
  return value % perMillion

def subjectIsSelected (s : CanaryState) (subject : CanarySubjectId) (policy : CanaryPolicy) :
    BrainResult Bool := do
  s.authenticate
  failIf (s.policyDigest ≠ policy.policyDigest) (integrity "canary_policy_binding_mismatch")
  match s.phase with
  | .rollbackRequired _ => return false
  | .awaitingStage stageIndex => do
    let stage ← okOr policy.stages[stageIndex]? (integrity "canary_stage_missing")
    let b ← bucket policy.assignmentSalt s.baselineId s.candidateId subject
    return b < stage.exposurePerMillion
  | .candidateValidated => do
    let stage ← okOr policy.stages[policy.stages.length - 1]? (integrity "canary_stage_missing")
    let b ← bucket policy.assignmentSalt s.baselineId s.candidateId subject
    return b < stage.exposurePerMillion

end CanaryState

/-! ## One stage -/

/-- What the loop over the metrics has found. -/
structure CanaryScan where
  hard : BTreeSet CanaryReason
  definiteRegressions : BTreeSet CanaryReason
  unknown : BTreeSet CanaryReason

def CanaryScan.recordHard (acc : CanaryScan) (metricId : MetricId) :
    Option (Option InvariantIntervalStatus) → CanaryScan
  | none | some (some .established) => acc
  | some (some .provenViolation) =>
    { acc with hard := acc.hard.insert (.provenHardViolation metricId) }
  | some (some .notEstablished) =>
    { acc with unknown := acc.unknown.insert (.hardInvariantNotEstablished metricId) }
  | some none => { acc with unknown := acc.unknown.insert (.insufficientGroups metricId) }

def canaryMetric (report : PairedEvaluationReport) (policy : CanaryPolicy) (stage : CanaryStage)
    (acc : CanaryScan) (entry : MetricId × MetricSpec) : BrainResult CanaryScan := do
  let (metricId, spec) := entry
  let multiplier := policy.uncertaintyMultiplier.get
  let estimate ← okOr report.estimates[metricId]? (integrity "canary_metric_missing")
  let acc := acc.recordHard metricId (hardInvariantStatus multiplier spec estimate)
  if estimate.independentGroups < stage.minimumIndependentGroups then
    return { acc with unknown := acc.unknown.insert (.insufficientGroups metricId) }
  else
    match estimate.pairedEffectObservedRadius with
    | none => return { acc with unknown := acc.unknown.insert (.insufficientGroups metricId) }
    | some rawRadius => do
      let oriented := spec.direction.orient estimate.pairedEffect.get
      let radius := multiplier * rawRadius.get
      let allowedRegression ← okOr policy.maximumRegression[metricId]?
        (integrity "canary_regression_limit_missing")
      if (oriented + radius).lt? (-allowedRegression.get) then
        return { acc with
          definiteRegressions := acc.definiteRegressions.insert (.definiteRegression metricId) }
      else if (oriented - radius).lt? (-allowedRegression.get) then
        return { acc with unknown := acc.unknown.insert (.possibleRegression metricId) }
      else return acc

def CanaryScan.Clean (acc : CanaryScan) : Prop :=
  acc.hard.isEmpty = true ∧ acc.definiteRegressions.isEmpty = true ∧ acc.unknown.isEmpty = true

/-- The phase and the disposition that a scan leads to. -/
def CanaryScan.outcome (acc : CanaryScan) (stageIndex stageCount : Nat) :
    CanaryPhase × CanaryStageDisposition :=
  if ¬acc.hard.isEmpty ∨ ¬acc.definiteRegressions.isEmpty then
    (.rollbackRequired stageIndex, .rollbackRequired)
  else if ¬acc.unknown.isEmpty then (.awaitingStage stageIndex, .boundedUnknown)
  else if stageIndex + 1 < stageCount then (.awaitingStage (stageIndex + 1), .advanceStage)
  else (.candidateValidated, .candidateValidated)

def CanaryState.evaluateStage (s : CanaryState) (specs : List MetricSpec)
    (report : PairedEvaluationReport) (policy : CanaryPolicy) : BrainResult CanaryState := do
  s.authenticate
  report.authenticate
  match s.phase with
  | .rollbackRequired _ => throw (integrity "canary_rollback_requirement_is_sticky")
  | .candidateValidated => throw (integrity "canary_already_validated")
  | .awaitingStage stageIndex => do
    let stage ← okOr policy.stages[stageIndex]? (integrity "canary_stage_missing")
    let catalog ← canonicalSpecs specs
    let catalogDigest := Governance.metricCatalogDigest catalog
    failIf (s.policyDigest ≠ policy.policyDigest
        ∨ report.baselineId ≠ s.baselineId
        ∨ report.candidateId ≠ s.candidateId
        ∨ report.metricCatalogDigest ≠ catalogDigest
        ∨ policy.metricCatalogDigest ≠ catalogDigest
        ∨ report.evaluationPolicyDigest ≠ s.evaluationPolicyDigest
        ∨ report.reportDigest ∈ s.evaluatedReports
        ∨ ¬BTreeSet.isDisjoint s.evaluatedEvidenceIds report.evidenceIds
        ∨ s.lastObservationEndTick.any (report.observationWindow.startTick ≤ ·))
      (integrity "canary_evaluation_binding_invalid")
    let acc ← catalog.toList.foldlM (canaryMetric report policy stage) ⟨∅, ∅, ∅⟩
    let outcome := acc.outcome stageIndex policy.stages.length
    return CanaryState.seal
      { baselineId := s.baselineId
        candidateId := s.candidateId
        gateDigest := s.gateDigest
        evaluationPolicyDigest := s.evaluationPolicyDigest
        policyDigest := s.policyDigest
        phase := outcome.1
        lastDisposition := some outcome.2
        lastReasons := .ofList
          (acc.hard.toList ++ acc.definiteRegressions.toList ++ acc.unknown.toList)
        evaluatedReports := s.evaluatedReports.insert report.reportDigest
        evaluatedEvidenceIds := BTreeSet.extend s.evaluatedEvidenceIds report.evidenceIds.toList
        lastObservationEndTick := some report.observationWindow.endTick }

/-! ## What one accepted report does -/

/-- The awaited stage `i` was evaluated on a report, with `acc` found. -/
structure Evaluates (s : CanaryState) (specs : List MetricSpec) (report : PairedEvaluationReport)
    (policy : CanaryPolicy) (i : Nat) (stage : CanaryStage) (catalog : MetricCatalog)
    (acc : CanaryScan) (s' : CanaryState) : Prop where
  report_authentic : report.authenticate = .ok ()
  phase_eq : s.phase = .awaitingStage i
  stage_eq : policy.stages[i]? = some stage
  catalog_eq : canonicalSpecs specs = .ok catalog
  policy_eq : s.policyDigest = policy.policyDigest
  baseline_eq : report.baselineId = s.baselineId
  candidate_eq : report.candidateId = s.candidateId
  catalog_bound : policy.metricCatalogDigest = metricCatalogDigest catalog
  fresh : report.reportDigest ∉ s.evaluatedReports
  disjoint : ∀ e ∈ s.evaluatedEvidenceIds, e ∉ report.evidenceIds
  later : ∀ tick, s.lastObservationEndTick = some tick → tick < report.observationWindow.startTick
  scan : catalog.toList.foldlM (canaryMetric report policy stage) ⟨∅, ∅, ∅⟩ = .ok acc
  next : s' = .seal
    { s.toCanaryStateDraft with
      phase := (acc.outcome i policy.stages.length).1
      lastDisposition := some (acc.outcome i policy.stages.length).2
      lastReasons := .ofList
        (acc.hard.toList ++ acc.definiteRegressions.toList ++ acc.unknown.toList)
      evaluatedReports := s.evaluatedReports.insert report.reportDigest
      evaluatedEvidenceIds := BTreeSet.extend s.evaluatedEvidenceIds report.evidenceIds.toList
      lastObservationEndTick := some report.observationWindow.endTick }

variable {s s' : CanaryState} {specs : List MetricSpec} {report : PairedEvaluationReport}
  {policy : CanaryPolicy} {i : Nat} {stage : CanaryStage} {catalog : MetricCatalog}
  {acc : CanaryScan}

lemma evaluateStage_spec (h : s.evaluateStage specs report policy = .ok s') :
    ∃ i stage catalog acc, Evaluates s specs report policy i stage catalog acc s' := by
  simp only [CanaryState.evaluateStage, bind_ok] at h
  obtain ⟨_, -, _, hreport, h⟩ := h
  cases hphase : s.phase with
  | rollbackRequired j => simp [hphase] at h
  | candidateValidated => simp [hphase] at h
  | awaitingStage i =>
    simp only [hphase, bind_ok, okOr_ok, failIf_ok, pure_ok, not_or, ne_eq, not_not] at h
    obtain ⟨stage, hstage, catalog, hcatalog, _, hbound, acc, hscan, rfl⟩ := h
    obtain ⟨hpolicy, hbaseline, hcandidate, hreportCatalog, hcatalogBound, hevaluation, hfresh,
      hdisjoint, hlater⟩ := hbound
    refine ⟨i, stage, catalog, acc, hreport, hphase, hstage, hcatalog, hpolicy, hbaseline,
      hcandidate, hcatalogBound, hfresh, ?_, ?_, hscan, rfl⟩
    · exact isDisjoint_iff.mp hdisjoint
    · intro tick htick
      rw [htick] at hlater
      simpa using hlater

namespace Evaluates

section

variable (h : Evaluates s specs report policy i stage catalog acc s')
include h

lemma index_lt : i < policy.stages.length :=
  (List.getElem?_eq_some_iff.mp h.stage_eq).1

lemma phase_next : s'.phase = (acc.outcome i policy.stages.length).1 := by
  rw [h.next]
  rfl

lemma frame : s'.baselineId = s.baselineId ∧ s'.candidateId = s.candidateId ∧
      s'.gateDigest = s.gateDigest ∧ s'.policyDigest = s.policyDigest := by
  rw [h.next]
  exact ⟨rfl, rfl, rfl, rfl⟩

lemma authentic : s'.authenticate = .ok () := by
  rw [h.next]
  exact CanaryState.authenticate_seal _

end

end Evaluates

def CanaryScan.all (acc : CanaryScan) : BTreeSet CanaryReason :=
  .ofList (acc.hard.toList ++ acc.definiteRegressions.toList ++ acc.unknown.toList)

/-- When a report is accepted, and what it then leads to. -/
lemma evaluateStage_ok (hs : s.authenticate = .ok ()) (hreport : report.authenticate = .ok ())
    (hphase : s.phase = .awaitingStage i) (hstage : policy.stages[i]? = some stage)
    (hcatalog : canonicalSpecs specs = .ok catalog) (hbound : ¬(s.policyDigest ≠ policy.policyDigest
        ∨ report.baselineId ≠ s.baselineId ∨ report.candidateId ≠ s.candidateId
        ∨ report.metricCatalogDigest ≠ Governance.metricCatalogDigest catalog
        ∨ policy.metricCatalogDigest ≠ Governance.metricCatalogDigest catalog
        ∨ report.evaluationPolicyDigest ≠ s.evaluationPolicyDigest
        ∨ report.reportDigest ∈ s.evaluatedReports
        ∨ ¬isDisjoint s.evaluatedEvidenceIds report.evidenceIds
        ∨ s.lastObservationEndTick.any (report.observationWindow.startTick ≤ ·)))
    (hscan : catalog.toList.foldlM (canaryMetric report policy stage) ⟨∅, ∅, ∅⟩ = .ok acc) :
    ∃ s', s.evaluateStage specs report policy = .ok s' ∧
      s'.phase = (acc.outcome i policy.stages.length).1 ∧
      s'.lastDisposition = some (acc.outcome i policy.stages.length).2 ∧ s'.lastReasons = acc.all ∧
      s'.evaluatedReports = s.evaluatedReports.insert report.reportDigest ∧
      s'.evaluatedEvidenceIds = extend s.evaluatedEvidenceIds report.evidenceIds.toList ∧
      s'.lastObservationEndTick = some report.observationWindow.endTick ∧
      s'.evaluationPolicyDigest = s.evaluationPolicyDigest := by
  simp only [CanaryState.evaluateStage, hphase, bind_ok, failIf_ok, okOr_ok, pure_ok]
  exact ⟨_, ⟨(), hs, (), hreport, stage, hstage, catalog, hcatalog, (), hbound, acc, hscan, rfl⟩,
    rfl, rfl, rfl, rfl, rfl, rfl, rfl⟩

/-! ## Exposure along a run -/

def CanaryState.appliedStage (s : CanaryState) (policy : CanaryPolicy) : Option Nat :=
  match s.phase with
  | .awaitingStage i => some i
  | .candidateValidated => some (policy.stages.length - 1)
  | .rollbackRequired _ => none

def CanaryPolicy.exposureAt (policy : CanaryPolicy) (i : Nat) : Nat :=
  match policy.stages[i]? with
  | some stage => stage.exposurePerMillion
  | none => 0

def CanaryState.exposure (s : CanaryState) (policy : CanaryPolicy) : Nat :=
  match s.appliedStage policy with
  | some i => policy.exposureAt i
  | none => 0

omit [Platform] in
lemma CanaryScan.outcome_phase (acc : CanaryScan) (i n : Nat) :
    (¬acc.Clean ∧ ((acc.outcome i n).1 = .rollbackRequired i ∨
      (acc.outcome i n).1 = .awaitingStage i)) ∨
    (acc.Clean ∧ i + 1 < n ∧ (acc.outcome i n).1 = .awaitingStage (i + 1)) ∨
    (acc.Clean ∧ n ≤ i + 1 ∧ (acc.outcome i n).1 = .candidateValidated) := by
  unfold CanaryScan.outcome CanaryScan.Clean
  by_cases hproven : ¬acc.hard.isEmpty ∨ ¬acc.definiteRegressions.isEmpty
  · rw [if_pos hproven]
    refine .inl ⟨?_, .inl rfl⟩
    intro hclean
    rcases hproven with h | h
    · exact h hclean.1
    · exact h hclean.2.1
  rw [if_neg hproven]
  by_cases hunknown : ¬acc.unknown.isEmpty
  · rw [if_pos hunknown]
    exact .inl ⟨fun hclean => hunknown hclean.2.2, .inr rfl⟩
  rw [if_neg hunknown]
  rw [not_or, not_not, not_not] at hproven
  have hclean := And.intro hproven.1 (And.intro hproven.2 (not_not.mp hunknown))
  by_cases hnext : i + 1 < n
  · rw [if_pos hnext]
    exact .inr (.inl ⟨hclean, hnext, rfl⟩)
  · rw [if_neg hnext]
    exact .inr (.inr ⟨hclean, by omega, rfl⟩)

lemma Evaluates.applied_le (h : Evaluates s specs report policy i stage catalog acc s')
    {j : Nat} (hj : s'.appliedStage policy = some j) : i ≤ j ∧ j < policy.stages.length := by
  have hlt := h.index_lt
  rw [CanaryState.appliedStage, h.phase_next] at hj
  rcases acc.outcome_phase i policy.stages.length with
    ⟨-, hphase | hphase⟩ | ⟨-, hnext, hphase⟩ | ⟨-, hlast, hphase⟩ <;> rw [hphase] at hj
  · cases hj
  · cases hj
    exact ⟨le_rfl, hlt⟩
  · cases hj
    exact ⟨by omega, hnext⟩
  · cases hj
    -- the last stage was evaluated, so the last stage stays applied
    exact ⟨by omega, by omega⟩

def CanaryReaches (policies : Set CanaryPolicy) : CanaryState → CanaryState → Prop :=
  Relation.ReflTransGen fun s s' =>
    ∃ specs report, ∃ policy ∈ policies, s.evaluateStage specs report policy = .ok s'

/-- What holds of every state of a canary that started on a gate under a policy. -/
structure CanaryInv (gate : CandidateGateDecision) (policy : CanaryPolicy) (s : CanaryState) :
    Prop where
  authentic : s.authenticate = .ok ()
  baseline_eq : s.baselineId = gate.baselineId
  candidate_eq : s.candidateId = gate.candidateId
  gate_eq : s.gateDigest = gate.decisionDigest
  policy_eq : s.policyDigest = policy.policyDigest
  stage_lt : ∀ j, s.appliedStage policy = some j → j < policy.stages.length

variable {policies : Set CanaryPolicy} {gate : CandidateGateDecision}

lemma CanaryInv.policy_unique (hs : CanaryInv gate policy s)
    (hinj : Set.InjOn CanaryPolicy.policyDigest policies) (hpolicy : policy ∈ policies)
    {policy' : CanaryPolicy} (hpolicy' : policy' ∈ policies)
    (h : Evaluates s specs report policy' i stage catalog acc s') : policy' = policy :=
  hinj hpolicy' hpolicy (h.policy_eq.symm.trans hs.policy_eq)

lemma CanaryInv.step (hs : CanaryInv gate policy s)
    (h : Evaluates s specs report policy i stage catalog acc s') : CanaryInv gate policy s' := by
  obtain ⟨hbaseline, hcandidate, hgate, hdigest⟩ := h.frame
  exact ⟨h.authentic, hbaseline.trans hs.baseline_eq, hcandidate.trans hs.candidate_eq,
    hgate.trans hs.gate_eq, hdigest.trans hs.policy_eq, fun j hj => (h.applied_le hj).2⟩

/-- What an accepted policy guarantees of its stages. -/
structure CanaryPolicy.Ordered (policy : CanaryPolicy) : Prop where
  stages_ne : policy.stages ≠ []
  increasing : policy.stages.Pairwise fun a b => a.exposurePerMillion < b.exposurePerMillion

omit [Platform] in
lemma pairwise_of_windows2 {α : Type} {R : α → α → Prop} [IsTrans α R] {l : List α}
    (h : ∀ pair ∈ windows2 l, R pair.1 pair.2) : l.Pairwise R := by
  rw [← isChain_iff_pairwise]
  induction l with
  | nil => exact .nil
  | cons a l ih =>
    cases l with
    | nil => exact .singleton a
    | cons b l =>
      have hhead : R a b := h (a, b) (by simp [windows2])
      have htail : ∀ pair ∈ windows2 (b :: l), R pair.1 pair.2 := by
        intro pair hpair
        exact h pair (mem_cons_of_mem _ hpair)
      exact IsChain.cons_cons hhead (ih htail)

lemma CanaryPolicy.new_spec {salt : Sha256Digest} {stages : List CanaryStage}
    {multiplier : F64} {regression : BTreeMap MetricId FiniteF64}
    (h : CanaryPolicy.new specs salt stages multiplier regression = .ok policy) :
    policy.Ordered := by
  simp only [CanaryPolicy.new, bind_ok, failIf_ok, pure_ok, not_or] at h
  obtain ⟨catalog, -, m, -, _, hchecked, _, horder, rfl⟩ := h
  refine ⟨by simpa using hchecked.2.1, ?_⟩
  have : IsTrans CanaryStage fun a b => a.exposurePerMillion < b.exposurePerMillion :=
    ⟨fun a b c hab hbc => Nat.lt_trans hab hbc⟩
  refine pairwise_of_windows2 ?_
  intro pair hpair
  have hstep := forM_ok.mp horder pair hpair
  rw [stageOrder, failIf_ok, not_or] at hstep
  exact not_le.mp hstep.1

omit [Platform] in
lemma CanaryPolicy.Ordered.exposureAt_mono (h : policy.Ordered) {i j : Nat} (hij : i ≤ j)
    (hj : j < policy.stages.length) : policy.exposureAt i ≤ policy.exposureAt j := by
  rcases Nat.lt_or_eq_of_le hij with hlt | heq
  · have hi : i < policy.stages.length := Nat.lt_trans hlt hj
    have hincreasing := pairwise_iff_getElem.mp h.increasing i j hi hj hlt
    simp only [CanaryPolicy.exposureAt, getElem?_eq_getElem hi, getElem?_eq_getElem hj]
    exact Nat.le_of_lt hincreasing
  · rw [heq]

lemma canaryInv_start {s₀ : CanaryState} (hordered : policy.Ordered)
    (h : CanaryState.start gate policy = .ok s₀) : CanaryInv gate policy s₀ := by
  simp only [CanaryState.start, bind_ok, failIf_ok, pure_ok] at h
  obtain ⟨_, -, _, -, rfl⟩ := h
  refine ⟨CanaryState.authenticate_seal _, rfl, rfl, rfl, rfl, ?_⟩
  intro j hj
  cases hj
  exact length_pos_of_ne_nil hordered.stages_ne

section

variable (hinj : Set.InjOn CanaryPolicy.policyDigest policies) (hpolicy : policy ∈ policies)
  (hs : CanaryInv gate policy s) (h : CanaryReaches policies s s')
include hinj hpolicy hs h

lemma CanaryReaches.inv : CanaryInv gate policy s' := by
  induction h with
  | refl => exact hs
  | tail _ hstep ih =>
    obtain ⟨specs, report, policy', hpolicy', hstep⟩ := hstep
    obtain ⟨i, stage, catalog, acc, heval⟩ := evaluateStage_spec hstep
    have heq := ih.policy_unique hinj hpolicy hpolicy' heval
    subst heq
    exact ih.step heval

/-- A run never moves back to an earlier stage, and passes no rollback. -/
lemma CanaryReaches.phase_le {j : Nat} (hj : s'.appliedStage policy = some j) :
    ∃ i, s.appliedStage policy = some i ∧ i ≤ j := by
  induction h generalizing j with
  | refl => exact ⟨j, hj, le_rfl⟩
  | @tail t _ hrun hstep ih =>
    have ht := CanaryReaches.inv hinj hpolicy hs hrun
    obtain ⟨specs, report, policy', hpolicy', hstep⟩ := hstep
    obtain ⟨k, stage, catalog, acc, heval⟩ := evaluateStage_spec hstep
    have heq := ht.policy_unique hinj hpolicy hpolicy' heval
    subst heq
    have happlied : t.appliedStage policy' = some k := by
      rw [CanaryState.appliedStage, heval.phase_eq]
    obtain ⟨i, hi, hik⟩ := ih happlied
    exact ⟨i, hi, hik.trans (heval.applied_le hj).1⟩

end

/-! ## Selection -/

section

omit [Platform]

lemma hexDigitValue_isSome {c : Char} (h : isAsciiHexdigit c = true) :
    ∃ d, hexDigitValue c = some d := by
  simp only [isAsciiHexdigit, Bool.or_eq_true, Bool.and_eq_true, decide_eq_true_eq] at h
  unfold hexDigitValue
  by_cases hdigit : c.isDigit = true
  · exact ⟨_, if_pos hdigit⟩
  rw [if_neg hdigit]
  by_cases hlower : 'a' ≤ c ∧ c ≤ 'f'
  · exact ⟨_, if_pos hlower⟩
  rw [if_neg hlower]
  exact ⟨_, if_pos ((h.resolve_left fun h => h.elim hdigit hlower))⟩

lemma fromHexDigits_isSome {digits : List Char}
    (h : ∀ c ∈ digits, isAsciiHexdigit c = true) : ∃ value, fromHexDigits digits = some value := by
  unfold fromHexDigits
  generalize 0 = start
  induction digits generalizing start with
  | nil => exact ⟨start, rfl⟩
  | cons c digits ih =>
    obtain ⟨d, hd⟩ := hexDigitValue_isSome (h c (by simp))
    rw [foldlM_cons, hd]
    exact ih (fun d hd => h d (by simp [hd])) _

end

lemma bucket_ok (salt : Sha256Digest) (baselineId candidateId : VariantId)
    (subject : CanarySubjectId) :
    ∃ b, CanaryState.bucket salt baselineId candidateId subject = .ok b ∧ b < perMillion := by
  let digest := digestDomain canaryBucketDomain
    (tupleToVec [toJson salt, toJson baselineId, toJson candidateId, toJson subject])
  have hhex : ∀ c ∈ digest.hex.toList.take 16, isAsciiHexdigit c = true := fun c hc =>
    digest.isAsciiHexdigit_of_mem (mem_of_mem_take hc)
  obtain ⟨value, hvalue⟩ := fromHexDigits_isSome hhex
  refine ⟨value % perMillion, ?_, Nat.mod_lt _ (by decide)⟩
  show (do
    let v ← okOr (fromHexDigits (digest.hex.toList.take 16))
      (integrity "canary_bucket_digest_invalid")
    return v % perMillion) = .ok (value % perMillion)
  rw [hvalue]
  rfl

lemma CanaryInv.selected (hs : CanaryInv gate policy s) {subject : CanarySubjectId} {b : Nat}
    (hb : CanaryState.bucket policy.assignmentSalt gate.baselineId gate.candidateId subject =
      .ok b) : s.subjectIsSelected subject policy = .ok (decide (b < s.exposure policy)) := by
  have hbound : failIf (s.policyDigest ≠ policy.policyDigest)
      (integrity "canary_policy_binding_mismatch") = .ok () :=
    failIf_ok.mpr (not_not.mpr hs.policy_eq)
  have hlt := hs.stage_lt
  rw [← hs.baseline_eq, ← hs.candidate_eq] at hb
  unfold CanaryState.subjectIsSelected CanaryState.exposure
  rw [hs.authentic, ok_bind, hbound, ok_bind]
  unfold CanaryState.appliedStage at hlt ⊢
  cases hphase : s.phase with
  | rollbackRequired j => simp [pure, Except.pure]
  | awaitingStage i =>
    rw [hphase] at hlt
    have hstage := getElem?_eq_getElem (hlt i rfl)
    simp only [hstage, okOr, ok_bind, hb, CanaryPolicy.exposureAt]
    rfl
  | candidateValidated =>
    rw [hphase] at hlt
    have hstage := getElem?_eq_getElem (hlt _ rfl)
    simp only [hstage, okOr, ok_bind, hb, CanaryPolicy.exposureAt]
    rfl

/-- **Exposure is sticky.** -/
theorem canary_exposure_sticky {salt : Sha256Digest} {stages : List CanaryStage}
    {multiplier : F64} {regression : BTreeMap MetricId FiniteF64} {s₀ : CanaryState}
    (haccepted : CanaryPolicy.new specs salt stages multiplier regression = .ok policy)
    (hpolicy : policy ∈ policies) (hdigests : Set.InjOn CanaryPolicy.policyDigest policies)
    (hstart : CanaryState.start gate policy = .ok s₀) (subject : CanarySubjectId) :
    ∃ b, CanaryState.bucket policy.assignmentSalt gate.baselineId gate.candidateId subject = .ok b ∧
      (∀ s, CanaryReaches policies s₀ s →
        s.subjectIsSelected subject policy = .ok (decide (b < s.exposure policy))) ∧
      (∀ s s', CanaryReaches policies s₀ s → CanaryReaches policies s s' →
        s.subjectIsSelected subject policy = .ok true → (∀ i, s'.phase ≠ .rollbackRequired i) →
        s'.subjectIsSelected subject policy = .ok true) ∧
      (∀ s i, CanaryReaches policies s₀ s → s.phase = .rollbackRequired i →
        s.subjectIsSelected subject policy = .ok false) ∧
      (∀ s, CanaryReaches policies s₀ s → s.exposure policy = perMillion →
        s.subjectIsSelected subject policy = .ok true) := by
  have hordered := CanaryPolicy.new_spec haccepted
  have hinv : ∀ s, CanaryReaches policies s₀ s → CanaryInv gate policy s := fun s hs =>
    hs.inv hdigests hpolicy (canaryInv_start hordered hstart)
  obtain ⟨b, hb, hlt⟩ := bucket_ok policy.assignmentSalt gate.baselineId gate.candidateId subject
  refine ⟨b, hb, fun s hs => (hinv s hs).selected hb, ?_, ?_, ?_⟩
  · intro s s' hs hs' hselected hphase
    have hinv' := hinv s' (hs.trans hs')
    rw [(hinv s hs).selected hb, Except.ok.injEq, decide_eq_true_eq] at hselected
    rw [hinv'.selected hb, Except.ok.injEq, decide_eq_true_eq]
    -- a state that is not rolled back applies a stage, and no earlier one
    obtain ⟨j, hj⟩ : ∃ j, s'.appliedStage policy = some j := by
      cases hcase : s'.phase with
      | awaitingStage j => exact ⟨j, by rw [CanaryState.appliedStage, hcase]⟩
      | candidateValidated => exact ⟨_, by rw [CanaryState.appliedStage, hcase]⟩
      | rollbackRequired j => exact absurd hcase (hphase j)
    obtain ⟨i, hi, hij⟩ := hs'.phase_le hdigests hpolicy (hinv s hs) hj
    have hmono := hordered.exposureAt_mono hij (hinv'.stage_lt j hj)
    simp only [CanaryState.exposure, hi] at hselected
    simp only [CanaryState.exposure, hj]
    exact Nat.lt_of_lt_of_le hselected hmono
  · intro s i hs hphase
    rw [(hinv s hs).selected hb]
    simp [CanaryState.exposure, CanaryState.appliedStage, hphase]
  · intro s hs hfull
    rw [(hinv s hs).selected hb, hfull]
    simp [hlt]

end

namespace Sample

attribute [local instance] Platform.reference

def quality : MetricId := ⟨"quality", by decide⟩
def baseline : VariantId := ⟨"baseline", by decide⟩
def candidate : VariantId := ⟨"candidate", by decide⟩
def subject : CanarySubjectId := ⟨"subject", by decide⟩
def evidence : EvidenceId := ⟨"evidence", by decide⟩

def specs : List MetricSpec := [⟨quality, .maximize, none⟩]

def catalog : MetricCatalog := (∅ : MetricCatalog).insert quality ⟨quality, .maximize, none⟩

lemma catalog_eq : canonicalSpecs specs = .ok catalog := by rfl

def salt : Sha256Digest :=
  ⟨"2222222222222222222222222222222222222222222222222222222222222222", by decide⟩

def halfStage : CanaryStage := ⟨500000, 2, by decide, by decide, by decide⟩
def fullStage : CanaryStage := ⟨1000000, 2, by decide, by decide, by decide⟩

def stages : List CanaryStage := [halfStage, fullStage]

def finiteZero : FiniteF64 := ⟨f64Zero, by decide⟩
def finiteOne : FiniteF64 := ⟨F64.ofNat 1, by decide +kernel⟩

def regression : BTreeMap MetricId FiniteF64 := (∅ : BTreeMap _ _).insert quality finiteZero

noncomputable def policy : CanaryPolicy where
  metricCatalogDigest := metricCatalogDigest catalog
  assignmentSalt := salt
  stages := stages
  uncertaintyMultiplier := finiteOne
  maximumRegression := regression
  policyDigest := .fromProjection _ canaryPolicyDomain
    (.obj [("metric_catalog_digest", toJson (metricCatalogDigest catalog)),
      ("assignment_salt", toJson salt), ("stages", toJson stages),
      ("uncertainty_multiplier", toJson finiteOne), ("maximum_regression", toJson regression)])

lemma policy_accepted :
    CanaryPolicy.new specs salt stages (F64.ofNat 1) regression = .ok policy := by
  simp only [CanaryPolicy.new, bind_ok, failIf_ok, pure_ok, FiniteF64.new_ok]
  exact ⟨catalog, catalog_eq, finiteOne, rfl, (), by decide +kernel, (), by decide, rfl⟩

noncomputable def gateDraft : CandidateGateDecisionDraft where
  baselineId := baseline
  candidateId := candidate
  reportDigest := ⟨salt⟩
  metricCatalogDigest := metricCatalogDigest catalog
  evaluationPolicyDigest := ⟨salt⟩
  independenceDesignDigest := ⟨salt⟩
  sourceEvidenceIds := (∅ : BTreeSet _).insert evidence
  sourceObservationWindow := ⟨1, 2, by decide⟩
  policyDigest := ⟨salt⟩
  disposition := .advanceCandidate
  reasons := ∅
  conservativeImprovements := ∅
  minimumObservedGroups := 2

/-- A subject of a canary that has started. -/
theorem canary_started : ∃ (gate : CandidateGateDecision) (s₀ : CanaryState) (b : Nat),
    CanaryState.start gate policy = .ok s₀ ∧
      s₀.subjectIsSelected subject policy = .ok (decide (b < s₀.exposure policy)) := by
  let gate : CandidateGateDecision :=
    ⟨gateDraft, .fromProjection _ gateDomain gateDraft.projection⟩
  have hauthentic : gate.authenticate = .ok () := by
    rw [CandidateGateDecision.authenticate, failIf_ok]
    exact fun hne => hne rfl
  have hstart : ∃ s₀, CanaryState.start gate policy = .ok s₀ := by
    simp only [CanaryState.start, bind_ok, failIf_ok, pure_ok]
    exact ⟨_, (), hauthentic, (), by simp [gate, gateDraft, policy], rfl⟩
  obtain ⟨s₀, hs₀⟩ := hstart
  obtain ⟨b, -, hselected, -⟩ := canary_exposure_sticky policy_accepted
    (Set.mem_singleton policy) (Set.injOn_singleton _ _) hs₀ subject
  exact ⟨gate, s₀, b, hs₀, hselected s₀ Relation.ReflTransGen.refl⟩

end Sample

end Tidex.Governance
