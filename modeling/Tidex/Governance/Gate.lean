/-
  Governance.Gate — the offline gate on a candidate.
-/
import Tidex.Governance.Types

namespace Tidex.Governance

open Tidex.Lib

/-! ## The policy -/

structure CandidateGatePolicy where
  metricCatalogDigest : MetricCatalogDigest
  minimumIndependentGroups : Nat
  uncertaintyMultiplier : FiniteF64
  minimumImprovement : BTreeMap MetricId FiniteF64
  policyDigest : CandidateGatePolicyDigest

/-- The zero and the ten that multipliers are compared with. -/
def f64Zero : F64 := F64.zero false
def f64Ten : F64 := F64.ofNat 10

def CandidateGatePolicy.new [Platform] (specs : List MetricSpec) (minimumIndependentGroups : Nat)
    (uncertaintyMultiplier : F64) (minimumImprovement : BTreeMap MetricId FiniteF64) :
    BrainResult CandidateGatePolicy := do
  let catalog ← canonicalSpecs specs
  let catalogDigest := Governance.metricCatalogDigest catalog
  let multiplier ← FiniteF64.new uncertaintyMultiplier
  failIf (¬(2 ≤ minimumIndependentGroups ∧ minimumIndependentGroups ≤ maxGroups)
      ∨ ¬(f64Zero.le? multiplier.get ∧ multiplier.get.le? f64Ten)
      ∨ multiplier.get.eq? f64Zero
      ∨ minimumImprovement.size ≠ catalog.size
      ∨ minimumImprovement.keys.any (· ∉ catalog))
    (invalid "governance_gate_policy_invalid")
  let projection : Json := .obj [("metric_catalog_digest", toJson catalogDigest),
    ("minimum_independent_groups", toJson minimumIndependentGroups),
    ("uncertainty_multiplier", toJson multiplier),
    ("minimum_improvement", toJson minimumImprovement)]
  return { metricCatalogDigest := catalogDigest
           minimumIndependentGroups := minimumIndependentGroups
           uncertaintyMultiplier := multiplier
           minimumImprovement := minimumImprovement
           policyDigest := .fromProjection _ gatePolicyDomain projection }

/-! ## Decisions -/

inductive GateReason where
  | provenHardViolation (metricId : MetricId)
  | hardInvariantNotEstablished (metricId : MetricId)
  | insufficientGroups (metricId : MetricId)
  | improvementBelowThreshold (metricId : MetricId)
  | improvementUncertain (metricId : MetricId)
  | persistentRegression (metricId : MetricId)
  | oscillation (metricId : MetricId)
  | functionalDrift (metricId : MetricId)
  deriving DecidableEq

namespace GateReason

def metricId : GateReason → MetricId
  | provenHardViolation m | hardInvariantNotEstablished m | insufficientGroups m
  | improvementBelowThreshold m | improvementUncertain m | persistentRegression m
  | oscillation m | functionalDrift m => m

def wire : GateReason → String
  | provenHardViolation _ => "proven_hard_violation"
  | hardInvariantNotEstablished _ => "hard_invariant_not_established"
  | insufficientGroups _ => "insufficient_groups"
  | improvementBelowThreshold _ => "improvement_below_threshold"
  | improvementUncertain _ => "improvement_uncertain"
  | persistentRegression _ => "persistent_regression"
  | oscillation _ => "oscillation"
  | functionalDrift _ => "functional_drift"

instance : Ord GateReason := ordByPair GateReason.ctorIdx metricId
instance : Std.TransOrd GateReason := transOrd_ordByPair GateReason.ctorIdx metricId
instance : Std.LawfulEqOrd GateReason := lawfulEqOrd_ordByPair (by
  intro a b hindex hmetric
  cases a <;> cases b <;> cases hindex <;>
    (simp only [metricId] at hmetric; rw [hmetric]))

instance : Serialize GateReason where
  toJson r := .obj [("reason", .str r.wire), ("metric_id", toJson r.metricId)]
  toJson_injective := by
    intro a b h
    cases a <;> cases b <;> simp_all [wire, metricId]

end GateReason

inductive CandidateGateDisposition where
  | advanceCandidate
  | reject
  | boundedUnknown
  deriving DecidableEq

def CandidateGateDisposition.wire : CandidateGateDisposition → String
  | .advanceCandidate => "advance_candidate"
  | .reject => "reject"
  | .boundedUnknown => "bounded_unknown"

/-- What a decision says, before it is sealed. -/
structure CandidateGateDecisionDraft where
  baselineId : VariantId
  candidateId : VariantId
  reportDigest : PairedEvaluationDigest
  metricCatalogDigest : MetricCatalogDigest
  evaluationPolicyDigest : RobustEvaluationPolicyDigest
  independenceDesignDigest : IndependenceDesignDigest
  sourceEvidenceIds : BTreeSet EvidenceId
  sourceObservationWindow : ObservationWindow
  policyDigest : CandidateGatePolicyDigest
  disposition : CandidateGateDisposition
  reasons : BTreeSet GateReason
  conservativeImprovements : BTreeMap MetricId FiniteF64
  minimumObservedGroups : Nat

structure CandidateGateDecision extends CandidateGateDecisionDraft where
  decisionDigest : CandidateGateDigest

def CandidateGateDecisionDraft.projection (d : CandidateGateDecisionDraft) : Json :=
  .obj [("baseline_id", toJson d.baselineId), ("candidate_id", toJson d.candidateId),
    ("report_digest", toJson d.reportDigest),
    ("metric_catalog_digest", toJson d.metricCatalogDigest),
    ("evaluation_policy_digest", toJson d.evaluationPolicyDigest),
    ("independence_design_digest", toJson d.independenceDesignDigest),
    ("source_evidence_ids", toJson d.sourceEvidenceIds),
    ("source_observation_window", toJson d.sourceObservationWindow),
    ("policy_digest", toJson d.policyDigest), ("disposition", toJson d.disposition.wire),
    ("reasons", toJson d.reasons),
    ("conservative_improvements", toJson d.conservativeImprovements),
    ("minimum_observed_groups", toJson d.minimumObservedGroups)]

section

variable [Platform]

namespace CandidateGateDecision

def authenticate (d : CandidateGateDecision) : BrainResult Unit :=
  failIf (SealedDigest.fromProjection _ gateDomain d.projection ≠ d.decisionDigest)
    (integrity "governance_gate_digest_mismatch")

end CandidateGateDecision

def CandidateGateDecision.seal (draft : CandidateGateDecisionDraft) :
    BrainResult CandidateGateDecision := do
  let decision : CandidateGateDecision :=
    ⟨draft, .fromProjection _ gateDomain draft.projection⟩
  decision.authenticate
  return decision

lemma CandidateGateDecision.authenticate_seal {draft : CandidateGateDecisionDraft}
    {d : CandidateGateDecision} (h : CandidateGateDecision.seal draft = .ok d) :
    d.toCandidateGateDecisionDraft = draft ∧ d.authenticate = .ok () := by
  simp only [CandidateGateDecision.seal, bind_ok, pure_ok] at h
  obtain ⟨_, hauthentic, rfl⟩ := h
  exact ⟨rfl, hauthentic⟩

end

/-! ## The decision on a report -/

/-- What an estimate says about the hard invariant of its metric: nothing where there
    is none, and no status where no radius was observed. -/
def hardInvariantStatus (multiplier : F64) (spec : MetricSpec) (estimate : PairedMetricEstimate) :
    Option (Option InvariantIntervalStatus) :=
  spec.hardInvariant.map fun invariant =>
    estimate.candidateObservedRadius.map fun rawRadius =>
      let radius := multiplier * rawRadius.get
      invariant.classifyInterval (estimate.candidateCenter.get - radius)
        (estimate.candidateCenter.get + radius)

/-- What the loop over the metrics has found. -/
structure GateScan where
  hard : BTreeSet GateReason
  rejected : BTreeSet GateReason
  unknown : BTreeSet GateReason
  conservativeImprovements : BTreeMap MetricId FiniteF64
  minimumGroups : Nat

def GateScan.recordHard (acc : GateScan) (metricId : MetricId) :
    Option (Option InvariantIntervalStatus) → GateScan
  | none | some (some .established) => acc
  | some (some .provenViolation) =>
    { acc with hard := acc.hard.insert (.provenHardViolation metricId) }
  | some (some .notEstablished) =>
    { acc with unknown := acc.unknown.insert (.hardInvariantNotEstablished metricId) }
  | some none => { acc with unknown := acc.unknown.insert (.insufficientGroups metricId) }

def gateMetric (report : PairedEvaluationReport) (policy : CandidateGatePolicy) (acc : GateScan)
    (entry : MetricId × MetricSpec) : BrainResult GateScan := do
  let (metricId, spec) := entry
  let multiplier := policy.uncertaintyMultiplier.get
  let estimate ← okOr report.estimates[metricId]? (integrity "governance_gate_metric_missing")
  let acc := { acc with minimumGroups := min acc.minimumGroups estimate.independentGroups }
  let acc := acc.recordHard metricId (hardInvariantStatus multiplier spec estimate)
  if estimate.independentGroups < policy.minimumIndependentGroups then
    return { acc with unknown := acc.unknown.insert (.insufficientGroups metricId) }
  else
    match estimate.pairedEffectObservedRadius with
    | none => return { acc with unknown := acc.unknown.insert (.insufficientGroups metricId) }
    | some rawEffectRadius => do
      let effectRadius := multiplier * rawEffectRadius.get
      let oriented := spec.direction.orient estimate.pairedEffect.get
      let conservative ← FiniteF64.new (oriented - effectRadius)
      let acc := { acc with
        conservativeImprovements := acc.conservativeImprovements.insert metricId conservative }
      let required ← okOr policy.minimumImprovement[metricId]?
        (integrity "governance_gate_threshold_missing")
      if required.get.le? conservative.get then return acc
      else if (oriented + effectRadius).lt? required.get then
        return { acc with rejected := acc.rejected.insert (.improvementBelowThreshold metricId) }
      else return { acc with unknown := acc.unknown.insert (.improvementUncertain metricId) }

def GateScan.disposition (acc : GateScan) : CandidateGateDisposition :=
  if ¬acc.hard.isEmpty ∨ ¬acc.rejected.isEmpty then .reject
  else if ¬acc.unknown.isEmpty then .boundedUnknown
  else .advanceCandidate

section

variable [Platform]

def decideCandidate (specs : List MetricSpec) (report : PairedEvaluationReport)
    (policy : CandidateGatePolicy) : BrainResult CandidateGateDecision := do
  report.authenticate
  let catalog ← canonicalSpecs specs
  let catalogDigest := Governance.metricCatalogDigest catalog
  failIf (report.metricCatalogDigest ≠ catalogDigest
      ∨ policy.metricCatalogDigest ≠ catalogDigest
      ∨ policy.minimumIndependentGroups < report.minimumRequiredGroups
      ∨ policy.minimumImprovement.size ≠ catalog.size
      ∨ policy.minimumImprovement.keys.any (· ∉ catalog)
      ∨ report.estimates.size ≠ catalog.size
      ∨ report.estimates.keys.any (· ∉ catalog))
    (integrity "governance_gate_metric_binding_mismatch")
  let acc ← catalog.toList.foldlM (gateMetric report policy) ⟨∅, ∅, ∅, ∅, u64Width - 1⟩
  CandidateGateDecision.seal
    { baselineId := report.baselineId
      candidateId := report.candidateId
      reportDigest := report.reportDigest
      metricCatalogDigest := catalogDigest
      evaluationPolicyDigest := report.evaluationPolicyDigest
      independenceDesignDigest := report.independenceDesignDigest
      sourceEvidenceIds := report.evidenceIds
      sourceObservationWindow := report.observationWindow
      policyDigest := policy.policyDigest
      disposition := acc.disposition
      reasons := .ofList (acc.hard.toList ++ acc.rejected.toList ++ acc.unknown.toList)
      conservativeImprovements := acc.conservativeImprovements
      minimumObservedGroups := acc.minimumGroups }

/-- A decision is authentic and takes the variants, the evidence and the window from
    the report. -/
structure DecidesOn (report : PairedEvaluationReport) (d : CandidateGateDecision) : Prop where
  authentic : d.authenticate = .ok ()
  report_authentic : report.authenticate = .ok ()
  baselineId_eq : d.baselineId = report.baselineId
  candidateId_eq : d.candidateId = report.candidateId
  evidence_eq : d.sourceEvidenceIds = report.evidenceIds
  window_eq : d.sourceObservationWindow = report.observationWindow

lemma decideCandidate_spec {specs : List MetricSpec} {report : PairedEvaluationReport}
    {policy : CandidateGatePolicy} {d : CandidateGateDecision}
    (h : decideCandidate specs report policy = .ok d) : DecidesOn report d := by
  simp only [decideCandidate, bind_ok] at h
  obtain ⟨_, hreport, catalog, -, _, -, acc, -, hseal⟩ := h
  obtain ⟨hdraft, hauthentic⟩ := CandidateGateDecision.authenticate_seal hseal
  exact ⟨hauthentic, hreport, by rw [hdraft], by rw [hdraft], by rw [hdraft], by rw [hdraft]⟩

def GateScan.all (acc : GateScan) : BTreeSet GateReason :=
  .ofList (acc.hard.toList ++ acc.rejected.toList ++ acc.unknown.toList)

/-- When a decision succeeds, and what it then says. -/
lemma decideCandidate_ok {specs : List MetricSpec} {report : PairedEvaluationReport}
    {policy : CandidateGatePolicy} {catalog : MetricCatalog} {acc : GateScan}
    (hreport : report.authenticate = .ok ()) (hcatalog : canonicalSpecs specs = .ok catalog)
    (hbound : ¬(report.metricCatalogDigest ≠ metricCatalogDigest catalog
      ∨ policy.metricCatalogDigest ≠ metricCatalogDigest catalog
      ∨ policy.minimumIndependentGroups < report.minimumRequiredGroups
      ∨ policy.minimumImprovement.size ≠ catalog.size
      ∨ policy.minimumImprovement.keys.any (· ∉ catalog) ∨ report.estimates.size ≠ catalog.size
      ∨ report.estimates.keys.any (· ∉ catalog)))
    (hscan : catalog.toList.foldlM (gateMetric report policy) ⟨∅, ∅, ∅, ∅, u64Width - 1⟩ =
      .ok acc) :
    ∃ d, decideCandidate specs report policy = .ok d ∧ d.disposition = acc.disposition ∧
      d.reasons = acc.all ∧ d.metricCatalogDigest = metricCatalogDigest catalog ∧
      d.evaluationPolicyDigest = report.evaluationPolicyDigest ∧
      d.independenceDesignDigest = report.independenceDesignDigest := by
  simp only [decideCandidate, CandidateGateDecision.seal, bind_ok, pure_ok, failIf_ok]
  refine ⟨_, ⟨(), hreport, catalog, hcatalog, (), hbound, acc, hscan, (), ?_, rfl⟩, rfl, rfl, rfl,
    rfl, rfl⟩
  exact failIf_ok.mpr (not_not.mpr rfl)

end

end Tidex.Governance
