/-
  Governance.Petfc — functional trajectories and their assessment.
-/
import Tidex.Governance.Gate

namespace Tidex.Governance

open Tidex.Lib List PairedEvaluationReport

/-! ## Policies -/

structure PetfcMetricPolicy where
  metricId : MetricId
  normalizationScale : FiniteF64
  maximumNormalizedEndpointDegradation : FiniteF64

structure PetfcPathLimits where
  minimumReports : Nat
  maximumReports : Nat
  maximumStepDistance : FiniteF64
  maximumTortuosity : FiniteF64
  maximumWaste : FiniteF64
  minimumPathEfficiency : FiniteF64

structure PetfcConservationLimits where
  maximumSoftDegradationSum : FiniteF64
  maximumDegradedMetricCount : Nat
  maximumDistributedDegradation : FiniteF64

structure PetfcUtilityPolicy where
  pathPenalty : FiniteF64
  conservationPenalty : FiniteF64
  tortuosityPenalty : FiniteF64
  minimumUtility : FiniteF64

structure PetfcPolicy where
  metricCatalogDigest : MetricCatalogDigest
  qualityMetricId : MetricId
  metrics : BTreeMap MetricId PetfcMetricPolicy
  path : PetfcPathLimits
  conservation : PetfcConservationLimits
  utility : PetfcUtilityPolicy
  policyDigest : PetfcPolicyDigest

/-! ## Trajectories -/

structure FunctionalCoordinate where
  center : FiniteF64
  observedRadius : Option FiniteF64

instance : Serialize FunctionalCoordinate where
  toJson c := .obj [("center", toJson c.center), ("observed_radius", toJson c.observedRadius)]

abbrev Coordinates := BTreeMap MetricId FunctionalCoordinate

structure FunctionalPoint where
  checkpointId : VariantId
  sourceReportDigest : PairedEvaluationDigest
  observationWindow : ObservationWindow
  sourceEvidenceSufficient : Bool
  coordinates : Coordinates
  absoluteCoordinates : Coordinates

instance : Serialize FunctionalPoint where
  toJson p := .obj [("checkpoint_id", toJson p.checkpointId),
    ("source_report_digest", toJson p.sourceReportDigest),
    ("observation_window", toJson p.observationWindow),
    ("source_evidence_sufficient", toJson p.sourceEvidenceSufficient),
    ("coordinates", toJson p.coordinates),
    ("absolute_coordinates", toJson p.absoluteCoordinates)]

/-- What a trajectory says, before it is sealed. -/
structure PetfcTrajectoryDraft where
  baselineId : VariantId
  currentCandidateId : VariantId
  metricCatalogDigest : MetricCatalogDigest
  evaluationPolicyDigest : RobustEvaluationPolicyDigest
  independenceDesignDigest : IndependenceDesignDigest
  petfcPolicyDigest : PetfcPolicyDigest
  points : List FunctionalPoint
  reportDigests : BTreeSet PairedEvaluationDigest
  evidenceIds : BTreeSet EvidenceId

structure PetfcTrajectory extends PetfcTrajectoryDraft where
  trajectoryDigest : PetfcTrajectoryDigest

def PetfcTrajectoryDraft.projection (d : PetfcTrajectoryDraft) : Json :=
  .obj [("baseline_id", toJson d.baselineId),
    ("current_candidate_id", toJson d.currentCandidateId),
    ("metric_catalog_digest", toJson d.metricCatalogDigest),
    ("evaluation_policy_digest", toJson d.evaluationPolicyDigest),
    ("independence_design_digest", toJson d.independenceDesignDigest),
    ("petfc_policy_digest", toJson d.petfcPolicyDigest), ("points", toJson d.points),
    ("report_digests", toJson d.reportDigests), ("evidence_ids", toJson d.evidenceIds)]

def PairedEvaluationReport.effectCoordinates (r : PairedEvaluationReport) : Coordinates :=
  r.estimates.map fun _ e => ⟨e.pairedEffect, e.pairedEffectObservedRadius⟩

def PairedEvaluationReport.candidateCoordinates (r : PairedEvaluationReport) : Coordinates :=
  r.estimates.map fun _ e => ⟨e.candidateCenter, e.candidateObservedRadius⟩

def PairedEvaluationReport.baselineCoordinates (r : PairedEvaluationReport) : Coordinates :=
  r.estimates.map fun _ e => ⟨e.baselineCenter, e.baselineObservedRadius⟩

def PairedEvaluationReport.candidatePoint (r : PairedEvaluationReport) : FunctionalPoint :=
  ⟨r.candidateId, r.reportDigest, r.observationWindow, r.evidenceSufficient,
    r.effectCoordinates, r.candidateCoordinates⟩

section

variable [Platform]

def PetfcTrajectory.seal (d : PetfcTrajectoryDraft) : BrainResult PetfcTrajectory := do
  failIf (d.points.length < 2
      ∨ d.points.length > maxTrajectoryPoints
      ∨ d.reportDigests.isEmpty
      ∨ d.evidenceIds.isEmpty
      ∨ d.points.head?.map FunctionalPoint.checkpointId ≠ some d.baselineId
      ∨ d.points.getLast?.map FunctionalPoint.checkpointId ≠ some d.currentCandidateId
      ∨ d.points.any fun p => p.coordinates.size != p.absoluteCoordinates.size)
    (invalid "petfc_trajectory_shape_invalid")
  failIf ((BTreeSet.extend ∅ (d.points.map FunctionalPoint.checkpointId)).size ≠ d.points.length)
    (invalid "petfc_trajectory_checkpoint_duplicate")
  return ⟨d, .fromProjection _ petfcTrajectoryDomain d.projection⟩

namespace PetfcTrajectory

def authenticate (t : PetfcTrajectory) : BrainResult Unit :=
  failIf (SealedDigest.fromProjection _ petfcTrajectoryDomain t.projection ≠ t.trajectoryDigest)
    (integrity "petfc_trajectory_digest_mismatch")

def start (report : PairedEvaluationReport) (policy : PetfcPolicy) :
    BrainResult PetfcTrajectory := do
  report.authenticate
  failIf (report.metricCatalogDigest ≠ policy.metricCatalogDigest)
    (integrity "petfc_trajectory_policy_binding_mismatch")
  let zero ← FiniteF64.new f64Zero
  PetfcTrajectory.seal
    { baselineId := report.baselineId
      currentCandidateId := report.candidateId
      metricCatalogDigest := report.metricCatalogDigest
      evaluationPolicyDigest := report.evaluationPolicyDigest
      independenceDesignDigest := report.independenceDesignDigest
      petfcPolicyDigest := policy.policyDigest
      points := [
        ⟨report.baselineId, report.reportDigest, report.observationWindow,
          report.evidenceSufficient, report.estimates.map fun _ _ => ⟨zero, some zero⟩,
          report.baselineCoordinates⟩,
        report.candidatePoint]
      reportDigests := (∅ : BTreeSet _).insert report.reportDigest
      evidenceIds := report.evidenceIds }

def appendReport (t : PetfcTrajectory) (report : PairedEvaluationReport) :
    BrainResult PetfcTrajectory := do
  t.authenticate
  report.authenticate
  failIf (t.points.length ≥ maxTrajectoryPoints
      ∨ report.baselineId ≠ t.baselineId
      ∨ report.metricCatalogDigest ≠ t.metricCatalogDigest
      ∨ report.evaluationPolicyDigest ≠ t.evaluationPolicyDigest
      ∨ report.independenceDesignDigest ≠ t.independenceDesignDigest
      ∨ report.reportDigest ∈ t.reportDigests
      ∨ ¬BTreeSet.isDisjoint t.evidenceIds report.evidenceIds
      ∨ t.points.any fun p => p.checkpointId = report.candidateId)
    (integrity "petfc_trajectory_report_binding_invalid")
  let last ← okOr t.points.getLast? (integrity "petfc_trajectory_empty")
  failIf (report.observationWindow.startTick ≤ last.observationWindow.endTick)
    (integrity "petfc_trajectory_time_not_monotonic")
  PetfcTrajectory.seal
    { t.toPetfcTrajectoryDraft with
      currentCandidateId := report.candidateId
      points := t.points ++ [report.candidatePoint]
      reportDigests := t.reportDigests.insert report.reportDigest
      evidenceIds := BTreeSet.extend t.evidenceIds report.evidenceIds.toList }

end PetfcTrajectory

end

/-! ## Measuring a path -/

def f64One : F64 := F64.ofNat 1

def numericalEpsilon : F64 := ⟨0x3d719799812dea11, by decide⟩

/-- A scaled root mean square: the scale, the sum of squared ratios to it, and how
    many values there were. -/
structure RmsScan where
  count : Nat
  scale : F64
  sumSquares : F64

def rmsValue (acc : RmsScan) (value : F64) : BrainResult RmsScan := do
  let absolute := value.abs
  failIf (¬absolute.isFinite) (.numerical "stable_rms_input_nonfinite")
  let count ← checkedAdd u64Width acc.count 1 (invalid "stable_rms_count_overflow")
  if absolute.eq? f64Zero then return { acc with count := count }
  else if acc.scale.lt? absolute then
    let ratio := if acc.scale.eq? f64Zero then f64Zero else acc.scale / absolute
    return ⟨count, absolute, f64One + acc.sumSquares * ratio * ratio⟩
  else
    let ratio := absolute / acc.scale
    return ⟨count, acc.scale, acc.sumSquares + ratio * ratio⟩

def stableRms (values : List F64) : BrainResult F64 := do
  let acc ← values.foldlM rmsValue ⟨0, f64Zero, f64One⟩
  failIf (acc.count = 0) (invalid "stable_rms_empty")
  let result :=
    if acc.scale.eq? f64Zero then f64Zero
    else acc.scale * F64.sqrt (acc.sumSquares / F64.ofNat acc.count)
  failIf (¬result.isFinite) (.numerical "stable_rms_nonfinite")
  return result

def sumValue (acc : F64 × F64) (value : F64) : BrainResult (F64 × F64) := do
  let (sum, correction) := acc
  failIf (¬value.isFinite ∨ value.lt? f64Zero) (.numerical "petfc_sum_input_invalid")
  let updated := sum + value
  let lost := if value.abs.le? sum.abs then (sum - updated) + value else (value - updated) + sum
  return (updated, correction + lost)

def stableNonnegativeSum (values : List F64) : BrainResult F64 := do
  let (sum, correction) ← values.foldlM sumValue (f64Zero, f64Zero)
  let result := sum + correction
  failIf (¬result.isFinite) (.numerical "petfc_sum_nonfinite")
  return result

/-- The normalized bounds of the metrics in turn, unless a radius is missing. -/
def distanceComponents (left right : FunctionalPoint) :
    List (MetricId × PetfcMetricPolicy) → BrainResult (Option (List F64 × List F64))
  | [] => .ok (some ([], []))
  | (metricId, policy) :: rest => do
    let l ← okOr left.coordinates[metricId]? (integrity "petfc_coordinate_missing")
    let r ← okOr right.coordinates[metricId]? (integrity "petfc_coordinate_missing")
    match l.observedRadius, r.observedRadius with
    | some leftRadius, some rightRadius => do
      let difference := l.center.get - r.center.get
      let radius := leftRadius.get + rightRadius.get
      failIf (¬difference.isFinite ∨ ¬radius.isFinite)
        (.numerical "petfc_coordinate_interval_nonfinite")
      let scale := policy.normalizationScale.get
      let lower := F64.max (difference.abs - radius) f64Zero / scale
      let upper := (difference.abs + radius) / scale
      let others ← distanceComponents left right rest
      return others.map fun (lowers, uppers) => (lower :: lowers, upper :: uppers)
    | _, _ => return none

def intervalDistanceBounds (left right : FunctionalPoint)
    (metricPolicy : BTreeMap MetricId PetfcMetricPolicy) : BrainResult (Option (F64 × F64)) := do
  failIf (left.coordinates.size ≠ metricPolicy.size ∨ right.coordinates.size ≠ metricPolicy.size)
    (integrity "petfc_coordinate_schema_mismatch")
  match ← distanceComponents left right metricPolicy.toList with
  | none => return none
  | some (lowers, uppers) => do
    let lower ← stableRms lowers
    let upper ← stableRms uppers
    return some (lower, upper)

/-- Convert a number that was measured. -/
def finiteOption : Option F64 → BrainResult (Option FiniteF64)
  | none => .ok none
  | some value => (FiniteF64.new value).map some

/-! ## Reasons and the assessment -/

inductive PetfcDisposition where
  | compatibleForNextGate
  | reject
  | rollbackRequired
  | boundedUnknown
  deriving DecidableEq

def PetfcDisposition.wire : PetfcDisposition → String
  | .compatibleForNextGate => "compatible_for_next_gate"
  | .reject => "reject"
  | .rollbackRequired => "rollback_required"
  | .boundedUnknown => "bounded_unknown"

inductive PetfcReason where
  | provenHardViolation (metricId : MetricId) (checkpointId : VariantId)
  | hardInvariantNotEstablished (metricId : MetricId) (checkpointId : VariantId)
  | insufficientReports
  | insufficientIndependentGroups
  | missingObservedRadius (metricId : MetricId)
  | pathNotIdentifiable
  | closedReturn
  | stepDistanceExceeded
  | tortuosityExceeded
  | wasteExceeded
  | efficiencyBelowThreshold
  | conservationBudgetExceeded
  | metricDegradationExceeded (metricId : MetricId)
  | distributedDegradationExceeded
  | utilityBelowThreshold
  | qualityNotImproved
  deriving DecidableEq

namespace PetfcReason

/-- The identifiers of a reason, in the order of its fields. -/
def ids : PetfcReason → List String
  | provenHardViolation m c | hardInvariantNotEstablished m c => [m.str, c.str]
  | missingObservedRadius m | metricDegradationExceeded m => [m.str]
  | _ => []

def wire : PetfcReason → String
  | provenHardViolation _ _ => "proven_hard_violation"
  | hardInvariantNotEstablished _ _ => "hard_invariant_not_established"
  | insufficientReports => "insufficient_reports"
  | insufficientIndependentGroups => "insufficient_independent_groups"
  | missingObservedRadius _ => "missing_observed_radius"
  | pathNotIdentifiable => "path_not_identifiable"
  | closedReturn => "closed_return"
  | stepDistanceExceeded => "step_distance_exceeded"
  | tortuosityExceeded => "tortuosity_exceeded"
  | wasteExceeded => "waste_exceeded"
  | efficiencyBelowThreshold => "efficiency_below_threshold"
  | conservationBudgetExceeded => "conservation_budget_exceeded"
  | metricDegradationExceeded _ => "metric_degradation_exceeded"
  | distributedDegradationExceeded => "distributed_degradation_exceeded"
  | utilityBelowThreshold => "utility_below_threshold"
  | qualityNotImproved => "quality_not_improved"

instance : Ord PetfcReason := ordByPair PetfcReason.ctorIdx ids
instance : Std.TransOrd PetfcReason := transOrd_ordByPair PetfcReason.ctorIdx ids

def json : PetfcReason → Json
  | r@(provenHardViolation m c) | r@(hardInvariantNotEstablished m c) =>
    .obj [("reason", .str r.wire), ("metric_id", toJson m), ("checkpoint_id", toJson c)]
  | r@(missingObservedRadius m) | r@(metricDegradationExceeded m) =>
    .obj [("reason", .str r.wire), ("metric_id", toJson m)]
  | r => .obj [("reason", .str r.wire)]

instance : Serialize PetfcReason where
  toJson := json
  toJson_injective := by
    intro a b h
    cases a <;> cases b <;> simp_all [json, wire]

end PetfcReason

/-- What an assessment says, before it is sealed. -/
structure PetfcAssessmentDraft where
  baselineId : VariantId
  candidateId : VariantId
  metricCatalogDigest : MetricCatalogDigest
  evaluationPolicyDigest : RobustEvaluationPolicyDigest
  independenceDesignDigest : IndependenceDesignDigest
  terminalReportDigest : PairedEvaluationDigest
  trajectoryEvidenceIds : BTreeSet EvidenceId
  trajectoryObservationWindow : ObservationWindow
  trajectoryDigest : PetfcTrajectoryDigest
  policyDigest : PetfcPolicyDigest
  disposition : PetfcDisposition
  reasons : BTreeSet PetfcReason
  pathLengthLower : Option FiniteF64
  pathLengthUpper : Option FiniteF64
  endpointDistanceLower : Option FiniteF64
  endpointDistanceUpper : Option FiniteF64
  maximumStepUpper : Option FiniteF64
  tortuosityUpper : Option FiniteF64
  wasteUpper : Option FiniteF64
  qualityGainLower : Option FiniteF64
  pathEfficiencyLower : Option FiniteF64
  conservationSumUpper : Option FiniteF64
  conservationMaxUpper : Option FiniteF64
  degradedMetricCount : Nat
  distributedDegradationUpper : Option FiniteF64
  utilityLower : Option FiniteF64

structure PetfcAssessment extends PetfcAssessmentDraft where
  assessmentDigest : PetfcAssessmentDigest

def PetfcAssessmentDraft.projection (d : PetfcAssessmentDraft) : Json :=
  .obj [("baseline_id", toJson d.baselineId), ("candidate_id", toJson d.candidateId),
    ("metric_catalog_digest", toJson d.metricCatalogDigest),
    ("evaluation_policy_digest", toJson d.evaluationPolicyDigest),
    ("independence_design_digest", toJson d.independenceDesignDigest),
    ("terminal_report_digest", toJson d.terminalReportDigest),
    ("trajectory_evidence_ids", toJson d.trajectoryEvidenceIds),
    ("trajectory_observation_window", toJson d.trajectoryObservationWindow),
    ("trajectory_digest", toJson d.trajectoryDigest), ("policy_digest", toJson d.policyDigest),
    ("disposition", toJson d.disposition.wire), ("reasons", toJson d.reasons),
    ("path_length_lower", toJson d.pathLengthLower),
    ("path_length_upper", toJson d.pathLengthUpper),
    ("endpoint_distance_lower", toJson d.endpointDistanceLower),
    ("endpoint_distance_upper", toJson d.endpointDistanceUpper),
    ("maximum_step_upper", toJson d.maximumStepUpper),
    ("tortuosity_upper", toJson d.tortuosityUpper), ("waste_upper", toJson d.wasteUpper),
    ("quality_gain_lower", toJson d.qualityGainLower),
    ("path_efficiency_lower", toJson d.pathEfficiencyLower),
    ("conservation_sum_upper", toJson d.conservationSumUpper),
    ("conservation_max_upper", toJson d.conservationMaxUpper),
    ("degraded_metric_count", toJson d.degradedMetricCount),
    ("distributed_degradation_upper", toJson d.distributedDegradationUpper),
    ("utility_lower", toJson d.utilityLower)]

/-! ## The assessment of a trajectory -/

/-- The reasons found so far, by severity. -/
structure PetfcReasons where
  hard : BTreeSet PetfcReason
  soft : BTreeSet PetfcReason
  unknown : BTreeSet PetfcReason

namespace PetfcReasons

def addHard (acc : PetfcReasons) (r : PetfcReason) : PetfcReasons :=
  { acc with hard := acc.hard.insert r }

def addSoft (acc : PetfcReasons) (r : PetfcReason) : PetfcReasons :=
  { acc with soft := acc.soft.insert r }

def addUnknown (acc : PetfcReasons) (r : PetfcReason) : PetfcReasons :=
  { acc with unknown := acc.unknown.insert r }

def softIf (acc : PetfcReasons) (c : Bool) (r : PetfcReason) : PetfcReasons :=
  if c then acc.addSoft r else acc

end PetfcReasons

def pointMetric (point : FunctionalPoint) (acc : PetfcReasons) (entry : MetricId × MetricSpec) :
    BrainResult PetfcReasons := do
  let (metricId, spec) := entry
  let coordinate ← okOr point.absoluteCoordinates[metricId]?
    (integrity "petfc_absolute_coordinate_missing")
  match coordinate.observedRadius with
  | none => return acc.addUnknown (.missingObservedRadius metricId)
  | some radius => do
    let lower := coordinate.center.get - radius.get
    let upper := coordinate.center.get + radius.get
    failIf (¬lower.isFinite ∨ ¬upper.isFinite) (.numerical "petfc_absolute_interval_nonfinite")
    match spec.hardInvariant.map (·.classifyInterval lower upper) with
    | some InvariantIntervalStatus.provenViolation =>
      return acc.addHard (.provenHardViolation metricId point.checkpointId)
    | some InvariantIntervalStatus.notEstablished =>
      return acc.addUnknown (.hardInvariantNotEstablished metricId point.checkpointId)
    | _ => return acc

def stepBound (metrics : BTreeMap MetricId PetfcMetricPolicy)
    (acc : PetfcReasons × List (F64 × F64)) (pair : FunctionalPoint × FunctionalPoint) :
    BrainResult (PetfcReasons × List (F64 × F64)) := do
  let (reasons, bounds) := acc
  match ← intervalDistanceBounds pair.1 pair.2 metrics with
  | some b => return (reasons, bounds ++ [b])
  | none => return (reasons.addUnknown .pathNotIdentifiable, bounds)

/-- The length of a path and its longest step, where every step is bounded. -/
structure PathMeasures where
  lower : Option F64
  upper : Option F64
  maximumStep : Option F64

def pathMeasures (stepBounds : List (F64 × F64)) (pointCount : Nat) :
    BrainResult PathMeasures :=
  if stepBounds.length = pointCount - 1 ∧ ¬stepBounds.isEmpty then do
    let lower ← stableNonnegativeSum (stepBounds.map Prod.fst)
    let upper ← stableNonnegativeSum (stepBounds.map Prod.snd)
    let maximum ← okOr (F64.maxByTotal (stepBounds.map Prod.snd))
      (integrity "petfc_step_bounds_empty")
    return ⟨some lower, some upper, some maximum⟩
  else .ok ⟨none, none, none⟩

def tortuosityBound (acc : PetfcReasons) (pathUpper endpointLower endpointUpper : Option F64) :
    PetfcReasons × Option F64 :=
  match pathUpper, endpointLower with
  | some path, some endpoint =>
    if path.le? numericalEpsilon then (acc, some f64One)
    else if numericalEpsilon.lt? endpoint then (acc, some (path / endpoint))
    else if numericalEpsilon.lt? path then
      if endpointUpper.any (·.le? numericalEpsilon) then (acc.addSoft .closedReturn, none)
      else (acc.addUnknown .pathNotIdentifiable, none)
    else (acc, none)
  | _, _ => (acc, none)

def wasteBound (pathUpper endpointLower : Option F64) : Option F64 :=
  match pathUpper, endpointLower with
  | some path, some endpoint =>
    if path.le? numericalEpsilon then some f64Zero
    else some ((f64One - endpoint / path).clamp f64Zero f64One)
  | _, _ => none

def qualityGain (policy : PetfcPolicy) (spec : MetricSpec) (metric : PetfcMetricPolicy)
    (acc : PetfcReasons) (start end_ : FunctionalCoordinate) :
    BrainResult (PetfcReasons × Option F64) :=
  match start.observedRadius, end_.observedRadius with
  | some startRadius, some endRadius => do
    let orientedGain := spec.direction.orient end_.center.get
      - spec.direction.orient start.center.get
    let uncertainty := startRadius.get + endRadius.get
    let value := (orientedGain - uncertainty) / metric.normalizationScale.get
    failIf (¬value.isFinite) (.numerical "petfc_quality_gain_nonfinite")
    return (acc, some value)
  | _, _ => .ok (acc.addUnknown (.missingObservedRadius policy.qualityMetricId), none)

def degradationMetric (catalog : MetricCatalog) (first last : FunctionalPoint)
    (acc : PetfcReasons × BTreeMap MetricId F64) (entry : MetricId × PetfcMetricPolicy) :
    BrainResult (PetfcReasons × BTreeMap MetricId F64) := do
  let (reasons, degradations) := acc
  let (metricId, metricPolicy) := entry
  let spec ← okOr catalog[metricId]? (integrity "petfc_metric_spec_missing")
  let start ← okOr first.coordinates[metricId]? (integrity "petfc_coordinate_missing")
  let end_ ← okOr last.coordinates[metricId]? (integrity "petfc_coordinate_missing")
  match start.observedRadius, end_.observedRadius with
  | some startRadius, some endRadius => do
    let orientedStart := spec.direction.orient start.center.get
    let orientedEnd := spec.direction.orient end_.center.get
    let worst := F64.max (orientedStart - orientedEnd + startRadius.get + endRadius.get) f64Zero
      / metricPolicy.normalizationScale.get
    failIf (¬worst.isFinite) (.numerical "petfc_conservation_nonfinite")
    return (reasons.softIf (metricPolicy.maximumNormalizedEndpointDegradation.get.lt? worst)
      (.metricDegradationExceeded metricId), degradations.insert metricId worst)
  | _, _ => return (reasons.addUnknown (.missingObservedRadius metricId), degradations)

/-- The degradation in proportion to the worst metric's. -/
def distributedBound (sum maximum : Option F64) : Option F64 :=
  match sum, maximum with
  | some sum, some maximum =>
    if maximum.le? numericalEpsilon then some f64Zero else some (sum / maximum)
  | _, _ => none

def utilityBound (policy : PetfcPolicy) (gain path conservation tortuosity : Option F64) :
    BrainResult (Option F64) :=
  match gain, path, conservation, tortuosity with
  | some gain, some path, some conservation, some tortuosity => do
    let excess := F64.max (tortuosity - policy.path.maximumTortuosity.get) f64Zero
    let value := gain
      - policy.utility.pathPenalty.get * path
      - policy.utility.conservationPenalty.get * conservation
      - policy.utility.tortuosityPenalty.get * excess * excess
    failIf (¬value.isFinite) (.numerical "petfc_utility_nonfinite")
    return some value
  | _, _, _, _ => .ok none

/-- What was measured, before it is converted and sealed. -/
structure PetfcMeasures where
  reasons : PetfcReasons
  path : PathMeasures
  endpointLower : Option F64
  endpointUpper : Option F64
  tortuosity : Option F64
  waste : Option F64
  qualityGain : Option F64
  pathEfficiency : Option F64
  conservationSum : Option F64
  conservationMax : Option F64
  degradedMetricCount : Nat
  distributed : Option F64
  utility : Option F64

def pointReasons (catalog : MetricCatalog) (points : List FunctionalPoint) (reportCount : Nat)
    (policy : PetfcPolicy) : BrainResult PetfcReasons := do
  let acc : PetfcReasons := ⟨∅, ∅, ∅⟩
  let acc := if reportCount < policy.path.minimumReports then acc.addUnknown .insufficientReports
    else acc
  let acc := if points.any fun p => !p.sourceEvidenceSufficient then
    acc.addUnknown .insufficientIndependentGroups else acc
  points.foldlM (fun acc point => catalog.toList.foldlM (pointMetric point) acc) acc

/-- Measure the path and the conservation of a trajectory. -/
def measurePetfc (catalog : MetricCatalog) (points : List FunctionalPoint) (reportCount : Nat)
    (policy : PetfcPolicy) : BrainResult PetfcMeasures := do
  let acc ← pointReasons catalog points reportCount policy
  let (acc, stepBounds) ← (windows2 points).foldlM (stepBound policy.metrics) (acc, [])
  let first ← okOr points.head? (integrity "petfc_trajectory_empty")
  let last ← okOr points.getLast? (integrity "petfc_trajectory_empty")
  let endpointBounds ← intervalDistanceBounds first last policy.metrics
  let path ← pathMeasures stepBounds points.length
  let endpointLower := endpointBounds.map Prod.fst
  let endpointUpper := endpointBounds.map Prod.snd
  let acc := acc.softIf (path.maximumStep.any (policy.path.maximumStepDistance.get.lt? ·))
    .stepDistanceExceeded
  let (acc, tortuosity) := tortuosityBound acc path.upper endpointLower endpointUpper
  let acc := acc.softIf (tortuosity.any (policy.path.maximumTortuosity.get.lt? ·))
    .tortuosityExceeded
  let waste := wasteBound path.upper endpointLower
  let acc := acc.softIf (waste.any (policy.path.maximumWaste.get.lt? ·)) .wasteExceeded
  let qualitySpec ← okOr catalog[policy.qualityMetricId]? (integrity "petfc_quality_metric_missing")
  let qualityPolicy ← okOr policy.metrics[policy.qualityMetricId]?
    (integrity "petfc_quality_policy_missing")
  let qualityStart ← okOr first.coordinates[policy.qualityMetricId]?
    (integrity "petfc_quality_coordinate_missing")
  let qualityEnd ← okOr last.coordinates[policy.qualityMetricId]?
    (integrity "petfc_quality_coordinate_missing")
  let (acc, gain) ← qualityGain policy qualitySpec qualityPolicy acc qualityStart qualityEnd
  let acc := acc.softIf (gain.any (·.le? f64Zero)) .qualityNotImproved
  let pathEfficiency := match gain, path.upper with
    | some gain, some path => if path.le? numericalEpsilon then none else some (gain / path)
    | _, _ => none
  let acc := match pathEfficiency with
    | none => acc.addUnknown .pathNotIdentifiable
    | some value => acc.softIf (value.lt? policy.path.minimumPathEfficiency.get)
      .efficiencyBelowThreshold
  let (acc, degradations) ← policy.metrics.toList.foldlM (degradationMetric catalog first last)
    (acc, ∅)
  let complete := degradations.size = policy.metrics.size
  let conservationSum ← if complete then
    (stableNonnegativeSum (BTreeMap.values degradations)).map some else .ok none
  let conservationMax := if complete then F64.maxByTotal (BTreeMap.values degradations) else none
  let degradedMetricCount := degradations.toList.countP fun entry =>
    (policy.metrics[entry.1]?).any fun metric =>
      metric.maximumNormalizedEndpointDegradation.get.lt? entry.2
  let distributed := distributedBound conservationSum conservationMax
  let acc := acc.softIf
    (conservationSum.any (policy.conservation.maximumSoftDegradationSum.get.lt? ·))
    .conservationBudgetExceeded
  let acc := acc.softIf
    (policy.conservation.maximumDegradedMetricCount < degradedMetricCount)
    .conservationBudgetExceeded
  let acc := acc.softIf
    (distributed.any (policy.conservation.maximumDistributedDegradation.get.lt? ·))
    .distributedDegradationExceeded
  let utility ← utilityBound policy gain path.upper conservationSum tortuosity
  let acc := acc.softIf (utility.any (·.lt? policy.utility.minimumUtility.get))
    .utilityBelowThreshold
  return { reasons := acc
           path := path
           endpointLower := endpointLower
           endpointUpper := endpointUpper
           tortuosity := tortuosity
           waste := waste
           qualityGain := gain
           pathEfficiency := pathEfficiency
           conservationSum := conservationSum
           conservationMax := conservationMax
           degradedMetricCount := degradedMetricCount
           distributed := distributed
           utility := utility }

/-- A violation at the baseline cannot be remedied by rolling back to it. -/
def PetfcReasons.disposition (acc : PetfcReasons) (baselineId : VariantId) : PetfcDisposition :=
  if acc.hard.toList.any fun r => match r with
    | .provenHardViolation _ checkpointId => checkpointId = baselineId
    | _ => false
  then .reject
  else if ¬acc.hard.isEmpty then .rollbackRequired
  else if ¬acc.soft.isEmpty then .reject
  else if ¬acc.unknown.isEmpty then .boundedUnknown
  else .compatibleForNextGate

section

variable [Platform]

def PetfcAssessment.authenticate (a : PetfcAssessment) : BrainResult Unit :=
  failIf (SealedDigest.fromProjection _ petfcAssessmentDomain a.projection ≠ a.assessmentDigest)
    (integrity "petfc_assessment_digest_mismatch")

def evaluatePetfc (specs : List MetricSpec) (t : PetfcTrajectory) (policy : PetfcPolicy) :
    BrainResult PetfcAssessment := do
  t.authenticate
  let catalog ← canonicalSpecs specs
  let catalogDigest := Governance.metricCatalogDigest catalog
  failIf (t.metricCatalogDigest ≠ catalogDigest
      ∨ policy.metricCatalogDigest ≠ catalogDigest
      ∨ t.petfcPolicyDigest ≠ policy.policyDigest
      ∨ policy.metrics.size ≠ catalog.size
      ∨ policy.metrics.keys.any (· ∉ catalog))
    (integrity "petfc_metric_catalog_binding_mismatch")
  failIf (t.reportDigests.size > policy.path.maximumReports) (invalid "petfc_report_limit_exceeded")
  let m ← measurePetfc catalog t.points t.reportDigests.size policy
  let pathLengthLower ← finiteOption m.path.lower
  let pathLengthUpper ← finiteOption m.path.upper
  let endpointDistanceLower ← finiteOption m.endpointLower
  let endpointDistanceUpper ← finiteOption m.endpointUpper
  let maximumStepUpper ← finiteOption m.path.maximumStep
  let tortuosityUpper ← finiteOption m.tortuosity
  let wasteUpper ← finiteOption m.waste
  let qualityGainLower ← finiteOption m.qualityGain
  let pathEfficiencyLower ← finiteOption m.pathEfficiency
  let conservationSumUpper ← finiteOption m.conservationSum
  let conservationMaxUpper ← finiteOption m.conservationMax
  let distributedDegradationUpper ← finiteOption m.distributed
  let utilityLower ← finiteOption m.utility
  let first ← okOr t.points.head? (integrity "petfc_trajectory_empty")
  let last ← okOr t.points.getLast? (integrity "petfc_trajectory_empty")
  let window ← ObservationWindow.new first.observationWindow.startTick
    last.observationWindow.endTick
  let draft : PetfcAssessmentDraft :=
    { baselineId := t.baselineId
      candidateId := t.currentCandidateId
      metricCatalogDigest := t.metricCatalogDigest
      evaluationPolicyDigest := t.evaluationPolicyDigest
      independenceDesignDigest := t.independenceDesignDigest
      terminalReportDigest := last.sourceReportDigest
      trajectoryEvidenceIds := t.evidenceIds
      trajectoryObservationWindow := window
      trajectoryDigest := t.trajectoryDigest
      policyDigest := policy.policyDigest
      disposition := m.reasons.disposition t.baselineId
      reasons := .ofList
        (m.reasons.hard.toList ++ m.reasons.soft.toList ++ m.reasons.unknown.toList)
      pathLengthLower := pathLengthLower
      pathLengthUpper := pathLengthUpper
      endpointDistanceLower := endpointDistanceLower
      endpointDistanceUpper := endpointDistanceUpper
      maximumStepUpper := maximumStepUpper
      tortuosityUpper := tortuosityUpper
      wasteUpper := wasteUpper
      qualityGainLower := qualityGainLower
      pathEfficiencyLower := pathEfficiencyLower
      conservationSumUpper := conservationSumUpper
      conservationMaxUpper := conservationMaxUpper
      degradedMetricCount := m.degradedMetricCount
      distributedDegradationUpper := distributedDegradationUpper
      utilityLower := utilityLower }
  let assessment : PetfcAssessment :=
    ⟨draft, .fromProjection _ petfcAssessmentDomain draft.projection⟩
  assessment.authenticate
  return assessment

/-! ## What a trajectory and its assessment say about the reports -/

/-- A trajectory that collects the given reports, in order. -/
inductive PetfcTrajectory.Built (policy : PetfcPolicy) :
    List PairedEvaluationReport → PetfcTrajectory → Prop
  | start {report : PairedEvaluationReport} {t : PetfcTrajectory}
      (h : PetfcTrajectory.start report policy = .ok t) : Built policy [report] t
  | append {reports : List PairedEvaluationReport} {report : PairedEvaluationReport}
      {t t' : PetfcTrajectory} (hbuilt : Built policy reports t)
      (h : t.appendReport report = .ok t') : Built policy (reports ++ [report]) t'

/-- No evidence of one report is evidence of another. -/
def PairedEvaluationReport.DisjointFrom (a b : PairedEvaluationReport) : Prop :=
  ∀ e ∈ a.evidenceIds, e ∉ b.evidenceIds

/-- The second report was observed strictly after the first. -/
def PairedEvaluationReport.Before (a b : PairedEvaluationReport) : Prop :=
  a.observationWindow.endTick < b.observationWindow.startTick

omit [Platform] in
lemma PairedEvaluationReport.endTick_le_getLast {reports : List PairedEvaluationReport}
    {r last : PairedEvaluationReport}
    (h : reports.Pairwise Before) (hlast : reports.getLast? = some last)
    (hr : r ∈ reports) : r.observationWindow.endTick ≤ last.observationWindow.endTick := by
  obtain ⟨init, rfl⟩ := getLast?_eq_some_iff.mp hlast
  rcases mem_append.mp hr with hr | hr
  · have hbefore := (pairwise_append.mp h).2.2 r hr last (mem_singleton_self _)
    have hstart := last.observationWindow.start_le
    unfold Before at hbefore
    omega
  · rw [mem_singleton.mp hr]

/-- What holds of a trajectory and the reports it was built of. -/
structure TrajectoryInv (reports : List PairedEvaluationReport) (t : PetfcTrajectory) : Prop where
  evidence : ∀ e, e ∈ t.evidenceIds ↔ ∃ r ∈ reports, e ∈ r.evidenceIds
  disjoint : reports.Pairwise PairedEvaluationReport.DisjointFrom
  ordered : reports.Pairwise PairedEvaluationReport.Before
  last : t.points.getLast?.map FunctionalPoint.observationWindow =
    reports.getLast?.map PairedEvaluationReport.observationWindow

variable {policy : PetfcPolicy} {reports : List PairedEvaluationReport}
  {report : PairedEvaluationReport} {t t' : PetfcTrajectory} {specs : List MetricSpec}

lemma PetfcTrajectory.seal_ok {d : PetfcTrajectoryDraft} (h : PetfcTrajectory.seal d = .ok t) :
    t.toPetfcTrajectoryDraft = d := by
  simp only [PetfcTrajectory.seal, bind_ok, pure_ok] at h
  obtain ⟨_, -, _, -, rfl⟩ := h
  rfl

lemma trajectoryInv_start (h : PetfcTrajectory.start report policy = .ok t) :
    TrajectoryInv [report] t := by
  simp only [PetfcTrajectory.start, bind_ok] at h
  obtain ⟨_, -, _, -, zero, -, hseal⟩ := h
  have hdraft := PetfcTrajectory.seal_ok hseal
  refine ⟨?_, pairwise_singleton _ _, pairwise_singleton _ _, ?_⟩
  · intro e
    rw [hdraft]
    simp
  · rw [hdraft]
    rfl

lemma TrajectoryInv.append (ht : TrajectoryInv reports t)
    (h : t.appendReport report = .ok t') : TrajectoryInv (reports ++ [report]) t' := by
  simp only [PetfcTrajectory.appendReport, bind_ok, failIf_ok, okOr_ok, not_or, not_not] at h
  obtain ⟨_, -, _, -, _, hbound, last, hlast, _, hmonotonic, hseal⟩ := h
  have hdraft := PetfcTrajectory.seal_ok hseal
  have hdisjoint := BTreeSet.isDisjoint_iff.mp hbound.2.2.2.2.2.2.1
  -- the last point carries the window of the last report
  have hlastReport : ∃ r, reports.getLast? = some r ∧ r.observationWindow = last.observationWindow := by
    have heq := ht.last
    rw [hlast] at heq
    cases hr : reports.getLast? with
    | none => rw [hr] at heq; cases heq
    | some r =>
      rw [hr] at heq
      exact ⟨r, rfl, (Option.some.inj heq).symm⟩
  obtain ⟨r, hr, hwindow⟩ := hlastReport
  refine ⟨?_, ?_, ?_, ?_⟩
  · intro e
    rw [hdraft]
    simp only [BTreeSet.mem_extend, mem_append, mem_singleton, ht.evidence,
      Std.ExtTreeSet.mem_toList]
    constructor
    · intro he
      rcases he with ⟨s, hs, he⟩ | he
      · exact ⟨s, .inl hs, he⟩
      · exact ⟨report, .inr rfl, he⟩
    · intro he
      obtain ⟨s, hs | hs, he⟩ := he
      · exact .inl ⟨s, hs, he⟩
      · rw [hs] at he
        exact .inr he
  · refine pairwise_concat ht.disjoint ?_
    intro a ha e he
    exact hdisjoint e ((ht.evidence e).mpr ⟨a, ha, he⟩)
  · refine pairwise_concat ht.ordered ?_
    intro a ha
    have hle := endTick_le_getLast ht.ordered hr ha
    rw [hwindow] at hle
    unfold Before
    omega
  · rw [hdraft]
    simp [candidatePoint]

/-- What holds of every trajectory that start and append build. -/
lemma PetfcTrajectory.Built.inv (h : PetfcTrajectory.Built policy reports t) :
    TrajectoryInv reports t := by
  induction h with
  | start h => exact trajectoryInv_start h
  | append _ h ih => exact ih.append h

/-- What an assessment takes over from the trajectory. -/
structure Assesses (t : PetfcTrajectory) (a : PetfcAssessment) : Prop where
  evidence_eq : a.trajectoryEvidenceIds = t.evidenceIds
  candidate_eq : a.candidateId = t.currentCandidateId
  window_eq : ∃ last, t.points.getLast? = some last ∧
    a.trajectoryObservationWindow.endTick = last.observationWindow.endTick

lemma evaluatePetfc_spec {a : PetfcAssessment} (h : evaluatePetfc specs t policy = .ok a) :
    Assesses t a := by
  simp only [evaluatePetfc, bind_ok, okOr_ok, pure_ok, ObservationWindow.new_ok]
    at h
  -- the thirteen measured numbers are converted first, then the window is taken
  obtain ⟨_, -, _, -, _, -, _, -, _, -, _, -, _, -, _, -, _, -, _, -, _, -, _, -, _, -, _, -, _, -,
    _, -, _, -, _, -, _, -, last, hlast, window, hwindow, _, -, rfl⟩ := h
  exact ⟨rfl, rfl, last, hlast, hwindow.2⟩

def PetfcMeasures.allFinite (m : PetfcMeasures) : Bool :=
  [m.path.lower, m.path.upper, m.endpointLower, m.endpointUpper, m.path.maximumStep,
    m.tortuosity, m.waste, m.qualityGain, m.pathEfficiency, m.conservationSum,
    m.conservationMax, m.distributed, m.utility].all fun o => o.all F64.isFinite

omit [Platform] in
lemma finiteOption_ok {o : Option F64} (h : o.all F64.isFinite = true) :
    ∃ x, finiteOption o = .ok x := by
  cases o with
  | none => exact ⟨none, rfl⟩
  | some value =>
    refine ⟨some ⟨value, h⟩, ?_⟩
    have hnew : FiniteF64.new value = .ok ⟨value, h⟩ := (FiniteF64.new_ok).mpr rfl
    rw [finiteOption, hnew]
    rfl

def PetfcReasons.all (acc : PetfcReasons) : BTreeSet PetfcReason :=
  .ofList (acc.hard.toList ++ acc.soft.toList ++ acc.unknown.toList)

/-- When an assessment succeeds, and what it then says. -/
lemma evaluatePetfc_ok {catalog : MetricCatalog} {m : PetfcMeasures}
    {first last : FunctionalPoint} (hauthentic : t.authenticate = .ok ())
    (hcatalog : canonicalSpecs specs = .ok catalog)
    (hbound : ¬(t.metricCatalogDigest ≠ metricCatalogDigest catalog
      ∨ policy.metricCatalogDigest ≠ metricCatalogDigest catalog
      ∨ t.petfcPolicyDigest ≠ policy.policyDigest ∨ policy.metrics.size ≠ catalog.size
      ∨ policy.metrics.keys.any (· ∉ catalog)))
    (hreports : ¬t.reportDigests.size > policy.path.maximumReports)
    (hmeasured : measurePetfc catalog t.points t.reportDigests.size policy = .ok m)
    (hfinite : m.allFinite = true) (hfirst : t.points.head? = some first)
    (hlast : t.points.getLast? = some last)
    (horder : first.observationWindow.startTick ≤ last.observationWindow.endTick) :
    ∃ a, evaluatePetfc specs t policy = .ok a ∧ a.authenticate = .ok () ∧
      a.disposition = m.reasons.disposition t.baselineId ∧ a.reasons = m.reasons.all ∧
      a.baselineId = t.baselineId ∧ a.candidateId = t.currentCandidateId ∧
      a.metricCatalogDigest = t.metricCatalogDigest ∧
      a.evaluationPolicyDigest = t.evaluationPolicyDigest ∧
      a.independenceDesignDigest = t.independenceDesignDigest ∧
      a.trajectoryEvidenceIds = t.evidenceIds ∧
      a.trajectoryObservationWindow.endTick = last.observationWindow.endTick := by
  have hnumber : ∀ o ∈ _, ∃ x, finiteOption o = .ok x := fun o ho =>
    finiteOption_ok (all_eq_true.mp hfinite o ho)
  simp only [forall_mem_cons, not_mem_nil, false_implies, implies_true, and_true]
    at hnumber
  obtain ⟨⟨x₁, h₁⟩, ⟨x₂, h₂⟩, ⟨x₃, h₃⟩, ⟨x₄, h₄⟩, ⟨x₅, h₅⟩, ⟨x₆, h₆⟩, ⟨x₇, h₇⟩, ⟨x₈, h₈⟩,
    ⟨x₉, h₉⟩, ⟨x₁₀, h₁₀⟩, ⟨x₁₁, h₁₁⟩, ⟨x₁₂, h₁₂⟩, ⟨x₁₃, h₁₃⟩⟩ := hnumber
  simp only [evaluatePetfc, bind_ok, okOr_ok, pure_ok, failIf_ok, ObservationWindow.new_ok]
  -- the thirteen measured numbers are converted first, then the window is taken
  refine ⟨_, ⟨(), hauthentic, catalog, hcatalog, (), hbound, (), hreports, m, hmeasured,
    x₁, h₁, x₂, h₂, x₃, h₃, x₄, h₄, x₅, h₅, x₆, h₆, x₇, h₇, x₈, h₈, x₉, h₉, x₁₀, h₁₀, x₁₁, h₁₁,
    x₁₂, h₁₂, x₁₃, h₁₃, first, hfirst, last, hlast,
    ⟨first.observationWindow.startTick, last.observationWindow.endTick, horder⟩, ⟨rfl, rfl⟩,
    (), ?_, rfl⟩, ?_, rfl, rfl, rfl, rfl, rfl, rfl, rfl, rfl, rfl⟩
  · exact failIf_ok.mpr (not_not.mpr rfl)
  · exact failIf_ok.mpr (not_not.mpr rfl)

end

end Tidex.Governance
