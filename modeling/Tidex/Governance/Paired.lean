/-
  Governance.Paired — the evaluation of paired observations.
-/
import Mathlib.Order.Bounds.Defs
import Tidex.Foundation.Reference
import Tidex.Governance.Gate
import Tidex.Lib.Exchange

namespace Tidex.Governance

open Tidex.Lib List Std.ExtTreeMap BTreeMap

/-! ## Observations and policies -/

def maxObservations : Nat := 1000000
def maxPairsPerGroup : Nat := 65536

def observationSetDomain : String := "TIDEX:PAIRED-OBSERVATIONS:v1\x00"
def independenceDesignDomain : String := "TIDEX:INDEPENDENCE-DESIGN:v1\x00"

structure PairedExperimentalUnit where
  independenceGroup : IndependenceGroupId
  pairId : PairId
  evidenceId : EvidenceId
  observationWindow : ObservationWindow

structure PairedObservation where
  metricId : MetricId
  unit : PairedExperimentalUnit
  baselineValue : FiniteF64
  candidateValue : FiniteF64

def PairedObservation.json (o : PairedObservation) : Json :=
  .obj [("metric_id", toJson o.metricId),
    ("unit", .obj [("independence_group", toJson o.unit.independenceGroup),
      ("pair_id", toJson o.unit.pairId), ("evidence_id", toJson o.unit.evidenceId),
      ("observation_window", toJson o.unit.observationWindow)]),
    ("baseline_value", toJson o.baselineValue), ("candidate_value", toJson o.candidateValue)]

structure RobustEvaluationPolicy where
  minimumIndependentGroups : Nat
  medianOfMeansBlocks : Nat
  maximumObservations : Nat
  policyDigest : RobustEvaluationPolicyDigest
  groups : 2 ≤ minimumIndependentGroups ∧ minimumIndependentGroups ≤ maxGroups
  blocks : 2 ≤ medianOfMeansBlocks ∧ medianOfMeansBlocks ≤ minimumIndependentGroups
  observations : 0 < maximumObservations ∧ maximumObservations ≤ maxObservations

/-! ## Reducers -/

def meanStep (scale : F64) (acc : F64 × F64) (value : F64) : F64 × F64 :=
  let value := value / scale
  let updated := acc.1 + value
  let lost := if value.abs.le? acc.1.abs then (acc.1 - updated) + value
    else (value - updated) + acc.1
  (updated, acc.2 + lost)

def stableMean (values : List F64) : BrainResult F64 := do
  failIf (values.isEmpty ∨ values.any fun value => !value.isFinite)
    (invalid "governance_mean_input_invalid")
  let scale := (values.map F64.abs).foldl F64.max f64Zero
  if scale.eq? f64Zero then return f64Zero
  let acc := values.foldl (meanStep scale) (f64Zero, f64Zero)
  let mean := (acc.1 + acc.2) / F64.ofNat values.length * scale
  failIf (¬mean.isFinite) (.numerical "governance_mean_nonfinite")
  return mean

def median (values : List F64) : BrainResult F64 := do
  failIf (values.isEmpty ∨ values.any fun value => !value.isFinite)
    (invalid "governance_median_input_invalid")
  let sorted := values.mergeSort fun a b => a.totalKey ≤ b.totalKey
  let middle := sorted.length / 2
  if sorted.length % 2 = 1 then
    okOr sorted[middle]? (invalid "governance_median_input_invalid")
  else
    let lower ← okOr sorted[middle - 1]? (invalid "governance_median_input_invalid")
    let upper ← okOr sorted[middle]? (invalid "governance_median_input_invalid")
    stableMean [lower, upper]

def blockValues (values : List F64) (blocks block : Nat) : List F64 :=
  (values.zipIdx.filter fun entry => entry.2 % blocks = block).map Prod.fst

def medianOfMeans (values : List F64) (blocks : Nat) : BrainResult F64 := do
  failIf (values.isEmpty ∨ blocks = 0 ∨ values.length < blocks)
    (invalid "governance_median_of_means_shape")
  let means ← (List.range blocks).mapM fun block => stableMean (blockValues values blocks block)
  median means

/-- The larger of two values in the order of all doubles. -/
def totalMax (a b : F64) : F64 :=
  if b.totalKey < a.totalKey then a else b

def observedRadius (values : List F64) (center : F64) : BrainResult (Option F64) := do
  failIf (values.isEmpty ∨ ¬center.isFinite) (invalid "governance_observed_radius_input_invalid")
  if values.length < 2 then return none
  let radii := values.map fun value => (value - center).abs
  let first ← okOr radii.head? (invalid "governance_observed_radius_empty")
  let radius := radii.tail.foldl totalMax first
  failIf (¬radius.isFinite) (.numerical "governance_observed_radius_nonfinite")
  return some radius

/-! ## Registers -/

def observationOrder (left right : PairedObservation) : Ordering :=
  (compare left.metricId right.metricId).then
    ((compare left.unit.pairId right.unit.pairId).then
      (compare left.unit.independenceGroup right.unit.independenceGroup))

def canonicalObservations (observations : List PairedObservation) : List PairedObservation :=
  observations.mergeSort fun left right => (observationOrder left right).isLE

structure PairBinding where
  group : IndependenceGroupId
  evidenceId : EvidenceId
  window : ObservationWindow
  deriving DecidableEq

def PairedObservation.binding (o : PairedObservation) : PairBinding :=
  ⟨o.unit.independenceGroup, o.unit.evidenceId, o.unit.observationWindow⟩

structure PairedValues where
  unit : PairedExperimentalUnit
  baseline : F64
  candidate : F64

def PairedObservation.values (o : PairedObservation) : PairedValues :=
  ⟨o.unit, o.baselineValue.get, o.candidateValue.get⟩

structure PairedRegisters where
  pairRegistry : BTreeMap PairId PairBinding
  evidenceRegistry : BTreeMap EvidenceId PairId
  byMetric : BTreeMap MetricId (BTreeMap PairId PairedValues)

def registerPair : BTreeMap PairId PairBinding → PairedObservation →
    BrainResult (BTreeMap PairId PairBinding) :=
  insertAgreeing (fun o : PairedObservation => o.unit.pairId) PairedObservation.binding
    (integrity "governance_pair_identity_relabelled")

def registerEvidence : BTreeMap EvidenceId PairId → PairedObservation →
    BrainResult (BTreeMap EvidenceId PairId) :=
  insertAgreeing (fun o : PairedObservation => o.unit.evidenceId)
    (fun o => o.unit.pairId) (integrity "governance_evidence_reused_across_pairs")

def registerValues : BTreeMap MetricId (BTreeMap PairId PairedValues) → PairedObservation →
    BrainResult (BTreeMap MetricId (BTreeMap PairId PairedValues)) :=
  insertNested PairedObservation.metricId (fun o => o.unit.pairId)
    PairedObservation.values (integrity "governance_paired_observation_duplicate")

def registerObservation (specs : MetricCatalog) (r : PairedRegisters) (o : PairedObservation) :
    BrainResult PairedRegisters := do
  failIf (o.metricId ∉ specs) (invalid "governance_observation_metric_unknown")
  let pairRegistry ← registerPair r.pairRegistry o
  let evidenceRegistry ← registerEvidence r.evidenceRegistry o
  let byMetric ← registerValues r.byMetric o
  return ⟨pairRegistry, evidenceRegistry, byMetric⟩

/-! ## The report -/

def pairsPerGroup (r : PairedRegisters) (pairIds : List PairId) :
    BrainResult (BTreeMap IndependenceGroupId Nat) :=
  pairIds.foldlM (fun counts pairId => do
    let binding ← okOr r.pairRegistry[pairId]? (integrity "governance_pair_registry_missing")
    return counts.insert binding.group (counts.getD binding.group 0 + 1)) ∅

structure GroupCenters where
  baseline : F64
  candidate : F64
  effect : F64

def groupCenters (values : List PairedValues) : BrainResult GroupCenters := do
  let baseline ← stableMean (values.map PairedValues.baseline)
  let candidate ← stableMean (values.map PairedValues.candidate)
  let effect ← stableMean (values.map fun v => v.candidate - v.baseline)
  return ⟨baseline, candidate, effect⟩

def finiteRadius : Option F64 → BrainResult (Option FiniteF64)
  | none => .ok none
  | some radius => do return some (← FiniteF64.new radius)

def metricEstimate (policy : RobustEvaluationPolicy) (metricId : MetricId)
    (pairs : BTreeMap PairId PairedValues) : BrainResult PairedMetricEstimate := do
  let grouped := groupBy (fun v : PairedValues => v.unit.independenceGroup)
    (BTreeMap.values pairs)
  let centers ← (BTreeMap.values grouped).mapM groupCenters
  let baselines := centers.map GroupCenters.baseline
  let candidates := centers.map GroupCenters.candidate
  let effects := centers.map GroupCenters.effect
  let blocks := max (min policy.medianOfMeansBlocks grouped.size) 1
  let baselineCenter ← medianOfMeans baselines blocks
  let candidateCenter ← medianOfMeans candidates blocks
  let pairedEffect ← medianOfMeans effects blocks
  let baselineRadius ← observedRadius baselines baselineCenter
  let candidateRadius ← observedRadius candidates candidateCenter
  let effectRadius ← observedRadius effects pairedEffect
  return {
    metricId := metricId
    independentGroups := grouped.size
    pairedCount := pairs.size
    baselineCenter := ← FiniteF64.new baselineCenter
    candidateCenter := ← FiniteF64.new candidateCenter
    pairedEffect := ← FiniteF64.new pairedEffect
    baselineObservedRadius := ← finiteRadius baselineRadius
    candidateObservedRadius := ← finiteRadius candidateRadius
    pairedEffectObservedRadius := ← finiteRadius effectRadius }

def addEstimate (policy : RobustEvaluationPolicy) (r : PairedRegisters)
    (estimates : BTreeMap MetricId PairedMetricEstimate) (metricId : MetricId) :
    BrainResult (BTreeMap MetricId PairedMetricEstimate) := do
  let pairs ← okOr r.byMetric[metricId]? (integrity "governance_metric_observations_missing")
  let estimate ← metricEstimate policy metricId pairs
  return estimates.insert metricId estimate

section

variable [Platform]

def reportOf (baselineId candidateId : VariantId) (specs : MetricCatalog)
    (policy : RobustEvaluationPolicy) (observationSetDigest : ObservationSetDigest)
    (observationCount : Nat) (r : PairedRegisters) : BrainResult PairedEvaluationReport := do
  failIf (r.byMetric.size ≠ specs.size) (integrity "governance_metric_observations_missing")
  let first ← okOr (BTreeMap.values r.byMetric).head?
    (integrity "governance_metric_observations_missing")
  let expectedPairs := first.keys
  failIf (expectedPairs.isEmpty ∨
      (BTreeMap.values r.byMetric).any fun pairs => pairs.keys ≠ expectedPairs)
    (integrity "governance_cross_metric_pairing_mismatch")
  let groups : BTreeSet IndependenceGroupId :=
    BTreeSet.extend ∅ ((BTreeMap.values r.pairRegistry).map PairBinding.group)
  failIf (maxGroups < groups.size) (invalid "governance_group_count_exceeded")
  let counts ← pairsPerGroup r expectedPairs
  failIf ((BTreeMap.values counts).any fun count => decide (maxPairsPerGroup < count))
    (invalid "governance_pairs_per_group_exceeded")
  let estimates ← specs.keys.foldlM (addEstimate policy r) ∅
  let startTick ← okOr ((BTreeMap.values r.pairRegistry).map fun b => b.window.startTick).min?
    (integrity "governance_observation_window_missing")
  let endTick ← okOr ((BTreeMap.values r.pairRegistry).map fun b => b.window.endTick).max?
    (integrity "governance_observation_window_missing")
  let window ← ObservationWindow.new startTick endTick
  let unsealed : PairedEvaluationReport := {
    baselineId := baselineId
    candidateId := candidateId
    metricCatalogDigest := metricCatalogDigest specs
    evaluationPolicyDigest := policy.policyDigest
    observationSetDigest := observationSetDigest
    independenceDesignDigest := .fromProjection _ independenceDesignDomain (toJson groups)
    estimates := estimates
    pairIds := BTreeSet.extend ∅ r.pairRegistry.keys
    evidenceIds := BTreeSet.extend ∅ r.evidenceRegistry.keys
    observationWindow := window
    observationCount := observationCount
    independentGroupCount := groups.size
    minimumRequiredGroups := policy.minimumIndependentGroups
    evidenceSufficient := policy.minimumIndependentGroups ≤ groups.size
    reportDigest := ⟨Sha256Digest.zero⟩ }
  let report := { unsealed with
    reportDigest := .fromProjection _ reportDomain unsealed.projection }
  report.authenticate
  return report

def evaluatePairedGroups (baselineId candidateId : VariantId) (specs : List MetricSpec)
    (observations : List PairedObservation) (policy : RobustEvaluationPolicy) :
    BrainResult PairedEvaluationReport := do
  failIf (baselineId = candidateId) (invalid "governance_candidate_equals_baseline")
  let specs ← canonicalSpecs specs
  failIf (observations.isEmpty ∨ policy.maximumObservations < observations.length ∨
      maxObservations < observations.length)
    (invalid "governance_observation_count_invalid")
  let observationSetDigest : ObservationSetDigest := .fromProjection _ observationSetDomain
    (.arr ((canonicalObservations observations).map PairedObservation.json))
  let r ← observations.foldlM (registerObservation specs) ⟨∅, ∅, ∅⟩
  reportOf baselineId candidateId specs policy observationSetDigest observations.length r

end

/-! ## The registers have no order -/

variable {specs : MetricCatalog} {r r' : PairedRegisters}

lemma registerObservation_ok {o : PairedObservation} :
    registerObservation specs r o = .ok r' ↔ o.metricId ∈ specs ∧
      registerPair r.pairRegistry o = .ok r'.pairRegistry ∧
      registerEvidence r.evidenceRegistry o = .ok r'.evidenceRegistry ∧
      registerValues r.byMetric o = .ok r'.byMetric := by
  simp only [registerObservation, bind_ok, failIf_ok, not_not, exists_const, pure_ok]
  constructor
  · intro h
    obtain ⟨hspec, pairs, hpairs, evidence, hevidence, values, hvalues, rfl⟩ := h
    exact ⟨hspec, hpairs, hevidence, hvalues⟩
  · intro h
    obtain ⟨hspec, hpairs, hevidence, hvalues⟩ := h
    exact ⟨hspec, _, hpairs, _, hevidence, _, hvalues, rfl⟩

variable {observations : List PairedObservation}

lemma registerObservations_ok : observations.foldlM (registerObservation specs) r = .ok r' ↔
      (∀ o ∈ observations, o.metricId ∈ specs) ∧
      observations.foldlM registerPair r.pairRegistry = .ok r'.pairRegistry ∧
      observations.foldlM registerEvidence r.evidenceRegistry = .ok r'.evidenceRegistry ∧
      observations.foldlM registerValues r.byMetric = .ok r'.byMetric := by
  induction observations generalizing r with
  | nil =>
    simp only [foldlM_nil, pure_ok]
    constructor
    · intro h
      subst h
      simp
    · intro h
      obtain ⟨-, hpairs, hevidence, hvalues⟩ := h
      cases r
      cases r'
      simp_all
  | cons o observations ih =>
    simp only [foldlM_cons, bind_ok, registerObservation_ok, ih, forall_mem_cons]
    constructor
    · intro h
      obtain ⟨mid, ⟨hspec, hpair, hevidence, hvalues⟩, hspecs, hpairs, hevidences, hrest⟩ := h
      exact ⟨⟨hspec, hspecs⟩, ⟨_, hpair, hpairs⟩, ⟨_, hevidence, hevidences⟩, _, hvalues, hrest⟩
    · intro h
      obtain ⟨⟨hspec, hspecs⟩, ⟨pairs, hpair, hpairs⟩, ⟨evidence, hevidence, hevidences⟩, values,
        hvalues, hrest⟩ := h
      exact ⟨⟨pairs, evidence, values⟩, ⟨hspec, hpair, hevidence, hvalues⟩, hspecs, hpairs,
        hevidences, hrest⟩

variable {observations others : List PairedObservation}

/-- Observations in another order fill the same registers. -/
lemma registerObservations_perm (hperm : observations.Perm others) :
    observations.foldlM (registerObservation specs) r = .ok r' ↔
      others.foldlM (registerObservation specs) r = .ok r' := by
  have hspecs : (∀ o ∈ observations, o.metricId ∈ specs) ↔ ∀ o ∈ others, o.metricId ∈ specs := by
    simp only [hperm.mem_iff]
  have hpairs : observations.foldlM registerPair r.pairRegistry = .ok r'.pairRegistry ↔
      others.foldlM registerPair r.pairRegistry = .ok r'.pairRegistry :=
    foldlM_perm exchangeable_insertAgreeing hperm
  have hevidence : observations.foldlM registerEvidence r.evidenceRegistry =
      .ok r'.evidenceRegistry ↔
        others.foldlM registerEvidence r.evidenceRegistry = .ok r'.evidenceRegistry :=
    foldlM_perm exchangeable_insertAgreeing hperm
  have hvalues : observations.foldlM registerValues r.byMetric = .ok r'.byMetric ↔
      others.foldlM registerValues r.byMetric = .ok r'.byMetric :=
    foldlM_perm exchangeable_insertNested hperm
  rw [registerObservations_ok, registerObservations_ok, hspecs, hpairs, hevidence, hvalues]

structure Registered (specs : MetricCatalog) (observations : List PairedObservation)
    (r : PairedRegisters) : Prop where
  known : ∀ o ∈ observations, o.metricId ∈ specs
  pairs : ∀ (p : PairId) (b : PairBinding), r.pairRegistry[p]? = some b ↔
    ∃ o ∈ observations, o.unit.pairId = p ∧ o.binding = b
  evidence : ∀ (e : EvidenceId) (p : PairId), r.evidenceRegistry[e]? = some p ↔
    ∃ o ∈ observations, o.unit.evidenceId = e ∧ o.unit.pairId = p
  values : Nests PairedObservation.metricId (fun o => o.unit.pairId)
    PairedObservation.values observations r.byMetric
  pair_binds : ∀ o ∈ observations, ∀ o' ∈ observations, o.unit.pairId = o'.unit.pairId →
    o.binding = o'.binding
  evidence_binds : ∀ o ∈ observations, ∀ o' ∈ observations,
    o.unit.evidenceId = o'.unit.evidenceId → o.unit.pairId = o'.unit.pairId

lemma registered_of_foldlM {r : PairedRegisters}
    (h : observations.foldlM (registerObservation specs) ⟨∅, ∅, ∅⟩ = .ok r) :
    Registered specs observations r := by
  obtain ⟨hknown, hpairs, hevidence, hvalues⟩ := registerObservations_ok.mp h
  exact {
    known := hknown
    pairs := foldlM_insertAgreeing hpairs
    evidence := foldlM_insertAgreeing hevidence
    values := foldlM_insertNested hvalues
    pair_binds := fun _ ho _ ho' heq => agree_of_foldlM_insertAgreeing hpairs ho ho' heq
    evidence_binds := fun _ ho _ ho' heq =>
      agree_of_foldlM_insertAgreeing hevidence ho ho' heq }

/-! ## The digested list has no order -/

instance : Std.TransCmp observationOrder :=
  inferInstanceAs (Std.TransCmp (compareLex (compareOn PairedObservation.metricId)
    (compareLex (compareOn fun o : PairedObservation => o.unit.pairId)
      (compareOn fun o : PairedObservation => o.unit.independenceGroup))))

lemma observationOrder_total (a b : PairedObservation) :
    ((observationOrder a b).isLE || (observationOrder b a).isLE) = true := by
  by_cases h : (observationOrder a b).isLE = true
  · rw [h, Bool.true_or]
  · have hlt := Std.OrientedCmp.lt_of_not_isLE h
    rw [hlt, Bool.or_eq_true]
    exact .inr rfl

lemma keys_of_observationOrder {a b : PairedObservation}
    (hab : (observationOrder a b).isLE = true) (hba : (observationOrder b a).isLE = true) :
    a.metricId = b.metricId ∧ a.unit.pairId = b.unit.pairId := by
  have heq : observationOrder a b = .eq := Std.OrientedCmp.isLE_antisymm hab hba
  unfold observationOrder at heq
  rw [Ordering.then_eq_eq, Ordering.then_eq_eq] at heq
  exact ⟨Std.LawfulEqCmp.eq_of_compare heq.1, Std.LawfulEqCmp.eq_of_compare heq.2.1⟩

/-- Observations of distinct metrics and pairs are digested in one order. -/
lemma canonicalObservations_perm
    (hdistinct : (observations.map fun o => (o.metricId, o.unit.pairId)).Nodup)
    (hperm : others.Perm observations) :
    canonicalObservations others = canonicalObservations observations := by
  unfold canonicalObservations
  have hsorted := fun l : List PairedObservation =>
    @pairwise_mergeSort _ (fun left right => (observationOrder left right).isLE)
      (fun _ _ _ hab hbc => Std.TransCmp.isLE_trans hab hbc) observationOrder_total l
  refine Perm.eq_of_pairwise ?_ (hsorted others) (hsorted observations) ?_
  · intro a b ha hb hab hba
    obtain ⟨hmetric, hpair⟩ := keys_of_observationOrder hab hba
    have ha' := hperm.mem_iff.mp ((mergeSort_perm others _).mem_iff.mp ha)
    have hb' := (mergeSort_perm observations _).mem_iff.mp hb
    exact inj_on_of_nodup_map hdistinct ha' hb' (Prod.ext hmetric hpair)
  · exact (mergeSort_perm others _).trans
      (hperm.trans (mergeSort_perm observations _).symm)

/-! ## What a report says -/

/-- What a report says about the observations it is made of. -/
structure PairedBinding (specs : List MetricSpec) (observations : List PairedObservation)
    (report : PairedEvaluationReport) : Prop where
  /-- A pair is of one group, one evidence and one window. -/
  pairs : ∀ o ∈ observations, ∀ o' ∈ observations, o.unit.pairId = o'.unit.pairId →
    o.unit = o'.unit
  /-- Distinct pairs are of distinct evidence. -/
  evidence : ∀ o ∈ observations, ∀ o' ∈ observations,
    o.unit.evidenceId = o'.unit.evidenceId → o.unit.pairId = o'.unit.pairId
  /-- Every metric has a value of every pair. -/
  metrics : ∀ spec ∈ specs, ∀ o ∈ observations,
    ∃ o' ∈ observations, o'.metricId = spec.metricId ∧ o'.unit.pairId = o.unit.pairId
  /-- No other metric has a value. -/
  known : ∀ o ∈ observations, ∃ spec ∈ specs, spec.metricId = o.metricId
  distinct : (observations.map fun o => (o.metricId, o.unit.pairId)).Nodup
  /-- The window is the hull of the windows. -/
  start : IsLeast {tick | ∃ o ∈ observations, o.unit.observationWindow.startTick = tick}
    report.observationWindow.startTick
  stop : IsGreatest {tick | ∃ o ∈ observations, o.unit.observationWindow.endTick = tick}
    report.observationWindow.endTick
  pairIds : ∀ p, p ∈ report.pairIds ↔ ∃ o ∈ observations, o.unit.pairId = p
  evidenceIds : ∀ e, e ∈ report.evidenceIds ↔ ∃ o ∈ observations, o.unit.evidenceId = e

lemma PairedObservation.unit_eq {o o' : PairedObservation} (hbinding : o.binding = o'.binding)
    (hpair : o.unit.pairId = o'.unit.pairId) : o.unit = o'.unit := by
  obtain ⟨_, ⟨_, _, _, _⟩, _, _⟩ := o
  obtain ⟨_, ⟨_, _, _, _⟩, _, _⟩ := o'
  simp_all [PairedObservation.binding]

lemma mem_canonicalSpecs {specs : List MetricSpec} {catalog : MetricCatalog}
    (h : canonicalSpecs specs = .ok catalog) (metricId : MetricId) :
    metricId ∈ catalog ↔ ∃ spec ∈ specs, spec.metricId = metricId := by
  simp only [canonicalSpecs, bind_ok, failIf_ok, exists_const] at h
  refine foldlM_ok_prefix_induction (fun done (catalog : MetricCatalog) =>
    ∀ metricId : MetricId, metricId ∈ catalog ↔ ∃ spec ∈ done, spec.metricId = metricId)
    ?_ ?_ h.2 metricId
  · intro metricId
    simp
  · intro done spec catalog catalog' hdone hstep metricId
    simp only [insertSpec, bind_ok, failIf_ok, exists_const, pure_ok] at hstep
    obtain ⟨_, -, -, rfl⟩ := hstep
    rw [mem_insert, hdone, Std.LawfulEqCmp.compare_eq_iff_eq, exists_mem_concat, or_comm]

section

variable [Platform] {baselineId candidateId : VariantId} {specs : List MetricSpec}
  {catalog : MetricCatalog} {observations others : List PairedObservation}
  {policy : RobustEvaluationPolicy} {report : PairedEvaluationReport} {r : PairedRegisters}
  {observationSetDigest : ObservationSetDigest} {observationCount : Nat}

/-- What the checks before a report and its window establish. -/
structure Reports (catalog : MetricCatalog) (r : PairedRegisters)
    (report : PairedEvaluationReport) : Prop where
  sizes : r.byMetric.size = catalog.size
  /-- All metrics have the pairs of the first one. -/
  paired : ∃ expected : List PairId, ∀ pairs ∈ BTreeMap.values r.byMetric, pairs.keys = expected
  start : ((BTreeMap.values r.pairRegistry).map fun b => b.window.startTick).min? =
    some report.observationWindow.startTick
  stop : ((BTreeMap.values r.pairRegistry).map fun b => b.window.endTick).max? =
    some report.observationWindow.endTick
  pairIds : report.pairIds = BTreeSet.extend ∅ r.pairRegistry.keys
  evidenceIds : report.evidenceIds = BTreeSet.extend ∅ r.evidenceRegistry.keys

lemma reports_of_reportOf (h : reportOf baselineId candidateId catalog policy
    observationSetDigest observationCount r = .ok report) : Reports catalog r report := by
  simp only [reportOf, bind_ok, failIf_ok, okOr_ok, exists_const, pure_ok,
    not_not, ne_eq, not_or, ObservationWindow.new_ok] at h
  obtain ⟨hsizes, first, -, ⟨-, hpaired⟩, -, counts, -, -, estimates, -, startTick, hstart,
    endTick, hend, window, ⟨hwindowStart, hwindowEnd⟩, _, -, rfl⟩ := h
  refine ⟨hsizes, ⟨first.keys, ?_⟩, ?_, ?_, rfl, rfl⟩
  · intro pairs hpairs
    by_contra hne
    apply hpaired
    rw [any_eq_true]
    exact ⟨pairs, hpairs, decide_eq_true hne⟩
  · rw [hstart, ← hwindowStart]
  · rw [hend, ← hwindowEnd]

lemma evaluatePairedGroups_ok :
    evaluatePairedGroups baselineId candidateId specs observations policy = .ok report ↔
      baselineId ≠ candidateId ∧ ∃ catalog, canonicalSpecs specs = .ok catalog ∧
        (observations ≠ [] ∧ observations.length ≤ policy.maximumObservations ∧
          observations.length ≤ maxObservations) ∧
        ∃ r, observations.foldlM (registerObservation catalog) ⟨∅, ∅, ∅⟩ = .ok r ∧
          reportOf baselineId candidateId catalog policy (.fromProjection _ observationSetDomain
              (.arr ((canonicalObservations observations).map PairedObservation.json)))
            observations.length r = .ok report := by
  simp only [evaluatePairedGroups, bind_ok, failIf_ok, exists_const, not_or, not_lt,
    List.isEmpty_iff, ne_eq]

/-- A report says what its observations are bound to. -/
lemma binds_of_evaluatePairedGroups
    (h : evaluatePairedGroups baselineId candidateId specs observations policy = .ok report) :
    PairedBinding specs observations report := by
  obtain ⟨-, catalog, hcatalog, -, r, hfold, hreport⟩ := evaluatePairedGroups_ok.mp h
  have hregistered := registered_of_foldlM hfold
  have hreports := reports_of_reportOf hreport
  have hbound : ∀ b, b ∈ BTreeMap.values r.pairRegistry ↔ ∃ o ∈ observations, o.binding = b := by
    intro b
    rw [BTreeMap.mem_values]
    constructor
    · intro hfound
      obtain ⟨p, hp⟩ := hfound
      obtain ⟨o, ho, -, hb⟩ := (hregistered.pairs p b).mp hp
      exact ⟨o, ho, hb⟩
    · intro hfound
      obtain ⟨o, ho, hb⟩ := hfound
      exact ⟨o.unit.pairId, (hregistered.pairs _ b).mpr ⟨o, ho, rfl, hb⟩⟩
  -- every metric of the catalog has values, because the metrics with values are of the catalog
  have hmetrics : ∀ metricId : MetricId, metricId ∈ r.byMetric ↔ metricId ∈ catalog := by
    intro metricId
    refine BTreeMap.mem_iff_of_subset_of_size_eq ?_ hreports.sizes
    intro k hk
    obtain ⟨o, ho, rfl⟩ := (hregistered.values.mem_iff k).mp hk
    exact hregistered.known o ho
  obtain ⟨expected, hexpected⟩ := hreports.paired
  have hkeys : ∀ (metricId : MetricId), metricId ∈ catalog → ∀ p : PairId,
      p ∈ expected ↔ ∃ o ∈ observations, o.metricId = metricId ∧ o.unit.pairId = p := by
    intro metricId hmetric p
    obtain ⟨pairs, hpairs⟩ := BTreeMap.mem_iff_getElem?.mp ((hmetrics metricId).mpr hmetric)
    have hinner : r.byMetric.getD metricId ∅ = pairs := by
      rw [getD_eq_getD_getElem?, hpairs, Option.getD_some]
    rw [← hexpected pairs (BTreeMap.mem_values.mpr ⟨metricId, hpairs⟩),
      Std.ExtTreeMap.mem_keys, BTreeMap.mem_iff_getElem?]
    constructor
    · intro hfound
      obtain ⟨v, hv⟩ := hfound
      rw [← hinner] at hv
      obtain ⟨o, ho, hmetricId, hpair, -⟩ := (hregistered.values.getElem?_iff _ _ _).mp hv
      exact ⟨o, ho, hmetricId, hpair⟩
    · intro hfound
      obtain ⟨o, ho, hmetricId, hpair⟩ := hfound
      rw [← hinner]
      exact ⟨o.values, (hregistered.values.getElem?_iff _ _ _).mpr ⟨o, ho, hmetricId, hpair, rfl⟩⟩
  refine ⟨?_, hregistered.evidence_binds, ?_, ?_, hregistered.values.distinct, ?_, ?_, ?_, ?_⟩
  · intro o ho o' ho' hpair
    exact PairedObservation.unit_eq (hregistered.pair_binds o ho o' ho' hpair) hpair
  · intro spec hspec o ho
    have hmem : spec.metricId ∈ catalog := (mem_canonicalSpecs hcatalog _).mpr ⟨spec, hspec, rfl⟩
    have hpair := (hkeys o.metricId (hregistered.known o ho) o.unit.pairId).mpr ⟨o, ho, rfl, rfl⟩
    exact (hkeys spec.metricId hmem o.unit.pairId).mp hpair
  · intro o ho
    exact (mem_canonicalSpecs hcatalog _).mp (hregistered.known o ho)
  · obtain ⟨hmem, hle⟩ := min?_eq_some_iff.mp hreports.start
    constructor
    · obtain ⟨b, hb, heq⟩ := mem_map.mp hmem
      obtain ⟨o, ho, rfl⟩ := (hbound b).mp hb
      exact ⟨o, ho, heq⟩
    · intro tick htick
      obtain ⟨o, ho, rfl⟩ := htick
      exact hle _ (mem_map.mpr ⟨o.binding, (hbound _).mpr ⟨o, ho, rfl⟩, rfl⟩)
  · obtain ⟨hmem, hle⟩ := max?_eq_some_iff.mp hreports.stop
    constructor
    · obtain ⟨b, hb, heq⟩ := mem_map.mp hmem
      obtain ⟨o, ho, rfl⟩ := (hbound b).mp hb
      exact ⟨o, ho, heq⟩
    · intro tick htick
      obtain ⟨o, ho, rfl⟩ := htick
      exact hle _ (mem_map.mpr ⟨o.binding, (hbound _).mpr ⟨o, ho, rfl⟩, rfl⟩)
  · intro p
    rw [hreports.pairIds, BTreeSet.mem_extend, Std.ExtTreeMap.mem_keys, BTreeMap.mem_iff_getElem?]
    constructor
    · intro hfound
      rcases hfound with habsurd | ⟨b, hb⟩
      · exact absurd habsurd Std.ExtTreeSet.not_mem_empty
      · obtain ⟨o, ho, hpair, -⟩ := (hregistered.pairs p b).mp hb
        exact ⟨o, ho, hpair⟩
    · intro hfound
      obtain ⟨o, ho, hpair⟩ := hfound
      exact .inr ⟨o.binding, (hregistered.pairs p _).mpr ⟨o, ho, hpair, rfl⟩⟩
  · intro e
    rw [hreports.evidenceIds, BTreeSet.mem_extend, Std.ExtTreeMap.mem_keys, BTreeMap.mem_iff_getElem?]
    constructor
    · intro hfound
      rcases hfound with habsurd | ⟨p, hp⟩
      · exact absurd habsurd Std.ExtTreeSet.not_mem_empty
      · obtain ⟨o, ho, hevidence, -⟩ := (hregistered.evidence e p).mp hp
        exact ⟨o, ho, hevidence⟩
    · intro hfound
      obtain ⟨o, ho, hevidence⟩ := hfound
      exact .inr ⟨o.unit.pairId, (hregistered.evidence e _).mpr ⟨o, ho, hevidence, rfl⟩⟩

lemma evaluatePairedGroups_perm (hperm : others.Perm observations)
    (h : evaluatePairedGroups baselineId candidateId specs observations policy = .ok report) :
    evaluatePairedGroups baselineId candidateId specs others policy = .ok report := by
  obtain ⟨hids, catalog, hcatalog, hcount, r, hfold, hreport⟩ := evaluatePairedGroups_ok.mp h
  have hdistinct := (registered_of_foldlM hfold).values.distinct
  rw [evaluatePairedGroups_ok, hperm.length_eq, canonicalObservations_perm hdistinct hperm]
  have hne : others ≠ [] := by
    intro hnil
    subst hnil
    exact hcount.1 hperm.symm.eq_nil
  exact ⟨hids, catalog, hcatalog, ⟨hne, hcount.2⟩, r,
    (registerObservations_perm hperm.symm).mp hfold, hreport⟩

end

end Tidex.Governance
