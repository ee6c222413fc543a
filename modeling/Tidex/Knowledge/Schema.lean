/-
  Knowledge.Schema — checks of budgets, plans and observation types.
-/
import Tidex.Knowledge.Wire

namespace Tidex.Knowledge

open Tidex.Lib List BTreeMap

/-! ## Budgets -/

def KnowledgeBudget.validate (b : KnowledgeBudget) : BrainResult Unit :=
  failIf (b.maxActions = 0 ∨ b.maxActions > hardMaxActions
    ∨ b.maxTotalCost = 0 ∨ b.maxTotalCost > hardMaxTotalCost
    ∨ b.maxRevision = 0 ∨ b.maxRevision > hardMaxRevision
    ∨ b.maxDependencyNodes = 0 ∨ b.maxDependencyNodes > hardMaxDependencyNodes
    ∨ b.maxDependencyEdges = 0 ∨ b.maxDependencyEdges > hardMaxDependencyEdges
    ∨ b.maxDependencyDepth = 0 ∨ b.maxDependencyDepth > hardMaxDependencyDepth
    ∨ b.maxEvidenceRecords = 0 ∨ b.maxEvidenceRecords > hardMaxEvidenceRecords
    ∨ b.maxObservationsPerAction = 0
    ∨ b.maxObservationsPerAction > hardMaxObservationsPerAction)
    (invalid "knowledge_budget_invalid")

/-- Every bound is positive and within its hard limit. -/
structure KnowledgeBudget.Valid (b : KnowledgeBudget) : Prop where
  actions : 0 < b.maxActions ∧ b.maxActions ≤ hardMaxActions
  totalCost : 0 < b.maxTotalCost ∧ b.maxTotalCost ≤ hardMaxTotalCost
  revision : 0 < b.maxRevision ∧ b.maxRevision ≤ hardMaxRevision
  dependencyNodes : 0 < b.maxDependencyNodes ∧ b.maxDependencyNodes ≤ hardMaxDependencyNodes
  dependencyEdges : 0 < b.maxDependencyEdges ∧ b.maxDependencyEdges ≤ hardMaxDependencyEdges
  dependencyDepth : 0 < b.maxDependencyDepth ∧ b.maxDependencyDepth ≤ hardMaxDependencyDepth
  evidenceRecords : 0 < b.maxEvidenceRecords ∧ b.maxEvidenceRecords ≤ hardMaxEvidenceRecords
  observationsPerAction :
    0 < b.maxObservationsPerAction ∧ b.maxObservationsPerAction ≤ hardMaxObservationsPerAction

variable {u : Unit}

lemma KnowledgeBudget.validate_ok {b : KnowledgeBudget} : b.validate = .ok u ↔ b.Valid := by
  rw [KnowledgeBudget.validate, failIf_ok]
  constructor
  · intro h
    constructor <;> omega
  · rintro ⟨⟩
    omega

/-! ## Plans -/

def CognitivePlan.validateBounds (plan : CognitivePlan) (budget : KnowledgeBudget) :
    BrainResult Unit :=
  match plan with
  | .observeTrace observationKeys maxEvents =>
    failIf (observationKeys.isEmpty ∨ observationKeys.size > budget.maxObservationsPerAction
      ∨ maxEvents = 0 ∨ maxEvents > hardMaxTraceEvents) (invalid "trace_plan_bounds_invalid")
  | .executeScenario _ inputs observationKeys =>
    failIf (inputs.size > hardMaxScenarioInputs ∨ observationKeys.isEmpty
      ∨ observationKeys.size > budget.maxObservationsPerAction)
      (invalid "scenario_plan_bounds_invalid")
  | .causalIntervention _ baseline treatment _ predictions =>
    failIf (baseline = treatment ∨ predictions.size < 2)
      (invalid "causal_plan_not_discriminating")
  | .searchCounterexample _ maxCases predictions =>
    failIf (maxCases = 0 ∨ maxCases > hardMaxCounterexampleCases ∨ predictions.size < 2)
      (invalid "counterexample_plan_bounds_invalid")
  | .verifyFormalProperty .. => .ok ()
  | .expandDependencyClosure _ depth maxDepth =>
    failIf (maxDepth = 0 ∨ maxDepth > budget.maxDependencyDepth ∨ depth > maxDepth)
      (invalid "dependency_plan_bounds_invalid")

lemma validateBounds_expandDependencyClosure_ok {budget : KnowledgeBudget}
    {root : DependencyNodeId} {depth maxDepth : Nat} :
    (CognitivePlan.expandDependencyClosure root depth maxDepth).validateBounds budget = .ok u ↔
      0 < maxDepth ∧ maxDepth ≤ budget.maxDependencyDepth ∧ depth ≤ maxDepth := by
  rw [CognitivePlan.validateBounds, failIf_ok]
  omega

lemma depth_le_of_validateBounds {budget : KnowledgeBudget} {root : DependencyNodeId}
    {depth maxDepth : Nat} {u : Unit}
    (h : (CognitivePlan.expandDependencyClosure root depth maxDepth).validateBounds budget =
      .ok u) : depth ≤ budget.maxDependencyDepth := by
  rw [validateBounds_expandDependencyClosure_ok] at h
  omega

section

variable [Platform]

def dependencyObservationKey (root : DependencyNodeId) : ObservationKey :=
  ⟨dependencyObservationKeyText root, isValidIdentifier_dependencyObservationKeyText root⟩

def dependencyClosurePredicate (root : DependencyNodeId) : BrainResult KnowledgePredicate := do
  let key ← LocalId.parse .observationKey (dependencyObservationKeyText root)
  return .boolEquals key true

lemma dependencyClosurePredicate_eq (root : DependencyNodeId) :
    dependencyClosurePredicate root = .ok (.boolEquals (dependencyObservationKey root) true) := by
  unfold dependencyClosurePredicate
  rw [bind_ok]
  exact ⟨dependencyObservationKey root, LocalId.parse_ok.mpr rfl, rfl⟩

def validateCriterionPlanBinding (criterion : EvaluationCriterion) (plan : CognitivePlan) :
    BrainResult Unit := do
  let predicate := criterion.predicate
  let valid ←
    match plan with
    | .observeTrace observationKeys _
    | .executeScenario _ _ observationKeys =>
      pure (decide (predicate.observationKey ∈ observationKeys))
    | .causalIntervention _ _ _ effect _ => pure (decide (effect = predicate))
    | .searchCounterexample target _ _ => pure (decide (target = predicate))
    | .verifyFormalProperty _ property => pure (decide (property = predicate))
    | .expandDependencyClosure root _ _ => do
      let closing ← dependencyClosurePredicate root
      pure (decide (closing = predicate))
  failIf (valid = false) (invalid "knowledge_criterion_not_bound_to_plan_object")

lemma validateCriterionPlanBinding_expandDependencyClosure_ok
    {criterion : EvaluationCriterion} {root : DependencyNodeId} {depth maxDepth : Nat} {u : Unit} :
    validateCriterionPlanBinding criterion (.expandDependencyClosure root depth maxDepth) =
      .ok u ↔ criterion.predicate = .boolEquals (dependencyObservationKey root) true := by
  simp only [validateCriterionPlanBinding, dependencyClosurePredicate_eq, ok_bind, pure_bind,
    failIf_ok, decide_eq_false_iff_not, not_not]
  exact eq_comm

end

/-! ## Observation types -/

abbrev ObservationSchema := BTreeMap ObservationKey ObservationValueType

def recordPredicateType (schema : ObservationSchema) (predicate : KnowledgePredicate) :
    BrainResult ObservationSchema :=
  match schema[predicate.observationKey]? with
  | some previous =>
    if previous ≠ predicate.valueType then
      .error (invalid "observation_key_value_type_conflict")
    else .ok (schema.insert predicate.observationKey predicate.valueType)
  | none => .ok (schema.insert predicate.observationKey predicate.valueType)

def TypeConsistent (ps : List KnowledgePredicate) : Prop :=
  ∀ p ∈ ps, ∀ q ∈ ps, p.observationKey = q.observationKey → p.valueType = q.valueType

def Describes (schema : ObservationSchema) (ps : List KnowledgePredicate) : Prop :=
  ∀ (key : ObservationKey) (type : ObservationValueType),
    schema[key]? = some type ↔ ∃ p ∈ ps, p.observationKey = key ∧ p.valueType = type

lemma describes_empty : Describes ∅ [] := by
  intro key type
  simp

variable {schema : ObservationSchema} {ps : List KnowledgePredicate}

lemma Describes.typeConsistent (h : Describes schema ps) : TypeConsistent ps := by
  intro p hp q hq hkey
  have hp' := (h p.observationKey p.valueType).mpr ⟨p, hp, rfl, rfl⟩
  have hq' := (h p.observationKey q.valueType).mpr ⟨q, hq, hkey.symm, rfl⟩
  rw [hp'] at hq'
  exact Option.some.inj hq'

lemma TypeConsistent.mono {ps qs : List KnowledgePredicate} (h : TypeConsistent qs)
    (hsub : ∀ p ∈ ps, p ∈ qs) : TypeConsistent ps :=
  fun p hp q hq => h p (hsub p hp) q (hsub q hq)

lemma recordPredicateType_ok {schema schema' : ObservationSchema} (h : Describes schema ps)
    (p : KnowledgePredicate) : recordPredicateType schema p = .ok schema' ↔
      schema' = schema.insert p.observationKey p.valueType ∧ TypeConsistent (ps ++ [p]) := by
  have hcons : TypeConsistent (ps ++ [p]) ↔
      ∀ type, schema[p.observationKey]? = some type → type = p.valueType := by
    constructor
    · intro hc type ht
      obtain ⟨q, hq, hkey, rfl⟩ := (h _ _).mp ht
      exact hc q (by simp [hq]) p (by simp) hkey
    · intro hsame q hq r hr hkey
      rw [mem_append, mem_singleton] at hq hr
      rcases hq with hq | rfl
      · rcases hr with hr | rfl
        · exact h.typeConsistent q hq r hr hkey
        · exact hsame _ ((h _ _).mpr ⟨q, hq, hkey, rfl⟩)
      · rcases hr with hr | rfl
        · exact (hsame _ ((h _ _).mpr ⟨r, hr, hkey.symm, rfl⟩)).symm
        · rfl
  rw [hcons]
  unfold recordPredicateType
  cases hget : schema[p.observationKey]? with
  | none => simp [eq_comm]
  | some previous =>
    by_cases hne : previous = p.valueType
    · simp [hne, eq_comm]
    · simp [hne]

lemma Describes.insert (h : Describes schema ps) {p : KnowledgePredicate}
    (hc : TypeConsistent (ps ++ [p])) :
    Describes (schema.insert p.observationKey p.valueType) (ps ++ [p]) := by
  intro key type
  rw [getElem?_insert_iff]
  by_cases hkey : p.observationKey = key
  · subst hkey
    rw [if_pos rfl, Option.some.injEq]
    constructor
    · rintro rfl
      exact ⟨p, by simp, rfl, rfl⟩
    · rintro ⟨q, hq, hqkey, rfl⟩
      exact hc p (by simp) q hq hqkey.symm
  · rw [if_neg hkey, h key type]
    constructor
    · rintro ⟨q, hq, hqkey, hqtype⟩
      exact ⟨q, by simp [hq], hqkey, hqtype⟩
    · rintro ⟨q, hq, hqkey, hqtype⟩
      rw [mem_append, mem_singleton] at hq
      rcases hq with hq | rfl
      · exact ⟨q, hq, hqkey, hqtype⟩
      · exact absurd hqkey hkey

def recordPredicates (schema : ObservationSchema) (ps : List KnowledgePredicate) :
    BrainResult ObservationSchema :=
  ps.foldlM recordPredicateType schema

lemma recordPredicates_spec {qs : List KnowledgePredicate} (h : Describes schema ps) :
    (∀ schema', recordPredicates schema qs = .ok schema' → Describes schema' (ps ++ qs)) ∧
      ((∃ schema', recordPredicates schema qs = .ok schema') ↔ TypeConsistent (ps ++ qs)) := by
  unfold recordPredicates
  induction qs generalizing schema ps with
  | nil => simp [pure_ok, h, h.typeConsistent]
  | cons q qs ih =>
    simp only [foldlM_cons, bind_ok, recordPredicateType_ok h]
    have hassoc : ps ++ q :: qs = ps ++ [q] ++ qs := by simp
    constructor
    · rintro schema' ⟨mid, ⟨rfl, hc⟩, hrest⟩
      rw [hassoc]
      exact (ih (h.insert hc)).1 schema' hrest
    · constructor
      · rintro ⟨schema', mid, ⟨rfl, hc⟩, hrest⟩
        rw [hassoc]
        exact (ih (h.insert hc)).2.mp ⟨schema', hrest⟩
      · intro hall
        rw [hassoc] at hall
        have hc : TypeConsistent (ps ++ [q]) := hall.mono (by
          intro p hp
          exact mem_append_left _ hp)
        obtain ⟨schema', hrest⟩ := (ih (h.insert hc)).2.mpr hall
        exact ⟨schema', _, ⟨rfl, hc⟩, hrest⟩

/-- Recording succeeds exactly when no key is given two types. -/
lemma recordPredicates_ok : (∃ schema, recordPredicates ∅ ps = .ok schema) ↔ TypeConsistent ps :=
  (recordPredicates_spec describes_empty).2

/-! ## The predicates of a state -/

def KnowledgeObligation.predicates (o : KnowledgeObligation) : List KnowledgePredicate :=
  o.criterion.predicate :: planPredicates o.plan

def KnowledgeStateProjection.predicates (s : KnowledgeStateProjection) :
    List KnowledgePredicate :=
  (values s.claims).map KnowledgeClaim.predicate
    ++ (values s.obligations).flatMap KnowledgeObligation.predicates
    ++ (values s.hypotheses).map KnowledgeHypothesis.definition

def observationSchemaFromState (s : KnowledgeStateProjection) : BrainResult ObservationSchema := do
  let schema ← (values s.claims).foldlM
    (fun schema claim => recordPredicateType schema claim.predicate) ∅
  let schema ← (values s.obligations).foldlM (fun schema obligation => do
    let schema ← recordPredicateType schema obligation.criterion.predicate
    (planPredicates obligation.plan).foldlM recordPredicateType schema) schema
  (values s.hypotheses).foldlM
    (fun schema hypothesis => recordPredicateType schema hypothesis.definition) schema

end Tidex.Knowledge
