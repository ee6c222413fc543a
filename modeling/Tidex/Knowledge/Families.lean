/-
  Knowledge.Families — rival hypotheses and the plans that discriminate them.
-/
import Tidex.Knowledge.Schema

namespace Tidex.Knowledge

open Tidex.Lib List Std.ExtTreeMap BTreeMap BTreeSet

/-! ## The check -/

/-- The errors of the check, which differ between its two uses. -/
structure PredictionCodes where
  rivals : BrainError
  missing : BrainError
  crosses : BrainError
  empty : BrainError
  familyMissing : BrainError
  incomplete : BrainError
  unpredicted : BrainError

abbrev HypothesisEntry := KnowledgeHypothesisId × HypothesisFamilyId
abbrev HypothesisFamilies := BTreeMap HypothesisFamilyId (List HypothesisEntry)

def hypothesisFamilies (entries : List HypothesisEntry) : HypothesisFamilies :=
  groupBy Prod.snd entries

/-- Every family has at least two rivals. -/
def validateRivals (codes : PredictionCodes) (families : HypothesisFamilies) : BrainResult Unit :=
  failIf (∃ family ∈ BTreeMap.values families, family.length < 2) codes.rivals

def predictionStep (familyOf : KnowledgeHypothesisId → Option HypothesisFamilyId)
    (codes : PredictionCodes) (family : Option HypothesisFamilyId)
    (hypothesisId : KnowledgeHypothesisId) : BrainResult (Option HypothesisFamilyId) := do
  let actual ← okOr (familyOf hypothesisId) codes.missing
  match family with
  | some expected => do
    failIf (expected ≠ actual) codes.crosses
    return family
  | none => return some actual

def predictionFamily (familyOf : KnowledgeHypothesisId → Option HypothesisFamilyId)
    (codes : PredictionCodes) (predictions : Predictions) : BrainResult HypothesisFamilyId := do
  let family ← predictions.keys.foldlM (predictionStep familyOf codes) none
  okOr family codes.empty

def planFamilyStep (familyOf : KnowledgeHypothesisId → Option HypothesisFamilyId)
    (families : HypothesisFamilies) (codes : PredictionCodes)
    (predicted : BTreeSet HypothesisFamilyId) (plan : CognitivePlan) :
    BrainResult (BTreeSet HypothesisFamilyId) :=
  match plan.predictions with
  | none => .ok predicted
  | some predictions => do
    let familyId ← predictionFamily familyOf codes predictions
    let family ← okOr families[familyId]? codes.familyMissing
    failIf (predictions.size ≠ family.length
      ∨ ∃ hypothesisId ∈ predictions.keys, hypothesisId ∉ family.map Prod.fst) codes.incomplete
    return predicted.insert familyId

def validatePredictions (familyOf : KnowledgeHypothesisId → Option HypothesisFamilyId)
    (families : HypothesisFamilies) (codes : PredictionCodes) (plans : List CognitivePlan) :
    BrainResult Unit := do
  let predicted ← plans.foldlM (planFamilyStep familyOf families codes) ∅
  failIf (predicted.size ≠ families.size) codes.unpredicted

/-! ## When it passes -/

section

variable {familyOf : KnowledgeHypothesisId → Option HypothesisFamilyId}
variable {families : HypothesisFamilies} {codes : PredictionCodes}

lemma validateRivals_ok {u : Unit} : validateRivals codes families = .ok u ↔
      ∀ (id : HypothesisFamilyId) (family : List HypothesisEntry), families[id]? = some family →
        2 ≤ family.length := by
  rw [validateRivals, failIf_ok]
  simp only [mem_values, not_exists, not_and, not_lt]
  constructor
  · intro h id family hid
    exact h family ⟨id, hid⟩
  · intro h family hmem
    obtain ⟨id, hid⟩ := hmem
    exact h id family hid

def PredictsFamily (familyOf : KnowledgeHypothesisId → Option HypothesisFamilyId)
    (predictions : Predictions) (family : HypothesisFamilyId) : Prop :=
  predictions.keys ≠ [] ∧ ∀ id ∈ predictions.keys, familyOf id = some family

variable {predictions : Predictions}

lemma PredictsFamily.unique {family family' : HypothesisFamilyId}
    (h : PredictsFamily familyOf predictions family)
    (h' : PredictsFamily familyOf predictions family') : family' = family := by
  obtain ⟨id, hid⟩ := exists_mem_of_ne_nil _ h.1
  have heq := h'.2 id hid
  rw [h.2 id hid] at heq
  exact (Option.some.inj heq).symm

lemma foldlM_predictionStep_some {ids : List KnowledgeHypothesisId}
    {family : HypothesisFamilyId} {result : Option HypothesisFamilyId} :
    ids.foldlM (predictionStep familyOf codes) (some family) = .ok result ↔
      result = some family ∧ ∀ id ∈ ids, familyOf id = some family := by
  induction ids with
  | nil =>
    rw [foldlM_nil, pure_ok]
    simp [eq_comm]
  | cons id ids ih =>
    rw [foldlM_cons, bind_ok]
    simp only [predictionStep, bind_ok, okOr_ok, failIf_ok, pure_ok, ne_eq,
      not_not, forall_mem_cons]
    constructor
    · rintro ⟨_, ⟨actual, hactual, _, rfl, rfl⟩, hrest⟩
      rw [ih] at hrest
      exact ⟨hrest.1, hactual, hrest.2⟩
    · rintro ⟨hresult, hid, hrest⟩
      exact ⟨some family, ⟨family, hid, (), rfl, rfl⟩, ih.mpr ⟨hresult, hrest⟩⟩

/-- A plan's predictions have a family exactly when they are all about it. -/
lemma predictionFamily_ok {family : HypothesisFamilyId} :
    predictionFamily familyOf codes predictions = .ok family ↔
      PredictsFamily familyOf predictions family := by
  simp only [predictionFamily, bind_ok, okOr_ok, exists_eq_right, PredictsFamily]
  cases predictions.keys with
  | nil => simp [pure_ok]
  | cons id ids =>
    rw [foldlM_cons, bind_ok]
    simp only [predictionStep, bind_ok, okOr_ok, pure_ok, ne_eq, reduceCtorEq,
      not_false_eq_true, true_and, forall_mem_cons]
    constructor
    · rintro ⟨_, ⟨actual, hactual, rfl⟩, hrest⟩
      obtain ⟨hfamily, hids⟩ := foldlM_predictionStep_some.mp hrest
      cases hfamily
      exact ⟨hactual, hids⟩
    · rintro ⟨hid, hids⟩
      exact ⟨some family, ⟨family, hid, rfl⟩, foldlM_predictionStep_some.mpr ⟨rfl, hids⟩⟩

def PlanCoversFamily (familyOf : KnowledgeHypothesisId → Option HypothesisFamilyId)
    (families : HypothesisFamilies) (plan : CognitivePlan) : Prop :=
  ∀ predictions, plan.predictions = some predictions →
    ∃ familyId family, PredictsFamily familyOf predictions familyId ∧
      families[familyId]? = some family ∧ predictions.size = family.length ∧
      ∀ id ∈ predictions.keys, id ∈ family.map Prod.fst

/-- What the whole check establishes. -/
structure FamiliesCovered (familyOf : KnowledgeHypothesisId → Option HypothesisFamilyId)
    (families : HypothesisFamilies) (plans : List CognitivePlan) : Prop where
  plans_cover : ∀ plan ∈ plans, PlanCoversFamily familyOf families plan
  predicted : ∀ familyId ∈ families, ∃ plan ∈ plans, ∃ predictions,
    plan.predictions = some predictions ∧ PredictsFamily familyOf predictions familyId

variable {predicted predicted' : BTreeSet HypothesisFamilyId}

lemma planFamilyStep_ok {plan : CognitivePlan} :
    planFamilyStep familyOf families codes predicted plan = .ok predicted' ↔
      PlanCoversFamily familyOf families plan ∧ (plan.predictions = none ∧ predicted' = predicted ∨
          ∃ predictions familyId, plan.predictions = some predictions ∧
            PredictsFamily familyOf predictions familyId ∧
            predicted' = predicted.insert familyId) := by
  unfold planFamilyStep PlanCoversFamily
  cases hplan : plan.predictions with
  | none => simp [eq_comm]
  | some predictions =>
    simp only [bind_ok, okOr_ok, failIf_ok, pure_ok, predictionFamily_ok, not_or, not_exists,
      not_and, not_not, ne_eq, reduceCtorEq, false_and, false_or, Option.some.injEq, forall_eq']
    constructor
    · rintro ⟨familyId, hfamily, family, hget, _, ⟨hsize, hids⟩, rfl⟩
      exact ⟨⟨familyId, family, hfamily, hget, hsize, hids⟩, predictions, familyId, rfl, hfamily,
        rfl⟩
    · rintro ⟨⟨familyId, family, hfamily, hget, hsize, hids⟩, _, familyId', rfl, hfamily', rfl⟩
      obtain rfl := hfamily.unique hfamily'
      exact ⟨familyId', hfamily, family, hget, (), ⟨hsize, hids⟩, rfl⟩

lemma PlanCoversFamily.mem_families {plan : CognitivePlan} {familyId : HypothesisFamilyId}
    (h : PlanCoversFamily familyOf families plan) (hpred : plan.predictions = some predictions)
    (hfamily : PredictsFamily familyOf predictions familyId) : familyId ∈ families := by
  obtain ⟨familyId', family, hfamily', hget, -⟩ := h predictions hpred
  obtain rfl := hfamily.unique hfamily'
  exact mem_iff_getElem?.mpr ⟨family, hget⟩

variable {plans : List CognitivePlan}

lemma foldlM_planFamilyStep_spec
    (h : plans.foldlM (planFamilyStep familyOf families codes) predicted = .ok predicted') :
    (∀ plan ∈ plans, PlanCoversFamily familyOf families plan) ∧
      ∀ familyId, familyId ∈ predicted' ↔ familyId ∈ predicted ∨ ∃ plan ∈ plans,
        ∃ predictions, plan.predictions = some predictions ∧
          PredictsFamily familyOf predictions familyId := by
  induction plans generalizing predicted with
  | nil =>
    rw [foldlM_nil, pure_ok] at h
    simp [h]
  | cons plan plans ih =>
    rw [foldlM_cons, bind_ok] at h
    obtain ⟨mid, hstep, hrest⟩ := h
    obtain ⟨hcovers, hmid⟩ := planFamilyStep_ok.mp hstep
    obtain ⟨hplans, hmem⟩ := ih hrest
    refine ⟨forall_mem_cons.mpr ⟨hcovers, hplans⟩, ?_⟩
    intro familyId
    rw [hmem, exists_mem_cons_iff]
    rcases hmid with ⟨hnone, rfl⟩ | ⟨predictions, familyId', hsome, hfamily, rfl⟩
    · simp [hnone]
    · rw [BTreeSet.mem_insert_iff]
      have hthis : (∃ p, plan.predictions = some p ∧ PredictsFamily familyOf p familyId) ↔
          familyId = familyId' := by
        constructor
        · rintro ⟨p, hp, hpf⟩
          rw [hsome] at hp
          cases hp
          exact hfamily.unique hpf
        · rintro rfl
          exact ⟨predictions, hsome, hfamily⟩
      rw [hthis]
      tauto

lemma foldlM_planFamilyStep_ok (codes : PredictionCodes) (predicted : BTreeSet HypothesisFamilyId)
    (h : ∀ plan ∈ plans, PlanCoversFamily familyOf families plan) :
    ∃ predicted', plans.foldlM (planFamilyStep familyOf families codes) predicted =
      .ok predicted' := by
  have hstep : ∀ predicted plan, plan ∈ plans → True →
      ∃ predicted', planFamilyStep familyOf families codes predicted plan = .ok predicted' ∧
        True := by
    intro predicted plan hplan _
    have hcovers := h plan hplan
    cases hpred : plan.predictions with
    | none =>
      exact ⟨predicted, planFamilyStep_ok.mpr ⟨hcovers, .inl ⟨hpred, rfl⟩⟩, trivial⟩
    | some predictions =>
      obtain ⟨familyId, -, hfamily, -⟩ := hcovers predictions hpred
      exact ⟨predicted.insert familyId, planFamilyStep_ok.mpr
        ⟨hcovers, .inr ⟨predictions, familyId, hpred, hfamily, rfl⟩⟩, trivial⟩
  obtain ⟨predicted', hrun, -⟩ := foldlM_ok_of_step (fun _ => True) trivial hstep
  exact ⟨predicted', hrun⟩

/-- The check passes exactly when every plan covers a family and every family
    is predicted. -/
lemma validatePredictions_ok {u : Unit} :
    validatePredictions familyOf families codes plans = .ok u ↔
      FamiliesCovered familyOf families plans := by
  simp only [validatePredictions, bind_ok, failIf_ok, ne_eq, not_not]
  constructor
  · rintro ⟨predicted, hrun, hsize⟩
    obtain ⟨hplans, hmem⟩ := foldlM_planFamilyStep_spec hrun
    refine ⟨hplans, ?_⟩
    -- the predicted families are families, and there are as many
    have hsub : ∀ familyId ∈ predicted, familyId ∈ families := by
      intro familyId hf
      rcases (hmem familyId).mp hf with hf | ⟨plan, hplan, predictions, hpred, hfamily⟩
      · simp at hf
      · exact (hplans plan hplan).mem_families hpred hfamily
    intro familyId hf
    have hall := mem_of_subset_keys_of_size_eq hsub hsize hf
    rcases (hmem familyId).mp hall with hempty | hplan
    · simp at hempty
    · exact hplan
  · rintro ⟨hplans, hpredicted⟩
    obtain ⟨predicted, hrun⟩ := foldlM_planFamilyStep_ok codes ∅ hplans
    obtain ⟨-, hmem⟩ := foldlM_planFamilyStep_spec hrun
    refine ⟨predicted, hrun, ?_⟩
    apply Nat.le_antisymm
    · refine size_le_of_subset_keys ?_
      intro familyId hf
      rcases (hmem familyId).mp hf with hf | ⟨plan, hplan, predictions, hpred, hfamily⟩
      · simp at hf
      · exact (hplans plan hplan).mem_families hpred hfamily
    · exact size_keys_le_of_subset fun familyId hf =>
        (hmem familyId).mpr (.inr (hpredicted familyId hf))

/-- Where the check passes, every listed hypothesis is predicted by some plan. -/
lemma FamiliesCovered.exists_prediction {entries : List HypothesisEntry}
    (h : FamiliesCovered familyOf (hypothesisFamilies entries) plans) {entry : HypothesisEntry}
    (hentry : entry ∈ entries) :
    ∃ plan ∈ plans, ∃ predictions, plan.predictions = some predictions ∧
      entry.1 ∈ predictions.keys := by
  obtain ⟨plan, hplan, predictions, hpred, hfamily⟩ :=
    h.predicted entry.2 (mem_groupBy.mpr ⟨entry, hentry, rfl⟩)
  refine ⟨plan, hplan, predictions, hpred, ?_⟩
  obtain ⟨familyId, family, hfamily', hget, hsize, hids⟩ := h.plans_cover plan hplan _ hpred
  obtain rfl := hfamily.unique hfamily'
  obtain ⟨-, rfl⟩ := groupBy_eq_some.mp hget
  -- the predicted ids are within the family and as many, so they are all of it
  have hsubperm : predictions.keys.Subperm
      ((entries.filter (·.2 = entry.2)).map Prod.fst) :=
    subperm_of_subset nodup_keys (fun id hid => hids id hid)
  have hperm := hsubperm.perm_of_length_le (by
    rw [length_keys, length_map, hsize])
  refine hperm.mem_iff.mpr (mem_map.mpr ⟨entry, ?_, rfl⟩)
  simp [hentry]

end

end Tidex.Knowledge
