/-
  Knowledge.Assessment — how receipts move claims and hypotheses.
-/
import Tidex.Knowledge.Schema

namespace Tidex.Knowledge

open Tidex.Lib List Std.ExtTreeSet BTreeMap KnowledgeObligationState

/-! ## Claims -/

def KnowledgeObligationState.contradictionWitnesses : KnowledgeObligationState → Witnesses
  | .blocked _ witnesses (.contradictoryObservation _) => witnesses
  | _ => ∅

def unionWitnesses (sets : List Witnesses) : Witnesses :=
  sets.foldl (fun all witnesses => witnesses.toList.foldl (fun all w => all.insert w) all) ∅

def deriveClaimAssessment (obligations : List KnowledgeObligation) : ClaimAssessment :=
  let allWitnesses := unionWitnesses (obligations.map (·.state.witnesses))
  let contradictionWitnesses :=
    unionWitnesses (obligations.map (·.state.contradictionWitnesses))
  let allSatisfied := obligations.all (·.state.isSatisfied)
  if ¬contradictionWitnesses.isEmpty then .contradicted contradictionWitnesses
  else if allSatisfied then .established allWitnesses
  else .unresolved

lemma mem_foldl_insert {ws : List ActionReceiptDigest} {all : Witnesses}
    {r : ActionReceiptDigest} :
    r ∈ ws.foldl (fun all w => all.insert w) all ↔ r ∈ all ∨ r ∈ ws := by
  induction ws generalizing all with
  | nil => simp
  | cons w ws ih =>
    rw [foldl_cons, ih, BTreeSet.mem_insert_iff, mem_cons]
    tauto

lemma mem_unionWitnesses {sets : List Witnesses} {r : ActionReceiptDigest} :
    r ∈ unionWitnesses sets ↔ ∃ s ∈ sets, r ∈ s := by
  have hfold : ∀ all : Witnesses,
      r ∈ sets.foldl (fun all witnesses =>
        witnesses.toList.foldl (fun all w => all.insert w) all) all ↔
        r ∈ all ∨ ∃ s ∈ sets, r ∈ s := by
    induction sets with
    | nil => simp
    | cons s sets ih =>
      intro all
      rw [foldl_cons, ih, mem_foldl_insert, mem_toList]
      simp only [mem_cons, exists_eq_or_imp]
      tauto
  unfold unionWitnesses
  rw [hfold]
  simp

lemma isEmpty_unionWitnesses {sets : List Witnesses} :
    (unionWitnesses sets).isEmpty = true ↔ ∀ s ∈ sets, s = ∅ := by
  rw [Std.ExtTreeSet.isEmpty_iff, Std.ExtTreeSet.eq_empty_iff_forall_not_mem]
  simp only [mem_unionWitnesses, not_exists, not_and, Std.ExtTreeSet.eq_empty_iff_forall_not_mem]
  exact ⟨fun h s hs r => h r s hs, fun h r s hs => h s hs r⟩

lemma contradictionWitnesses_of_isSatisfied {state : KnowledgeObligationState}
    (h : state.isSatisfied = true) : state.contradictionWitnesses = ∅ := by
  cases state with
  | satisfied => rfl
  | open_ => simp [isSatisfied] at h
  | blocked => simp [isSatisfied] at h

variable {obligations : List KnowledgeObligation}

lemma deriveClaimAssessment_established :
    (∃ witnesses, deriveClaimAssessment obligations = .established witnesses) ↔
      ∀ o ∈ obligations, o.state.isSatisfied = true := by
  unfold deriveClaimAssessment
  constructor
  · rintro ⟨witnesses, h⟩
    simp only at h
    split at h
    · cases h
    · split at h
      · next hall => exact all_eq_true.mp hall
      · cases h
  · intro hall
    have hempty : (unionWitnesses
        (obligations.map (·.state.contradictionWitnesses))).isEmpty = true := by
      rw [isEmpty_unionWitnesses]
      intro s hs
      obtain ⟨o, ho, rfl⟩ := mem_map.mp hs
      exact contradictionWitnesses_of_isSatisfied (hall o ho)
    have hsat : obligations.all (·.state.isSatisfied) = true := all_eq_true.mpr hall
    refine ⟨unionWitnesses (obligations.map (·.state.witnesses)), ?_⟩
    simp only [hempty, hsat]
    simp

lemma exists_blocked_of_contradicted {witnesses : Witnesses}
    (h : deriveClaimAssessment obligations = .contradicted witnesses) :
    ∃ o ∈ obligations, ∃ attempts w reason, o.state = .blocked attempts w reason := by
  unfold deriveClaimAssessment at h
  simp only at h
  split at h
  · next hne =>
    rw [isEmpty_unionWitnesses] at hne
    push Not at hne
    obtain ⟨s, hs, hsne⟩ := hne
    obtain ⟨o, ho, rfl⟩ := mem_map.mp hs
    refine ⟨o, ho, ?_⟩
    cases hstate : o.state with
    | blocked attempts w reason => exact ⟨attempts, w, reason, rfl⟩
    | _ => simp [hstate, contradictionWitnesses] at hsne
  · split at h <;> cases h

def ClaimAssessment.witnesses : ClaimAssessment → Witnesses
  | .unresolved => ∅
  | .established witnesses | .contradicted witnesses => witnesses

/-- The obligations of a claim, in key order. -/
def obligationsOf (obligations : BTreeMap KnowledgeObligationId KnowledgeObligation)
    (claimId : KnowledgeClaimId) : List KnowledgeObligation :=
  (values obligations).filter (·.claimId = claimId)

variable {obligations : BTreeMap KnowledgeObligationId KnowledgeObligation}

lemma mem_obligationsOf {claimId : KnowledgeClaimId} {o : KnowledgeObligation} :
    o ∈ obligationsOf obligations claimId ↔
      (∃ id : KnowledgeObligationId, obligations[id]? = some o) ∧ o.claimId = claimId := by
  simp [obligationsOf, mem_values]

/-- Recompute the assessment of one claim from its obligations. -/
def reassess (obligations : BTreeMap KnowledgeObligationId KnowledgeObligation)
    (claimId : KnowledgeClaimId) (claim : KnowledgeClaim) : BrainResult KnowledgeClaim := do
  let related := obligationsOf obligations claimId
  failIf (related = []) (integrity "knowledge_claim_without_obligation")
  return { claim with assessment := deriveClaimAssessment related }

def recomputeClaimAssessments (claims : BTreeMap KnowledgeClaimId KnowledgeClaim)
    (obligations : BTreeMap KnowledgeObligationId KnowledgeObligation) :
    BrainResult (BTreeMap KnowledgeClaimId KnowledgeClaim) :=
  claims.keys.foldlM (updateEach id (reassess obligations)
    (integrity "knowledge_claim_missing_during_reduction")) claims

lemma reassess_ok {claimId : KnowledgeClaimId} {claim claim' : KnowledgeClaim} :
    reassess obligations claimId claim = .ok claim' ↔ obligationsOf obligations claimId ≠ [] ∧
        claim' = { claim with assessment :=
          deriveClaimAssessment (obligationsOf obligations claimId) } := by
  simp only [reassess, bind_ok, failIf_ok, pure_ok, ne_eq]
  constructor
  · rintro ⟨_, hne, rfl⟩
    exact ⟨hne, rfl⟩
  · rintro ⟨hne, rfl⟩
    exact ⟨(), hne, rfl⟩

lemma recomputeClaimAssessments_spec {claims claims' : BTreeMap KnowledgeClaimId KnowledgeClaim}
    (h : recomputeClaimAssessments claims obligations = .ok claims') (claimId : KnowledgeClaimId) :
    claims'[claimId]? = (claims[claimId]?).map fun claim =>
      { claim with assessment := deriveClaimAssessment (obligationsOf obligations claimId) } := by
  have hnodup : (claims.keys.map id).Nodup := by
    rw [map_id]
    exact Std.ExtTreeMap.nodup_keys
  obtain ⟨hin, hout⟩ := foldlM_updateEach hnodup h
  rw [map_id] at hout
  by_cases hmem : claimId ∈ claims
  · obtain ⟨claim, claim', hclaim, hstep, hclaim'⟩ :=
      hin claimId (Std.ExtTreeMap.mem_keys.mpr hmem)
    rw [reassess_ok] at hstep
    simp only [id_eq] at hclaim hclaim'
    rw [hclaim, hclaim', hstep.2]
    rfl
  · rw [hout claimId (fun hkey => hmem (Std.ExtTreeMap.mem_keys.mp hkey)),
      Std.ExtTreeMap.getElem?_eq_none hmem]
    rfl

lemma recomputeClaimAssessments_ok {claims : BTreeMap KnowledgeClaimId KnowledgeClaim}
    (h : ∀ id : KnowledgeClaimId, id ∈ claims → obligationsOf obligations id ≠ []) :
    ∃ claims', recomputeClaimAssessments claims obligations = .ok claims' := by
  refine foldlM_updateEach_ok ?_ ?_
  · rw [map_id]
    exact Std.ExtTreeMap.nodup_keys
  · intro id hid
    obtain ⟨claim, hclaim⟩ := mem_iff_getElem?.mp (Std.ExtTreeMap.mem_keys.mp hid)
    exact ⟨claim, _, hclaim, reassess_ok.mpr ⟨h id (Std.ExtTreeMap.mem_keys.mp hid), rfl⟩⟩

/-! ## Hypotheses -/

def hypothesisWitnesses : HypothesisAssessment → List ActionReceiptDigest
  | .viable => []
  | .supported witnesses | .refuted witnesses => witnesses.toList
  | .conflicted supporting refuting => supporting.toList ++ refuting.toList

def reduceHypothesisAssessment (assessment : HypothesisAssessment)
    (evaluation : PredicateEvaluation) (receipt : ActionReceiptDigest) :
    BrainResult HypothesisAssessment :=
  match assessment, evaluation with
  | .viable, .matches_ => .ok (.supported (.ofList [receipt]))
  | .viable, .contradicts => .ok (.refuted (.ofList [receipt]))
  | .supported witnesses, .matches_ => .ok (.supported (witnesses.insert receipt))
  | .refuted witnesses, .contradicts => .ok (.refuted (witnesses.insert receipt))
  | .supported witnesses, .contradicts => .ok (.conflicted witnesses (.ofList [receipt]))
  | .refuted witnesses, .matches_ => .ok (.conflicted (.ofList [receipt]) witnesses)
  | .conflicted supporting refuting, .matches_ =>
    .ok (.conflicted (supporting.insert receipt) refuting)
  | .conflicted supporting refuting, .contradicts =>
    .ok (.conflicted supporting (refuting.insert receipt))
  | _, .missing | _, .typeMismatch =>
    .error (integrity "hypothesis_prediction_observation_missing_or_type_mismatch")

lemma mem_ofList_singleton {a b : ActionReceiptDigest} :
    b ∈ (ofList [a] : Witnesses) ↔ b = a := by
  rw [mem_ofList]
  simp [eq_comm]

variable {evaluation : PredicateEvaluation}

/-- A decided prediction adds its receipt to the witnesses and keeps the rest. -/
lemma reduceHypothesisAssessment_spec {assessment assessment' : HypothesisAssessment}
    {receipt : ActionReceiptDigest}
    (h : reduceHypothesisAssessment assessment evaluation receipt = .ok assessment') :
    ∀ r, r ∈ hypothesisWitnesses assessment' ↔
      r ∈ hypothesisWitnesses assessment ∨ r = receipt := by
  intro r
  cases assessment <;> cases evaluation <;>
    simp only [reduceHypothesisAssessment, Except.ok.injEq, reduceCtorEq] at h <;> subst h <;>
    simp only [hypothesisWitnesses, mem_append, mem_toList,
      BTreeSet.mem_insert_iff, mem_ofList_singleton, not_mem_nil] <;>
    tauto

lemma reduceHypothesisAssessment_ok (assessment : HypothesisAssessment)
    (receipt : ActionReceiptDigest) (h : evaluation = .matches_ ∨ evaluation = .contradicts) :
    ∃ assessment', reduceHypothesisAssessment assessment evaluation receipt = .ok assessment' := by
  rcases h with rfl | rfl <;> cases assessment <;> exact ⟨_, rfl⟩

/-- Whether every family has one supported hypothesis and only refuted rivals. -/
def hypothesisFamiliesResolved
    (hypotheses : BTreeMap KnowledgeHypothesisId KnowledgeHypothesis) : Bool :=
  (values (groupBy KnowledgeHypothesis.familyId
    (values hypotheses))).all fun family =>
      (family.filter (·.assessment.isSupported)).length == 1
        && (family.filter (·.assessment.isRefuted)).length == family.length - 1

lemma hypothesisFamiliesResolved_iff
    {hypotheses : BTreeMap KnowledgeHypothesisId KnowledgeHypothesis} :
    hypothesisFamiliesResolved hypotheses = true ↔
      ∀ (id : KnowledgeHypothesisId) (h : KnowledgeHypothesis), hypotheses[id]? = some h →
        let family := (values hypotheses).filter (·.familyId = h.familyId)
        (family.filter (·.assessment.isSupported)).length = 1 ∧
          (family.filter (·.assessment.isRefuted)).length = family.length - 1 := by
  simp only [hypothesisFamiliesResolved, all_eq_true, mem_values,
    Bool.and_eq_true, beq_iff_eq, groupBy_eq_some]
  constructor
  · intro hall id h hid
    refine hall _ ⟨h.familyId, ?_, rfl⟩
    intro hempty
    have hmem : h ∈ (values hypotheses).filter (·.familyId = h.familyId) := by
      simp only [mem_filter, mem_values, decide_eq_true_eq, and_true]
      exact ⟨id, hid⟩
    rw [hempty] at hmem
    cases hmem
  · rintro hall family ⟨familyId, hne, rfl⟩
    obtain ⟨h, hh⟩ := exists_mem_of_ne_nil _ hne
    simp only [mem_filter, mem_values, decide_eq_true_eq] at hh
    obtain ⟨⟨id, hid⟩, rfl⟩ := hh
    exact hall id h hid

end Tidex.Knowledge
