/-
  Knowledge.Contract — drafts, their validation, and revision zero.
-/
import Tidex.Knowledge.Validate

namespace Tidex.Knowledge

open Tidex.Lib BTreeMap

/-! ## The contract -/

def CognitivePlan.startsAtRoot : CognitivePlan → Bool
  | .expandDependencyClosure _ depth _ => depth = 0
  | _ => true

def contractPredictionCodes : PredictionCodes where
  rivals := invalid "hypothesis_family_without_rivals"
  missing := invalid "prediction_hypothesis_missing"
  crosses := invalid "prediction_crosses_hypothesis_families"
  empty := invalid "prediction_family_missing"
  -- a family found through one of its hypotheses is there
  familyMissing := invalid "prediction_family_missing"
  incomplete := invalid "prediction_does_not_cover_rival_family"
  unpredicted := invalid "hypothesis_family_without_precommitted_predictions"

abbrev ClaimDrafts := BTreeMap KnowledgeClaimId KnowledgeClaimDraft
abbrev HypothesisDrafts := BTreeMap KnowledgeHypothesisId KnowledgeHypothesisDraft

def insertClaimDraft (claims : ClaimDrafts) (claim : KnowledgeClaimDraft) :
    BrainResult ClaimDrafts :=
  insertEach KnowledgeClaimDraft.claimId id (invalid "knowledge_claim_duplicate")
    claims claim

def contractClaim (acc : ClaimDrafts × ObservationSchema) (claim : KnowledgeClaimDraft) :
    BrainResult (ClaimDrafts × ObservationSchema) := do
  let claims ← insertClaimDraft acc.1 claim
  let schema ← recordPredicateType acc.2 claim.predicate
  return (claims, schema)

def insertObligationId (ids : BTreeSet KnowledgeObligationId)
    (obligation : KnowledgeObligationDraft) : BrainResult (BTreeSet KnowledgeObligationId) :=
  BTreeSet.insertOnce KnowledgeObligationDraft.obligationId
    (invalid "knowledge_obligation_duplicate") ids obligation

def insertHypothesisDraft (hypotheses : HypothesisDrafts) (hypothesis : KnowledgeHypothesisDraft) :
    BrainResult HypothesisDrafts :=
  insertEach KnowledgeHypothesisDraft.hypothesisId id
    (invalid "knowledge_hypothesis_duplicate") hypotheses hypothesis

def contractHypothesis (acc : HypothesisDrafts × ObservationSchema)
    (hypothesis : KnowledgeHypothesisDraft) :
    BrainResult (HypothesisDrafts × ObservationSchema) := do
  let hypotheses ← insertHypothesisDraft acc.1 hypothesis
  let schema ← recordPredicateType acc.2 hypothesis.definition
  return (hypotheses, schema)

def contractClaimCriterion
    (obligationsByClaim : BTreeMap KnowledgeClaimId (List KnowledgeObligationDraft))
    (claim : KnowledgeClaimDraft) : BrainResult Unit := do
  let obligations ← okOr obligationsByClaim[claim.claimId]?
    (invalid "knowledge_claim_without_obligation")
  failIf (¬∃ obligation ∈ obligations, obligation.criterion.predicate = claim.predicate)
    (invalid "knowledge_claim_without_direct_criterion")

def KnowledgeContractDraft.hypothesisEntries (draft : KnowledgeContractDraft) :
    List HypothesisEntry :=
  draft.hypotheses.map fun h => (h.hypothesisId, h.familyId)

section

variable [Platform]

def contractObligation (claims : ClaimDrafts) (budget : KnowledgeBudget)
    (acc : BTreeSet KnowledgeObligationId × ObservationSchema)
    (obligation : KnowledgeObligationDraft) :
    BrainResult (BTreeSet KnowledgeObligationId × ObservationSchema) := do
  let ids ← insertObligationId acc.1 obligation
  let claim ← okOr claims[obligation.claimId]? (invalid "knowledge_obligation_claim_missing")
  failIf (¬claim.domain.isProfiled ∧ claim.domain ≠ obligation.plan.domain)
    (invalid "knowledge_obligation_domain_method_mismatch")
  obligation.plan.validateBounds budget
  validateCriterionPlanBinding obligation.criterion obligation.plan
  let schema ← recordPredicateType acc.2 obligation.criterion.predicate
  let schema ← (planPredicates obligation.plan).foldlM recordPredicateType schema
  failIf (obligation.plan.startsAtRoot = false) (invalid "initial_dependency_root_depth_nonzero")
  return (ids, schema)

def validateContract (draft : KnowledgeContractDraft) : BrainResult Unit := do
  draft.budget.validate
  failIf (draft.claims = [] ∨ draft.obligations = []
    ∨ draft.claims.length > hardMaxClaims
    ∨ draft.obligations.length > hardMaxObligations
    ∨ draft.hypotheses.length > hardMaxHypotheses)
    (invalid "knowledge_contract_cardinality_invalid")
  let (claims, schema) ← draft.claims.foldlM contractClaim (∅, ∅)
  let (_, schema) ← draft.obligations.foldlM (contractObligation claims draft.budget) (∅, schema)
  let obligationsByClaim := groupBy KnowledgeObligationDraft.claimId draft.obligations
  forM draft.claims (contractClaimCriterion obligationsByClaim)
  let (hypotheses, _) ← draft.hypotheses.foldlM contractHypothesis (∅, schema)
  let families := hypothesisFamilies draft.hypothesisEntries
  validateRivals contractPredictionCodes families
  validatePredictions (fun id => (hypotheses[id]?).map KnowledgeHypothesisDraft.familyId)
    families contractPredictionCodes (draft.obligations.map KnowledgeObligationDraft.plan)

/-! ## Revision zero -/

def KnowledgeClaimDraft.toClaim (claim : KnowledgeClaimDraft) : KnowledgeClaim :=
  ⟨claim.claimId, claim.domain, claim.predicate, .unresolved⟩

def KnowledgeHypothesisDraft.toHypothesis (hypothesis : KnowledgeHypothesisDraft) :
    KnowledgeHypothesis :=
  ⟨hypothesis.hypothesisId, hypothesis.familyId, hypothesis.definition, .viable⟩

/-- The obligations of the first state and the dependency index built with them. -/
structure InitialIndex where
  obligations : BTreeMap KnowledgeObligationId KnowledgeObligation
  dependencyParents : BTreeMap DependencyNodeId (Option DependencyNodeId)
  dependencyDepths : BTreeMap DependencyNodeId Nat
  dependencyGraph : DependencyGraph

def InitialIndex.empty : InitialIndex :=
  ⟨∅, ∅, ∅, ∅⟩

def InitialIndex.indexPlan (index : InitialIndex) (plan : CognitivePlan) : InitialIndex :=
  match plan with
  | .expandDependencyClosure root depth _ =>
    if root ∈ index.dependencyParents then
      { index with dependencyParents := index.dependencyParents.insert root none }
    else
      { index with
        dependencyParents := index.dependencyParents.insert root none
        dependencyDepths := index.dependencyDepths.insert root depth
        dependencyGraph := index.dependencyGraph.insert root ∅ }
  | _ => index

def initialObligation (claims : BTreeMap KnowledgeClaimId KnowledgeClaim) (index : InitialIndex)
    (obligation : KnowledgeObligationDraft) : BrainResult InitialIndex := do
  let claim ← okOr claims[obligation.claimId]? (invalid "knowledge_obligation_claim_missing")
  let index := index.indexPlan obligation.plan
  failIf (obligation.obligationId ∈ index.obligations) (invalid "knowledge_obligation_duplicate")
  return { index with
    obligations := index.obligations.insert obligation.obligationId
      ⟨obligation.obligationId, obligation.claimId, claim.domain, obligation.criterion,
        obligation.plan, .open_ 0 ∅⟩ }

/-- The first state of an inquiry, before it is sealed and validated. -/
def initialProjection (E : KnowledgeEngine) (inquiryId : InquiryId)
    (capabilityBundleReference : PrivateFileReference) (capabilityBundle : CapabilityBundleDigest)
    (budget : KnowledgeBudget) (claims : BTreeMap KnowledgeClaimId KnowledgeClaim)
    (index : InitialIndex) (hypotheses : BTreeMap KnowledgeHypothesisId KnowledgeHypothesis) :
    KnowledgeStateProjection where
  schema := .v1
  authorityRoot := E.authorityRoot
  inquiryId := inquiryId
  capabilityBundleReference := capabilityBundleReference
  capabilityBundle := capabilityBundle
  policyDigest := E.policy.digest
  revision := 0
  parentDigest := none
  parentReference := none
  lastActionReceiptReference := none
  budget := budget
  usage := ⟨0, 0, 0⟩
  claims := claims
  obligations := index.obligations
  hypotheses := hypotheses
  dependencyParents := index.dependencyParents
  dependencyDepths := index.dependencyDepths
  dependencyGraph := index.dependencyGraph
  boundedReason := none
  appliedReceipts := ∅
  usedEvidenceArtifacts := ∅

/-- Validate and seal a contract as revision zero. -/
def initialize_ (E : KnowledgeEngine) (fs : PrivateRoot) (inquiryId : InquiryId)
    (capabilityBundleReference : PrivateFileReference) (draft : KnowledgeContractDraft) :
    BrainResult KnowledgeState := do
  let bundle ← authenticateBundle fs capabilityBundleReference
  validateContract draft
  let claims ← draft.claims.foldlM (insertEach KnowledgeClaimDraft.claimId
    KnowledgeClaimDraft.toClaim (invalid "knowledge_claim_duplicate")) ∅
  let index ← draft.obligations.foldlM (initialObligation claims) .empty
  let hypotheses ← draft.hypotheses.foldlM
    (insertEach KnowledgeHypothesisDraft.hypothesisId
      KnowledgeHypothesisDraft.toHypothesis (invalid "knowledge_hypothesis_duplicate")) ∅
  let state := (initialProjection E inquiryId capabilityBundleReference bundle draft.budget claims
    index hypotheses).seal
  validateState E fs state
  return state

end

/-! ## What an initialized state is -/

/-- Every indexed node is the root of an obligation entered with it. -/
def InitialIndex.Named (index : InitialIndex) : Prop :=
  ∀ node : DependencyNodeId, node ∈ index.dependencyParents →
    ∃ (id : KnowledgeObligationId) (o : KnowledgeObligation) (depth maxDepth : Nat),
      index.obligations[id]? = some o ∧ o.plan = .expandDependencyClosure node depth maxDepth

lemma indexPlan_obligations (index : InitialIndex) (plan : CognitivePlan) :
    (index.indexPlan plan).obligations = index.obligations := by
  unfold InitialIndex.indexPlan
  split
  · split <;> rfl
  · rfl

lemma mem_indexPlan {index : InitialIndex} {plan : CognitivePlan} {node : DependencyNodeId}
    (h : node ∈ (index.indexPlan plan).dependencyParents) : node ∈ index.dependencyParents ∨
      ∃ depth maxDepth, plan = .expandDependencyClosure node depth maxDepth := by
  unfold InitialIndex.indexPlan at h
  split at h
  · next root depth maxDepth =>
    have hmem : node ∈ index.dependencyParents.insert root none := by
      split at h <;> exact h
    rcases Std.ExtTreeMap.mem_insert.mp hmem with heq | hold
    · rw [Std.LawfulEqCmp.eq_of_compare heq]
      exact .inr ⟨depth, maxDepth, rfl⟩
    · exact .inl hold
  · exact .inl h

variable {claims : BTreeMap KnowledgeClaimId KnowledgeClaim} {o : KnowledgeObligationDraft}

lemma initialObligation_ok {index index' : InitialIndex} :
    initialObligation claims index o = .ok index' ↔
      ∃ claim, claims[o.claimId]? = some claim ∧ o.obligationId ∉ index.obligations ∧
        index' = { index.indexPlan o.plan with
          obligations := index.obligations.insert o.obligationId
            ⟨o.obligationId, o.claimId, claim.domain, o.criterion, o.plan, .open_ 0 ∅⟩ } := by
  simp only [initialObligation, bind_ok, okOr_ok, failIf_ok, pure_ok,
    exists_const, indexPlan_obligations, eq_comm (b := index')]

lemma InitialIndex.Named.step {index index' : InitialIndex} (h : index.Named)
    (hstep : initialObligation claims index o = .ok index') : index'.Named := by
  obtain ⟨claim, -, hnew, rfl⟩ := initialObligation_ok.mp hstep
  intro node hnode
  rcases mem_indexPlan hnode with hold | ⟨depth, maxDepth, hplan⟩
  · obtain ⟨id, o', depth, maxDepth, ho', hplan⟩ := h node hold
    refine ⟨id, o', depth, maxDepth, ?_, hplan⟩
    have hne : o.obligationId ≠ id :=
      fun heq => hnew (heq ▸ mem_iff_getElem?.mpr ⟨o', ho'⟩)
    rw [getElem?_insert_of_ne hne, ho']
  · refine ⟨o.obligationId, ⟨o.obligationId, o.claimId, claim.domain, o.criterion, o.plan,
      .open_ 0 ∅⟩, depth, maxDepth, ?_, hplan⟩
    rw [getElem?_insert_iff, if_pos rfl]

section

variable [Platform] {E : KnowledgeEngine} {fs : PrivateRoot}

structure Initialized (E : KnowledgeEngine) (fs : PrivateRoot) (s : KnowledgeState) : Prop where
  valid : ValidState E fs s
  revision_eq : s.revision = 0
  named : ∀ node : DependencyNodeId, node ∈ s.dependencyParents →
    ∃ (id : KnowledgeObligationId) (o : KnowledgeObligation) (depth maxDepth : Nat),
      s.obligations[id]? = some o ∧ o.plan = .expandDependencyClosure node depth maxDepth

lemma initialize_spec {inquiryId : InquiryId} {reference : PrivateFileReference}
    {draft : KnowledgeContractDraft} {s : KnowledgeState}
    (h : initialize_ E fs inquiryId reference draft = .ok s) : Initialized E fs s := by
  simp only [initialize_, bind_ok, pure_ok] at h
  obtain ⟨bundle, -, _, -, claims, -, index, hindex, hypotheses, -, _, hvalid, rfl⟩ := h
  refine ⟨validateState_ok.mp hvalid, rfl, ?_⟩
  have hempty : InitialIndex.empty.Named := by
    intro node hnode
    simp [InitialIndex.empty] at hnode
  exact foldlM_ok_induction InitialIndex.Named hempty
    (fun _ _ _ _ hnamed hstep => hnamed.step hstep) hindex

end

end Tidex.Knowledge
