/-
  Knowledge.Receipt — which action receipts a state accepts.
-/
import Tidex.Knowledge.Plan
import Tidex.Knowledge.Evidence

namespace Tidex.Knowledge

open Tidex.Lib List BTreeMap

/-! ## The shape of an outcome -/

section

variable [Platform]

/-- Edges come from the expanded node, and only an expansion reports any. -/
def validateEdgeSources (invocation : CognitiveInvocation) (edges : BTreeSet DependencyEdge) :
    BrainResult Unit :=
  match invocation with
  | .expandDependencyClosure value =>
    failIf (∃ edge ∈ edges.toList, edge.fromNode ≠ value.root)
      (invalid "dependency_evidence_wrong_source")
  | _ => failIf (¬edges.isEmpty) (invalid "dependency_edges_on_wrong_invocation")

/-- A discovery is itself a well-formed obligation about its own claim. -/
def validateDiscovery (budget : KnowledgeBudget) (schema : ObservationSchema)
    (discovery : DiscoveredKnowledgeObligation) : BrainResult ObservationSchema := do
  discovery.plan.validateBounds budget
  validateCriterionPlanBinding discovery.criterion discovery.plan
  failIf (discovery.claimPredicate ≠ discovery.criterion.predicate
    ∨ (¬discovery.domain.isProfiled ∧ discovery.domain ≠ discovery.plan.domain))
    (invalid "discovered_obligation_invalid")
  let schema ← recordPredicateType schema discovery.claimPredicate
  let schema ← recordPredicateType schema discovery.criterion.predicate
  (planPredicates discovery.plan).foldlM recordPredicateType schema

def validateOutcomeShape (s : KnowledgeStateProjection) (invocation : CognitiveInvocation)
    (outcome : ActionOutcome) : BrainResult Unit :=
  match outcome with
  | .completed observations dependencyEdges discoveredObligations => do
    failIf (observations.size > s.budget.maxObservationsPerAction
      ∨ dependencyEdges.size > hardMaxDependencyEdgesPerAction)
      (invalid "cognitive_execution_observations_incomplete")
    let edges ← dependencyEdgeCount s.dependencyGraph
    failIf (saturatingAdd u64Width edges dependencyEdges.size > s.budget.maxDependencyEdges
      ∨ discoveredObligations.size > hardMaxDiscoveriesPerAction
      ∨ ∃ key ∈ invocation.requiredObservations.toList, key ∉ observations)
      (invalid "cognitive_execution_observations_incomplete")
    failIf (¬discoveredObligations.isEmpty)
      (integrity "discovery_requires_authenticated_derivation_policy")
    validateEdgeSources invocation dependencyEdges
    let schema ← observationSchemaFromState s
    let _ ← (values discoveredObligations).foldlM (validateDiscovery s.budget) schema
    return ()
  | .boundedNoResult _ | .blocked _ => .ok ()

/-! ## Executors and evidence records -/

def authenticateExecutor (fs : PrivateRoot) (draft : ExecutorIdentityDraft) :
    BrainResult ExecutorAttestation := do
  let implementationBytes ←
    draft.implementation.readVerifiedBounded fs maxExecutorImplementationBytes
  let observedImplementationDigest := Sha256Digest.digestBytes implementationBytes
  return ⟨draft.executorId, draft.interfaceVersion, draft.implementation,
    calculateExecutorVersionDigest draft.executorId draft.interfaceVersion
      draft.implementation.sha256 observedImplementationDigest⟩

def authenticateEvidenceRecord (E : KnowledgeEngine) (fs : PrivateRoot)
    (reference : AuthenticatedEvidenceReference) (invocationDigest : CognitiveInvocationDigest)
    (executorId : ExecutorId) (outcome : ObservationSetDigest) :
    BrainResult KnowledgeEvidenceRecord := do
  let bytes ← reference.record.readVerifiedBounded fs maxEvidenceRecordBytes
  let record ← fromSlice KnowledgeEvidenceRecord bytes
  failIf (reference.record.path ≠ E.semanticPath "evidence" record.manifestDigest.asStr
    ∨ record.schema ≠ .v1
    ∨ record.authorityRoot ≠ E.authorityRoot
    ∨ record.evidenceId ≠ reference.evidenceId
    ∨ record.invocationDigest ≠ invocationDigest
    ∨ record.executorId ≠ executorId
    ∨ record.kind ≠ reference.kind
    ∨ record.outcomeDigest ≠ outcome
    ∨ record.artifact.sha256 ≠ reference.sourceArtifactDigest
    ∨ record.manifestDigest ≠ reference.recordDigest
    ∨ record.calculateDigest ≠ record.manifestDigest)
    (integrity "knowledge_evidence_record_mismatch")
  let artifactBytes ← record.artifact.readVerifiedBounded fs maxEvidenceArtifactBytes
  failIf (artifactBytes.isEmpty = true) (integrity "knowledge_evidence_artifact_empty")
  return record

def requiredEvidenceKinds (invocation : CognitiveInvocation) (outcome : ActionOutcome) :
    BTreeSet EvidenceKind :=
  match invocation with
  | .observeTrace _ => .ofList [EvidenceKind.runtimeTrace]
  | .executeScenario _ => .ofList [EvidenceKind.scenarioResult]
  | .causalIntervention _ => .ofList [EvidenceKind.causalComparison]
  | .searchCounterexample _ => .ofList [EvidenceKind.counterexampleSearch]
  | .verifyFormalProperty _ =>
    if outcome.isCompleted then .ofList [EvidenceKind.formalCertificate]
    else .ofList [EvidenceKind.formalSearchLog]
  | .expandDependencyClosure _ => .ofList [EvidenceKind.dependencyGraph]

structure EvidenceSeen where
  sourceDigests : BTreeSet Sha256Digest
  evidenceKinds : BTreeSet EvidenceKind
  verifiedEvidence : List EvidenceArtifactInput

def EvidenceSeen.none : EvidenceSeen :=
  ⟨∅, ∅, []⟩

/-- One piece of evidence: fresh, of a new and expected kind, and authentic. -/
def authenticateEvidence (E : KnowledgeEngine) (fs : PrivateRoot) (s : KnowledgeStateProjection)
    (receipt : ActionReceipt) (seen : EvidenceSeen)
    (entry : KnowledgeEvidenceId × AuthenticatedEvidenceReference) : BrainResult EvidenceSeen := do
  let (evidenceId, reference) := entry
  failIf (evidenceId ≠ reference.evidenceId
    ∨ reference.kind ∉ requiredEvidenceKinds receipt.invocation receipt.outcome
    ∨ reference.sourceArtifactDigest = receipt.executor.implementation.sha256
    ∨ reference.sourceArtifactDigest ∈ s.usedEvidenceArtifacts
    ∨ reference.sourceArtifactDigest ∈ seen.sourceDigests
    ∨ reference.kind ∈ seen.evidenceKinds)
    (integrity "action_receipt_evidence_binding_invalid")
  let record ← authenticateEvidenceRecord E fs reference receipt.invocationDigest
    receipt.executor.executorId (outcomeDigest receipt.outcome)
  return ⟨seen.sourceDigests.insert reference.sourceArtifactDigest,
    seen.evidenceKinds.insert reference.kind,
    seen.verifiedEvidence ++ [⟨record.kind, record.artifact⟩]⟩

/-! ## Receipts -/

/-- A completed outcome, and any outcome of a formal verification, is derived
    again from its evidence. -/
def requiresDerivation (receipt : ActionReceipt) : Bool :=
  receipt.outcome.isCompleted || receipt.invocation.isVerifyFormalProperty

def validateDerivation (E : KnowledgeEngine) (fs : PrivateRoot) (receipt : ActionReceipt)
    (executor : ExecutorAttestation) (verifiedEvidence : List EvidenceArtifactInput) :
    BrainResult Unit :=
  if requiresDerivation receipt then do
    let context : EvidenceVerificationContext :=
      ⟨E.authorityInstance, E.authorityRoot, receipt.invocation, executor⟩
    let derived ← deriveVerifiedOutcome fs context receipt.outcome verifiedEvidence
    failIf (derived ≠ receipt.outcome) (integrity "receipt_outcome_not_semantically_derived")
  else .ok ()

/-- The receipt is for the action the planner would invoke now. -/
def validatePlannedInvocation (E : KnowledgeEngine) (fs : PrivateRoot) (s : KnowledgeState)
    (receipt : ActionReceipt) : BrainResult Unit := do
  let decision ← plan E fs s
  match decision with
  | .invoke invocation =>
    failIf (receipt.invocation ≠ invocation)
      (integrity "action_receipt_not_current_planned_invocation")
  | .terminal _ => .error (integrity "action_receipt_for_terminal_state")

def validateActionReceipt (E : KnowledgeEngine) (fs : PrivateRoot) (s : KnowledgeState)
    (receipt : ActionReceipt) : BrainResult Unit := do
  failIf (receipt.schema ≠ .v1
    ∨ receipt.authorityRoot ≠ E.authorityRoot
    ∨ receipt.inquiryId ≠ s.inquiryId
    ∨ receipt.capabilityBundle ≠ s.capabilityBundle
    ∨ receipt.parentState ≠ s.manifestDigest
    ∨ receipt.actionId ≠ receipt.invocation.actionId
    ∨ receipt.invocationDigest ≠ receipt.invocation.digest
    ∨ receipt.chargedCost ≠ receipt.invocation.cost
    ∨ receipt.manifestDigest ≠ receipt.calculateDigest
    ∨ receipt.manifestDigest ∈ s.appliedReceipts)
    (integrity "action_receipt_binding_or_digest_mismatch")
  validatePlannedInvocation E fs s receipt
  validateOutcomeShape s.toKnowledgeStateProjection receipt.invocation receipt.outcome
  let executor ← authenticateExecutor fs
    ⟨receipt.executor.executorId, receipt.executor.interfaceVersion,
      receipt.executor.implementation⟩
  failIf (executor ≠ receipt.executor ∨ receipt.evidence.isEmpty)
    (integrity "action_receipt_executor_invalid")
  failIf (saturatingAdd u64Width s.usage.evidenceRecords receipt.evidence.size >
    s.budget.maxEvidenceRecords) (invalid "action_receipt_evidence_limit_exceeded")
  let seen ← receipt.evidence.toList.foldlM
    (authenticateEvidence E fs s.toKnowledgeStateProjection receipt) .none
  failIf (seen.evidenceKinds ≠ requiredEvidenceKinds receipt.invocation receipt.outcome)
    (integrity "action_receipt_evidence_kind_set_invalid")
  validateDerivation E fs receipt executor seen.verifiedEvidence

/-! ## What an accepted receipt satisfies -/

variable {E : KnowledgeEngine} {fs : PrivateRoot} {s : KnowledgeState} {receipt : ActionReceipt}

def sourceArtifacts (receipt : ActionReceipt) : List Sha256Digest :=
  (values receipt.evidence).map AuthenticatedEvidenceReference.sourceArtifactDigest

/-- A completed outcome or formal result as its evidence supports it. -/
def DerivedFromEvidence (E : KnowledgeEngine) (fs : PrivateRoot) (receipt : ActionReceipt) :
    Prop :=
  ∃ evidence, deriveVerifiedOutcome fs
    ⟨E.authorityInstance, E.authorityRoot, receipt.invocation, receipt.executor⟩ receipt.outcome
    evidence = .ok receipt.outcome

structure ValidReceipt (E : KnowledgeEngine) (fs : PrivateRoot) (s : KnowledgeState)
    (receipt : ActionReceipt) : Prop where
  authorityRoot_eq : receipt.authorityRoot = E.authorityRoot
  inquiry_eq : receipt.inquiryId = s.inquiryId
  bundle_eq : receipt.capabilityBundle = s.capabilityBundle
  parent_eq : receipt.parentState = s.manifestDigest
  action_eq : receipt.actionId = receipt.invocation.actionId
  cost_eq : receipt.chargedCost = receipt.invocation.cost
  sealed : receipt.manifestDigest = receipt.calculateDigest
  fresh : receipt.manifestDigest ∉ s.appliedReceipts
  planned : ∃ o, Planned E fs s receipt.invocation o
  shape : validateOutcomeShape s.toKnowledgeStateProjection receipt.invocation receipt.outcome =
    .ok ()
  evidence_ne : receipt.evidence.isEmpty = false
  evidence_le : s.usage.evidenceRecords + receipt.evidence.size ≤ s.budget.maxEvidenceRecords
  evidence_fresh : ∀ d ∈ sourceArtifacts receipt, d ∉ s.usedEvidenceArtifacts
  evidence_nodup : (sourceArtifacts receipt).Nodup
  derived : requiresDerivation receipt = true → DerivedFromEvidence E fs receipt

variable {p : KnowledgeStateProjection}

lemma authenticateEvidence_ok {seen seen' : EvidenceSeen}
    {entry : KnowledgeEvidenceId × AuthenticatedEvidenceReference}
    (h : authenticateEvidence E fs p receipt seen entry = .ok seen') :
    entry.2.sourceArtifactDigest ∉ p.usedEvidenceArtifacts ∧
      entry.2.sourceArtifactDigest ∉ seen.sourceDigests ∧
      seen'.sourceDigests = seen.sourceDigests.insert entry.2.sourceArtifactDigest := by
  obtain ⟨id, reference⟩ := entry
  simp only [authenticateEvidence, bind_ok, failIf_ok, pure_ok, not_or] at h
  obtain ⟨_, ⟨-, -, -, hunused, hunseen, -⟩, record, -, rfl⟩ := h
  exact ⟨hunused, hunseen, rfl⟩

/-- The evidence of an accepted receipt is fresh and pairwise distinct. -/
lemma foldlM_authenticateEvidence
    {entries : List (KnowledgeEvidenceId × AuthenticatedEvidenceReference)}
    {seen seen' : EvidenceSeen}
    (h : entries.foldlM (authenticateEvidence E fs p receipt) seen = .ok seen') :
    (∀ entry ∈ entries, entry.2.sourceArtifactDigest ∉ p.usedEvidenceArtifacts ∧
      entry.2.sourceArtifactDigest ∉ seen.sourceDigests) ∧
      (entries.map fun entry => entry.2.sourceArtifactDigest).Nodup := by
  induction entries generalizing seen with
  | nil => simp
  | cons entry entries ih =>
    rw [foldlM_cons, bind_ok] at h
    obtain ⟨mid, hstep, hrest⟩ := h
    obtain ⟨hunused, hunseen, hmid⟩ := authenticateEvidence_ok hstep
    obtain ⟨hentries, hnodup⟩ := ih hrest
    rw [hmid] at hentries
    refine ⟨forall_mem_cons.mpr ⟨⟨hunused, hunseen⟩, ?_⟩, ?_⟩
    · intro e he
      exact ⟨(hentries e he).1, fun hseen =>
        (hentries e he).2 (BTreeSet.mem_insert_iff.mpr (.inr hseen))⟩
    · rw [map_cons, nodup_cons]
      refine ⟨?_, hnodup⟩
      intro hmem
      obtain ⟨e, he, heq⟩ := mem_map.mp hmem
      exact (hentries e he).2 (BTreeSet.mem_insert_iff.mpr (.inl heq))

variable {u : Unit}

lemma validatePlannedInvocation_ok (h : validatePlannedInvocation E fs s receipt = .ok u) :
    ∃ o, Planned E fs s receipt.invocation o := by
  simp only [validatePlannedInvocation, bind_ok] at h
  obtain ⟨decision, hplan, hrest⟩ := h
  cases decision with
  | invoke invocation =>
    simp only [failIf_ok, ne_eq, not_not] at hrest
    exact hrest ▸ plan_invoke hplan
  | terminal terminal => simp at hrest

lemma validateDerivation_ok {executor : ExecutorAttestation}
    {evidence : List EvidenceArtifactInput}
    (h : validateDerivation E fs receipt executor evidence = .ok u)
    (hexecutor : executor = receipt.executor) :
    requiresDerivation receipt = true → DerivedFromEvidence E fs receipt := by
  intro hrequires
  subst hexecutor
  unfold validateDerivation at h
  rw [if_pos hrequires, bind_ok] at h
  obtain ⟨derived, hderived, hrest⟩ := h
  have heq := deriveVerifiedOutcome_eq hderived
  exact ⟨evidence, heq ▸ hderived⟩

/-- What the receipt validator establishes. -/
lemma validateActionReceipt_spec (hs : ValidState E fs s)
    (h : validateActionReceipt E fs s receipt = .ok u) : ValidReceipt E fs s receipt := by
  simp only [validateActionReceipt, bind_ok, failIf_ok, not_or, not_not, ne_eq,
    exists_const, not_lt, gt_iff_lt, Bool.not_eq_true] at h
  obtain ⟨⟨-, hauthority, hinquiry, hbundle, hparent, haction, -, hcost, hsealed, hfresh⟩, _,
    hplanned, _, hshape, executor, -, ⟨hexecutor, hne⟩, hle, seen, hevidence, -, hderivation⟩ := h
  obtain ⟨hunused, hnodup⟩ := foldlM_authenticateEvidence hevidence
  have hsources : sourceArtifacts receipt =
      receipt.evidence.toList.map fun entry => entry.2.sourceArtifactDigest := by
    rw [sourceArtifacts, values, map_map]
    rfl
  refine ⟨hauthority, hinquiry, hbundle, hparent, haction, hcost, hsealed, hfresh,
    validatePlannedInvocation_ok hplanned, hshape, hne, ?_, ?_, hsources ▸ hnodup,
    validateDerivation_ok hderivation hexecutor⟩
  · have hmax := hs.projection.budget.evidenceRecords.2
    simp only [saturatingAdd, u64Width, hardMaxEvidenceRecords] at hle hmax
    omega
  · intro d hd
    rw [hsources] at hd
    obtain ⟨entry, hentry, rfl⟩ := mem_map.mp hd
    exact (hunused entry hentry).1

/-! ## What a reduction may rely on -/

variable {observations : Observations} {edges : BTreeSet DependencyEdge} {discoveries : Discoveries}

lemma ValidReceipt.verified (h : ValidReceipt E fs s receipt)
    (houtcome : receipt.outcome = .completed observations edges discoveries) :
    VerifiedCompleted receipt.invocation observations edges discoveries := by
  have hrequires : requiresDerivation receipt = true := by
    simp [requiresDerivation, houtcome, ActionOutcome.isCompleted]
  obtain ⟨evidence, hderived⟩ := h.derived hrequires
  rw [houtcome] at hderived
  exact verifiedOutcome_of_derive hderived

structure CompletedShape (s : KnowledgeStateProjection) (invocation : CognitiveInvocation)
    (edges : BTreeSet DependencyEdge) (discoveries : Discoveries) : Prop where
  edges_le : edges.size ≤ hardMaxDependencyEdgesPerAction
  edgeCount_le : s.dependencyGraph.edgeCount + edges.size ≤ s.budget.maxDependencyEdges
  discoveries_eq : discoveries = ∅
  sources : ∀ x, invocation = .expandDependencyClosure x → ∀ e ∈ edges.toList, e.fromNode = x.root
  edges_eq : (∀ x, invocation ≠ .expandDependencyClosure x) → edges = ∅

lemma validateOutcomeShape_completed (hbudget : p.budget.Valid) {invocation : CognitiveInvocation}
    (h : validateOutcomeShape p invocation (.completed observations edges discoveries) = .ok u) :
    CompletedShape p invocation edges discoveries := by
  simp only [validateOutcomeShape, bind_ok, failIf_ok, not_or, exists_const, not_lt,
    gt_iff_lt, Bool.not_eq_true, Bool.not_eq_false] at h
  obtain ⟨⟨-, hedges⟩, count, hcount, ⟨hle, -, -⟩, hdiscoveries, _, hsources, -⟩ := h
  refine ⟨hedges, ?_, Std.ExtTreeMap.isEmpty_iff.mp (by simpa using hdiscoveries), ?_, ?_⟩
  · have hmax := hbudget.dependencyEdges.2
    rw [← eq_edgeCount_of_ok hcount]
    simp only [saturatingAdd, u64Width, hardMaxDependencyEdges] at hle hmax
    omega
  · rintro x rfl
    simpa [validateEdgeSources] using hsources
  · intro hother
    cases invocation with
    | expandDependencyClosure x => exact absurd rfl (hother x)
    | _ => simpa [validateEdgeSources] using hsources

/-- The criterion and the predictions of an accepted invocation are among the
    predicates its verifier judged. -/
lemma judged_of_planned {invocation : CognitiveInvocation} {o : KnowledgeObligation}
    (h : Planned E fs s invocation o) (hformal : ∀ x, invocation ≠ .verifyFormalProperty x) :
    o.criterion.predicate ∈ invocation.judgedPredicates ∧
      ∀ predictions, o.plan.predictions = some predictions →
        ∀ p ∈ values predictions, p ∈ invocation.judgedPredicates := by
  have hvalid := h.valid.projection.obligations _ _ h.stored
  have hbinding := hvalid.binding
  rw [h.invocation_eq] at hformal ⊢
  cases hplan : o.plan with
  | observeTrace keys maxEvents | executeScenario scenarioId inputs keys
  | expandDependencyClosure root depth maxDepth =>
    simp [invocationOf, CognitiveInvocation.judgedPredicates, nextBinding, CognitivePlan.predictions]
  | causalIntervention variable_ baseline treatment effect predictions
  | searchCounterexample target maxCases predictions =>
    simp only [hplan, validateCriterionPlanBinding, pure_bind, failIf_ok,
      decide_eq_false_iff_not, not_not] at hbinding
    simp only [invocationOf, CognitiveInvocation.judgedPredicates, CognitivePlan.predictions,
      Option.some.injEq, forall_eq', ← hbinding]
    exact ⟨by simp, fun p hp => mem_cons_of_mem _ hp⟩
  | verifyFormalProperty proofSystem property =>
    exact absurd (by rw [hplan]; rfl) (hformal ⟨_, proofSystem, property⟩)

/-- The reduction of an accepted completed receipt evaluates decided predicates. -/
lemma ValidReceipt.decided (h : ValidReceipt E fs s receipt) {o : KnowledgeObligation}
    (hplanned : Planned E fs s receipt.invocation o)
    (houtcome : receipt.outcome = .completed observations edges discoveries) :
    o.criterion.predicate.Decided observations ∧
      ∀ predictions, o.plan.predictions = some predictions →
        ∀ p ∈ values predictions, p.Decided observations := by
  have hverified := h.verified houtcome
  obtain ⟨hcriterion, hpredictions⟩ := judged_of_planned hplanned hverified.not_formal
  exact ⟨hverified.decided _ hcriterion,
    fun predictions hpred p hp => hverified.decided _ (hpredictions predictions hpred p hp)⟩

end

end Tidex.Knowledge
