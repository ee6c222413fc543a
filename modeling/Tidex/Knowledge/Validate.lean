/-
  Knowledge.Validate — the engine's identity and its state validator.
-/
import Tidex.Knowledge.Assessment
import Tidex.Knowledge.Families
import Tidex.Knowledge.Dependency

namespace Tidex.Knowledge

open Tidex.Lib List Std.ExtTreeSet BTreeMap

/-! ## The engine -/

structure KnowledgePolicy where
  digest : KnowledgePolicyDigest
  maxAttemptsPerObligation : Nat
  deriving DecidableEq

section

variable [Platform]

def policyMembers : List (String × Json) :=
  [("schema", toJson KnowledgeEngineSchema.v1), ("profile_version", toJson (2 : Nat)),
    ("planner_version", toJson (1 : Nat)), ("reducer_version", toJson (1 : Nat)),
    ("canonical_encoding_version", toJson (2 : Nat)),
    ("evidence_verifier_profile_version", toJson (2 : Nat)),
    ("max_claims", toJson hardMaxClaims), ("max_obligations", toJson hardMaxObligations),
    ("max_hypotheses", toJson hardMaxHypotheses),
    ("max_attempts_per_obligation", toJson (3 : Nat))]

def KnowledgePolicy.conservativeV1 : KnowledgePolicy where
  digest := .computed _ policyDomain (Json.obj policyMembers).toBytes
  maxAttemptsPerObligation := 3

/-- Root-bound authority for planning, reducing and persisting knowledge. -/
structure KnowledgeEngine where
  privateRoot : String
  authorityInstance : AuthorityInstanceId
  authorityRoot : AuthorityRootDigest
  policy : KnowledgePolicy
  authorityRoot_eq : authorityRoot = authorityRootOf authorityInstance
  policy_eq : policy = .conservativeV1

namespace KnowledgeEngine

variable (E : KnowledgeEngine)

lemma maxAttempts_eq : E.policy.maxAttemptsPerObligation = 3 := by
  rw [E.policy_eq]
  rfl

def semanticPath (class_ : String) (semanticDigest : String) : String :=
  E.privateRoot ++ "/state/knowledge_engine/" ++ class_ ++ "/by-sha/" ++ semanticDigest ++ ".json"

def stateReference (state : KnowledgeState) : PrivateFileReference where
  path := E.semanticPath "states" state.manifestDigest.asStr
  sha256 := Sha256Digest.digestBytes (toVec state)

def actionReceiptReference (receipt : ActionReceipt) : PrivateFileReference where
  path := E.semanticPath "action_receipts" receipt.manifestDigest.asStr
  sha256 := Sha256Digest.digestBytes (toVec receipt)

end KnowledgeEngine

def authenticateBundle (fs : PrivateRoot) (reference : PrivateFileReference) :
    BrainResult CapabilityBundleDigest := do
  let bundle ← fs.capabilityBundle reference
  failIf (bundle.isDraft = true) (integrity "knowledge_bundle_unsealed")
  return bundle

def readStateDto (fs : PrivateRoot) (reference : PrivateFileReference) :
    BrainResult KnowledgeState := do
  let bytes ← reference.readVerifiedBounded fs maxStateBytes
  fromSlice KnowledgeState bytes

def readReceiptDto (fs : PrivateRoot) (reference : PrivateFileReference) :
    BrainResult ActionReceipt := do
  let bytes ← reference.readVerifiedBounded fs maxActionReceiptBytes
  fromSlice ActionReceipt bytes

/-! ## The validator, paragraph by paragraph -/

def validateAuthority (E : KnowledgeEngine) (s : KnowledgeStateProjection) : BrainResult Unit :=
  failIf (s.schema ≠ .v1 ∨ s.authorityRoot ≠ E.authorityRoot ∨ s.policyDigest ≠ E.policy.digest)
    (integrity "knowledge_state_authority_or_policy_mismatch")

/-- Cardinalities and budgets; the edges are counted last. -/
def validateStateBounds (s : KnowledgeStateProjection) : BrainResult Unit := do
  failIf (s.claims.isEmpty ∨ s.obligations.isEmpty
    ∨ s.claims.size > hardMaxClaims
    ∨ s.obligations.size > hardMaxObligations
    ∨ s.hypotheses.size > hardMaxHypotheses
    ∨ s.revision > s.budget.maxRevision
    ∨ s.usage.actions > s.budget.maxActions
    ∨ s.usage.totalCost > s.budget.maxTotalCost
    ∨ s.usage.evidenceRecords > s.budget.maxEvidenceRecords
    ∨ s.dependencyParents.size > s.budget.maxDependencyNodes)
    (invalid "knowledge_state_bounds_invalid")
  let edges ← dependencyEdgeCount s.dependencyGraph
  failIf (edges > s.budget.maxDependencyEdges) (invalid "knowledge_state_bounds_invalid")

def validateAccounting (s : KnowledgeStateProjection) : BrainResult Unit :=
  failIf (¬(s.revision = 0 ↔ s.parentDigest = none)
    ∨ ¬(s.parentDigest = none ↔ s.parentReference = none)
    ∨ ¬(s.revision = 0 ↔ s.lastActionReceiptReference = none)
    ∨ s.revision ≠ s.usage.actions
    ∨ s.appliedReceipts.size ≠ s.usage.actions
    ∨ s.usedEvidenceArtifacts.size ≠ s.usage.evidenceRecords)
    (integrity "knowledge_state_revision_accounting_mismatch")

/-- Revision zero has seen nothing yet. -/
def validateOrigin (s : KnowledgeStateProjection) : BrainResult Unit :=
  failIf (s.revision = 0 ∧
    (s.usage.totalCost ≠ 0
      ∨ s.usage.evidenceRecords ≠ 0
      ∨ ¬s.appliedReceipts.isEmpty
      ∨ ¬s.usedEvidenceArtifacts.isEmpty
      ∨ s.boundedReason ≠ none
      ∨ (∃ claim ∈ values s.claims, claim.assessment ≠ .unresolved)
      ∨ (∃ obligation ∈ values s.obligations, obligation.state ≠ .open_ 0 ∅)
      ∨ (∃ hypothesis ∈ values s.hypotheses, hypothesis.assessment ≠ .viable)
      ∨ (∃ parent ∈ values s.dependencyParents, parent ≠ none)
      ∨ (∃ depth ∈ values s.dependencyDepths, depth ≠ 0)
      ∨ (∃ targets ∈ values s.dependencyGraph, ¬targets.isEmpty)))
    (integrity "knowledge_state_origin_not_canonical")

/-- A later revision names its parent and the receipt that led to it. -/
def validateParent (E : KnowledgeEngine) (fs : PrivateRoot) (s : KnowledgeStateProjection) :
    BrainResult Unit :=
  match s.parentDigest, s.parentReference with
  | some parentDigest, some parentReference => do
    let expectedPath := E.semanticPath "states" parentDigest.asStr
    let parent ← readStateDto fs parentReference
    failIf (parentReference.path ≠ expectedPath
      ∨ parent.manifestDigest ≠ parentDigest
      ∨ ¬(parent.revision + 1 < u64Width ∧ parent.revision + 1 = s.revision)
      ∨ parent.inquiryId ≠ s.inquiryId
      ∨ parent.capabilityBundle ≠ s.capabilityBundle
      ∨ parent.calculateDigest ≠ parentDigest)
      (integrity "knowledge_state_parent_invalid")
    let newReceipts := s.appliedReceipts.toList.filter (· ∉ parent.appliedReceipts)
    let lastReference ← okOr s.lastActionReceiptReference
      (integrity "knowledge_state_last_receipt_missing")
    let receipt ← readReceiptDto fs lastReference
    failIf (newReceipts ≠ [receipt.manifestDigest]
      ∨ lastReference.path ≠ E.semanticPath "action_receipts" receipt.manifestDigest.asStr
      ∨ receipt.parentState ≠ parentDigest
      ∨ receipt.calculateDigest ≠ receipt.manifestDigest
      ∨ s.usage.totalCost ≠ saturatingAdd u64Width parent.usage.totalCost receipt.chargedCost
      ∨ s.usage.evidenceRecords ≠
        saturatingAdd u64Width parent.usage.evidenceRecords receipt.evidence.size)
      (integrity "knowledge_state_last_receipt_invalid")
  | _, _ => .ok ()

def validateBundle (fs : PrivateRoot) (s : KnowledgeStateProjection) : BrainResult Unit := do
  let bundle ← authenticateBundle fs s.capabilityBundleReference
  failIf (bundle ≠ s.capabilityBundle) (integrity "knowledge_state_bundle_mismatch")

def validateClaim (schema : ObservationSchema) (entry : KnowledgeClaimId × KnowledgeClaim) :
    BrainResult ObservationSchema := do
  let (claimId, claim) := entry
  failIf (claimId ≠ claim.claimId) (integrity "knowledge_claim_map_key_mismatch")
  recordPredicateType schema claim.predicate

def validateObligation (s : KnowledgeStateProjection) (schema : ObservationSchema)
    (entry : KnowledgeObligationId × KnowledgeObligation) : BrainResult ObservationSchema := do
  let (obligationId, obligation) := entry
  failIf (obligationId ≠ obligation.obligationId)
    (integrity "knowledge_obligation_map_key_mismatch")
  let claim ← okOr s.claims[obligation.claimId]? (integrity "knowledge_obligation_claim_missing")
  failIf (claim.domain ≠ obligation.domain
    ∨ (¬claim.domain.isProfiled ∧ claim.domain ≠ obligation.plan.domain))
    (integrity "knowledge_obligation_domain_mismatch")
  obligation.plan.validateBounds s.budget
  validateCriterionPlanBinding obligation.criterion obligation.plan
  let schema ← recordPredicateType schema obligation.criterion.predicate
  let schema ← (planPredicates obligation.plan).foldlM recordPredicateType schema
  let indexed : Bool :=
    match obligation.plan with
    | .expandDependencyClosure root depth _ =>
      s.dependencyDepths[root]? = some depth ∧ root ∈ s.dependencyParents
    | _ => true
  failIf (indexed = false) (integrity "knowledge_dependency_plan_not_indexed")
  failIf (∃ receipt ∈ obligation.state.witnesses.toList, receipt ∉ s.appliedReceipts)
    (integrity "knowledge_obligation_unapplied_witness")
  return schema

/-- A claim has obligations, one of them about its own predicate, and is assessed
    by them. -/
def validateClaimAssessment
    (obligationsByClaim : BTreeMap KnowledgeClaimId (List KnowledgeObligation))
    (claim : KnowledgeClaim) : BrainResult Unit := do
  let obligations ← okOr obligationsByClaim[claim.claimId]?
    (integrity "knowledge_claim_without_obligation")
  failIf (¬∃ obligation ∈ obligations, obligation.criterion.predicate = claim.predicate)
    (integrity "knowledge_claim_without_direct_criterion")
  failIf (claim.assessment ≠ deriveClaimAssessment obligations)
    (integrity "knowledge_claim_assessment_not_reduced")

def validateHypothesis (s : KnowledgeStateProjection) (schema : ObservationSchema)
    (entry : KnowledgeHypothesisId × KnowledgeHypothesis) : BrainResult ObservationSchema := do
  let (hypothesisId, hypothesis) := entry
  failIf (hypothesisId ≠ hypothesis.hypothesisId)
    (integrity "knowledge_hypothesis_map_key_mismatch")
  let schema ← recordPredicateType schema hypothesis.definition
  failIf (∃ receipt ∈ hypothesisWitnesses hypothesis.assessment, receipt ∉ s.appliedReceipts)
    (integrity "knowledge_hypothesis_unapplied_witness")
  return schema

def KnowledgeStateProjection.hypothesisEntries (s : KnowledgeStateProjection) :
    List HypothesisEntry :=
  (values s.hypotheses).map fun h => (h.hypothesisId, h.familyId)

def KnowledgeStateProjection.familyOf (s : KnowledgeStateProjection)
    (id : KnowledgeHypothesisId) : Option HypothesisFamilyId :=
  (s.hypotheses[id]?).map KnowledgeHypothesis.familyId

def KnowledgeStateProjection.plans (s : KnowledgeStateProjection) : List CognitivePlan :=
  (values s.obligations).map KnowledgeObligation.plan

def statePredictionCodes : PredictionCodes where
  rivals := integrity "knowledge_hypothesis_family_without_rivals"
  missing := integrity "state_prediction_hypothesis_missing"
  crosses := integrity "state_prediction_crosses_families"
  empty := integrity "state_prediction_empty"
  familyMissing := integrity "state_prediction_family_missing"
  incomplete := integrity "state_prediction_family_incomplete"
  unpredicted := integrity "state_hypothesis_family_without_predictions"

/-- The dependency index: one entry a node everywhere, edges between nodes,
    bounded depths, no cycle. -/
def validateDependencyIndex (s : KnowledgeStateProjection) : BrainResult Unit := do
  failIf (s.dependencyParents.size ≠ s.dependencyDepths.size
    ∨ s.dependencyGraph.size ≠ s.dependencyDepths.size
    ∨ (∃ node ∈ s.dependencyGraph.keys, node ∉ s.dependencyDepths)
    ∨ (∃ targets ∈ values s.dependencyGraph,
      ∃ target ∈ targets.toList, target ∉ s.dependencyGraph)
    ∨ (∃ depth ∈ values s.dependencyDepths, depth > s.budget.maxDependencyDepth))
    (integrity "knowledge_dependency_index_mismatch")
  let acyclic ← dependencyGraphIsAcyclic s.dependencyGraph s.budget.maxDependencyNodes
  failIf (acyclic = false) (integrity "knowledge_dependency_index_mismatch")

/-- A node with a parent is one deeper and an edge leads to it. -/
def validateDependencyParent (s : KnowledgeStateProjection)
    (entry : DependencyNodeId × Option DependencyNodeId) : BrainResult Unit := do
  let (node, parent) := entry
  let depth ← okOr s.dependencyDepths[node]? (integrity "knowledge_dependency_depth_missing")
  match parent with
  | none => return ()
  | some parent => do
    let parentDepth ← okOr s.dependencyDepths[parent]?
      (integrity "knowledge_dependency_parent_missing")
    failIf (depth ≠ saturatingAdd u16Width parentDepth 1)
      (integrity "knowledge_dependency_depth_invalid")
    failIf (¬∃ targets ∈ s.dependencyGraph[parent]?, node ∈ targets)
      (integrity "knowledge_dependency_parent_edge_missing")

/-- The validator, on everything but the digest. -/
def validateProjection (E : KnowledgeEngine) (fs : PrivateRoot) (s : KnowledgeStateProjection) :
    BrainResult Unit := do
  validateAuthority E s
  s.budget.validate
  validateStateBounds s
  validateAccounting s
  validateOrigin s
  validateParent E fs s
  validateBundle fs s
  let schema ← s.claims.toList.foldlM validateClaim ∅
  let schema ← s.obligations.toList.foldlM (validateObligation s) schema
  let obligationsByClaim :=
    groupBy KnowledgeObligation.claimId (values s.obligations)
  forM (values s.claims) (validateClaimAssessment obligationsByClaim)
  let _ ← s.hypotheses.toList.foldlM (validateHypothesis s) schema
  let families := hypothesisFamilies s.hypothesisEntries
  validateRivals statePredictionCodes families
  validatePredictions s.familyOf families statePredictionCodes s.plans
  validateDependencyIndex s
  forM s.dependencyParents.toList (validateDependencyParent s)

def validateState (E : KnowledgeEngine) (fs : PrivateRoot) (s : KnowledgeState) :
    BrainResult Unit := do
  validateProjection E fs s.toKnowledgeStateProjection
  failIf (s.calculateDigest ≠ s.manifestDigest) (integrity "knowledge_state_digest_mismatch")

/-! ## Valid states -/

/-- Cardinalities and budgets are within their limits. -/
structure StateBounds (s : KnowledgeStateProjection) : Prop where
  claims_ne : s.claims.isEmpty = false
  obligations_ne : s.obligations.isEmpty = false
  claims_le : s.claims.size ≤ hardMaxClaims
  obligations_le : s.obligations.size ≤ hardMaxObligations
  hypotheses_le : s.hypotheses.size ≤ hardMaxHypotheses
  revision_le : s.revision ≤ s.budget.maxRevision
  actions_le : s.usage.actions ≤ s.budget.maxActions
  cost_le : s.usage.totalCost ≤ s.budget.maxTotalCost
  evidence_le : s.usage.evidenceRecords ≤ s.budget.maxEvidenceRecords
  nodes_le : s.dependencyParents.size ≤ s.budget.maxDependencyNodes
  edges_le : ∃ edges, dependencyEdgeCount s.dependencyGraph = .ok edges ∧
    edges ≤ s.budget.maxDependencyEdges

/-- Revision, references and counters agree. -/
structure Accounting (s : KnowledgeStateProjection) : Prop where
  digest_iff : s.revision = 0 ↔ s.parentDigest = none
  reference_iff : s.parentDigest = none ↔ s.parentReference = none
  receipt_iff : s.revision = 0 ↔ s.lastActionReceiptReference = none
  actions_eq : s.revision = s.usage.actions
  receipts_eq : s.appliedReceipts.size = s.usage.actions
  artifacts_eq : s.usedEvidenceArtifacts.size = s.usage.evidenceRecords

/-- Nothing has happened yet. -/
structure OriginValid (s : KnowledgeStateProjection) : Prop where
  cost_eq : s.usage.totalCost = 0
  evidence_eq : s.usage.evidenceRecords = 0
  receipts_eq : s.appliedReceipts = ∅
  artifacts_eq : s.usedEvidenceArtifacts = ∅
  bounded_eq : s.boundedReason = none
  claims_unresolved : ∀ claim ∈ values s.claims, claim.assessment = .unresolved
  obligations_open : ∀ o ∈ values s.obligations, o.state = .open_ 0 ∅
  hypotheses_viable : ∀ h ∈ values s.hypotheses, h.assessment = .viable
  parents_none : ∀ parent ∈ values s.dependencyParents, parent = none
  depths_zero : ∀ depth ∈ values s.dependencyDepths, depth = 0
  graph_empty : ∀ targets ∈ values s.dependencyGraph, targets = ∅

/-- How a state names its parent and the receipt between them. -/
structure ParentLink (E : KnowledgeEngine) (fs : PrivateRoot) (s : KnowledgeStateProjection)
    (parentDigest : KnowledgeStateDigest) (parentReference : PrivateFileReference)
    (parent : KnowledgeState) (lastReference : PrivateFileReference) (receipt : ActionReceipt) :
    Prop where
  parent_read : readStateDto fs parentReference = .ok parent
  parent_path : parentReference.path = E.semanticPath "states" parentDigest.asStr
  parent_digest : parent.manifestDigest = parentDigest
  parent_sealed : parent.calculateDigest = parentDigest
  revision_lt : parent.revision + 1 < u64Width
  revision_eq : parent.revision + 1 = s.revision
  inquiry_eq : parent.inquiryId = s.inquiryId
  bundle_eq : parent.capabilityBundle = s.capabilityBundle
  last_eq : s.lastActionReceiptReference = some lastReference
  receipt_read : readReceiptDto fs lastReference = .ok receipt
  receipt_path :
    lastReference.path = E.semanticPath "action_receipts" receipt.manifestDigest.asStr
  receipt_new : s.appliedReceipts.toList.filter (· ∉ parent.appliedReceipts) =
    [receipt.manifestDigest]
  receipt_parent : receipt.parentState = parentDigest
  receipt_sealed : receipt.calculateDigest = receipt.manifestDigest
  cost_eq : s.usage.totalCost = saturatingAdd u64Width parent.usage.totalCost receipt.chargedCost
  evidence_eq : s.usage.evidenceRecords =
    saturatingAdd u64Width parent.usage.evidenceRecords receipt.evidence.size

/-- An obligation is about an existing claim, its plan is within bounds, and its
    witnesses were applied. -/
structure ObligationValid (s : KnowledgeStateProjection) (o : KnowledgeObligation) : Prop where
  claim : ∃ claim, s.claims[o.claimId]? = some claim ∧ claim.domain = o.domain ∧
    (claim.domain.isProfiled = true ∨ claim.domain = o.plan.domain)
  bounds : o.plan.validateBounds s.budget = .ok ()
  binding : validateCriterionPlanBinding o.criterion o.plan = .ok ()
  indexed : ∀ root depth maxDepth, o.plan = .expandDependencyClosure root depth maxDepth →
    s.dependencyDepths[root]? = some depth ∧ root ∈ s.dependencyParents
  witnesses : ∀ r ∈ o.state.witnesses, r ∈ s.appliedReceipts

/-- A claim is assessed by its obligations, one of which is about its predicate. -/
structure ClaimValid (s : KnowledgeStateProjection) (c : KnowledgeClaim) : Prop where
  criterion : ∃ o ∈ obligationsOf s.obligations c.claimId, o.criterion.predicate = c.predicate
  assessment : c.assessment = deriveClaimAssessment (obligationsOf s.obligations c.claimId)

/-- The dependency index is one graph, without cycles. -/
structure DependencyValid (s : KnowledgeStateProjection) : Prop where
  parents_size : s.dependencyParents.size = s.dependencyDepths.size
  graph_size : s.dependencyGraph.size = s.dependencyDepths.size
  graph_depths : ∀ node : DependencyNodeId, node ∈ s.dependencyGraph → node ∈ s.dependencyDepths
  closed : s.dependencyGraph.Closed
  depths_le : ∀ (node : DependencyNodeId) (depth : Nat), s.dependencyDepths[node]? = some depth →
    depth ≤ s.budget.maxDependencyDepth
  acyclic : dependencyGraphIsAcyclic s.dependencyGraph s.budget.maxDependencyNodes = .ok true

/-- A node has a depth; below a parent it is one deeper and an edge leads to it. -/
structure DependencyParentValid (s : KnowledgeStateProjection) (node : DependencyNodeId)
    (parent : Option DependencyNodeId) : Prop where
  depth : node ∈ s.dependencyDepths
  below : ∀ p, parent = some p → ∃ parentDepth, s.dependencyDepths[p]? = some parentDepth ∧
    s.dependencyDepths[node]? = some (saturatingAdd u16Width parentDepth 1) ∧
    s.dependencyGraph.Edge p node

/-- Everything the validator asks of a state but its digest. -/
structure ValidProjection (E : KnowledgeEngine) (fs : PrivateRoot)
    (s : KnowledgeStateProjection) : Prop where
  authorityRoot_eq : s.authorityRoot = E.authorityRoot
  policy_eq : s.policyDigest = E.policy.digest
  budget : s.budget.Valid
  bounds : StateBounds s
  accounting : Accounting s
  origin : s.revision = 0 → OriginValid s
  parent : ∀ parentDigest parentReference, s.parentDigest = some parentDigest →
    s.parentReference = some parentReference → ∃ parent lastReference receipt,
      ParentLink E fs s parentDigest parentReference parent lastReference receipt
  bundle : authenticateBundle fs s.capabilityBundleReference = .ok s.capabilityBundle
  claim_keys : ∀ (id : KnowledgeClaimId) (c : KnowledgeClaim), s.claims[id]? = some c →
    c.claimId = id
  obligation_keys : ∀ (id : KnowledgeObligationId) (o : KnowledgeObligation),
    s.obligations[id]? = some o → o.obligationId = id
  hypothesis_keys : ∀ (id : KnowledgeHypothesisId) (h : KnowledgeHypothesis),
    s.hypotheses[id]? = some h → h.hypothesisId = id
  types : TypeConsistent s.predicates
  obligations : ∀ (id : KnowledgeObligationId) (o : KnowledgeObligation),
    s.obligations[id]? = some o → ObligationValid s o
  claims : ∀ (id : KnowledgeClaimId) (c : KnowledgeClaim), s.claims[id]? = some c →
    ClaimValid s c
  hypotheses : ∀ (id : KnowledgeHypothesisId) (h : KnowledgeHypothesis),
    s.hypotheses[id]? = some h → ∀ r ∈ hypothesisWitnesses h.assessment, r ∈ s.appliedReceipts
  rivals : ∀ (id : HypothesisFamilyId) (family : List HypothesisEntry),
    (hypothesisFamilies s.hypothesisEntries)[id]? = some family → 2 ≤ family.length
  families : FamiliesCovered s.familyOf (hypothesisFamilies s.hypothesisEntries) s.plans
  dependency : DependencyValid s
  parents : ∀ (node : DependencyNodeId) (parent : Option DependencyNodeId),
    s.dependencyParents[node]? = some parent → DependencyParentValid s node parent

structure ValidState (E : KnowledgeEngine) (fs : PrivateRoot) (s : KnowledgeState) : Prop where
  projection : ValidProjection E fs s.toKnowledgeStateProjection
  sealed : s.calculateDigest = s.manifestDigest

/-! ## Each paragraph accepts what it should -/

end

section

variable {fs : PrivateRoot} {s : KnowledgeStateProjection} {u : Unit}

lemma validateStateBounds_ok : validateStateBounds s = .ok u ↔ StateBounds s := by
  simp only [validateStateBounds, bind_ok, failIf_ok, not_or, not_lt, gt_iff_lt, Bool.not_eq_true]
  constructor
  · rintro ⟨_, ⟨h1, h2, h3, h4, h5, h6, h7, h8, h9, h10⟩, h11⟩
    exact ⟨h1, h2, h3, h4, h5, h6, h7, h8, h9, h10, h11⟩
  · rintro ⟨h1, h2, h3, h4, h5, h6, h7, h8, h9, h10, h11⟩
    exact ⟨(), ⟨h1, h2, h3, h4, h5, h6, h7, h8, h9, h10⟩, h11⟩

lemma validateAccounting_ok : validateAccounting s = .ok u ↔ Accounting s := by
  simp only [validateAccounting, failIf_ok, not_or, not_not, ne_eq]
  constructor
  · rintro ⟨h1, h2, h3, h4, h5, h6⟩
    exact ⟨h1, h2, h3, h4, h5, h6⟩
  · rintro ⟨h1, h2, h3, h4, h5, h6⟩
    exact ⟨h1, h2, h3, h4, h5, h6⟩

lemma validateOrigin_ok : validateOrigin s = .ok u ↔ (s.revision = 0 → OriginValid s) := by
  simp only [validateOrigin, failIf_ok, not_and, not_or, not_not, not_exists, ne_eq,
    Std.ExtTreeSet.isEmpty_iff]
  refine imp_congr_right fun _ => ?_
  constructor
  · rintro ⟨h1, h2, h3, h4, h5, h6, h7, h8, h9, h10, h11⟩
    exact ⟨h1, h2, h3, h4, h5, h6, h7, h8, h9, h10, h11⟩
  · rintro ⟨h1, h2, h3, h4, h5, h6, h7, h8, h9, h10, h11⟩
    exact ⟨h1, h2, h3, h4, h5, h6, h7, h8, h9, h10, h11⟩

lemma validateBundle_ok : validateBundle fs s = .ok u ↔
      authenticateBundle fs s.capabilityBundleReference = .ok s.capabilityBundle := by
  simp only [validateBundle, bind_ok, failIf_ok, ne_eq, not_not]
  constructor
  · rintro ⟨_, h, rfl⟩
    exact h
  · intro h
    exact ⟨_, h, rfl⟩

lemma validateClaim_ok (schema : ObservationSchema)
    (entry : KnowledgeClaimId × KnowledgeClaim) (schema' : ObservationSchema) :
    validateClaim schema entry = .ok schema' ↔ entry.1 = entry.2.claimId ∧
        [entry.2.predicate].foldlM recordPredicateType schema = .ok schema' := by
  simp [validateClaim, bind_ok]

lemma validateClaimAssessment_ok {c : KnowledgeClaim} : validateClaimAssessment
      (groupBy KnowledgeObligation.claimId (values s.obligations)) c = .ok u ↔ ClaimValid s c := by
  simp only [validateClaimAssessment, bind_ok, okOr_ok, failIf_ok, not_not, ne_eq,
    groupBy_eq_some]
  constructor
  · rintro ⟨_, ⟨-, rfl⟩, _, hcriterion, hassessment⟩
    exact ⟨hcriterion, hassessment⟩
  · rintro ⟨⟨o, ho, hcriterion⟩, hassessment⟩
    refine ⟨_, ⟨?_, rfl⟩, (), ⟨o, ho, hcriterion⟩, hassessment⟩
    exact ne_nil_of_mem ho

lemma validateHypothesis_ok (schema : ObservationSchema)
    (entry : KnowledgeHypothesisId × KnowledgeHypothesis) (schema' : ObservationSchema) :
    validateHypothesis s schema entry = .ok schema' ↔ (entry.1 = entry.2.hypothesisId ∧
        ∀ r ∈ hypothesisWitnesses entry.2.assessment, r ∈ s.appliedReceipts) ∧
        [entry.2.definition].foldlM recordPredicateType schema = .ok schema' := by
  obtain ⟨id, h⟩ := entry
  simp only [validateHypothesis, bind_ok, failIf_ok, pure_ok, ne_eq, not_not,
    not_exists, not_and, foldlM_cons, foldlM_nil]
  constructor
  · rintro ⟨_, hid, last, hlast, _, hwit, rfl⟩
    exact ⟨⟨hid, hwit⟩, _, hlast, rfl⟩
  · rintro ⟨⟨hid, hwit⟩, _, hlast, rfl⟩
    exact ⟨(), hid, _, hlast, (), hwit, rfl⟩

lemma validateDependencyIndex_ok : validateDependencyIndex s = .ok u ↔ DependencyValid s := by
  simp only [validateDependencyIndex, bind_ok, failIf_ok, not_or, not_not, ne_eq,
    not_exists, not_and, not_lt, gt_iff_lt, Bool.not_eq_false, forall_values,
    mem_toList, Std.ExtTreeMap.mem_keys]
  constructor
  · rintro ⟨_, ⟨h1, h2, h3, h4, h5⟩, acyclic, hrun, rfl⟩
    refine ⟨h1, h2, h3, ?_, h5, hrun⟩
    rintro a b ⟨targets, ha, hb⟩
    exact h4 a targets ha b hb
  · rintro ⟨h1, h2, h3, h4, h5, hrun⟩
    refine ⟨(), ⟨h1, h2, h3, ?_, h5⟩, true, hrun, rfl⟩
    intro a targets ha b hb
    exact h4 a b ⟨targets, ha, hb⟩

lemma validateDependencyParent_ok {entry : DependencyNodeId × Option DependencyNodeId} :
    validateDependencyParent s entry = .ok u ↔ DependencyParentValid s entry.1 entry.2 := by
  obtain ⟨node, parent⟩ := entry
  have hedge : ∀ p : DependencyNodeId,
      (∃ targets ∈ s.dependencyGraph[p]?, node ∈ targets) ↔ s.dependencyGraph.Edge p node := by
    intro p
    rfl
  cases parent with
  | none =>
    simp only [validateDependencyParent, bind_ok, okOr_ok, pure_ok, and_true]
    rw [← BTreeMap.mem_iff_getElem?]
    exact ⟨fun h => ⟨h, by simp⟩, fun h => h.depth⟩
  | some p =>
    simp only [validateDependencyParent, bind_ok, okOr_ok, failIf_ok, ne_eq, not_not, hedge]
    constructor
    · rintro ⟨_, hdepth, parentDepth, hparent, _, rfl, hedge⟩
      refine ⟨BTreeMap.mem_iff_getElem?.mpr ⟨_, hdepth⟩, ?_⟩
      rintro _ ⟨⟩
      exact ⟨parentDepth, hparent, hdepth, hedge⟩
    · rintro ⟨-, hbelow⟩
      obtain ⟨parentDepth, hparent, hdepth, hedge⟩ := hbelow p rfl
      exact ⟨_, hdepth, parentDepth, hparent, (), rfl, hedge⟩

lemma recordLoops_ok {claims obligations hypotheses : List KnowledgePredicate} :
    (∃ s₁, claims.foldlM recordPredicateType ∅ = .ok s₁ ∧
      ∃ s₂, obligations.foldlM recordPredicateType s₁ = .ok s₂ ∧
        ∃ s₃, hypotheses.foldlM recordPredicateType s₂ = .ok s₃) ↔
      TypeConsistent (claims ++ obligations ++ hypotheses) := by
  rw [← recordPredicates_ok]
  simp only [recordPredicates, foldlM_append, bind_ok]
  constructor
  · rintro ⟨s₁, h₁, s₂, h₂, s₃, h₃⟩
    exact ⟨s₃, s₂, ⟨s₁, h₁, h₂⟩, h₃⟩
  · rintro ⟨s₃, s₂, ⟨s₁, h₁, h₂⟩, h₃⟩
    exact ⟨s₁, h₁, s₂, h₂, s₃, h₃⟩

variable [Platform] {E : KnowledgeEngine}

lemma validateAuthority_ok : validateAuthority E s = .ok u ↔
      s.authorityRoot = E.authorityRoot ∧ s.policyDigest = E.policy.digest := by
  cases hschema : s.schema
  simp [validateAuthority, hschema]

lemma validateParent_ok : validateParent E fs s = .ok u ↔
      ∀ parentDigest parentReference, s.parentDigest = some parentDigest →
        s.parentReference = some parentReference → ∃ parent lastReference receipt,
          ParentLink E fs s parentDigest parentReference parent lastReference receipt := by
  unfold validateParent
  cases hd : s.parentDigest with
  | none => simp
  | some parentDigest =>
    cases hr : s.parentReference with
    | none => simp
    | some parentReference =>
      simp only [bind_ok, failIf_ok, okOr_ok, not_or, not_not, ne_eq, Option.some.injEq]
      constructor
      · rintro ⟨parent, hread, _, ⟨h1, h2, h3, h4, h5, h6⟩, last, h7, receipt, h8, h9, h10, h11,
          h12, h13, h14⟩ _ _ rfl rfl
        exact ⟨parent, last, receipt, hread, h1, h2, h6, h3.1, h3.2, h4, h5, h7, h8, h10, h9, h11,
          h12, h13, h14⟩
      · intro hlink
        obtain ⟨parent, last, receipt, h⟩ := hlink _ _ rfl rfl
        exact ⟨parent, h.parent_read, (), ⟨h.parent_path, h.parent_digest,
          ⟨h.revision_lt, h.revision_eq⟩, h.inquiry_eq, h.bundle_eq, h.parent_sealed⟩, last,
          h.last_eq, receipt, h.receipt_read, h.receipt_new, h.receipt_path, h.receipt_parent,
          h.receipt_sealed, h.cost_eq, h.evidence_eq⟩

lemma validateObligation_ok (schema : ObservationSchema)
    (entry : KnowledgeObligationId × KnowledgeObligation) (schema' : ObservationSchema) :
    validateObligation s schema entry = .ok schema' ↔
      (entry.1 = entry.2.obligationId ∧ ObligationValid s entry.2) ∧
        entry.2.predicates.foldlM recordPredicateType schema = .ok schema' := by
  obtain ⟨id, o⟩ := entry
  have hindexed : ∀ b : Bool, b = (match o.plan with
      | .expandDependencyClosure root depth _ =>
        decide (s.dependencyDepths[root]? = some depth ∧ root ∈ s.dependencyParents)
      | _ => true) → (¬b = false ↔ ∀ root depth maxDepth,
        o.plan = .expandDependencyClosure root depth maxDepth →
        s.dependencyDepths[root]? = some depth ∧ root ∈ s.dependencyParents) := by
    rintro b rfl
    cases o.plan <;> simp
  simp only [validateObligation, bind_ok, failIf_ok, okOr_ok, pure_ok,
    KnowledgeObligation.predicates, foldlM_cons, not_or, not_and, not_not, ne_eq, not_exists,
    mem_toList, hindexed _ rfl]
  constructor
  · rintro ⟨_, hid, claim, hclaim, _, ⟨hdomain, hplan⟩, _, hbounds, _, hbinding, mid, hmid, last,
      hlast, _, hidx, _, hwit, rfl⟩
    refine ⟨⟨hid, ⟨claim, hclaim, hdomain, ?_⟩, hbounds, hbinding, hidx, hwit⟩, mid, hmid, hlast⟩
    by_cases hp : claim.domain.isProfiled = true
    · exact .inl hp
    · exact .inr (hplan hp)
  · rintro ⟨⟨hid, ⟨claim, hclaim, hdomain, hplan⟩, hbounds, hbinding, hidx, hwit⟩, mid, hmid,
      hlast⟩
    exact ⟨(), hid, claim, hclaim, (), ⟨hdomain, fun hp => hplan.resolve_left hp⟩, (), hbounds,
      (), hbinding, mid, hmid, schema', hlast, (), hidx, (), hwit, rfl⟩

/-! ## The whole validator -/

lemma validateProjection_ok : validateProjection E fs s = .ok u ↔ ValidProjection E fs s := by
  have hclaims : ∀ schema, s.claims.toList.foldlM validateClaim ∅ = .ok schema ↔
      (∀ (id : KnowledgeClaimId) (c : KnowledgeClaim), s.claims[id]? = some c → id = c.claimId) ∧
        ((values s.claims).map KnowledgeClaim.predicate).foldlM recordPredicateType ∅ =
          .ok schema := by
    intro schema
    rw [foldlM_guarded_ok validateClaim_ok, forall_toList, map_eq_flatMap, ← flatMap_toList]
  have hobligations : ∀ schema schema',
      s.obligations.toList.foldlM (validateObligation s) schema = .ok schema' ↔
      (∀ (id : KnowledgeObligationId) (o : KnowledgeObligation), s.obligations[id]? = some o →
        id = o.obligationId ∧ ObligationValid s o) ∧
        ((values s.obligations).flatMap KnowledgeObligation.predicates).foldlM
          recordPredicateType schema = .ok schema' := by
    intro schema schema'
    rw [foldlM_guarded_ok validateObligation_ok, forall_toList, flatMap_toList]
  have hhypotheses : ∀ schema schema',
      s.hypotheses.toList.foldlM (validateHypothesis s) schema = .ok schema' ↔
      (∀ (id : KnowledgeHypothesisId) (h : KnowledgeHypothesis), s.hypotheses[id]? = some h →
        id = h.hypothesisId ∧
          ∀ r ∈ hypothesisWitnesses h.assessment, r ∈ s.appliedReceipts) ∧
        ((values s.hypotheses).map KnowledgeHypothesis.definition).foldlM
          recordPredicateType schema = .ok schema' := by
    intro schema schema'
    rw [foldlM_guarded_ok validateHypothesis_ok, forall_toList,
      map_eq_flatMap, ← flatMap_toList]
  simp only [validateProjection, bind_ok, exists_const, hclaims, hobligations, hhypotheses,
    validateAuthority_ok, KnowledgeBudget.validate_ok, validateStateBounds_ok,
    validateAccounting_ok, validateOrigin_ok, validateParent_ok, validateBundle_ok, forM_ok,
    validateClaimAssessment_ok, validateRivals_ok, validatePredictions_ok,
    validateDependencyIndex_ok, validateDependencyParent_ok, forall_values, forall_toList]
  constructor
  · rintro ⟨hauth, hbudget, hbounds, hacc, horigin, hparent, hbundle, s₁, ⟨hck, h₁⟩, s₂,
      ⟨hok, h₂⟩, hcv, s₃, ⟨hhk, h₃⟩, hrivals, hfam, hdep, hparents⟩
    exact ⟨hauth.1, hauth.2, hbudget, hbounds, hacc, horigin, hparent, hbundle,
      fun id c h => (hck id c h).symm, fun id o h => (hok id o h).1.symm,
      fun id h hh => (hhk id h hh).1.symm, recordLoops_ok.mp ⟨s₁, h₁, s₂, h₂, s₃, h₃⟩,
      fun id o h => (hok id o h).2, hcv, fun id h hh => (hhk id h hh).2, hrivals, hfam, hdep,
      hparents⟩
  · intro h
    obtain ⟨s₁, h₁, s₂, h₂, s₃, h₃⟩ := recordLoops_ok.mpr h.types
    exact ⟨⟨h.authorityRoot_eq, h.policy_eq⟩, h.budget, h.bounds, h.accounting, h.origin,
      h.parent, h.bundle, s₁, ⟨fun id c hc => (h.claim_keys id c hc).symm, h₁⟩, s₂,
      ⟨fun id o ho => ⟨(h.obligation_keys id o ho).symm, h.obligations id o ho⟩, h₂⟩, h.claims, s₃,
      ⟨fun id y hy => ⟨(h.hypothesis_keys id y hy).symm, h.hypotheses id y hy⟩, h₃⟩, h.rivals,
      h.families, h.dependency, h.parents⟩

/-- The validator accepts exactly the valid states. -/
lemma validateState_ok {s : KnowledgeState} :
    validateState E fs s = .ok u ↔ ValidState E fs s := by
  simp only [validateState, seq_ok, validateProjection_ok, failIf_ok, ne_eq, not_not]
  exact ⟨fun ⟨h, hd⟩ => ⟨h, hd⟩, fun h => ⟨h.projection, h.sealed⟩⟩

lemma validateState_congr_root {fs' : PrivateRoot} {s : KnowledgeState}
    (hparent : s.parentDigest = none) (hbundle : fs.capabilityBundle = fs'.capabilityBundle) :
    validateState E fs s = validateState E fs' s := by
  simp only [validateState, validateProjection, validateParent, hparent, validateBundle,
    authenticateBundle, hbundle]

/-! ## One index of nodes -/

lemma ValidProjection.mem_parents (h : ValidProjection E fs s) {node : DependencyNodeId} :
    node ∈ s.dependencyParents ↔ node ∈ s.dependencyDepths := by
  refine mem_iff_of_subset_of_size_eq ?_ h.dependency.parents_size
  intro n hn
  obtain ⟨parent, hparent⟩ := mem_iff_getElem?.mp hn
  exact (h.parents n parent hparent).depth

lemma ValidProjection.mem_graph (h : ValidProjection E fs s) {node : DependencyNodeId} :
    node ∈ s.dependencyGraph ↔ node ∈ s.dependencyParents := by
  rw [h.mem_parents]
  exact mem_iff_of_subset_of_size_eq h.dependency.graph_depths h.dependency.graph_size

end

end Tidex.Knowledge
