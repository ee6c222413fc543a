/-
  Knowledge.Issue — the receipts that the engine issues.
-/
import Tidex.Foundation.Reference
import Tidex.Knowledge.Contract
import Tidex.Knowledge.Receipt

namespace Tidex.Knowledge

open Tidex.Lib List Json Std.ExtTreeMap

section

variable [Platform]

/-! ## What is sealed -/

def issuedRecord (E : KnowledgeEngine) (invocation : CognitiveInvocation)
    (executor : ExecutorAttestation) (outcome : ActionOutcome) (input : EvidenceArtifactInput) :
    KnowledgeEvidenceRecord :=
  let record : KnowledgeEvidenceProjection :=
    { schema := .v1
      authorityRoot := E.authorityRoot
      evidenceId := .computed _ evidenceIdDomain (tupleToVec [toJson invocation.digest,
        toJson executor.executorId, toJson input.kind, toJson input.artifact.sha256])
      invocationDigest := invocation.digest
      executorId := executor.executorId
      kind := input.kind
      artifact := input.artifact
      outcomeDigest := outcomeDigest outcome }
  { record with manifestDigest := record.calculateDigest }

def issuedReference (E : KnowledgeEngine) (record : KnowledgeEvidenceRecord) :
    AuthenticatedEvidenceReference where
  evidenceId := record.evidenceId
  kind := record.kind
  record := ⟨E.semanticPath "evidence" record.manifestDigest.asStr,
    Sha256Digest.digestBytes (toVec record)⟩
  recordDigest := record.manifestDigest
  sourceArtifactDigest := record.artifact.sha256

/-- The receipt about one piece of evidence. -/
def issuedReceipt (E : KnowledgeEngine) (invocation : CognitiveInvocation)
    (executor : ExecutorAttestation) (outcome : ActionOutcome) (input : EvidenceArtifactInput) :
    ActionReceipt :=
  let record := issuedRecord E invocation executor outcome input
  let receipt : ActionReceiptProjection :=
    { schema := .v1
      authorityRoot := E.authorityRoot
      inquiryId := invocation.binding.inquiryId
      capabilityBundle := invocation.binding.capabilityBundle
      parentState := invocation.binding.parentState
      actionId := invocation.binding.actionId
      invocation := invocation
      invocationDigest := invocation.digest
      executor := executor
      outcome := outcome
      evidence := (∅ : BTreeMap _ _).insert record.evidenceId (issuedReference E record)
      chargedCost := invocation.cost }
  { receipt with manifestDigest := receipt.calculateDigest }

/-- The binding an artifact about an invocation carries. -/
def evidenceBinding (context : EvidenceVerificationContext) : EvidenceAuthorityBinding where
  schema := .v1
  authorityInstance := context.authorityInstance
  authorityRoot := context.authorityRoot
  inquiryId := context.invocation.binding.inquiryId
  capabilityBundle := context.invocation.binding.capabilityBundle
  parentState := context.invocation.binding.parentState
  actionId := context.invocation.binding.actionId
  obligationId := context.invocation.binding.obligationId
  claimId := context.invocation.binding.claimId
  attempt := context.invocation.binding.attempt
  invocationDigest := context.invocation.digest
  executorId := context.executor.executorId
  executorInterfaceVersion := context.executor.interfaceVersion
  executorImplementationDigest := context.executor.implementation.sha256
  executorVersionDigest := context.executor.versionDigest

/-- The canonical artifact that reports the edges out of a node. -/
def dependencyArtifact (context : EvidenceVerificationContext)
    (expansion : DependencyExpansionInvocation) (edges : BTreeSet DependencyEdge) :
    DependencyGraphEvidenceArtifact where
  binding := evidenceBinding context
  protocol := .canonicalDependencyEdgesV1
  root := expansion.root
  depth := expansion.depth
  maxDepth := expansion.maxDepth
  edges := edges

def expansionOutcome (expansion : DependencyExpansionInvocation) (edges : BTreeSet DependencyEdge) :
    ActionOutcome :=
  .completed (canonicalDependencyClosureObservations expansion) edges ∅

/-! ## The verifier accepts the canonical artifact -/

variable {E : KnowledgeEngine} {fs : PrivateRoot} {s : KnowledgeState}
  {executor : ExecutorAttestation} {expansion : DependencyExpansionInvocation}
  {edges : BTreeSet DependencyEdge} {invocation : CognitiveInvocation} {outcome : ActionOutcome}
  {input : EvidenceArtifactInput}

lemma evidenceBinding_validate (context : EvidenceVerificationContext)
    (hroot : context.authorityRoot = authorityRootOf context.authorityInstance)
    (hinstance : context.invocation.binding.authorityInstance = context.authorityInstance)
    (hbound : context.invocation.binding.authorityRoot = context.authorityRoot) :
    (evidenceBinding context).validate context = .ok () := by
  rw [EvidenceAuthorityBinding.validate, failIf_ok]
  simp [evidenceBinding, hroot, hinstance, hbound]

/-- The verifier derives the reported edges from the canonical artifact. -/
lemma deriveVerifiedOutcome_dependencyArtifact {artifact : PrivateFileReference}
    (hinstance : expansion.binding.authorityInstance = E.authorityInstance)
    (hroot : expansion.binding.authorityRoot = E.authorityRoot)
    (hsources : ∀ e ∈ edges.toList, e.fromNode = expansion.root)
    (hread : artifact.readVerifiedBounded fs maxEvidenceArtifactBytes =
      .ok (toVec (dependencyArtifact
        ⟨E.authorityInstance, E.authorityRoot, .expandDependencyClosure expansion, executor⟩
        expansion edges))) (hdecodes : DecodesCanonical (dependencyArtifact
      ⟨E.authorityInstance, E.authorityRoot, .expandDependencyClosure expansion, executor⟩
      expansion edges)) : deriveVerifiedOutcome fs
      ⟨E.authorityInstance, E.authorityRoot, .expandDependencyClosure expansion, executor⟩
      (expansionOutcome expansion edges) [⟨.dependencyGraph, artifact⟩] =
      .ok (expansionOutcome expansion edges) := by
  have hgraph : deriveDependencyGraph fs
      ⟨E.authorityInstance, E.authorityRoot, .expandDependencyClosure expansion, executor⟩
      [⟨.dependencyGraph, artifact⟩] = .ok (expansionOutcome expansion edges) := by
    have hbinding := evidenceBinding_validate ⟨E.authorityInstance, E.authorityRoot,
      .expandDependencyClosure expansion, executor⟩ E.authorityRoot_eq hinstance hroot
    simp only [deriveDependencyGraph, readSingleEvidence, bind_ok, failIf_ok, pure_ok,
      DependencyGraphEvidenceArtifact.decodeCanonical, decodeCanonical, okOr_ok, ne_eq,
      not_not, not_or]
    refine ⟨_, ⟨(), trivial, hread⟩, _, ⟨_, hdecodes, (), rfl, rfl⟩, (), hbinding, (), ?_, rfl⟩
    exact ⟨trivial, rfl, rfl, rfl, fun ⟨e, he, hne⟩ => hne (hsources e he)⟩
  rw [expansionOutcome] at hgraph ⊢
  simp only [deriveVerifiedOutcome, deriveCompleted, bind_ok, failIf_ok, pure_ok,
    deriveByInvocation, ne_eq, not_not, not_or]
  exact ⟨(), ⟨by simp, by simp⟩, _, hgraph, (), rfl, rfl⟩

/-! ## An issued receipt is accepted -/

/-- The files that support a receipt, and what they are read as. -/
structure EvidenceStored (E : KnowledgeEngine) (fs : PrivateRoot)
    (invocation : CognitiveInvocation) (executor : ExecutorAttestation) (outcome : ActionOutcome)
    (input : EvidenceArtifactInput) : Prop where
  record : fs.content (issuedReference E
    (issuedRecord E invocation executor outcome input)).record.path =
      .ok (toVec (issuedRecord E invocation executor outcome input))
  record_le : (toVec (issuedRecord E invocation executor outcome input)).size ≤
    maxEvidenceRecordBytes
  record_decodes : DecodesCanonical (issuedRecord E invocation executor outcome input)
  executor_ok : authenticateExecutor fs
    ⟨executor.executorId, executor.interfaceVersion, executor.implementation⟩ = .ok executor
  artifact : ∃ bytes, input.artifact.readVerifiedBounded fs maxEvidenceArtifactBytes = .ok bytes ∧
    bytes.isEmpty = false

lemma authenticateEvidenceRecord_issued
    (h : EvidenceStored E fs invocation executor outcome input) : authenticateEvidenceRecord E fs
      (issuedReference E (issuedRecord E invocation executor outcome input)) invocation.digest
      executor.executorId (outcomeDigest outcome) =
      .ok (issuedRecord E invocation executor outcome input) := by
  obtain ⟨bytes, hread, hne⟩ := h.artifact
  simp only [authenticateEvidenceRecord, bind_ok, failIf_ok, pure_ok, ne_eq, not_not,
    not_or, Bool.not_eq_true]
  refine ⟨_, readVerifiedBounded_ok.mpr ⟨h.record, h.record_le, rfl⟩, _,
    fromSlice_toVec h.record_decodes, (), ?_, bytes, hread, (), hne, rfl⟩
  exact ⟨rfl, trivial, rfl, rfl, rfl, rfl, rfl, rfl, rfl, rfl, rfl⟩

/-- An issued receipt is accepted where its invocation is the planned one, its
    outcome has the right shape and is derived from its one fresh artifact. -/
lemma issuedReceipt_accepted (hplan : plan E fs s = .ok (.invoke invocation))
    (hshape : validateOutcomeShape s.toKnowledgeStateProjection invocation outcome = .ok ())
    (hfiles : EvidenceStored E fs invocation executor outcome input)
    (hkind : requiredEvidenceKinds invocation outcome = (∅ : BTreeSet _).insert input.kind)
    (hderived : deriveVerifiedOutcome fs ⟨E.authorityInstance, E.authorityRoot, invocation, executor⟩
      outcome [input] = .ok outcome)
    (hseparate : input.artifact.sha256 ≠ executor.implementation.sha256)
    (hunused : input.artifact.sha256 ∉ s.usedEvidenceArtifacts)
    (hroom : s.usage.evidenceRecords + 1 ≤ s.budget.maxEvidenceRecords)
    (hfresh : (issuedReceipt E invocation executor outcome input).manifestDigest ∉
      s.appliedReceipts) :
    validateActionReceipt E fs s (issuedReceipt E invocation executor outcome input) = .ok () := by
  obtain ⟨o, hplanned⟩ := plan_invoke hplan
  have hbinding : invocation.binding =
      nextBinding E s o (o.state.attempts + 1) := by
    rw [hplanned.invocation_eq, invocationOf_binding]
  have hmax := hplanned.valid.projection.budget.evidenceRecords.2
  have hone : (issuedReceipt E invocation executor outcome input).evidence.toList =
      [((issuedRecord E invocation executor outcome input).evidenceId,
        issuedReference E (issuedRecord E invocation executor outcome input))] :=
    BTreeMap.toList_insert_empty _ _
  have hsize : (issuedReceipt E invocation executor outcome input).evidence.size = 1 :=
    size_insert.trans (by simp)
  have hevidence : authenticateEvidence E fs s.toKnowledgeStateProjection
      (issuedReceipt E invocation executor outcome input) .none
      ((issuedRecord E invocation executor outcome input).evidenceId,
        issuedReference E (issuedRecord E invocation executor outcome input)) =
      .ok ⟨(∅ : BTreeSet _).insert input.artifact.sha256, (∅ : BTreeSet _).insert input.kind,
        [input]⟩ := by
    simp only [authenticateEvidence, bind_ok, failIf_ok, pure_ok, not_or, not_not, ne_eq]
    refine ⟨(), ⟨rfl, ?_, hseparate, hunused, by simp [EvidenceSeen.none],
      by simp [EvidenceSeen.none]⟩, _, authenticateEvidenceRecord_issued hfiles, rfl⟩
    rw [show requiredEvidenceKinds (issuedReceipt E invocation executor outcome input).invocation
      (issuedReceipt E invocation executor outcome input).outcome = _ from hkind]
    exact BTreeSet.mem_insert_iff.mpr (.inl rfl)
  simp only [validateActionReceipt, bind_ok, failIf_ok, not_or, not_not, ne_eq,
    not_lt, gt_iff_lt, hone, foldlM_cons, foldlM_nil, pure_ok, Bool.not_eq_true]
  refine ⟨(), ⟨trivial, rfl, ?_, ?_, ?_, rfl, rfl, rfl, rfl, hfresh⟩, (), ?_, (), hshape, executor,
    hfiles.executor_ok, (), ⟨rfl, ?_⟩, (), ?_, _, ⟨_, hevidence, rfl⟩, (), hkind.symm, ?_⟩
  · rw [show (issuedReceipt E invocation executor outcome input).inquiryId =
      invocation.binding.inquiryId from rfl, hbinding]
    rfl
  · rw [show (issuedReceipt E invocation executor outcome input).capabilityBundle =
      invocation.binding.capabilityBundle from rfl, hbinding]
    rfl
  · rw [show (issuedReceipt E invocation executor outcome input).parentState =
      invocation.binding.parentState from rfl, hbinding]
    rfl
  · simp only [validatePlannedInvocation, hplan, ok_bind, failIf_ok, ne_eq, not_not]
    rfl
  · rw [isEmpty_eq_size_beq_zero, hsize]
    rfl
  · rw [hsize]
    simp only [saturatingAdd, u64Width, hardMaxEvidenceRecords] at hmax ⊢
    omega
  · unfold validateDerivation
    split
    · simp only [bind_ok, failIf_ok, ne_eq, not_not]
      exact ⟨outcome, hderived, rfl⟩
    · rfl

end

/-! ## A small inquiry on the reference platform -/

namespace Sample

attribute [local instance] Platform.reference

def node : DependencyNodeId := ⟨"alpha", by decide⟩
def inquiryId : InquiryId := ⟨"inquiry", by decide⟩
def claimId : KnowledgeClaimId := ⟨"closure-claim", by decide⟩
def obligationId : KnowledgeObligationId := ⟨"closure-obligation", by decide⟩
def executorId : ExecutorId := ⟨"scanner", by decide⟩
def budget : KnowledgeBudget := ⟨8, 64, 8, 8, 8, 4, 8, 8⟩

def bundle : CapabilityBundleDigest :=
  ⟨⟨"1111111111111111111111111111111111111111111111111111111111111111", by decide⟩⟩

def bundleReference : PrivateFileReference := ⟨"bundle.json", bundle.raw⟩

def authorityRoot : AuthorityRootDigest :=
  ⟨⟨"6b916323c51a0c2c01b3aaec7055e23a0b1061fba0683112e688ce8ab6e2f07d", by decide⟩⟩

def policyDigest : KnowledgePolicyDigest :=
  ⟨⟨"0f9d49149c916b95fd0a7923f98f443ee0aeff8584a8ad1983ac61926894e8fb", by decide⟩⟩

def engine : KnowledgeEngine where
  privateRoot := "private"
  authorityInstance := ⟨"deployment", by decide⟩
  authorityRoot := authorityRoot
  policy := ⟨policyDigest, 3⟩
  authorityRoot_eq := by
    refine SemanticDigest.raw_injective (digestDomain_eq ?_).symm
    decide +kernel
  policy_eq := by
    have hdigest : (KnowledgePolicy.conservativeV1).digest = policyDigest := by
      refine SemanticDigest.raw_injective (digestDomain_eq ?_)
      decide +kernel
    rw [← hdigest]
    rfl

def closureKey : ObservationKey where
  str := "dependency.afbd1c99860747380bcf90d279e8f1aa2c621eb14ac0a52700b8735aa25c7f83.closed"
  valid := by decide +kernel

def closing : KnowledgePredicate := .boolEquals closureKey true

def obligation : KnowledgeObligation :=
  ⟨obligationId, claimId, .dependencyClosure, ⟨closing⟩, .expandDependencyClosure node 0 1,
    .open_ 0 ∅⟩

def claim : KnowledgeClaim := ⟨claimId, .dependencyClosure, closing, .unresolved⟩

/-- Revision zero with these claims and obligations, and the node as its one root. -/
noncomputable def origin (claims : BTreeMap KnowledgeClaimId KnowledgeClaim)
    (obligations : BTreeMap KnowledgeObligationId KnowledgeObligation) : KnowledgeStateProjection :=
  initialProjection engine inquiryId bundleReference bundle budget claims
    ⟨obligations, (∅ : BTreeMap _ _).insert node none, (∅ : BTreeMap _ _).insert node 0,
      (∅ : BTreeMap _ _).insert node ∅⟩ ∅

lemma origin_index_valid (claims : BTreeMap KnowledgeClaimId KnowledgeClaim)
    (obligations : BTreeMap KnowledgeObligationId KnowledgeObligation) :
    validateDependencyIndex (origin claims obligations) = .ok () := by
  have hgraph : (origin claims obligations).dependencyGraph =
      (∅ : BTreeMap DependencyNodeId (BTreeSet DependencyNodeId)).insert node ∅ := rfl
  have hdepths : (origin claims obligations).dependencyDepths =
      (∅ : BTreeMap DependencyNodeId Nat).insert node 0 := rfl
  have hparents : (origin claims obligations).dependencyParents =
      (∅ : BTreeMap DependencyNodeId (Option DependencyNodeId)).insert node none := rfl
  have hbudget : (origin claims obligations).budget = budget := rfl
  have hacyclic : dependencyGraphIsAcyclic (origin claims obligations).dependencyGraph
      (origin claims obligations).budget.maxDependencyNodes = .ok true := by
    rw [hgraph, hbudget]
    refine dependencyGraphIsAcyclic_of_edgeless ?_ (by decide +kernel) (by decide +kernel)
    decide +kernel
  rw [validateDependencyIndex, hacyclic, hgraph, hdepths, hparents, hbudget]
  decide +kernel

def root (files : List (String × ByteArray)) : PrivateRoot where
  content path :=
    match files.find? (·.1 = path) with
    | some file => .ok file.2
    | none => .error (.io .notFound)
  capabilityBundle _ := .ok bundle

def binding (state : KnowledgeStateDigest) (actionId : KnowledgeActionId) : InvocationBinding where
  authorityInstance := engine.authorityInstance
  authorityRoot := authorityRoot
  inquiryId := inquiryId
  capabilityBundle := bundle
  parentState := state
  actionId := actionId
  obligationId := obligationId
  claimId := claimId
  attempt := 1
  criterion := ⟨closing⟩

def expansion (state : KnowledgeStateDigest) (actionId : KnowledgeActionId) :
    DependencyExpansionInvocation :=
  ⟨binding state actionId, node, 0, 1⟩

def scannerBytes : ByteArray := encodeText "scanner".toList

def executor : ExecutorAttestation where
  executorId := executorId
  interfaceVersion := .v1
  implementation := ⟨"scanner.bin",
    ⟨"6105d8625ada3c9bf514062b5696e9d7aa11e4b5e2c3d8629713f0bf2e45f6fd", by decide⟩⟩
  versionDigest :=
    ⟨⟨"b822ab11fc034369e8bac4efbca97038c61401e5f8b058edf7534fa36c597914", by decide⟩⟩

lemma executor_digest :
    Sha256Digest.digestBytes scannerBytes = executor.implementation.sha256 := by
  refine sha256_encodeText ?_
  decide +kernel

lemma executor_version : calculateExecutorVersionDigest executor.executorId
    executor.interfaceVersion executor.implementation.sha256 executor.implementation.sha256 =
      executor.versionDigest := by
  refine SemanticDigest.raw_injective (digestDomain_eq ?_)
  decide +kernel

def artifact (state : KnowledgeStateDigest) (actionId : KnowledgeActionId)
    (invocation : CognitiveInvocationDigest) (edges : BTreeSet DependencyEdge) :
    DependencyGraphEvidenceArtifact where
  binding :=
    { schema := .v1
      authorityInstance := engine.authorityInstance
      authorityRoot := authorityRoot
      inquiryId := inquiryId
      capabilityBundle := bundle
      parentState := state
      actionId := actionId
      obligationId := obligationId
      claimId := claimId
      attempt := 1
      invocationDigest := invocation
      executorId := executorId
      executorInterfaceVersion := .v1
      executorImplementationDigest := executor.implementation.sha256
      executorVersionDigest := executor.versionDigest }
  protocol := .canonicalDependencyEdgesV1
  root := node
  depth := 0
  maxDepth := 1
  edges := edges

lemma dependencyArtifact_eq {state : KnowledgeStateDigest} {actionId : KnowledgeActionId}
    {invocation : CognitiveInvocationDigest} (edges : BTreeSet DependencyEdge)
    (h : (CognitiveInvocation.expandDependencyClosure (expansion state actionId)).digest =
      invocation) : dependencyArtifact ⟨engine.authorityInstance, engine.authorityRoot,
      .expandDependencyClosure (expansion state actionId), executor⟩ (expansion state actionId)
      edges = artifact state actionId invocation edges := by
  rw [← h]
  rfl

lemma root_content {files : List (String × ByteArray)} (hnodup : (files.map Prod.fst).Nodup)
    {path : String} {bytes : ByteArray} (hmem : (path, bytes) ∈ files) :
    (root files).content path = .ok bytes := by
  have hfind : files.find? (·.1 = path) = some (path, bytes) := by
    induction files with
    | nil => cases hmem
    | cons file files ih =>
      rw [map_cons, nodup_cons] at hnodup
      rcases mem_cons.mp hmem with rfl | hmem
      · simp
      · have hne : file.1 ≠ path := fun heq => hnodup.1 (heq ▸ mem_map_of_mem hmem)
        rw [find?_cons_of_neg (by simpa using hne)]
        exact ih hnodup.2 hmem
  simp [root, hfind]

lemma length_semanticPath (E : KnowledgeEngine) (class_ : String) (d : Sha256Digest) :
    (E.semanticPath class_ d.hex).length = E.privateRoot.length + class_.length + 101 := by
  have hhex : d.hex.length = 64 := by
    rw [← String.length_toList, d.length_hex]
  have h1 : ("/state/knowledge_engine/" : String).length = 24 := by decide
  have h2 : ("/by-sha/" : String).length = 8 := by decide
  have h3 : (".json" : String).length = 5 := by decide
  simp only [KnowledgeEngine.semanticPath, String.length_append, hhex, h1, h2, h3]
  omega

/-! ### One attempt, with every digest it needs. -/

/-- A first attempt at the closure obligation of a first state. -/
structure Attempt where
  claims : BTreeMap KnowledgeClaimId KnowledgeClaim
  obligations : BTreeMap KnowledgeObligationId KnowledgeObligation
  edges : BTreeSet DependencyEdge
  stateDigest : KnowledgeStateDigest
  actionId : KnowledgeActionId
  invocationDigest : CognitiveInvocationDigest
  artifactDigest : Sha256Digest

namespace Attempt

variable (a : Attempt)

noncomputable def state : KnowledgeState :=
  { origin a.claims a.obligations with manifestDigest := a.stateDigest }

def expansion : DependencyExpansionInvocation := Sample.expansion a.stateDigest a.actionId

def invocation : CognitiveInvocation := .expandDependencyClosure a.expansion

def input : EvidenceArtifactInput := ⟨.dependencyGraph, ⟨"edges.json", a.artifactDigest⟩⟩

def outcome : ActionOutcome := expansionOutcome a.expansion a.edges

def artifact : DependencyGraphEvidenceArtifact :=
  Sample.artifact a.stateDigest a.actionId a.invocationDigest a.edges

noncomputable def record : KnowledgeEvidenceRecord :=
  issuedRecord engine a.invocation executor a.outcome a.input

noncomputable def receipt : ActionReceipt :=
  issuedReceipt engine a.invocation executor a.outcome a.input

noncomputable def files : List (String × ByteArray) :=
  [((engine.stateReference a.state).path, toVec a.state),
    ((engine.actionReceiptReference a.receipt).path, toVec a.receipt),
    ((issuedReference engine a.record).record.path, toVec a.record),
    ("edges.json", toVec a.artifact), ("scanner.bin", scannerBytes)]

noncomputable def fs : PrivateRoot := root a.files

/-- What is evaluated of one attempt. -/
structure Checked : Prop where
  state_hash : hashesTo (domainText stateDomain (toJson (origin a.claims a.obligations)))
    a.stateDigest.raw = true
  action_hash : hashesTo (domainText actionIdDomain (arr [toJson a.stateDigest,
    toJson obligationId, toJson (1 : Nat)])) a.actionId.raw = true
  invocation_hash : hashesTo (domainText invocationDomain (toJson a.invocation))
    a.invocationDigest.raw = true
  artifact_hash : hashesTo ((toJson a.artifact).renderWith quickText) a.artifactDigest = true
  separate : a.artifactDigest ≠ executor.implementation.sha256
  valid : validateProjection engine (root []) (origin a.claims a.obligations) = .ok ()
  continues : deriveTerminal engine a.state = .ok none
  first : (openObligations (origin a.claims a.obligations)).find?
    (affordable (origin a.claims a.obligations)) = some obligation
  shape : validateOutcomeShape (origin a.claims a.obligations) a.invocation a.outcome = .ok ()
  sources : ∀ e ∈ a.edges.toList, e.fromNode = node
  sizes : (toJson a.state).byteSize ≤ 65536 ∧ (toJson a.artifact).byteSize ≤ 65536 ∧
    (toJson a.outcome).byteSize ≤ 65536 ∧ (toJson a.invocation).byteSize ≤ 65536

lemma nodup_files : (a.files.map Prod.fst).Nodup := by
  have hlengths : (a.files.map Prod.fst).map String.length = [114, 123, 116, 10, 11] := by
    simp only [files, map_cons, map_nil, KnowledgeEngine.stateReference,
      KnowledgeEngine.actionReceiptReference, issuedReference, SemanticDigest.asStr,
      length_semanticPath]
    decide +kernel
  refine Nodup.of_map String.length ?_
  rw [hlengths]
  decide

lemma record_le : (toVec a.record).size ≤ 65536 := by
  have hmembers : toJson a.record = .obj [("schema", toJson KnowledgeEngineSchema.v1),
      ("authority_root", toJson a.record.authorityRoot),
      ("evidence_id", toJson a.record.evidenceId),
      ("invocation_digest", toJson a.record.invocationDigest),
      ("executor_id", toJson executorId), ("kind", toJson EvidenceKind.dependencyGraph),
      ("artifact", toJson (⟨"edges.json", a.artifactDigest⟩ : PrivateFileReference)),
      ("outcome_digest", toJson a.record.outcomeDigest),
      ("manifest_digest", toJson a.record.manifestDigest)] := rfl
  rw [toVec, size_toBytes, hmembers, byteSize_obj _ (cons_ne_nil _ _)]
  simp only [membersSize, map_cons, map_nil, sum_cons, sum_nil,
    byteSize_toJson_semanticDigest, byteSize_reference]
  decide +kernel

lemma reference_le : (toJson (issuedReference engine a.record)).byteSize ≤ 1024 := by
  have hreferenceMembers : toJson (issuedReference engine a.record) =
      .obj [("evidence_id", toJson a.record.evidenceId),
        ("kind", toJson EvidenceKind.dependencyGraph),
        ("record", toJson (issuedReference engine a.record).record),
        ("record_digest", toJson a.record.manifestDigest),
        ("source_artifact_digest", toJson a.artifactDigest)] := rfl
  have hrecord : (toJson (issuedReference engine a.record).record).byteSize =
      (toJson (engine.privateRoot ++ "/state/knowledge_engine/" ++ "evidence" ++ "/by-sha/" ++
        a.record.manifestDigest.raw.hex ++ ".json")).byteSize + 85 := byteSize_reference _ _
  rw [hreferenceMembers, byteSize_obj _ (cons_ne_nil _ _)]
  simp only [membersSize, map_cons, map_nil, sum_cons, sum_nil,
    byteSize_toJson_semanticDigest, byteSize_toJson_digest, hrecord, byteSize_around]
  decide +kernel

lemma entry_le : (obj [(keyText a.record.evidenceId,
    toJson (issuedReference engine a.record))]).byteSize ≤ 1100 := by
  have hreference := a.reference_le
  have hkey : textSize (quote (keyText a.record.evidenceId)) = 66 := by
    have h := byteSize_toJson_digest a.record.evidenceId.raw
    rwa [byteSize, show toJson a.record.evidenceId.raw =
      .str (keyText a.record.evidenceId) from rfl, render] at h
  rw [byteSize_obj _ (cons_ne_nil _ _)]
  simp only [membersSize, map_cons, map_nil, sum_cons, sum_nil, hkey]
  generalize (toJson (issuedReference engine a.record)).byteSize = n at hreference ⊢
  omega

lemma receipt_le (hinvocation : (toJson a.invocation).byteSize ≤ 65536)
    (houtcome : (toJson a.outcome).byteSize ≤ 65536) :
    (toVec a.receipt).size ≤ maxActionReceiptBytes := by
  have hevidence : toJson a.receipt.evidence =
      .obj [(keyText a.record.evidenceId, toJson (issuedReference engine a.record))] := by
    have hlist := BTreeMap.toList_insert_empty a.record.evidenceId (issuedReference engine a.record)
    exact congrArg (fun l => obj (l.map fun p => (keyText p.1, toJson p.2))) hlist
  have hmembers : toJson a.receipt = .obj [("schema", toJson KnowledgeEngineSchema.v1),
      ("authority_root", toJson a.receipt.authorityRoot), ("inquiry_id", toJson inquiryId),
      ("capability_bundle", toJson bundle), ("parent_state", toJson a.receipt.parentState),
      ("action_id", toJson a.receipt.actionId), ("invocation", toJson a.invocation),
      ("invocation_digest", toJson a.receipt.invocationDigest), ("executor", toJson executor),
      ("outcome", toJson a.outcome), ("evidence", toJson a.receipt.evidence),
      ("charged_cost", toJson (3 : Nat)),
      ("manifest_digest", toJson a.receipt.manifestDigest)] := rfl
  rw [toVec, size_toBytes, hmembers, byteSize_obj _ (cons_ne_nil _ _), hevidence]
  have hentry := a.entry_le
  have hkeys : textSize (quote "schema") = 8 ∧
      textSize (quote "authority_root") = 16 ∧
      textSize (quote "inquiry_id") = 12 ∧
      textSize (quote "capability_bundle") = 19 ∧
      textSize (quote "parent_state") = 14 ∧
      textSize (quote "action_id") = 11 ∧
      textSize (quote "invocation") = 12 ∧
      textSize (quote "invocation_digest") = 19 ∧
      textSize (quote "executor") = 10 ∧
      textSize (quote "outcome") = 9 ∧
      textSize (quote "evidence") = 10 ∧
      textSize (quote "charged_cost") = 14 ∧
      textSize (quote "manifest_digest") = 17 := by
    decide +kernel
  have hfixed : (toJson executor).byteSize + (toJson inquiryId).byteSize +
      (toJson bundle).byteSize + (toJson KnowledgeEngineSchema.v1).byteSize +
      (toJson (3 : Nat)).byteSize ≤ 1024 := by decide +kernel
  simp only [membersSize, map_cons, map_nil, sum_cons, sum_nil,
    byteSize_toJson_semanticDigest, maxActionReceiptBytes, hkeys]
  generalize (toJson executor).byteSize = n₁ at hfixed ⊢
  generalize (toJson inquiryId).byteSize = n₂ at hfixed ⊢
  generalize (toJson bundle).byteSize = n₃ at hfixed ⊢
  generalize (toJson KnowledgeEngineSchema.v1).byteSize = n₄ at hfixed ⊢
  generalize (toJson (3 : Nat)).byteSize = n₅ at hfixed ⊢
  generalize (toJson a.invocation).byteSize = n₆ at hinvocation ⊢
  generalize (toJson a.outcome).byteSize = n₇ at houtcome ⊢
  generalize byteSize (.obj [(keyText a.record.evidenceId,
    toJson (issuedReference engine a.record))]) = n₈ at hentry ⊢
  omega

namespace Checked

variable {a} (h : a.Checked)
include h

lemma state_sealed : a.state.calculateDigest = a.state.manifestDigest :=
  SemanticDigest.raw_injective (digestDomain_eq h.state_hash)

lemma state_eq_seal : (origin a.claims a.obligations).seal = a.state := by
  have hdigest : (origin a.claims a.obligations).calculateDigest = a.stateDigest := h.state_sealed
  rw [KnowledgeStateProjection.seal, hdigest]
  rfl

lemma state_valid (files : List (String × ByteArray)) :
    validateState engine (root files) a.state = .ok () := by
  have hcongr : validateState engine (root files) a.state = validateState engine (root []) a.state :=
    validateState_congr_root rfl rfl
  rw [hcongr]
  simp only [validateState, bind_ok, failIf_ok, ne_eq, not_not]
  exact ⟨(), h.valid, h.state_sealed⟩

lemma plan_eq : plan engine a.fs a.state = .ok (.invoke a.invocation) := by
  have haction : nextBinding engine a.state obligation 1 = binding a.stateDigest a.actionId := by
    have hid : SemanticDigest.computed .knowledgeAction actionIdDomain
        (tupleToVec [toJson a.stateDigest, toJson obligationId, toJson (1 : Nat)]) = a.actionId :=
      SemanticDigest.raw_injective (digestDomain_eq h.action_hash)
    rw [binding, ← hid]
    rfl
  have hplan := plan_invoke_of_find (h.state_valid a.files) h.continues h.first (by decide)
  rw [show obligation.state.attempts + 1 = 1 from rfl, haction] at hplan
  exact hplan

lemma artifact_read :
    a.input.artifact.readVerifiedBounded a.fs maxEvidenceArtifactBytes = .ok (toVec a.artifact) := by
  have hcontent : (root a.files).content "edges.json" = .ok (toVec a.artifact) :=
    root_content a.nodup_files (by simp [files])
  refine readVerifiedBounded_ok.mpr ⟨hcontent, ?_, digestBytes_eq h.artifact_hash⟩
  rw [toVec, size_toBytes]
  exact h.sizes.2.1.trans (by decide)

lemma evidence_stored : EvidenceStored engine a.fs a.invocation executor a.outcome a.input := by
  have hnodup := a.nodup_files
  have hscanner : (root a.files).content "scanner.bin" = .ok scannerBytes :=
    root_content hnodup (by simp [files])
  refine ⟨root_content hnodup (by simp [files, record]), a.record_le.trans (by decide),
    decodesCanonical_reference _, ?_, toVec a.artifact, h.artifact_read, ?_⟩
  · have hread : executor.implementation.readVerifiedBounded (root a.files)
        maxExecutorImplementationBytes = .ok scannerBytes :=
      readVerifiedBounded_ok.mpr ⟨hscanner, by decide +kernel, executor_digest⟩
    simp only [authenticateExecutor, fs, hread, ok_bind, executor_digest, executor_version]
    rfl
  · have hsize : (toVec a.artifact).size ≠ 0 := by
      rw [toVec, size_toBytes, show toJson a.artifact = .obj (_ :: _) from rfl,
        byteSize_obj _ (cons_ne_nil _ _)]
      omega
    simpa [ByteArray.isEmpty] using hsize

lemma accepted : validateActionReceipt engine a.fs a.state a.receipt = .ok () := by
  have hinvocation : a.invocation.digest = a.invocationDigest :=
    SemanticDigest.raw_injective (digestDomain_eq h.invocation_hash)
  have hartifact := dependencyArtifact_eq a.edges hinvocation
  have hread := h.artifact_read
  rw [artifact, ← hartifact] at hread
  refine issuedReceipt_accepted h.plan_eq h.shape h.evidence_stored rfl ?_ h.separate ?_ ?_ ?_
  · exact deriveVerifiedOutcome_dependencyArtifact rfl rfl h.sources hread
      (decodesCanonical_reference _)
  · exact Std.ExtTreeSet.not_mem_empty
  · exact (by decide : 0 + 1 ≤ 8)
  · exact Std.ExtTreeSet.not_mem_empty

end Checked

end Attempt

/-! ### The inquiry into a leaf. -/

def leaf : Attempt where
  claims := (∅ : BTreeMap _ _).insert claimId claim
  obligations := (∅ : BTreeMap _ _).insert obligationId obligation
  edges := ∅
  stateDigest := ⟨⟨"ac47b93a2b31e7c6fa49ca82599df352eae4578191dc1cdae81fd0342421fcb0", by decide⟩⟩
  actionId := ⟨⟨"b1fb324bcbc636df1b06ad385c683d06499454f3a0687b6c0bc1817019c3c244", by decide⟩⟩
  invocationDigest :=
    ⟨⟨"d5c9af547cb1f9d367c6edf6626f01a39d355ead637b610e1d8bde7c8f708519", by decide⟩⟩
  artifactDigest := ⟨"65902ca3b999e440ed1b394787e75494d63434474a4932b71c2cf5db3df2449d", by decide⟩

lemma leaf_checked : leaf.Checked where
  state_hash := by decide +kernel
  action_hash := by decide +kernel
  invocation_hash := by decide +kernel
  artifact_hash := by decide +kernel
  separate := by decide +kernel
  valid := by
    unfold validateProjection
    rw [origin_index_valid]
    decide +kernel
  continues := by decide +kernel
  first := by decide +kernel
  shape := by decide +kernel
  sources := by decide +kernel
  sizes := by
    simp only [byteSize_eq]
    decide +kernel

/-! ### The inquiry into a branch. -/

def otherNode : DependencyNodeId := ⟨"beta", by decide⟩
def countClaimId : KnowledgeClaimId := ⟨"typed-claim", by decide⟩
def countObligationId : KnowledgeObligationId := ⟨"typed-obligation", by decide⟩

def otherKey : ObservationKey where
  str := "dependency.2ed5ab25a6b403afbd18d14ce37f33bf228cfe5102c6fa76a7d433e9e22fd183.closed"
  valid := by decide +kernel

lemma dependencyObservationKey_otherNode : dependencyObservationKey otherNode = otherKey := by
  apply LocalId.str_injective
  have hdigest : Sha256Digest.digestDomain dependencyObservationKeyDomain (toVec otherNode) =
      ⟨"2ed5ab25a6b403afbd18d14ce37f33bf228cfe5102c6fa76a7d433e9e22fd183", by decide⟩ := by
    refine digestDomain_eq ?_
    decide +kernel
  have htext := congrArg (fun d => "dependency." ++ d.hex ++ ".closed") hdigest
  exact htext.trans (by decide +kernel)

def counting : KnowledgePredicate := .u64AtLeast otherKey 1

def branch : Attempt where
  claims := ((∅ : BTreeMap _ _).insert claimId claim).insert countClaimId
    ⟨countClaimId, .formalProperty, counting, .unresolved⟩
  obligations := ((∅ : BTreeMap _ _).insert obligationId obligation).insert countObligationId
    ⟨countObligationId, countClaimId, .formalProperty, ⟨counting⟩,
      .verifyFormalProperty .smt counting, .open_ 0 ∅⟩
  edges := (∅ : BTreeSet _).insert ⟨node, otherNode⟩
  stateDigest := ⟨⟨"ed83ec8fd5a1087c0c15bf76c8e81ea6d044337530dab5e2699acf8d338fd305", by decide⟩⟩
  actionId := ⟨⟨"311ad1ceea7a1939780294f158ecadfa5ef4efca2b35b4cad25ec0d595ec7895", by decide⟩⟩
  invocationDigest :=
    ⟨⟨"1c35e36ebef8654a1b1f31672adc173acd98ac2e48444bf6145a0c51478797c3", by decide⟩⟩
  artifactDigest := ⟨"35e5ee27fa0e9548e95eb82d1747087fe9e08f7d64495e19a9650bfd25ad2fb5", by decide⟩

lemma branch_checked : branch.Checked where
  state_hash := by decide +kernel
  action_hash := by decide +kernel
  invocation_hash := by decide +kernel
  artifact_hash := by decide +kernel
  separate := by decide +kernel
  valid := by
    unfold validateProjection
    rw [origin_index_valid]
    decide +kernel
  continues := by decide +kernel
  first := by decide +kernel
  shape := by decide +kernel
  sources := by decide +kernel
  sizes := by
    simp only [byteSize_eq]
    decide +kernel

end Sample

end Tidex.Knowledge
