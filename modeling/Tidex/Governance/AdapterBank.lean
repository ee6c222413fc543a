/-
  Governance.AdapterBank — a bank of adapters with a journal of revisions.

  An index snapshot says what is registered, what is active and what is revoked.
-/
import Tidex.Governance.AdapterTypes
import Tidex.Lib.Durable

namespace Tidex.Bank

open Tidex.Lib Sha256Digest Durable

/-! ## The files of the bank, and the world around it -/

/-- The files of a bank: what is named by its digest, the journal by revision, and the head. -/
structure AdapterBank where
  root : String
  manifests : BTreeMap Sha256Digest AdapterManifest
  authorizations : BTreeMap Sha256Digest AdapterPromotionAuthorization
  indexes : BTreeMap Sha256Digest AdapterIndexSnapshot
  commits : BTreeMap Nat AdapterBankRevisionCommit
  head : Option AdapterBankHead

namespace AdapterBank

variable (bank : AdapterBank)

def file (directory name : String) : String :=
  bank.root ++ "/state/adapter_bank/" ++ directory ++ "/" ++ name

def manifestPath (digest : Sha256Digest) : String :=
  bank.file "manifests/by-sha" (digest.hex ++ ".json")

def indexPath (digest : Sha256Digest) : String :=
  bank.file "indexes/by-sha" (digest.hex ++ ".json")

def authorizationPath (digest : Sha256Digest) : String :=
  bank.file "promotion-authorizations/by-sha" (digest.hex ++ ".json")

def revisionCommitPath (revision : Nat) : String :=
  bank.file "commits/by-revision"
    (String.ofList ((toString revision).toList.leftpad 20 '0') ++ ".json")

def canonicalDeltaPath (digest : Sha256Digest) : String :=
  bank.root ++ "/artifacts/deltas/by-sha/" ++ digest.hex ++ ".dvec"

def fresh (root : String) : AdapterBank where
  root := root
  manifests := ∅
  authorizations := ∅
  indexes := ∅
  commits := ∅
  head := none

end AdapterBank

structure CapabilityBundle where
  capabilityId : CapabilityId
  representationClosed : Bool

structure ReceiverModelProfile where
  modelId : ModelId
  checkpointSha256 : Sha256Digest
  architectureId : ArchitectureId
  parameterTopologySha256 : Sha256Digest
  adaptationAbiSha256 : Sha256Digest

/-- What a receipt of an imported axis says; the layout is kept as its text. -/
structure LoraAdapterAxisReceipt where
  baseModelSha256 : Sha256Digest
  parameterLayout : String
  denseDelta : DeltaArtifactRef
  adapterModelSha256 : Sha256Digest
  adapterConfigSha256 : Sha256Digest

structure AdapterImportRequest where
  schema : String
  adapter : AdapterVersion
  capabilityId : CapabilityId
  lineageId : LineageId
  capabilityBundle : Option PrivateFileReference
  receiverProfile : PrivateFileReference
  lora : PrivateFileReference
  expected : AdapterBankExpectation

/-- What an import stores before the manifest is written. -/
structure ImportedLora where
  denseDelta : DeltaArtifactRef
  parameterLayout : ReceiverAdaptationLayoutBinding
  importProvenance : PrivateFileReference
  adapterModel : RetainedAdapterBlob
  adapterConfig : RetainedAdapterBlob

/-- What the rest of the program answers during a call. -/
structure World where
  verify : PrivateFileReference → BrainResult Unit
  capabilityBundle : PrivateFileReference → BrainResult CapabilityBundle
  receiverProfile : PrivateFileReference → BrainResult ReceiverModelProfile
  liveReceiverProfile : PrivateFileReference → BrainResult ReceiverModelProfile
  parameterLayout : ReceiverAdaptationLayoutBinding → BrainResult String
  verifyDvec : DeltaArtifactRef → BrainResult Unit
  combineDvec : List (DeltaArtifactRef × F64) → BrainResult DeltaArtifactRef
  importProvenance : PrivateFileReference → BrainResult LoraAdapterAxisReceipt
  retainedBlob : RetainedAdapterBlob → String → String → BrainResult Unit
  importLora : AdapterImportRequest → BrainResult ImportedLora
  governanceEvidence : AdapterPromotionEvidence → BrainResult Unit
  candidateMaterialization :
    PrivateFileReference → BrainResult AdapterCandidateMaterialization
  promotionWitnesses : Sha256Digest → AdapterPromotionEvidence → BrainResult Unit

/-! ## Immutable files -/

section

variable [Platform] {K α : Type} [Ord K] [Std.TransOrd K]

/-- Store a record under a name, or accept the file that has its digest. -/
def writeOrVerify (bytes : α → ByteArray) (files : BTreeMap K α) (k : K) (a : α) :
    BrainResult (BTreeMap K α) :=
  match files[k]? with
  | none => .ok (files.insert k a)
  | some existing => do
    failIf (digestBytes (bytes existing) ≠ digestBytes (bytes a))
      (integrity "private_file_immutable_content_mismatch")
    return files

def readVerified (bytes : α → ByteArray) (files : BTreeMap Sha256Digest α)
    (digest : Sha256Digest) : BrainResult α := do
  let a ← okOr files[digest]? (.io .notFound)
  failIf (digestBytes (bytes a) ≠ digest)
    (integrity "private_file_reference_digest_mismatch")
  return a

def readVerifiedBounded (bytes : α → ByteArray) (files : BTreeMap Sha256Digest α)
    (digest : Sha256Digest) : BrainResult α := do
  let a ← readVerified bytes files digest
  failIf ((bytes a).size > maxBankJsonBytes) (invalid "private_file_read_limit_exceeded")
  return a

def sortBy {β : Type} [Ord β] (key : α → β) (xs : List α) : List α :=
  xs.insertionSort fun a b => (compare (key a) (key b)).isLE = true

end

/-! ## Manifests -/

def validateReason (reason : String) : BrainResult Unit :=
  failIf (reason.toList = [] ∨ reason.utf8ByteSize > maxReasonBytes ∨
    reason.toList.head?.any isWhitespace = true ∨
    reason.toList.getLast?.any isWhitespace = true ∨ reason.toList.any isControl = true)
    (invalid "adapter_lifecycle_reason_invalid")

def coefficientBitsHex (x : F64) : String := String.ofList (hexText 16 x.bits)

def validateCoefficient (x : F64) : BrainResult Unit :=
  failIf (x.isFinite = false ∨ x.isZero = true) (invalid "adapter_composition_coefficient_invalid")

section

variable [Platform] [FractionText] (w : World)

def authenticateBoundCapabilityBundle (reference : Option PrivateFileReference)
    (expectedCapability : CapabilityId) : BrainResult (Option CapabilityBundle) :=
  match reference with
  | none => .ok none
  | some reference => do
    let bundle ← w.capabilityBundle reference
    failIf (bundle.capabilityId ≠ expectedCapability)
      (integrity "adapter_capability_bundle_binding_mismatch")
    return some bundle

/-- A version is below what the loop has seen last. -/
def Unordered {K : Type} [Ord K] (prior : Option K) (next : K) : Prop :=
  ∃ p, prior = some p ∧ (compare next p).isLE = true

instance {K : Type} [Ord K] (prior : Option K) (next : K) : Decidable (Unordered prior next) :=
  match prior with
  | none => isFalse (by rintro ⟨p, hp, -⟩; cases hp)
  | some p => decidable_of_iff ((compare next p).isLE = true)
      ⟨fun h => ⟨p, rfl, h⟩, fun ⟨_, hq, h⟩ => Option.some.inj hq ▸ h⟩

/-- One term of a composition, after the terms that are done, the latest first. -/
def checkTerm (parent : PrivateFileReference → BrainResult AdapterManifest)
    (manifest : AdapterManifest) (done : List (AdapterCompositionTerm × DeltaArtifactRef))
    (term : AdapterCompositionTerm) :
    BrainResult (List (AdapterCompositionTerm × DeltaArtifactRef)) := do
  term.adapter.validate
  validateCoefficient term.coefficient
  failIf (term.coefficientBitsHex ≠ coefficientBitsHex term.coefficient ∨
    term.adapter ∈ done.map (fun d => d.1.adapter) ∨
    Unordered (done.head?.map fun d => d.1.manifest.sha256) term.manifest.sha256)
    (invalid "adapter_manifest_composition_term_invalid")
  let parent ← parent term.manifest
  failIf (parent.adapter ≠ term.adapter ∨ parent.receiverModel ≠ manifest.receiverModel ∨
    parent.receiverProfile ≠ manifest.receiverProfile ∨
    parent.architectureId ≠ manifest.architectureId ∨
    parent.parameterTopologySha256 ≠ manifest.parameterTopologySha256 ∨
    parent.adaptationAbiSha256 ≠ manifest.adaptationAbiSha256 ∨
    parent.parameterLayout ≠ manifest.parameterLayout)
    (integrity "adapter_manifest_composition_parent_mismatch")
  return (term, parent.denseDelta) :: done

def validateSource (parent : PrivateFileReference → BrainResult AdapterManifest)
    (manifest : AdapterManifest) (layout : String) : BrainResult Unit :=
  match manifest.source with
  | .importedPeftLora importProvenance adapterModel adapterConfig => do
    let receipt ← w.importProvenance importProvenance
    w.retainedBlob adapterModel "safetensors" "application/x-safetensors"
    w.retainedBlob adapterConfig "json" "application/json"
    failIf (receipt.baseModelSha256 ≠ manifest.receiverModel.modelSha256 ∨
      receipt.parameterLayout ≠ layout ∨ receipt.denseDelta ≠ manifest.denseDelta ∨
      receipt.adapterModelSha256 ≠ adapterModel.artifact.sha256 ∨
      receipt.adapterConfigSha256 ≠ adapterConfig.artifact.sha256)
      (integrity "adapter_manifest_import_binding_mismatch")
  | .exactDenseComposition arithmetic terms rankTruncationUsed factorRefactorizationUsed => do
    failIf (arithmetic ≠ exactCompositionArithmetic ∨ rankTruncationUsed = true ∨
      factorRefactorizationUsed = true ∨ terms.length < 2 ∨ terms.length > maxCompositionTerms)
      (invalid "adapter_manifest_composition_invalid")
    let done ← terms.foldlM (checkTerm parent manifest) []
    let derived ← w.combineDvec (done.reverse.map fun d => (d.2, d.1.coefficient))
    failIf (derived ≠ manifest.denseDelta)
      (integrity "adapter_manifest_composition_delta_mismatch")

def validateManifestContract (bank : AdapterBank)
    (parent : PrivateFileReference → BrainResult AdapterManifest) (manifest : AdapterManifest) :
    BrainResult Unit := do
  manifest.adapter.validate
  failIf (manifest.schema ≠ adapterManifestSchema ∨ manifest.lineageId.isUnassigned = true ∨
    manifest.candidateOnly = false ∨ manifest.authorizesPromotion = true ∨
    manifest.denseDelta.parameterCount ≠ manifest.parameterLayout.totalParameterCount ∨
    manifest.denseDelta.path ≠ bank.canonicalDeltaPath manifest.denseDelta.sha256)
    (invalid "adapter_manifest_contract_invalid")
  let _ ← authenticateBoundCapabilityBundle w manifest.capabilityBundle manifest.capabilityId
  let profile ← w.receiverProfile manifest.receiverProfile
  failIf (manifest.receiverModel.modelId ≠ profile.modelId ∨
    manifest.receiverModel.modelSha256 ≠ profile.checkpointSha256 ∨
    manifest.architectureId ≠ profile.architectureId ∨
    manifest.parameterTopologySha256 ≠ profile.parameterTopologySha256 ∨
    manifest.adaptationAbiSha256 ≠ profile.adaptationAbiSha256)
    (integrity "adapter_manifest_receiver_binding_mismatch")
  let layout ← w.parameterLayout manifest.parameterLayout
  w.verifyDvec manifest.denseDelta
  validateSource w parent manifest layout

def authenticateManifestInner (bank : AdapterBank) :
    Nat → List Sha256Digest → PrivateFileReference → BrainResult AdapterManifest
  | 0, _, _ => .error (integrity "adapter_manifest_dependency_depth_exceeded")
  | depth + 1, stack, reference => do
    failIf (reference.path ≠ bank.manifestPath reference.sha256)
      (integrity "adapter_manifest_path_not_canonical")
    failIf (reference.sha256 ∈ stack) (integrity "adapter_manifest_dependency_cycle")
    let manifest ← readVerifiedBounded AdapterManifest.bytes bank.manifests reference.sha256
    validateManifestContract w bank
      (authenticateManifestInner bank depth (reference.sha256 :: stack)) manifest
    return manifest

def authenticateManifest (bank : AdapterBank) (reference : PrivateFileReference) :
    BrainResult AdapterManifest :=
  authenticateManifestInner w bank (maxManifestDepth + 1) [] reference

def requirePromotableCapabilityBundle (manifest : AdapterManifest) : BrainResult Unit := do
  let reference ← okOr manifest.capabilityBundle
    (invalid "adapter_promotion_capability_bundle_missing")
  let bundle ← authenticateBoundCapabilityBundle w (some reference) manifest.capabilityId
  let bundle ← okOr bundle (integrity "adapter_promotion_capability_bundle_missing")
  failIf (bundle.representationClosed = false)
    (invalid "adapter_promotion_capability_bundle_not_representation_closed")

/-! ## Permits -/

def authenticatePromotionAuthorization (bank : AdapterBank) (reference : PrivateFileReference) :
    BrainResult AdapterPromotionAuthorization := do
  failIf (reference.path ≠ bank.authorizationPath reference.sha256)
    (integrity "adapter_promotion_authorization_path_not_canonical")
  let authorization ← readVerifiedBounded AdapterPromotionAuthorization.bytes bank.authorizations
    reference.sha256
  authorization.decision.validate
  failIf (authorization.schema ≠ adapterPromotionAuthorizationSchema ∨
    authorization.authorizesPromotion = false ∨ authorization.decision.allowed = false)
    (integrity "adapter_promotion_authorization_invalid")
  failIf (authorization.governed = false)
    (integrity "adapter_promotion_authorization_not_governed")
  w.governanceEvidence authorization.evidence
  let materialization ←
    w.candidateMaterialization authorization.evidence.materializationReceipt
  failIf (authorization.issuedAgainstIndex.path ≠
    bank.indexPath authorization.issuedAgainstIndex.sha256)
    (integrity "adapter_promotion_parent_index_not_canonical")
  let _ ← readVerified toVec bank.indexes authorization.issuedAgainstIndex.sha256
  let manifest ← authenticateManifest w bank authorization.manifest
  failIf (authorization.adapter ≠ manifest.adapter ∨
    authorization.capabilityId ≠ manifest.capabilityId ∨
    authorization.receiverModel ≠ manifest.receiverModel ∨
    authorization.receiverProfile ≠ manifest.receiverProfile ∨
    authorization.parameterLayoutSha256 ≠ manifest.parameterLayout.parameterLayoutSha256 ∨
    authorization.denseDeltaSha256 ≠ manifest.denseDelta.sha256)
    (integrity "adapter_promotion_manifest_binding_mismatch")
  requirePromotableCapabilityBundle w manifest
  w.promotionWitnesses authorization.manifest.sha256 authorization.evidence
  failIf (materialization.adapter ≠ authorization.adapter ∨
    materialization.manifest ≠ authorization.manifest ∨
    materialization.capabilityId ≠ authorization.capabilityId ∨
    materialization.receiverProfile ≠ authorization.receiverProfile ∨
    materialization.parameterLayoutSha256 ≠ authorization.parameterLayoutSha256 ∨
    materialization.denseDeltaSha256 ≠ authorization.denseDeltaSha256)
    (integrity "adapter_promotion_materialization_binding_mismatch")
  return authorization

/-! ## Snapshots -/

def emptySnapshot : AdapterIndexSnapshot where
  schema := adapterIndexSchema
  revision := 0
  parent := none
  operation := .empty
  entries := []
  byCapability := []
  byModel := []
  active := []
  revocations := []

def entryFromManifest (manifest : AdapterManifest) (reference : PrivateFileReference) :
    AdapterIndexEntry where
  adapter := manifest.adapter
  capabilityId := manifest.capabilityId
  lineageId := manifest.lineageId
  receiverModel := manifest.receiverModel
  parameterLayoutSha256 := manifest.parameterLayout.parameterLayoutSha256
  manifest := reference

def derivedBuckets (entries : List AdapterIndexEntry) :
    List CapabilityAdapterBucket × List ModelAdapterBucket :=
  ((BTreeMap.groupBy AdapterIndexEntry.capabilityId entries).toList.map
      fun p => ⟨p.1, p.2.map AdapterIndexEntry.adapter⟩,
    (BTreeMap.groupBy AdapterIndexEntry.receiverModel entries).toList.map
      fun p => ⟨p.1, p.2.map AdapterIndexEntry.adapter⟩)

def findEntry (s : AdapterIndexSnapshot) (version : AdapterVersion) : Option AdapterIndexEntry :=
  s.entries.find? fun entry => entry.adapter = version

def findActive (s : AdapterIndexSnapshot) (slot : AdapterActivationSlot) :
    Option ActiveAdapterSelection :=
  s.active.find? fun selection => selection.slot = slot

def Revoked (s : AdapterIndexSnapshot) (version : AdapterVersion) : Prop :=
  version ∈ s.revocations.map AdapterRevocation.adapter

instance (s : AdapterIndexSnapshot) (version : AdapterVersion) : Decidable (Revoked s version) :=
  inferInstanceAs (Decidable (version ∈ _))

def checkEntry (bank : AdapterBank) (done : List (AdapterIndexEntry × AdapterManifest))
    (entry : AdapterIndexEntry) : BrainResult (List (AdapterIndexEntry × AdapterManifest)) := do
  entry.adapter.validate
  failIf (Unordered (done.head?.map fun d => d.1.adapter) entry.adapter ∨
    (entry.lineageId, entry.adapter.generation) ∈
      done.map fun d => (d.1.lineageId, d.1.adapter.generation))
    (integrity "adapter_index_entry_order_or_lineage_invalid")
  let manifest ← authenticateManifest w bank entry.manifest
  failIf (entry.adapter ≠ manifest.adapter ∨ entry.capabilityId ≠ manifest.capabilityId ∨
    entry.lineageId ≠ manifest.lineageId ∨ entry.receiverModel ≠ manifest.receiverModel ∨
    entry.parameterLayoutSha256 ≠ manifest.parameterLayout.parameterLayoutSha256)
    (integrity "adapter_index_manifest_binding_mismatch")
  return (entry, manifest) :: done

def checkRevocation (s : AdapterIndexSnapshot) (done : List AdapterRevocation)
    (revocation : AdapterRevocation) : BrainResult (List AdapterRevocation) := do
  validateReason revocation.reason
  failIf (revocation.revokedAtRevision = 0 ∨ revocation.revokedAtRevision > s.revision ∨
    Unordered (done.head?.map AdapterRevocation.adapter) revocation.adapter ∨
    revocation.adapter ∈ done.map AdapterRevocation.adapter)
    (integrity "adapter_revocation_order_invalid")
  let entry ← okOr (findEntry s revocation.adapter)
    (integrity "adapter_revocation_target_missing")
  failIf (entry.manifest.sha256 ≠ revocation.manifestSha256)
    (integrity "adapter_revocation_manifest_mismatch")
  match revocation.evidence with
  | none => pure ()
  | some evidence => w.verify evidence
  return revocation :: done

def checkSelection (bank : AdapterBank) (s : AdapterIndexSnapshot)
    (manifests : List (AdapterIndexEntry × AdapterManifest))
    (priorSlot : Option AdapterActivationSlot) (selection : ActiveAdapterSelection) :
    BrainResult (Option AdapterActivationSlot) := do
  failIf (selection.activatedAtRevision = 0 ∨ selection.activatedAtRevision > s.revision ∨
    Unordered priorSlot selection.slot ∨ Revoked s selection.adapter ∨
    selection.executionBinding.activationEpoch ≠ selection.activatedAtRevision)
    (integrity "adapter_active_selection_invalid")
  let (entry, manifest) ← okOr (manifests.find? fun d => d.1.adapter = selection.adapter)
    (integrity "adapter_active_manifest_missing")
  failIf (selection.slot.receiverModel ≠ manifest.receiverModel ∨
    selection.slot.capabilityId ≠ manifest.capabilityId ∨
    selection.executionBinding.baseModelSha256 ≠ manifest.receiverModel.modelSha256 ∨
    selection.executionBinding.adapterDeltaSha256 ≠ manifest.denseDelta.sha256 ∨
    selection.executionBinding.adaptationAbiSha256 ≠ manifest.adaptationAbiSha256 ∨
    selection.manifest ≠ entry.manifest) (integrity "adapter_active_binding_mismatch")
  let authorization ← authenticatePromotionAuthorization w bank selection.authorization
  failIf (authorization.adapter ≠ selection.adapter ∨ authorization.manifest ≠ selection.manifest)
    (integrity "adapter_active_authorization_mismatch")
  return some selection.slot

def validateSnapshotContract (bank : AdapterBank) (s : AdapterIndexSnapshot) :
    BrainResult Unit := do
  failIf (s.schema ≠ adapterIndexSchema) (invalid "adapter_index_schema_invalid")
  if s.revision = 0 then
    failIf (s ≠ emptySnapshot) (integrity "adapter_index_empty_snapshot_invalid")
  else do
    failIf (¬(s.revision = 1 ↔ s.parent = none) ∨ s.operation = .empty)
      (integrity "adapter_index_history_link_invalid")
    let manifests ← s.entries.foldlM (checkEntry w bank) []
    failIf ((s.byCapability, s.byModel) ≠ derivedBuckets s.entries)
      (integrity "adapter_index_projection_mismatch")
    let _ ← s.revocations.foldlM (checkRevocation w s) []
    -- a composition is revoked with any of its terms
    forM manifests.reverse fun d : AdapterIndexEntry × AdapterManifest =>
      failIf ((∃ version ∈ compositionDependencies d.2, Revoked s version) ∧
        ¬Revoked s d.1.adapter) (integrity "adapter_revocation_closure_incomplete")
    let _ ← s.active.foldlM (checkSelection w bank s manifests) none

def authenticateSnapshot (bank : AdapterBank) (reference : PrivateFileReference) :
    BrainResult AdapterIndexSnapshot := do
  failIf (reference.path ≠ bank.indexPath reference.sha256)
    (integrity "adapter_index_path_not_canonical")
  let s ← readVerifiedBounded toVec bank.indexes reference.sha256
  validateSnapshotContract w bank s
  return s

/-! ## The journal -/

def journalRevisions (bank : AdapterBank) : BrainResult (List Nat) := do
  let revisions := bank.commits.keys
  failIf (∃ revision ∈ revisions, revision = 0 ∨ revision > maxHistoryRevisions)
    (integrity "adapter_bank_revision_commit_out_of_range")
  failIf (revisions.length > maxHistoryRevisions)
    (integrity "adapter_bank_revision_journal_too_long")
  failIf (revisions ≠ List.range' 1 revisions.length)
    (integrity "adapter_bank_revision_journal_gap")
  return revisions

def commitReference (bank : AdapterBank) (commit : AdapterBankRevisionCommit) :
    PrivateFileReference where
  path := bank.revisionCommitPath commit.revision
  sha256 := digestBytes (toVec commit)

def checkLinks (bank : AdapterBank) (commit : AdapterBankRevisionCommit) : BrainResult Unit :=
  if commit.revision = 1 then
    failIf (commit.previousCommit ≠ none ∨ commit.previousIndex ≠ none)
      (integrity "adapter_bank_revision_commit_genesis_link_invalid")
  else do
    let previousCommit ← okOr commit.previousCommit
      (integrity "adapter_bank_revision_commit_link_missing")
    let previousIndex ← okOr commit.previousIndex
      (integrity "adapter_bank_revision_index_link_missing")
    failIf (previousCommit.path ≠ bank.revisionCommitPath (commit.revision - 1) ∨
      previousIndex.path ≠ bank.indexPath previousIndex.sha256)
      (integrity "adapter_bank_revision_commit_link_invalid")

def readRevisionCommit (bank : AdapterBank) (revision : Nat) :
    BrainResult (AdapterBankRevisionCommit × PrivateFileReference) := do
  let commit ← okOr bank.commits[revision]? (.io .notFound)
  failIf (commit.schema ≠ adapterBankRevisionCommitSchema ∨ commit.revision ≠ revision ∨
    revision = 0 ∨ revision > maxHistoryRevisions ∨
    commit.index.path ≠ bank.indexPath commit.index.sha256)
    (integrity "adapter_bank_revision_commit_invalid")
  checkLinks bank commit
  let _ ← readVerified toVec bank.indexes commit.index.sha256
  return (commit, commitReference bank commit)

def checkTip (bank : AdapterBank) (tip : AdapterBankRevisionCommit) : BrainResult Unit :=
  if tip.revision > 1 then do
    let (previous, previousReference) ← readRevisionCommit bank (tip.revision - 1)
    failIf (tip.previousCommit ≠ some previousReference ∨
      tip.previousIndex ≠ some previous.index)
      (integrity "adapter_bank_revision_tip_chain_invalid")
  else .ok ()

def authenticateRevisionTip (bank : AdapterBank) :
    BrainResult (Option (AdapterBankRevisionCommit × PrivateFileReference)) := do
  let revisions ← journalRevisions bank
  match revisions.getLast? with
  | none => return none
  | some revision => do
    let (tip, reference) ← readRevisionCommit bank revision
    checkTip bank tip
    return some (tip, reference)

def authenticateHeadCache (bank : AdapterBank) (tip : AdapterBankRevisionCommit) :
    BrainResult Unit :=
  match bank.head with
  | none => .ok ()
  | some head => do
    failIf (head.schema ≠ adapterBankHeadSchema ∨ head.revision = 0 ∨
      head.revision > tip.revision) (integrity "adapter_bank_head_invalid")
    if head.revision = tip.revision then
      failIf (head.index ≠ tip.index) (integrity "adapter_bank_head_commit_mismatch")
    else do
      let (commit, _) ← readRevisionCommit bank head.revision
      failIf (head.index ≠ commit.index) (integrity "adapter_bank_head_commit_mismatch")

/-! ## Transitions -/

def setSlot (active : List ActiveAdapterSelection) (slot : AdapterActivationSlot)
    (selection : ActiveAdapterSelection) : List ActiveAdapterSelection :=
  sortBy ActiveAdapterSelection.slot
    (active.filter (fun candidate => candidate.slot ≠ slot) ++ [selection])

def checkRegistration (bank : AdapterBank) (composed : Bool) (manifest : PrivateFileReference)
    (parent child : AdapterIndexSnapshot) : BrainResult Unit := do
  failIf (child.active ≠ parent.active ∨ child.revocations ≠ parent.revocations)
    (integrity "adapter_bank_registration_mutated_lifecycle")
  let authenticated ← authenticateManifest w bank manifest
  let isComposition := match authenticated.source with
    | .importedPeftLora _ _ _ => false
    | .exactDenseComposition _ _ _ _ => true
  failIf (isComposition ≠ composed) (integrity "adapter_bank_registration_operation_mismatch")
  failIf (child.entries ≠ sortBy AdapterIndexEntry.adapter
      (parent.entries ++ [entryFromManifest authenticated manifest]))
    (integrity "adapter_bank_registration_transition_invalid")

def checkActivation (bank : AdapterBank) (adapter : AdapterVersion)
    (authorization : PrivateFileReference) (parent child : AdapterIndexSnapshot) :
    BrainResult Unit := do
  failIf (child.entries ≠ parent.entries ∨ child.revocations ≠ parent.revocations)
    (integrity "adapter_bank_activation_mutated_registry")
  let entry ← okOr (findEntry child adapter) (integrity "adapter_bank_activation_entry_missing")
  let manifest ← authenticateManifest w bank entry.manifest
  let slot : AdapterActivationSlot := ⟨manifest.receiverModel, manifest.capabilityId⟩
  let selection ← okOr (findActive child slot)
    (integrity "adapter_bank_activation_selection_missing")
  failIf (selection.adapter ≠ adapter ∨ selection.authorization ≠ authorization ∨
    selection.activatedAtRevision ≠ child.revision ∨
    selection.executionBinding.activationEpoch ≠ child.revision)
    (integrity "adapter_bank_activation_transition_invalid")
  failIf (child.active ≠ setSlot parent.active slot selection)
    (integrity "adapter_bank_activation_changed_other_slots")

def checkRevoke (root : AdapterVersion) (affected : List AdapterVersion)
    (parent child : AdapterIndexSnapshot) : BrainResult Unit := do
  failIf (child.entries ≠ parent.entries ∨ affected = [] ∨ root ∉ affected ∨
    ¬affected.IsChain fun a b => compare a b = .lt)
    (integrity "adapter_bank_revocation_transition_invalid")
  failIf (∃ revocation ∈ parent.revocations, revocation ∉ child.revocations)
    (integrity "adapter_bank_revocation_removed_history")
  let added := child.revocations.filter fun revocation => revocation ∉ parent.revocations
  failIf (added.map AdapterRevocation.adapter ≠ affected ∨ ∃ revocation ∈ added,
    revocation.rootCause ≠ root ∨ revocation.revokedAtRevision ≠ child.revision)
    (integrity "adapter_bank_revocation_delta_invalid")
  failIf (child.active ≠ parent.active.filter fun selection => selection.adapter ∉ affected)
    (integrity "adapter_bank_revocation_active_delta_invalid")

def checkRollback (bank : AdapterBank) (slot : AdapterActivationSlot) (targetRevision : Nat)
    (source target : Option AdapterVersion) (authorization : Option PrivateFileReference)
    (parent child : AdapterIndexSnapshot) : BrainResult Unit := do
  failIf (child.entries ≠ parent.entries ∨ child.revocations ≠ parent.revocations ∨
    targetRevision = 0 ∨ targetRevision ≥ parent.revision)
    (integrity "adapter_bank_rollback_transition_invalid")
  failIf ((findActive parent slot).map ActiveAdapterSelection.adapter ≠ source)
    (integrity "adapter_bank_rollback_from_mismatch")
  let (targetCommit, _) ← readRevisionCommit bank targetRevision
  let earlier ← authenticateSnapshot w bank targetCommit.index
  failIf ((findActive earlier slot).map ActiveAdapterSelection.adapter ≠ target)
    (integrity "adapter_bank_rollback_target_mismatch")
  match target with
  | some adapter => do
    let permit ← okOr authorization (integrity "adapter_bank_rollback_authorization_missing")
    let selection ← okOr (findActive child slot)
      (integrity "adapter_bank_rollback_selection_missing")
    failIf (selection.adapter ≠ adapter ∨ selection.authorization ≠ permit ∨
      selection.activatedAtRevision ≠ child.revision ∨
      selection.executionBinding.activationEpoch ≠ child.revision)
      (integrity "adapter_bank_rollback_selection_invalid")
    failIf (child.active ≠ setSlot parent.active slot selection)
      (integrity "adapter_bank_rollback_changed_other_slots")
  | none => do
    failIf (authorization ≠ none)
      (integrity "adapter_bank_rollback_deactivation_has_authorization")
    failIf (child.active ≠ parent.active.filter fun selection => selection.slot ≠ slot)
      (integrity "adapter_bank_rollback_changed_other_slots")

def validateSnapshotTransition (bank : AdapterBank) (parentReference : Option PrivateFileReference)
    (parent child : AdapterIndexSnapshot) : BrainResult Unit := do
  failIf (child.revision ≠ parent.revision + 1 ∨ child.parent ≠ parentReference)
    (integrity "adapter_bank_transition_link_invalid")
  match child.operation with
  | .empty => .error (integrity "adapter_bank_transition_empty_operation")
  | .register manifest => checkRegistration w bank false manifest parent child
  | .compose manifest => checkRegistration w bank true manifest parent child
  | .activate adapter authorization => checkActivation w bank adapter authorization parent child
  | .revoke root affected => checkRevoke root affected parent child
  | .rollback slot targetRevision source target authorization _ _ =>
    checkRollback w bank slot targetRevision source target authorization parent child

def parentSnapshot (bank : AdapterBank) (reference : Option PrivateFileReference) :
    BrainResult AdapterIndexSnapshot :=
  match reference with
  | some reference => authenticateSnapshot w bank reference
  | none => .ok emptySnapshot

def current (bank : AdapterBank) :
    BrainResult (AdapterIndexSnapshot × Option PrivateFileReference) := do
  match ← authenticateRevisionTip bank with
  | none => do
    failIf (bank.head.isSome = true) (integrity "adapter_bank_head_without_revision_journal")
    return (emptySnapshot, none)
  | some (tip, _) => do
    authenticateHeadCache bank tip
    let snapshot ← authenticateSnapshot w bank tip.index
    failIf (snapshot.revision ≠ tip.revision ∨ snapshot.parent ≠ tip.previousIndex)
      (integrity "adapter_bank_revision_tip_mismatch")
    let parent ← parentSnapshot w bank tip.previousIndex
    validateSnapshotTransition w bank tip.previousIndex parent snapshot
    return (snapshot, some tip.index)

def checkExpectation (expected : AdapterBankExpectation) (snapshot : AdapterIndexSnapshot)
    (reference : Option PrivateFileReference) : BrainResult Unit :=
  failIf (expected.revision ≠ snapshot.revision ∨
    expected.indexSha256 ≠ reference.map PrivateFileReference.sha256)
    (integrity "adapter_bank_compare_and_swap_mismatch")

/-! ## Publication -/

def persistSnapshot (snapshot : AdapterIndexSnapshot) :
    Durable AdapterBank BrainError PrivateFileReference := do
  read fun bank => validateSnapshotContract w bank snapshot
  let digest := digestBytes (toVec snapshot)
  let reference ← write fun bank => do
    let indexes ← writeOrVerify toVec bank.indexes digest snapshot
    return ({ bank with indexes := indexes }, ⟨bank.indexPath digest, digest⟩)
  let replay ← read fun bank => authenticateSnapshot w bank reference
  failIf (replay ≠ snapshot) (integrity "adapter_index_roundtrip_mismatch")
  return reference

def persistRevisionCommit (commit : AdapterBankRevisionCommit) :
    Durable AdapterBank BrainError PrivateFileReference := do
  let reference ← write fun bank => do
    let commits ← writeOrVerify toVec bank.commits commit.revision commit
    return ({ bank with commits := commits }, commitReference bank commit)
  let replay ← read fun bank => readRevisionCommit bank commit.revision
  failIf (replay ≠ (commit, reference))
    (integrity "adapter_bank_revision_commit_roundtrip_mismatch")
  return reference

def nextLink (tip : Option (AdapterBankRevisionCommit × PrivateFileReference)) :
    Nat × Option PrivateFileReference × Option PrivateFileReference :=
  match tip with
  | some (commit, reference) => (commit.revision + 1, some reference, some commit.index)
  | none => (1, none, none)

def publishSnapshot (snapshot : AdapterIndexSnapshot) :
    Durable AdapterBank BrainError PrivateFileReference := do
  failIf (snapshot.revision = 0 ∨ snapshot.revision > maxHistoryRevisions)
    (invalid "adapter_bank_history_revision_limit")
  let tip ← read authenticateRevisionTip
  let (expectedRevision, previousCommit, previousIndex) := nextLink tip
  failIf (snapshot.revision ≠ expectedRevision ∨ snapshot.parent ≠ previousIndex)
    (integrity "adapter_bank_revision_publish_conflict")
  let parent ← read fun bank => parentSnapshot w bank previousIndex
  read fun bank => validateSnapshotTransition w bank previousIndex parent snapshot
  let reference ← persistSnapshot w snapshot
  let _ ← persistRevisionCommit {
    schema := adapterBankRevisionCommitSchema
    revision := snapshot.revision
    index := reference
    previousCommit := previousCommit
    previousIndex := previousIndex }
  write fun bank =>
    .ok ({ bank with head := some ⟨adapterBankHeadSchema, snapshot.revision, reference⟩ }, ())
  let reopened ← read (current w)
  failIf (reopened ≠ (snapshot, some reference))
    (integrity "adapter_bank_publish_roundtrip_mismatch")
  return reference

/-- What an operation proposes under the lock. -/
inductive Proposal where
  | unchanged (manifest : Option PrivateFileReference)
  | publish (snapshot : AdapterIndexSnapshot) (manifest : Option PrivateFileReference)

def underLock (propose : AdapterBank → AdapterIndexSnapshot → Option PrivateFileReference →
    BrainResult Proposal) : Durable AdapterBank BrainError AdapterBankCommit := do
  let (snapshot, reference) ← read (current w)
  match ← read fun bank => propose bank snapshot reference with
  | .unchanged manifest => do
    let index ← okOr reference (integrity "adapter_bank_current_reference_missing")
    return {
      revision := snapshot.revision
      index := index
      operation := snapshot.operation
      manifest := manifest
      idempotent := true }
  | .publish next manifest => do
    let index ← publishSnapshot w next
    return {
      revision := next.revision
      index := index
      operation := next.operation
      manifest := manifest
      idempotent := false }

end

end Tidex.Bank
