/-
  Governance.AdapterOperations — registering, activating, revoking, going back.

  Each operation proposes the next snapshot under the lock, or finds that what it asks for
  is done and leaves the bank as it is.
-/
import Tidex.Governance.AdapterBank
import Tidex.Lib.Closure

namespace Tidex.Bank

open Tidex.Lib Sha256Digest Durable

section

variable [Platform] [FractionText] (w : World)

/-! ## Registration -/

def registered (snapshot : AdapterIndexSnapshot) (reference : Option PrivateFileReference)
    (manifest : AdapterManifest) (manifestReference : PrivateFileReference) (composed : Bool) :
    AdapterIndexSnapshot :=
  let entries := sortBy AdapterIndexEntry.adapter
    (snapshot.entries ++ [entryFromManifest manifest manifestReference])
  { snapshot with
    revision := snapshot.revision + 1
    parent := reference
    operation := if composed then .compose manifestReference else .register manifestReference
    entries := entries
    byCapability := (derivedBuckets entries).1
    byModel := (derivedBuckets entries).2 }

def previousGeneration (snapshot : AdapterIndexSnapshot) (adapterId : PatchId) :
    Option AdapterIndexEntry :=
  (snapshot.entries.filter fun entry => entry.adapter.adapterId = adapterId).foldl
    (fun best entry =>
      if best.all fun b => b.adapter.generation ≤ entry.adapter.generation then some entry
      else best) none

def checkGeneration (snapshot : AdapterIndexSnapshot) (manifest : AdapterManifest) :
    BrainResult Unit :=
  match previousGeneration snapshot manifest.adapter.adapterId with
  | none =>
    failIf (manifest.adapter.generation ≠ 1) (invalid "adapter_first_generation_must_be_one")
  | some previous =>
    failIf (manifest.adapter.generation ≠ previous.adapter.generation + 1 ∨
      previous.capabilityId ≠ manifest.capabilityId ∨ previous.lineageId ≠ manifest.lineageId ∨
      previous.receiverModel ≠ manifest.receiverModel)
      (invalid "adapter_generation_lineage_invalid")

/-- Two adapters of one slot and one layout do the same. -/
def operationalDuplicate (bank : AdapterBank) (manifest : AdapterManifest)
    (entry : AdapterIndexEntry) : Bool :=
  entry.capabilityId = manifest.capabilityId && entry.receiverModel = manifest.receiverModel
    && entry.parameterLayoutSha256 = manifest.parameterLayout.parameterLayoutSha256
    && match authenticateManifest w bank entry.manifest with
      | .ok other => other.denseDelta = manifest.denseDelta
      | .error _ => false

def proposeRegistration (manifest : AdapterManifest) (manifestReference : PrivateFileReference)
    (expected : AdapterBankExpectation) (composed : Bool) (bank : AdapterBank)
    (snapshot : AdapterIndexSnapshot) (reference : Option PrivateFileReference) :
    BrainResult Proposal :=
  match findEntry snapshot manifest.adapter with
  | some existing =>
    if existing.manifest = manifestReference then .ok (.unchanged (some manifestReference))
    else .error (integrity "adapter_version_conflict")
  | none => do
    checkExpectation expected snapshot reference
    checkGeneration snapshot manifest
    failIf (∃ entry ∈ snapshot.entries, entry.lineageId = manifest.lineageId ∧
      entry.adapter.generation = manifest.adapter.generation)
      (integrity "adapter_lineage_generation_conflict")
    failIf (snapshot.entries.any (operationalDuplicate w bank manifest) = true)
      (integrity "adapter_operational_duplicate")
    return .publish (registered snapshot reference manifest manifestReference composed)
      (some manifestReference)

/-- A manifest that is stored, with what its registration expects. -/
structure Registration where
  manifest : AdapterManifest
  reference : PrivateFileReference
  expected : AdapterBankExpectation
  composed : Bool

def commitRegistration (registration : Registration) :
    Durable AdapterBank BrainError AdapterBankCommit :=
  underLock w (proposeRegistration w registration.manifest registration.reference
    registration.expected registration.composed)

def persistManifest (manifest : AdapterManifest) :
    Durable AdapterBank BrainError PrivateFileReference := do
  read fun bank =>
    validateManifestContract w bank (authenticateManifestInner w bank maxManifestDepth []) manifest
  let digest := digestBytes manifest.bytes
  let reference ← write fun bank => do
    let manifests ← writeOrVerify AdapterManifest.bytes bank.manifests digest manifest
    return ({ bank with manifests := manifests }, ⟨bank.manifestPath digest, digest⟩)
  let authenticated ← read fun bank => authenticateManifest w bank reference
  failIf (authenticated ≠ manifest) (integrity "adapter_manifest_roundtrip_mismatch")
  return reference

structure AdapterCompositionInputTerm where
  adapter : AdapterVersion
  coefficient : F64

structure AdapterCompositionRequest where
  schema : String
  adapter : AdapterVersion
  capabilityId : CapabilityId
  lineageId : LineageId
  capabilityBundle : Option PrivateFileReference
  terms : List AdapterCompositionInputTerm
  expected : AdapterBankExpectation

def prepareImport (request : AdapterImportRequest) :
    Durable AdapterBank BrainError Registration := do
  failIf (request.schema ≠ "tidex.adapter_import_request/v1" ∨
    request.lineageId.isUnassigned = true) (invalid "adapter_import_request_invalid")
  request.adapter.validate
  let _ ← authenticateBoundCapabilityBundle w request.capabilityBundle request.capabilityId
  let profile ← w.liveReceiverProfile request.receiverProfile
  let imported ← w.importLora request
  let manifest : AdapterManifest := {
    schema := adapterManifestSchema
    adapter := request.adapter
    capabilityId := request.capabilityId
    lineageId := request.lineageId
    capabilityBundle := request.capabilityBundle
    receiverModel := ⟨profile.modelId, profile.checkpointSha256⟩
    architectureId := profile.architectureId
    receiverProfile := request.receiverProfile
    parameterTopologySha256 := profile.parameterTopologySha256
    adaptationAbiSha256 := profile.adaptationAbiSha256
    parameterLayout := imported.parameterLayout
    denseDelta := imported.denseDelta
    source := .importedPeftLora imported.importProvenance imported.adapterModel
      imported.adapterConfig
    candidateOnly := true
    authorizesPromotion := false }
  let reference ← persistManifest w manifest
  return ⟨manifest, reference, request.expected, false⟩

def resolveTerm (bank : AdapterBank) (snapshot : AdapterIndexSnapshot)
    (done : List (AdapterCompositionTerm × AdapterManifest))
    (input : AdapterCompositionInputTerm) :
    BrainResult (List (AdapterCompositionTerm × AdapterManifest)) := do
  input.adapter.validate
  validateCoefficient input.coefficient
  failIf (input.adapter ∈ done.map (fun d => d.1.adapter) ∨ Revoked snapshot input.adapter)
    (invalid "adapter_composition_source_invalid")
  let entry ← okOr (findEntry snapshot input.adapter)
    (invalid "adapter_composition_source_missing")
  let manifest ← authenticateManifest w bank entry.manifest
  return done ++ [(⟨input.adapter, entry.manifest, input.coefficient,
    coefficientBitsHex input.coefficient⟩, manifest)]

/-- The terms of a request in the order of their manifests. -/
def resolveTerms (bank : AdapterBank) (snapshot : AdapterIndexSnapshot)
    (inputs : List AdapterCompositionInputTerm) :
    BrainResult (List (AdapterCompositionTerm × AdapterManifest)) := do
  let done ← inputs.foldlM (resolveTerm w bank snapshot) []
  let terms := sortBy (fun d => d.1.manifest.sha256) done
  failIf (¬(terms.map fun d => d.1.manifest.sha256).IsChain fun a b => a ≠ b)
    (invalid "adapter_composition_source_duplicate")
  return terms

/-- What every term of a composition has in common. -/
def sameReceiver (first manifest : AdapterManifest) : Bool :=
  manifest.receiverModel = first.receiverModel && manifest.receiverProfile = first.receiverProfile
    && manifest.architectureId = first.architectureId
    && manifest.parameterTopologySha256 = first.parameterTopologySha256
    && manifest.adaptationAbiSha256 = first.adaptationAbiSha256
    && manifest.parameterLayout = first.parameterLayout

def composedManifest (request : AdapterCompositionRequest)
    (terms : List (AdapterCompositionTerm × AdapterManifest)) (first : AdapterManifest)
    (denseDelta : DeltaArtifactRef) : AdapterManifest where
  schema := adapterManifestSchema
  adapter := request.adapter
  capabilityId := request.capabilityId
  lineageId := request.lineageId
  capabilityBundle := request.capabilityBundle
  receiverModel := first.receiverModel
  architectureId := first.architectureId
  receiverProfile := first.receiverProfile
  parameterTopologySha256 := first.parameterTopologySha256
  adaptationAbiSha256 := first.adaptationAbiSha256
  parameterLayout := first.parameterLayout
  denseDelta := denseDelta
  source := .exactDenseComposition exactCompositionArithmetic (terms.map Prod.fst) false false
  candidateOnly := true
  authorizesPromotion := false

/-- Derive a composition from the bank as it is found, and store its manifest. -/
def prepareComposition (request : AdapterCompositionRequest) :
    Durable AdapterBank BrainError Registration := do
  failIf (request.schema ≠ "tidex.adapter_composition_request/v1" ∨
    request.lineageId.isUnassigned = true ∨ request.terms.length < 2 ∨
    request.terms.length > maxCompositionTerms) (invalid "adapter_composition_request_invalid")
  request.adapter.validate
  let _ ← authenticateBoundCapabilityBundle w request.capabilityBundle request.capabilityId
  -- this read is not under the lock
  let (snapshot, _) ← read (current w)
  let terms ← read fun bank => resolveTerms w bank snapshot request.terms
  let first ← okOr (terms.head?.map Prod.snd) (invalid "adapter_composition_request_invalid")
  failIf (terms.any (fun d => !sameReceiver first d.2) = true)
    (invalid "adapter_composition_compatibility_mismatch")
  let _ ← w.liveReceiverProfile first.receiverProfile
  let denseDelta ← w.combineDvec (terms.map fun d => (d.2.denseDelta, d.1.coefficient))
  let manifest := composedManifest request terms first denseDelta
  let reference ← persistManifest w manifest
  return ⟨manifest, reference, request.expected, true⟩

/-! ## Permits and activation -/

structure AdapterGovernedPromotionRequest where
  evidence : AdapterPromotionEvidence
  expected : AdapterBankExpectation

/-- The verdict that every permit carries. -/
def governedDecision : PromotionDecision where
  allowed := true
  reasons := []
  metrics := ["candidate_gate_authenticated", "canary_authenticated",
    "candidate_materialization_authenticated", "petfc_authenticated",
    "representation_closed"].map fun name => (name, F64.ofNat 1)

/-- The permit for a materialized candidate, against the current index. -/
def issuePermit (request : AdapterGovernedPromotionRequest) (bank : AdapterBank) :
    BrainResult AdapterPromotionAuthorization := do
  let (snapshot, reference) ← current w bank
  checkExpectation request.expected snapshot reference
  let issuedAgainstIndex ← okOr reference (invalid "adapter_promotion_requires_registered_index")
  let materialization ← w.candidateMaterialization request.evidence.materializationReceipt
  let entry ← okOr (findEntry snapshot materialization.adapter)
    (invalid "adapter_promotion_target_missing")
  failIf (entry.manifest ≠ materialization.manifest ∨ Revoked snapshot materialization.adapter)
    (integrity "adapter_promotion_current_state_mismatch")
  let manifest ← authenticateManifest w bank entry.manifest
  let _ ← w.liveReceiverProfile manifest.receiverProfile
  requirePromotableCapabilityBundle w manifest
  w.promotionWitnesses entry.manifest.sha256 request.evidence
  return {
    schema := adapterPromotionAuthorizationSchema
    governed := true
    adapter := manifest.adapter
    manifest := entry.manifest
    capabilityId := manifest.capabilityId
    receiverModel := manifest.receiverModel
    receiverProfile := manifest.receiverProfile
    parameterLayoutSha256 := manifest.parameterLayout.parameterLayoutSha256
    denseDeltaSha256 := manifest.denseDelta.sha256
    issuedAgainstIndex := issuedAgainstIndex
    evidence := request.evidence
    decision := governedDecision
    authorizesPromotion := true }

def authorizeGovernedPromotion (request : AdapterGovernedPromotionRequest) :
    Durable AdapterBank BrainError PrivateFileReference := do
  let authorization ← read (issuePermit w request)
  authorization.decision.validate
  let digest := digestBytes authorization.bytes
  let reference ← write fun bank => do
    let authorizations ←
      writeOrVerify AdapterPromotionAuthorization.bytes bank.authorizations digest authorization
    return ({ bank with authorizations := authorizations },
      (⟨bank.authorizationPath digest, digest⟩ : PrivateFileReference))
  let _ ← read fun bank => authenticatePromotionAuthorization w bank reference
  return reference

structure AdapterActivationRequest where
  schema : String
  adapter : AdapterVersion
  authorization : PrivateFileReference
  expected : AdapterBankExpectation

def activated (snapshot : AdapterIndexSnapshot) (reference : Option PrivateFileReference)
    (entry : AdapterIndexEntry) (manifest : AdapterManifest) (authorization : PrivateFileReference) :
    AdapterIndexSnapshot :=
  let slot : AdapterActivationSlot := ⟨manifest.receiverModel, manifest.capabilityId⟩
  { snapshot with
    active := setSlot snapshot.active slot {
      slot := slot
      adapter := entry.adapter
      manifest := entry.manifest
      authorization := authorization
      executionBinding := {
        baseModelSha256 := manifest.receiverModel.modelSha256
        adapterDeltaSha256 := manifest.denseDelta.sha256
        activationEpoch := snapshot.revision + 1
        adaptationAbiSha256 := manifest.adaptationAbiSha256 }
      activatedAtRevision := snapshot.revision + 1 }
    revision := snapshot.revision + 1
    parent := reference
    operation := .activate entry.adapter authorization }

def checkPermit (bank : AdapterBank) (authorization : PrivateFileReference)
    (adapter : AdapterVersion) (manifest index : PrivateFileReference) (code : String) :
    BrainResult Unit := do
  let permit ← authenticatePromotionAuthorization w bank authorization
  failIf (permit.adapter ≠ adapter ∨ permit.manifest ≠ manifest ∨
    permit.issuedAgainstIndex ≠ index) (integrity code)

def proposeActivation (request : AdapterActivationRequest) (bank : AdapterBank)
    (snapshot : AdapterIndexSnapshot) (reference : Option PrivateFileReference) :
    BrainResult Proposal :=
  match snapshot.active.find? fun selection => selection.adapter = request.adapter with
  | some selection =>
    if selection.authorization = request.authorization then
      .ok (.unchanged (some selection.manifest))
    else activate
  | none => activate
where
  activate : BrainResult Proposal := do
    checkExpectation request.expected snapshot reference
    let index ← okOr reference (invalid "adapter_activation_requires_registered_index")
    failIf (Revoked snapshot request.adapter) (invalid "adapter_activation_target_revoked")
    let entry ← okOr (findEntry snapshot request.adapter)
      (invalid "adapter_activation_target_missing")
    let manifest ← authenticateManifest w bank entry.manifest
    let _ ← w.liveReceiverProfile manifest.receiverProfile
    checkPermit w bank request.authorization request.adapter entry.manifest index
      "adapter_activation_authorization_mismatch"
    return .publish (activated snapshot reference entry manifest request.authorization)
      (some entry.manifest)

def activate (request : AdapterActivationRequest) :
    Durable AdapterBank BrainError AdapterBankCommit := do
  failIf (request.schema ≠ "tidex.adapter_activation_request/v1")
    (invalid "adapter_activation_request_invalid")
  request.adapter.validate
  underLock w (proposeActivation w request)

/-! ## Revocation -/

structure AdapterRevocationRequest where
  schema : String
  adapter : AdapterVersion
  reason : String
  evidence : Option PrivateFileReference
  expected : AdapterBankExpectation

def affectedBy (manifests : List (AdapterVersion × AdapterManifest)) (root : AdapterVersion) :
    BTreeSet AdapterVersion :=
  close (manifests.map fun d => (d.1, compositionDependencies d.2))
    ((∅ : BTreeSet AdapterVersion).insert root)

def revocationOf (snapshot : AdapterIndexSnapshot) (request : AdapterRevocationRequest)
    (version : AdapterVersion) : BrainResult AdapterRevocation := do
  let entry ← okOr (findEntry snapshot version)
    (integrity "adapter_revocation_closure_target_missing")
  return {
    adapter := version
    manifestSha256 := entry.manifest.sha256
    revokedAtRevision := snapshot.revision + 1
    rootCause := request.adapter
    reason := request.reason
    evidence := request.evidence }

def revoked (snapshot : AdapterIndexSnapshot) (reference : Option PrivateFileReference)
    (request : AdapterRevocationRequest) (affected : BTreeSet AdapterVersion)
    (added : List AdapterRevocation) : AdapterIndexSnapshot :=
  { snapshot with
    revocations := sortBy AdapterRevocation.adapter (snapshot.revocations ++ added)
    active := snapshot.active.filter fun selection => selection.adapter ∉ affected
    revision := snapshot.revision + 1
    parent := reference
    operation := .revoke request.adapter affected.toList }

def proposeRevocation (request : AdapterRevocationRequest) (bank : AdapterBank)
    (snapshot : AdapterIndexSnapshot) (reference : Option PrivateFileReference) :
    BrainResult Proposal := do
  let manifest := (findEntry snapshot request.adapter).map AdapterIndexEntry.manifest
  if Revoked snapshot request.adapter then return .unchanged manifest
  else do
    checkExpectation request.expected snapshot reference
    failIf (findEntry snapshot request.adapter = none)
      (invalid "adapter_revocation_target_missing")
    let manifests ← snapshot.entries.mapM fun entry => do
      let manifest ← authenticateManifest w bank entry.manifest
      return (entry.adapter, manifest)
    let affected := affectedBy manifests request.adapter
    let added ← (affected.toList.filter fun version => ¬Revoked snapshot version).mapM
      (revocationOf snapshot request)
    return .publish (revoked snapshot reference request affected added) manifest

def checkCause (reason : String) (evidence : Option PrivateFileReference) : BrainResult Unit := do
  validateReason reason
  match evidence with
  | none => pure ()
  | some evidence => w.verify evidence

def revoke (request : AdapterRevocationRequest) :
    Durable AdapterBank BrainError AdapterBankCommit := do
  failIf (request.schema ≠ "tidex.adapter_revocation_request/v1")
    (invalid "adapter_revocation_request_invalid")
  request.adapter.validate
  checkCause w request.reason request.evidence
  underLock w (proposeRevocation w request)

/-! ## Rollback -/

structure AdapterRollbackRequest where
  schema : String
  receiverModel : ReceiverModelKey
  capabilityId : CapabilityId
  targetRevision : Nat
  reason : String
  evidence : Option PrivateFileReference
  authorization : Option PrivateFileReference
  expected : AdapterBankExpectation

def snapshotAtRevision (bank : AdapterBank) (target : Nat) :
    Nat → List Sha256Digest → PrivateFileReference → BrainResult AdapterIndexSnapshot
  | 0, _, _ => .error (integrity "adapter_bank_history_limit_exceeded")
  | steps + 1, visited, reference => do
    failIf (reference.sha256 ∈ visited) (integrity "adapter_bank_history_cycle")
    let snapshot ← authenticateSnapshot w bank reference
    if snapshot.revision = target then return snapshot
    else do
      failIf (snapshot.revision < target) (invalid "adapter_rollback_target_not_ancestor")
      let parent ← okOr snapshot.parent (invalid "adapter_rollback_target_not_ancestor")
      snapshotAtRevision bank target steps (reference.sha256 :: visited) parent

/-- The next snapshot, when a slot is set back to a selection, or emptied. -/
def rolledBack (snapshot : AdapterIndexSnapshot) (reference : PrivateFileReference)
    (request : AdapterRollbackRequest) (source : Option AdapterVersion)
    (restored : Option (ActiveAdapterSelection × PrivateFileReference)) : AdapterIndexSnapshot :=
  let slot : AdapterActivationSlot := ⟨request.receiverModel, request.capabilityId⟩
  { snapshot with
    active := match restored with
      | none => snapshot.active.filter fun selection => selection.slot ≠ slot
      | some (selection, authorization) => setSlot snapshot.active slot
        { selection with
          authorization := authorization
          activatedAtRevision := snapshot.revision + 1
          executionBinding :=
            { selection.executionBinding with activationEpoch := snapshot.revision + 1 } }
    revision := snapshot.revision + 1
    parent := some reference
    operation := .rollback slot request.targetRevision source
      (restored.map fun r => r.1.adapter) request.authorization request.reason request.evidence }

def restoredSelection (request : AdapterRollbackRequest) (bank : AdapterBank)
    (snapshot : AdapterIndexSnapshot) (index : PrivateFileReference)
    (target : Option ActiveAdapterSelection) :
    BrainResult (Option (ActiveAdapterSelection × PrivateFileReference)) :=
  match target with
  | none => do
    failIf (request.authorization ≠ none)
      (invalid "adapter_rollback_deactivation_authorization_not_allowed")
    return none
  | some selection => do
    failIf (Revoked snapshot selection.adapter) (invalid "adapter_rollback_target_revoked")
    let manifest ← authenticateManifest w bank selection.manifest
    let _ ← w.liveReceiverProfile manifest.receiverProfile
    let authorization ← okOr request.authorization
      (invalid "adapter_rollback_fresh_authorization_required")
    checkPermit w bank authorization selection.adapter selection.manifest index
      "adapter_rollback_authorization_mismatch"
    return some (selection, authorization)

def proposeRollback (request : AdapterRollbackRequest) (bank : AdapterBank)
    (snapshot : AdapterIndexSnapshot) (reference : Option PrivateFileReference) :
    BrainResult Proposal := do
  checkExpectation request.expected snapshot reference
  let index ← okOr reference (invalid "adapter_rollback_requires_history")
  failIf (request.targetRevision ≥ snapshot.revision)
    (invalid "adapter_rollback_target_not_ancestor")
  let earlier ← snapshotAtRevision w bank request.targetRevision maxHistoryRevisions [] index
  let slot : AdapterActivationSlot := ⟨request.receiverModel, request.capabilityId⟩
  let source := (findActive snapshot slot).map ActiveAdapterSelection.adapter
  let target := findActive earlier slot
  failIf (source = target.map ActiveAdapterSelection.adapter)
    (invalid "adapter_rollback_no_state_change")
  let restored ← restoredSelection w request bank snapshot index target
  return .publish (rolledBack snapshot index request source restored) none

def rollback (request : AdapterRollbackRequest) :
    Durable AdapterBank BrainError AdapterBankCommit := do
  failIf (request.schema ≠ "tidex.adapter_rollback_request/v1" ∨ request.targetRevision = 0)
    (invalid "adapter_rollback_request_invalid")
  checkCause w request.reason request.evidence
  underLock w (proposeRollback w request)

end

end Tidex.Bank
