/-
  Learning.Representation — representation evidence, installed and recorded.

  A request names staged observations and the shifts measured for them.
-/
import Tidex.Foundation.Artifact
import Tidex.Foundation.Ledger
import Tidex.Foundation.Names
import Tidex.Foundation.Pretty

namespace Tidex.Learning

open Tidex.Lib Sha256Digest

/-! ## Requests -/

def representationEvidenceRequestSchema : String :=
  "tidex.representation_evidence_install_request/v1"
def representationCaptureSchema : String := "tidex.representation_capture/v1"
def representationProtocolSchema : String := "tidex.representation_protocol/v1"
def representationEvidenceReceiptSchema : String := "tidex.representation_evidence_receipt/v1"
def installedObservationsRelative : String := "state/representation_evidence/installed-observations"
def receiptsRelative : String := "state/representation_evidence/receipts/by-request-sha"
def protocolsRelative : String := "state/representation_protocols/by-sha"
def ledgerKind : String := "representation_evidence_recorded"
def maxRepresentationAuthorityJsonBytes : Nat := 64 * 1024 * 1024

structure SealedRepresentationProtocol where
  schema : String
  sourceRepresentationSha256 : Sha256Digest
  probeSha256 : Sha256Digest
  probeTextSha256 : Sha256Digest
  forbiddenVocabularySha256 : Sha256Digest
  taskLabelsUsed : Bool
  probeVocabularyOverlap : List String
  probeCount : Nat
  layerCount : Nat
  hiddenDim : Nat
  rawDimensionPerObservation : Nat
  sketchDim : Nat
  sketchSeed : Nat

instance : Serialize SealedRepresentationProtocol where
  toJson p := .obj [("schema", toJson p.schema),
    ("source_representation_sha256", toJson p.sourceRepresentationSha256),
    ("probe_sha256", toJson p.probeSha256), ("probe_text_sha256", toJson p.probeTextSha256),
    ("forbidden_vocabulary_sha256", toJson p.forbiddenVocabularySha256),
    ("task_labels_used", toJson p.taskLabelsUsed),
    ("probe_vocabulary_overlap", toJson p.probeVocabularyOverlap),
    ("probe_count", toJson p.probeCount), ("layer_count", toJson p.layerCount),
    ("hidden_dim", toJson p.hiddenDim),
    ("raw_dimension_per_observation", toJson p.rawDimensionPerObservation),
    ("sketch_dim", toJson p.sketchDim), ("sketch_seed", toJson p.sketchSeed)]

structure RepresentationShift where
  observationId : ObservationId
  rawDimension : Nat
  shift : List F64

structure RepresentationCapture where
  schema : String
  observations : List RepresentationShift

structure RepresentationEvidenceInstallTarget where
  observationId : ObservationId
  sourceObservationPath : String
  sourceObservationSha256 : Sha256Digest
  destinationObservationPath : String

structure RepresentationEvidenceInstallRequest where
  schema : String
  protocol : SealedRepresentationProtocol
  capture : RepresentationCapture
  installations : List RepresentationEvidenceInstallTarget

def RepresentationCapture.toValue (capture : RepresentationCapture) : JsonValue :=
  .object [("schema", .string capture.schema),
    ("observations", .array (capture.observations.map fun shift =>
      .object [("observation_id", .string shift.observationId.asStr),
        ("raw_dimension", .number (.int shift.rawDimension)),
        ("shift", .array (shift.shift.map fun value => .number (.float value)))]))]

/-! ## Observations and receipts -/

/-- An observation record: what it is called, its representation, and the fields that
    installing one does not touch. -/
structure DeltaObservation (M : Type) where
  observationId : ObservationId
  measured : M
  representationArtifact : Option F64ArtifactRef
  representationProtocolSha256 : Option Sha256Digest
  deriving DecidableEq

/-- How requests and observation records are read, and how records are written. -/
class RepresentationWire (M : Type) where
  request : ByteArray → Option RepresentationEvidenceInstallRequest
  observation : ByteArray → Option (DeltaObservation M)
  prettyLine : DeltaObservation M → ByteArray

structure InstalledRepresentationEvidence where
  observationId : ObservationId
  sourceObservationPath : String
  sourceObservationSha256 : Sha256Digest
  destinationObservationPath : String
  destinationObservationSha256 : Sha256Digest
  representationArtifact : F64ArtifactRef

instance : Serialize InstalledRepresentationEvidence where
  toJson i := .obj [("observation_id", toJson i.observationId),
    ("source_observation_path", toJson i.sourceObservationPath),
    ("source_observation_sha256", toJson i.sourceObservationSha256),
    ("destination_observation_path", toJson i.destinationObservationPath),
    ("destination_observation_sha256", toJson i.destinationObservationSha256),
    ("representation_artifact", toJson i.representationArtifact)]

structure RepresentationEvidenceReceipt where
  schema : String
  sourceTreeDigest : Sha256Digest
  requestSha256 : Sha256Digest
  sourceRepresentationSha256 : Sha256Digest
  representationProtocolSha256 : Sha256Digest
  installationsSha256 : Sha256Digest
  observationCount : Nat
  installations : List InstalledRepresentationEvidence
  ledgerEventHash : String

instance : Serialize RepresentationEvidenceReceipt where
  toJson r := .obj [("schema", toJson r.schema), ("source_tree_digest", toJson r.sourceTreeDigest),
    ("request_sha256", toJson r.requestSha256),
    ("source_representation_sha256", toJson r.sourceRepresentationSha256),
    ("representation_protocol_sha256", toJson r.representationProtocolSha256),
    ("installations_sha256", toJson r.installationsSha256),
    ("observation_count", toJson r.observationCount), ("installations", toJson r.installations),
    ("ledger_event_hash", toJson r.ledgerEventHash)]

/-- The digest of the sources the program was built from. -/
class SourceTree where
  digest : Sha256Digest

/-- The payload of the event of a receipt, its members in the order of their names. -/
def ledgerPayload (receipt : RepresentationEvidenceReceipt) : Json :=
  .obj [("installations_sha256", toJson receipt.installationsSha256),
    ("observation_count", toJson receipt.observationCount),
    ("representation_protocol_sha256", toJson receipt.representationProtocolSha256),
    ("request_sha256", toJson receipt.requestSha256),
    ("schema", .str "tidex.representation_evidence_recorded/v1"),
    ("source_representation_sha256", toJson receipt.sourceRepresentationSha256),
    ("source_tree_digest", toJson receipt.sourceTreeDigest)]

def receiptPath (root : String) (requestSha256 : Sha256Digest) : String :=
  Path.push (Path.push root receiptsRelative) (requestSha256.hex ++ ".json")

def protocolPath (root : String) (digest : Sha256Digest) : String :=
  Path.push (Path.push root protocolsRelative) (digest.hex ++ ".json")

/-- The place of a new observation: staged, never active. -/
def installedDestinationUnderRoot (root raw : String) : BrainResult String := do
  let path ← confine root raw
  failIf (!Path.startsWith path (Path.push root installedObservationsRelative)
      ∨ Path.startsWith path (Path.push root "state/observations")
      ∨ Path.extension path ≠ some "json")
    (invalid "representation_evidence_destination_not_staged_observation_json")
  return path

/-- An error, whatever it was, under a code. -/
def orIntegrity {α : Type} (code : String) (x : BrainResult α) : BrainResult α :=
  match x with
  | .ok a => .ok a
  | .error _ => .error (integrity code)

@[simp] lemma orIntegrity_ok {α : Type} {code : String} {x : BrainResult α} {a : α} :
    orIntegrity code x = .ok a ↔ x = .ok a := by
  cases x <;> simp [orIntegrity]

/-! ## Checks of a request -/

def validateSealedRepresentationProtocol (p : SealedRepresentationProtocol) : BrainResult Unit := do
  failIf (p.schema ≠ representationProtocolSchema
      ∨ p.taskLabelsUsed
      ∨ p.probeVocabularyOverlap ≠ []
      ∨ p.probeCount = 0
      ∨ p.layerCount = 0
      ∨ p.hiddenDim = 0
      ∨ p.rawDimensionPerObservation = 0
      ∨ p.sketchDim = 0)
    (invalid "representation_protocol_contract_invalid")
  failIf (p.probeSha256 ≠ p.probeTextSha256)
    (invalid "representation_protocol_probe_text_digest_mismatch")
  let layers ← checkedMul u64Values p.probeCount p.layerCount
    (invalid "representation_protocol_dimension_overflow")
  let expected ← checkedMul u64Values layers p.hiddenDim
    (invalid "representation_protocol_dimension_overflow")
  failIf (expected ≠ p.rawDimensionPerObservation)
    (invalid "representation_protocol_raw_dimension_mismatch")

def insertShift (p : SealedRepresentationProtocol)
    (shifts : BTreeMap ObservationId RepresentationShift) (shift : RepresentationShift) :
    BrainResult (BTreeMap ObservationId RepresentationShift) := do
  failIf (shift.rawDimension ≠ p.rawDimensionPerObservation
      ∨ shift.shift.length ≠ p.sketchDim
      ∨ shift.shift.any (fun value => !value.isFinite)
      ∨ shift.observationId ∈ shifts)
    (invalid "representation_capture_observation_invalid")
  return shifts.insert shift.observationId shift

/-- Take the names and paths of one target, all of them new. -/
def insertTarget (seen : BTreeSet ObservationId × BTreeSet String × BTreeSet String)
    (target : RepresentationEvidenceInstallTarget) :
    BrainResult (BTreeSet ObservationId × BTreeSet String × BTreeSet String) := do
  failIf (target.sourceObservationPath.toList.all isWhiteSpace
      ∨ target.destinationObservationPath.toList.all isWhiteSpace
      ∨ target.observationId ∈ seen.1
      ∨ target.sourceObservationPath ∈ seen.2.1
      ∨ target.destinationObservationPath ∈ seen.2.2)
    (invalid "representation_installation_target_invalid")
  return (seen.1.insert target.observationId, seen.2.1.insert target.sourceObservationPath,
    seen.2.2.insert target.destinationObservationPath)

variable [Platform] [JsonReader] [FractionText]

def representationCaptureSha256 (capture : RepresentationCapture) : Sha256Digest :=
  digestBytes capture.toValue.toBytes

def validateRequestContract (request : RepresentationEvidenceInstallRequest) :
    BrainResult (BTreeMap ObservationId RepresentationShift) := do
  failIf (request.schema ≠ representationEvidenceRequestSchema
      ∨ request.capture.schema ≠ representationCaptureSchema
      ∨ request.capture.observations.isEmpty
      ∨ request.installations.isEmpty)
    (invalid "representation_evidence_request_contract_invalid")
  validateSealedRepresentationProtocol request.protocol
  failIf (request.protocol.sourceRepresentationSha256 ≠ representationCaptureSha256 request.capture)
    (integrity "representation_capture_protocol_digest_mismatch")
  let shifts ← request.capture.observations.foldlM (insertShift request.protocol) ∅
  let seen ← request.installations.foldlM insertTarget (∅, ∅, ∅)
  failIf (seen.1.toList ≠ shifts.toList.map Prod.fst)
    (invalid "representation_capture_target_id_set_mismatch")
  return shifts

/-! ## Steps of a call -/

/-- What a call knows once it has read its request. -/
structure OpenedRequest where
  request : RepresentationEvidenceInstallRequest
  requestSha256 : Sha256Digest
  captureSha256 : Sha256Digest
  protocolSha256 : Sha256Digest
  shifts : BTreeMap ObservationId RepresentationShift

section

variable (M : Type) [DecidableEq M] [RepresentationWire M]

def openRequest (root : String) (fs : PrivateRoot) (payloadPath : String) :
    BrainResult OpenedRequest := do
  let path ← confine root payloadPath
  let bytes ← readUntrustedPrivateFileBounded fs path maxRepresentationAuthorityJsonBytes
  let request ← okOr (RepresentationWire.request M bytes) .json
  let shifts ← validateRequestContract request
  return {
    request := request
    requestSha256 := digestBytes bytes
    captureSha256 := representationCaptureSha256 request.capture
    protocolSha256 := digestBytes (toVec request.protocol)
    shifts := shifts }

def readSource (root : String) (fs : PrivateRoot) (target : RepresentationEvidenceInstallTarget) :
    BrainResult (DeltaObservation M) := do
  let bytes ← orIntegrity "representation_evidence_source_observation_digest_mismatch" (do
    let path ← confine root target.sourceObservationPath
    PrivateFileReference.readVerifiedBounded ⟨path, target.sourceObservationSha256⟩ fs
      maxRepresentationAuthorityJsonBytes)
  let before ← okOr (RepresentationWire.observation bytes) .json
  failIf (before.observationId ≠ target.observationId)
    (integrity "representation_evidence_source_observation_id_mismatch")
  return before

variable {M}

def destinationObservationBytes (before : DeltaObservation M) (artifact : F64ArtifactRef)
    (protocolSha256 : Sha256Digest) : BrainResult ByteArray := do
  failIf (before.representationArtifact.isSome ∨ before.representationProtocolSha256.isSome)
    (integrity "representation_evidence_already_installed_on_source")
  let after : DeltaObservation M := {
    before with
    representationArtifact := some artifact, representationProtocolSha256 := some protocolSha256 }
  failIf ({ after with
      representationArtifact := none, representationProtocolSha256 := none } ≠ before)
    (integrity "representation_evidence_changed_nonrepresentation_semantics")
  return RepresentationWire.prettyLine after

/-- The place and the bytes of a new observation, and its entry in the receipt. -/
structure Installation where
  path : String
  bytes : ByteArray
  entry : InstalledRepresentationEvidence

/-- The new observation of a target, once its artifact is stored. -/
def installation (root : String) (o : OpenedRequest) (target : RepresentationEvidenceInstallTarget)
    (before : DeltaObservation M) (artifact : F64ArtifactRef) : BrainResult Installation := do
  failIf (artifact.elementCount ≠ o.request.protocol.sketchDim)
    (integrity "representation_evidence_artifact_dimension_mismatch")
  let path ← installedDestinationUnderRoot root target.destinationObservationPath
  let bytes ← destinationObservationBytes before artifact o.protocolSha256
  return {
    path := path
    bytes := bytes
    entry := {
      observationId := target.observationId
      sourceObservationPath := target.sourceObservationPath
      sourceObservationSha256 := target.sourceObservationSha256
      destinationObservationPath := target.destinationObservationPath
      destinationObservationSha256 := digestBytes bytes
      representationArtifact := artifact } }

/-- Read a source, store its artifact and prepare the new observation. -/
def storeArtifact (M : Type) [DecidableEq M] [RepresentationWire M] (root : String)
    (fs : PrivateRoot) (o : OpenedRequest) (target : RepresentationEvidenceInstallTarget) :
    PrivateRoot × BrainResult Installation :=
  let read : BrainResult (DeltaObservation M × RepresentationShift) := do
    let before ← readSource M root fs target
    let shift ← okOr o.shifts[target.observationId]?
      (integrity "representation_evidence_shift_missing")
    return (before, shift)
  match read with
  | .error e => (fs, .error e)
  | .ok (before, shift) =>
    let (fs, artifact) := createContentAddressedF64 root fs shift.shift
    (fs, artifact >>= installation root o target before)

def InstalledRepresentationEvidence.notAfter (a b : InstalledRepresentationEvidence) : Prop :=
  compare a.observationId b.observationId ≠ .gt

instance : DecidableRel InstalledRepresentationEvidence.notAfter :=
  fun _ _ => inferInstanceAs (Decidable (_ ≠ _))

variable [SourceTree]

/-- The receipt before its event is known. -/
def draftReceipt (o : OpenedRequest) (installed : List InstalledRepresentationEvidence) :
    RepresentationEvidenceReceipt :=
  let installed := installed.insertionSort InstalledRepresentationEvidence.notAfter
  { schema := representationEvidenceReceiptSchema
    sourceTreeDigest := SourceTree.digest
    requestSha256 := o.requestSha256
    sourceRepresentationSha256 := o.captureSha256
    representationProtocolSha256 := o.protocolSha256
    installationsSha256 := digestBytes (toVec installed)
    observationCount := installed.length
    installations := installed
    ledgerEventHash := "" }

def findEvent (root : String) (fs : PrivateRoot) (requestSha256 : Sha256Digest) :
    BrainResult (Option LedgerEvent) :=
  findV2EventByPayloadString root fs ledgerKind "request_sha256" requestSha256.hex

def verifyReferenceUnderRoot (root : String) (fs : PrivateRoot) (reference : F64ArtifactRef) :
    BrainResult Unit := do
  let path ← confine root reference.path
  let _ ← fs.content path
  let values ← readF64Artifact root fs reference
  failIf (values.length ≠ reference.elementCount)
    (integrity "representation_evidence_artifact_reference_mismatch")

/-- One entry of a receipt against its target and its files. -/
def verifyInstalled (root : String) (fs : PrivateRoot)
    (targets : BTreeMap ObservationId RepresentationEvidenceInstallTarget)
    (installed : InstalledRepresentationEvidence) : BrainResult Unit := do
  let target ← okOr targets[installed.observationId]?
    (integrity "representation_evidence_receipt_unknown_id")
  failIf (installed.sourceObservationPath ≠ target.sourceObservationPath
      ∨ installed.sourceObservationSha256 ≠ target.sourceObservationSha256
      ∨ installed.destinationObservationPath ≠ target.destinationObservationPath)
    (integrity "representation_evidence_receipt_target_mismatch")
  let destination ← installedDestinationUnderRoot root installed.destinationObservationPath
  let _ ← orIntegrity "representation_evidence_receipt_destination_mismatch"
    (PrivateFileReference.readVerifiedBounded ⟨destination, installed.destinationObservationSha256⟩
      fs maxRepresentationAuthorityJsonBytes)
  verifyReferenceUnderRoot root fs installed.representationArtifact

def verifyExistingReceipt (root : String) (fs : PrivateRoot)
    (receipt : RepresentationEvidenceReceipt) (o : OpenedRequest) : BrainResult Unit := do
  failIf (receipt.schema ≠ representationEvidenceReceiptSchema
      ∨ receipt.sourceTreeDigest ≠ SourceTree.digest
      ∨ receipt.requestSha256 ≠ o.requestSha256
      ∨ receipt.sourceRepresentationSha256 ≠ o.captureSha256
      ∨ receipt.representationProtocolSha256 ≠ o.protocolSha256
      ∨ receipt.observationCount ≠ o.request.installations.length
      ∨ receipt.installations.length ≠ o.request.installations.length
      ∨ receipt.installationsSha256 ≠ digestBytes (toVec receipt.installations))
    (integrity "representation_evidence_receipt_contract_mismatch")
  let targets := collect RepresentationEvidenceInstallTarget.observationId id
    o.request.installations
  forM receipt.installations (verifyInstalled root fs targets)
  let _ ← orIntegrity "representation_evidence_receipt_protocol_mismatch"
    (PrivateFileReference.readVerifiedBounded ⟨protocolPath root o.protocolSha256, o.protocolSha256⟩
      fs maxRepresentationAuthorityJsonBytes)
  let found ← findEvent root fs o.requestSha256
  let event ← okOr found (integrity "representation_evidence_receipt_ledger_missing")
  failIf (event.eventHash ≠ receipt.ledgerEventHash)
    (integrity "representation_evidence_receipt_ledger_mismatch")
  let payload ← event.payload
  failIf (payload ≠ (ledgerPayload receipt).toValue)
    (integrity "representation_evidence_receipt_ledger_mismatch")

/-- Whether there is anything at a path. -/
def pathExists (fs : PrivateRoot) (path : String) : Bool :=
  match fs.content path with
  | .error (.io _) => false
  | _ => true

def readReceipt (root : String) (fs : PrivateRoot) (requestSha256 : Sha256Digest) :
    BrainResult RepresentationEvidenceReceipt := do
  let bytes ← readUntrustedPrivateFileBounded fs (receiptPath root requestSha256)
    maxRepresentationAuthorityJsonBytes
  fromSlice RepresentationEvidenceReceipt bytes

/-- A call of `record_from_payload_path_at_root` between two of its atomic steps. -/
inductive Recording where
  | start
  | replay (o : OpenedRequest) (receipt : RepresentationEvidenceReceipt)
  | protocol (o : OpenedRequest)
  | install (o : OpenedRequest) (targets : List RepresentationEvidenceInstallTarget)
      (installed : List InstalledRepresentationEvidence)
  | destination (o : OpenedRequest) (new : Installation)
      (targets : List RepresentationEvidenceInstallTarget)
      (installed : List InstalledRepresentationEvidence)
  | search (o : OpenedRequest) (receipt : RepresentationEvidenceReceipt)
  | append (o : OpenedRequest) (receipt : RepresentationEvidenceReceipt)
  | write (o : OpenedRequest) (receipt : RepresentationEvidenceReceipt)
  | verify (o : OpenedRequest) (receipt : RepresentationEvidenceReceipt)
  | done (result : BrainResult RepresentationEvidenceReceipt)

/-- After a step that writes: go on, or end with its error. -/
def Recording.after {α : Type} (fs : PrivateRoot) (result : BrainResult (PrivateRoot × α))
    (next : α → Recording) : PrivateRoot × Recording :=
  match result with
  | .ok (fs, a) => (fs, next a)
  | .error e => (fs, .done (.error e))

def Recording.afterRead {α : Type} (fs : PrivateRoot) (result : BrainResult α)
    (next : α → Recording) : PrivateRoot × Recording :=
  match result with
  | .ok a => (fs, next a)
  | .error e => (fs, .done (.error e))

/-- What a call does next, now that it has read its request. -/
def Recording.opened (root : String) (fs : PrivateRoot) (o : OpenedRequest) :
    PrivateRoot × Recording :=
  if pathExists fs (receiptPath root o.requestSha256) then
    afterRead fs (readReceipt root fs o.requestSha256) (.replay o)
  else (fs, .protocol o)

def withFoundEvent (receipt : RepresentationEvidenceReceipt) (event : LedgerEvent) :
    BrainResult RepresentationEvidenceReceipt := do
  let payload ← event.payload
  failIf (payload ≠ (ledgerPayload receipt).toValue)
    (integrity "representation_evidence_ledger_request_collision")
  return { receipt with ledgerEventHash := event.eventHash }

/-- What a call does next after its search. -/
def Recording.searched (o : OpenedRequest) (receipt : RepresentationEvidenceReceipt)
    (fs : PrivateRoot) : Option LedgerEvent → PrivateRoot × Recording
  | none => (fs, .append o receipt)
  | some event => afterRead fs (withFoundEvent receipt event) (.write o)

/-- One atomic step of a call. -/
def Recording.step (M : Type) [DecidableEq M] [RepresentationWire M] (root payloadPath : String)
    (fs : PrivateRoot) : Recording → PrivateRoot × Recording
  | .start =>
    match openRequest M root fs payloadPath with
    | .error e => (fs, .done (.error e))
    | .ok o => opened root fs o
  | .replay o receipt =>
    afterRead fs (verifyExistingReceipt root fs receipt o) fun _ => .done (.ok receipt)
  | .protocol o =>
    after fs (writeOrVerifyImmutable fs (protocolPath root o.protocolSha256)
      (toVec o.request.protocol)) fun _ => .install o o.request.installations []
  | .install o [] installed => (fs, .search o (draftReceipt o installed))
  | .install o (target :: targets) installed =>
    let (fs, new) := storeArtifact M root fs o target
    afterRead fs new fun new => .destination o new targets installed
  | .destination o new targets installed =>
    after fs (writeOrVerifyImmutable fs new.path new.bytes) fun _ =>
      .install o targets (installed ++ [new.entry])
  | .search o receipt =>
    match findEvent root fs o.requestSha256 with
    | .error e => (fs, .done (.error e))
    | .ok found => searched o receipt fs found
  | .append o receipt =>
    let (fs, event) := Tidex.append root fs ledgerKind (ledgerPayload receipt).toValue
    afterRead fs event fun event => .write o { receipt with ledgerEventHash := event.eventHash }
  | .write o receipt =>
    after fs (writeOrVerifyImmutable fs (receiptPath root o.requestSha256)
      (serializePrettyLine receipt)) fun _ => .verify o receipt
  | .verify o receipt =>
    afterRead fs (verifyExistingReceipt root fs receipt o) fun _ => .done (.ok receipt)
  | .done result => (fs, .done result)

@[simp] lemma Recording.step_done {root payloadPath : String}
    {fs : PrivateRoot} (result : BrainResult RepresentationEvidenceReceipt) :
    Recording.step M root payloadPath fs (.done result) = (fs, .done result) := by
  rw [Recording.step]

end

end Tidex.Learning
