/-
  Governance.AdapterTypes — the records of the adapter bank.

  Versions, manifests, index snapshots, journal commits and promotion permits, with the
  order of what is sorted and the documents that are hashed.
-/
import Tidex.Capability.Ir
import Tidex.Foundation.Finite
import Tidex.Lib.JsonWrite

namespace Tidex

open Tidex.Lib

/-! ## Versions, models and slots -/

def isWhitespace (c : Char) : Bool :=
  (9 ≤ c.toNat && c.toNat ≤ 13) || (0x2000 ≤ c.toNat && c.toNat ≤ 0x200A)
    || [0x20, 0x85, 0xA0, 0x1680, 0x2028, 0x2029, 0x202F, 0x205F, 0x3000].contains c.toNat

def isControl (c : Char) : Bool :=
  c.toNat < 0x20 || (0x7F ≤ c.toNat && c.toNat ≤ 0x9F)

abbrev PatchId := SemanticId "patch_id"
abbrev ModelId := SemanticId "model_id"
abbrev ArchitectureId := SemanticId "architecture_id"

instance : Ord CapabilityId := ordBy CapabilityId.asStr
instance : Std.TransOrd CapabilityId := transOrd_ordBy CapabilityId.asStr

namespace Bank

def adapterManifestSchema : String := "tidex.adapter_manifest/v1"
def adapterIndexSchema : String := "tidex.adapter_index/v1"
def adapterBankHeadSchema : String := "tidex.adapter_bank_head/v1"
def adapterBankRevisionCommitSchema : String := "tidex.adapter_bank_revision_commit/v1"
def adapterPromotionAuthorizationSchema : String := "tidex.adapter_promotion_authorization/v1"
def exactCompositionArithmetic : String := "ordered_f32_axes_mul_f64_accumulate_f64_round_f32/v1"
def maxBankJsonBytes : Nat := 128 * 1024 * 1024
def maxCompositionTerms : Nat := 64
def maxHistoryRevisions : Nat := 100000
def maxReasonBytes : Nat := 4 * 1024
def maxManifestDepth : Nat := 256

structure AdapterVersion where
  adapterId : PatchId
  generation : Nat
  deriving DecidableEq

namespace AdapterVersion

instance : Ord AdapterVersion := ordByPair adapterId generation
instance : Std.TransOrd AdapterVersion := transOrd_ordByPair adapterId generation
instance : Std.LawfulEqOrd AdapterVersion := lawfulEqOrd_ordByPair (by
  intro a b hid hgeneration
  cases a
  cases b
  cases hid
  cases hgeneration
  rfl)

instance : SerializeSome AdapterVersion where
  toJson v := .obj [("adapter_id", toJson v.adapterId), ("generation", toJson v.generation)]

def validate (v : AdapterVersion) : BrainResult Unit :=
  failIf (v.generation = 0) (invalid "adapter_generation_zero")

end AdapterVersion

structure ReceiverModelKey where
  modelId : ModelId
  modelSha256 : Sha256Digest
  deriving DecidableEq

namespace ReceiverModelKey

instance : Ord ReceiverModelKey := ordByPair modelId modelSha256
instance : Std.TransOrd ReceiverModelKey := transOrd_ordByPair modelId modelSha256

instance : Serialize ReceiverModelKey where
  toJson m := .obj [("model_id", toJson m.modelId), ("model_sha256", toJson m.modelSha256)]

end ReceiverModelKey

structure AdapterActivationSlot where
  receiverModel : ReceiverModelKey
  capabilityId : CapabilityId
  deriving DecidableEq

namespace AdapterActivationSlot

instance : Ord AdapterActivationSlot := ordByPair receiverModel capabilityId
instance : Std.TransOrd AdapterActivationSlot := transOrd_ordByPair receiverModel capabilityId

instance : Serialize AdapterActivationSlot where
  toJson s := .obj [("receiver_model", toJson s.receiverModel),
    ("capability_id", toJson s.capabilityId)]

end AdapterActivationSlot

/-- What a caller believes the current index to be. -/
structure AdapterBankExpectation where
  revision : Nat
  indexSha256 : Option Sha256Digest

/-! ## Manifests -/

structure RetainedAdapterBlob where
  artifact : PrivateFileReference
  byteLen : Nat
  mediaType : String
  deriving DecidableEq

structure DeltaArtifactRef where
  path : String
  sha256 : Sha256Digest
  parameterCount : Nat
  deriving DecidableEq

structure ReceiverAdaptationLayoutBinding where
  artifact : PrivateFileReference
  parameterLayoutSha256 : Sha256Digest
  totalParameterCount : Nat
  deriving DecidableEq

structure AdapterCompositionTerm where
  adapter : AdapterVersion
  manifest : PrivateFileReference
  coefficient : F64
  coefficientBitsHex : String
  deriving DecidableEq

inductive AdapterManifestSource where
  | importedPeftLora (importProvenance : PrivateFileReference)
      (adapterModel adapterConfig : RetainedAdapterBlob)
  | exactDenseComposition (arithmetic : String) (terms : List AdapterCompositionTerm)
      (rankTruncationUsed factorRefactorizationUsed : Bool)
  deriving DecidableEq

structure AdapterManifest where
  schema : String
  adapter : AdapterVersion
  capabilityId : CapabilityId
  lineageId : LineageId
  capabilityBundle : Option PrivateFileReference
  receiverModel : ReceiverModelKey
  architectureId : ArchitectureId
  receiverProfile : PrivateFileReference
  parameterTopologySha256 : Sha256Digest
  adaptationAbiSha256 : Sha256Digest
  parameterLayout : ReceiverAdaptationLayoutBinding
  denseDelta : DeltaArtifactRef
  source : AdapterManifestSource
  candidateOnly : Bool
  authorizesPromotion : Bool
  deriving DecidableEq

def AdapterManifestSource.terms : AdapterManifestSource → List AdapterCompositionTerm
  | importedPeftLora _ _ _ => []
  | exactDenseComposition _ terms _ _ => terms

def compositionDependencies (manifest : AdapterManifest) : List AdapterVersion :=
  manifest.source.terms.map AdapterCompositionTerm.adapter

/-- A value as it is written, among values that may hold doubles. -/
def value {α : Type} [Serialize α] (a : α) : JsonValue :=
  (toJson a).toValue

def RetainedAdapterBlob.toValue (b : RetainedAdapterBlob) : JsonValue :=
  .object [("artifact", value b.artifact), ("byte_len", value b.byteLen),
    ("media_type", value b.mediaType)]

def DeltaArtifactRef.toValue (r : DeltaArtifactRef) : JsonValue :=
  .object [("path", value r.path), ("sha256", value r.sha256),
    ("parameter_count", value r.parameterCount)]

def ReceiverAdaptationLayoutBinding.toValue (b : ReceiverAdaptationLayoutBinding) : JsonValue :=
  .object [("artifact", value b.artifact),
    ("parameter_layout_sha256", value b.parameterLayoutSha256),
    ("total_parameter_count", value b.totalParameterCount)]

def AdapterCompositionTerm.toValue (t : AdapterCompositionTerm) : JsonValue :=
  .object [("adapter", value t.adapter), ("manifest", value t.manifest),
    ("coefficient", .number (.float t.coefficient)),
    ("coefficient_bits_hex", value t.coefficientBitsHex)]

def AdapterManifestSource.toValue : AdapterManifestSource → JsonValue
  | importedPeftLora importProvenance adapterModel adapterConfig =>
    .object [("kind", .string "imported_peft_lora"),
      ("import_provenance", value importProvenance), ("adapter_model", adapterModel.toValue),
      ("adapter_config", adapterConfig.toValue)]
  | exactDenseComposition arithmetic terms rankTruncationUsed factorRefactorizationUsed =>
    .object [("kind", .string "exact_dense_composition"), ("arithmetic", value arithmetic),
      ("terms", .array (terms.map AdapterCompositionTerm.toValue)),
      ("rank_truncation_used", value rankTruncationUsed),
      ("factor_refactorization_used", value factorRefactorizationUsed)]

def AdapterManifest.toValue (m : AdapterManifest) : JsonValue :=
  .object [("schema", value m.schema), ("adapter", value m.adapter),
    ("capability_id", value m.capabilityId), ("lineage_id", value m.lineageId),
    ("capability_bundle", value m.capabilityBundle), ("receiver_model", value m.receiverModel),
    ("architecture_id", value m.architectureId), ("receiver_profile", value m.receiverProfile),
    ("parameter_topology_sha256", value m.parameterTopologySha256),
    ("adaptation_abi_sha256", value m.adaptationAbiSha256),
    ("parameter_layout", m.parameterLayout.toValue), ("dense_delta", m.denseDelta.toValue),
    ("source", m.source.toValue), ("candidate_only", value m.candidateOnly),
    ("authorizes_promotion", value m.authorizesPromotion)]

def AdapterManifest.bytes [FractionText] (m : AdapterManifest) : ByteArray :=
  m.toValue.toBytes

/-! ## Index snapshots -/

structure AdapterIndexEntry where
  adapter : AdapterVersion
  capabilityId : CapabilityId
  lineageId : LineageId
  receiverModel : ReceiverModelKey
  parameterLayoutSha256 : Sha256Digest
  manifest : PrivateFileReference
  deriving DecidableEq

instance : Serialize AdapterIndexEntry where
  toJson e := .obj [("adapter", toJson e.adapter), ("capability_id", toJson e.capabilityId),
    ("lineage_id", toJson e.lineageId), ("receiver_model", toJson e.receiverModel),
    ("parameter_layout_sha256", toJson e.parameterLayoutSha256), ("manifest", toJson e.manifest)]

structure CapabilityAdapterBucket where
  capabilityId : CapabilityId
  adapters : List AdapterVersion
  deriving DecidableEq

instance : Serialize CapabilityAdapterBucket where
  toJson b := .obj [("capability_id", toJson b.capabilityId), ("adapters", toJson b.adapters)]

structure ModelAdapterBucket where
  receiverModel : ReceiverModelKey
  adapters : List AdapterVersion
  deriving DecidableEq

instance : Serialize ModelAdapterBucket where
  toJson b := .obj [("receiver_model", toJson b.receiverModel), ("adapters", toJson b.adapters)]

structure AdapterExecutionBinding where
  baseModelSha256 : Sha256Digest
  adapterDeltaSha256 : Sha256Digest
  activationEpoch : Nat
  adaptationAbiSha256 : Sha256Digest
  deriving DecidableEq

instance : Serialize AdapterExecutionBinding where
  toJson b := .obj [("base_model_sha256", toJson b.baseModelSha256),
    ("adapter_delta_sha256", toJson b.adapterDeltaSha256),
    ("activation_epoch", toJson b.activationEpoch),
    ("adaptation_abi_sha256", toJson b.adaptationAbiSha256)]

structure ActiveAdapterSelection where
  slot : AdapterActivationSlot
  adapter : AdapterVersion
  manifest : PrivateFileReference
  authorization : PrivateFileReference
  executionBinding : AdapterExecutionBinding
  activatedAtRevision : Nat
  deriving DecidableEq

instance : Serialize ActiveAdapterSelection where
  toJson s := .obj [("slot", toJson s.slot), ("adapter", toJson s.adapter),
    ("manifest", toJson s.manifest), ("authorization", toJson s.authorization),
    ("execution_binding", toJson s.executionBinding),
    ("activated_at_revision", toJson s.activatedAtRevision)]

structure AdapterRevocation where
  adapter : AdapterVersion
  manifestSha256 : Sha256Digest
  revokedAtRevision : Nat
  rootCause : AdapterVersion
  reason : String
  evidence : Option PrivateFileReference
  deriving DecidableEq

instance : Serialize AdapterRevocation where
  toJson r := .obj [("adapter", toJson r.adapter), ("manifest_sha256", toJson r.manifestSha256),
    ("revoked_at_revision", toJson r.revokedAtRevision), ("root_cause", toJson r.rootCause),
    ("reason", toJson r.reason), ("evidence", toJson r.evidence)]

inductive AdapterBankOperation where
  | empty
  | register (manifest : PrivateFileReference)
  | compose (manifest : PrivateFileReference)
  | activate (adapter : AdapterVersion) (authorization : PrivateFileReference)
  | revoke (root : AdapterVersion) (affected : List AdapterVersion)
  | rollback (slot : AdapterActivationSlot) (targetRevision : Nat) (source : Option AdapterVersion)
      (target : Option AdapterVersion) (authorization : Option PrivateFileReference)
      (reason : String) (evidence : Option PrivateFileReference)
  deriving DecidableEq

def AdapterBankOperation.permit : AdapterBankOperation → Option PrivateFileReference
  | activate _ authorization => some authorization
  | rollback _ _ _ _ authorization _ _ => authorization
  | _ => none

def AdapterBankOperation.document : AdapterBankOperation → Json
  | empty => .obj [("kind", .str "empty")]
  | register manifest => .obj [("kind", .str "register"), ("manifest", toJson manifest)]
  | compose manifest => .obj [("kind", .str "compose"), ("manifest", toJson manifest)]
  | activate adapter authorization =>
    .obj [("kind", .str "activate"), ("adapter", toJson adapter),
      ("authorization", toJson authorization)]
  | revoke root affected =>
    .obj [("kind", .str "revoke"), ("root", toJson root), ("affected", toJson affected)]
  | rollback slot targetRevision source target authorization reason evidence =>
    .obj [("kind", .str "rollback"), ("slot", toJson slot),
      ("target_revision", toJson targetRevision), ("from", toJson source), ("to", toJson target),
      ("authorization", toJson authorization), ("reason", toJson reason),
      ("evidence", toJson evidence)]

instance : Serialize AdapterBankOperation where
  toJson := AdapterBankOperation.document
  toJson_injective := by
    intro a b h
    cases a <;> cases b <;> simp_all [AdapterBankOperation.document]

structure AdapterIndexSnapshot where
  schema : String
  revision : Nat
  parent : Option PrivateFileReference
  operation : AdapterBankOperation
  entries : List AdapterIndexEntry
  byCapability : List CapabilityAdapterBucket
  byModel : List ModelAdapterBucket
  active : List ActiveAdapterSelection
  revocations : List AdapterRevocation
  deriving DecidableEq

instance : Serialize AdapterIndexSnapshot where
  toJson s := .obj [("schema", toJson s.schema), ("revision", toJson s.revision),
    ("parent", toJson s.parent), ("operation", toJson s.operation), ("entries", toJson s.entries),
    ("by_capability", toJson s.byCapability), ("by_model", toJson s.byModel),
    ("active", toJson s.active), ("revocations", toJson s.revocations)]

/-! ## The journal and the permits -/

structure AdapterBankHead where
  schema : String
  revision : Nat
  index : PrivateFileReference
  deriving DecidableEq

structure AdapterBankRevisionCommit where
  schema : String
  revision : Nat
  index : PrivateFileReference
  previousCommit : Option PrivateFileReference
  previousIndex : Option PrivateFileReference
  deriving DecidableEq

instance : Serialize AdapterBankRevisionCommit where
  toJson c := .obj [("schema", toJson c.schema), ("revision", toJson c.revision),
    ("index", toJson c.index), ("previous_commit", toJson c.previousCommit),
    ("previous_index", toJson c.previousIndex)]

structure AdapterPromotionEvidence where
  independentExecution : PrivateFileReference
  preservationAssessment : PrivateFileReference
  negativeControls : PrivateFileReference
  materializationReceipt : PrivateFileReference

def AdapterPromotionEvidence.toValue (e : AdapterPromotionEvidence) : JsonValue :=
  .object [("independent_execution", value e.independentExecution),
    ("preservation_assessment", value e.preservationAssessment),
    ("negative_controls", value e.negativeControls),
    ("materialization_receipt", value e.materializationReceipt)]

/-- The verdict on a promotion: what blocks it, and what was measured. -/
structure PromotionDecision where
  allowed : Bool
  reasons : List String
  metrics : List (String × F64)

def PromotionDecision.validate (d : PromotionDecision) : BrainResult Unit :=
  failIf (d.allowed ≠ d.reasons.isEmpty ∨ (∃ m ∈ d.metrics, m.1.toList.all isWhitespace = true) ∨
    ∃ m ∈ d.metrics, m.2.isFinite = false) (integrity "promotion_decision_contract_invalid")

def PromotionDecision.toValue (d : PromotionDecision) : JsonValue :=
  .object [("allowed", value d.allowed), ("reasons", value d.reasons),
    ("metrics", .object (d.metrics.map fun m => (m.1, .number (.float m.2))))]

structure AdapterPromotionAuthorization where
  schema : String
  governed : Bool
  adapter : AdapterVersion
  manifest : PrivateFileReference
  capabilityId : CapabilityId
  receiverModel : ReceiverModelKey
  receiverProfile : PrivateFileReference
  parameterLayoutSha256 : Sha256Digest
  denseDeltaSha256 : Sha256Digest
  issuedAgainstIndex : PrivateFileReference
  evidence : AdapterPromotionEvidence
  decision : PromotionDecision
  authorizesPromotion : Bool

def AdapterPromotionAuthorization.toValue (a : AdapterPromotionAuthorization) : JsonValue :=
  .object [("schema", value a.schema), ("governed", value a.governed),
    ("adapter", value a.adapter), ("manifest", value a.manifest),
    ("capability_id", value a.capabilityId), ("receiver_model", value a.receiverModel),
    ("receiver_profile", value a.receiverProfile),
    ("parameter_layout_sha256", value a.parameterLayoutSha256),
    ("dense_delta_sha256", value a.denseDeltaSha256),
    ("issued_against_index", value a.issuedAgainstIndex), ("evidence", a.evidence.toValue),
    ("decision", a.decision.toValue), ("authorizes_promotion", value a.authorizesPromotion)]

def AdapterPromotionAuthorization.bytes [FractionText] (a : AdapterPromotionAuthorization) :
    ByteArray :=
  a.toValue.toBytes

structure AdapterCandidateMaterialization where
  adapter : AdapterVersion
  manifest : PrivateFileReference
  capabilityId : CapabilityId
  receiverProfile : PrivateFileReference
  parameterLayoutSha256 : Sha256Digest
  denseDeltaSha256 : Sha256Digest

structure AdapterBankCommit where
  revision : Nat
  index : PrivateFileReference
  operation : AdapterBankOperation
  manifest : Option PrivateFileReference
  idempotent : Bool

end Bank

end Tidex
