/-
  Receiver.Normalize — the record of a normalization, and a whole run.

  The checkpoint goes to a path named by its digest, is opened again there and compared
  with what was to be written; then its record is written the same way and authenticated.
-/
import Tidex.Receiver.Shards

namespace Tidex.Receiver

open Tidex.Lib Sha256Digest

/-! ## Inputs, records and receipts -/

def shardedSafetensorsNormalizationInputSchema : String :=
  "tidex.sharded_safetensors_normalization_input/v1"
def shardedSafetensorsNormalizationSchema : String :=
  "tidex.sharded_safetensors_normalization/v1"
def shardedSafetensorsNormalizationReceiptSchema : String :=
  "tidex.sharded_safetensors_normalization_receipt/v1"

structure ShardedSafetensorsNormalizationInput where
  schema : String
  indexPath : String

structure ShardedSafetensorsNormalization where
  schema : String
  index : ShardedSafetensorsSourceFile
  shards : List ShardedSafetensorsSourceFile
  weightMapEntryCount : Nat
  sourceTensorByteCount : Nat
  normalizedCheckpoint : PrivateFileReference
  normalizedInventory : ModelParameterInventory
  tensorPayloadsPreservedExactly : Bool
  authorizesBehavioralEquivalence : Bool
  authorizesPromotion : Bool
  deriving DecidableEq

structure ShardedSafetensorsNormalizationReceipt where
  schema : String
  normalization : ShardedSafetensorsNormalization
  normalizationReference : PrivateFileReference
  authorizesPromotion : Bool

instance : Serialize ShardedSafetensorsNormalization where
  toJson n := .obj [("schema", toJson n.schema), ("index", toJson n.index),
    ("shards", toJson n.shards), ("weight_map_entry_count", toJson n.weightMapEntryCount),
    ("source_tensor_byte_count", toJson n.sourceTensorByteCount),
    ("normalized_checkpoint", toJson n.normalizedCheckpoint),
    ("normalized_inventory", toJson n.normalizedInventory),
    ("tensor_payloads_preserved_exactly", toJson n.tensorPayloadsPreservedExactly),
    ("authorizes_behavioral_equivalence", toJson n.authorizesBehavioralEquivalence),
    ("authorizes_promotion", toJson n.authorizesPromotion)]

/-! ## Where files go -/

def normalizedCheckpointPath (root : String) (digest : Sha256Digest) : String :=
  Path.push (Path.push root "artifacts/models/by-sha") (digest.hex ++ ".safetensors")

def shardedNormalizationPath (root : String) (digest : Sha256Digest) : String :=
  Path.push (Path.push root "state/model_normalizations/sharded-safetensors/by-sha")
    (digest.hex ++ ".json")

variable [Platform] [JsonReader]

def verifyReference (h : Host) (r : PrivateFileReference) : BrainResult Unit := do
  let bytes ← h.files.content r.path
  failIf (digestBytes bytes ≠ r.sha256)
    (integrity "private_file_reference_digest_mismatch")

def inspectModelSafetensors (h : Host) (path : String) : BrainResult ModelParameterInventory := do
  let archive ← SafeTensorArchive.openPath h path
  return archive.inventory

/-! ## Records -/

/-- Some adjacent pair of paths is not in strict order. -/
def unordered : List String → Bool
  | a :: b :: rest => !Path.before a b || unordered (b :: rest)
  | _ => false

def validateNormalizationContract (h : Host) (n : ShardedSafetensorsNormalization) :
    BrainResult Unit := do
  failIf (n.schema ≠ shardedSafetensorsNormalizationSchema
      ∨ n.index.byteLen = 0
      ∨ n.index.byteLen > maxShardedIndexBytes
      ∨ !isShardedSafetensorsIndex n.index.path
      ∨ n.shards = []
      ∨ n.shards.length > maxShardedFiles
      ∨ n.weightMapEntryCount = 0
      ∨ n.weightMapEntryCount > maxShardedTensors
      ∨ n.weightMapEntryCount ≠ n.normalizedInventory.tensorCount
      ∨ !n.tensorPayloadsPreservedExactly
      ∨ n.authorizesBehavioralEquivalence
      ∨ n.authorizesPromotion
      ∨ n.normalizedCheckpoint.path ≠ normalizedCheckpointPath h.root n.normalizedCheckpoint.sha256
      ∨ n.normalizedInventory.modelSha256 ≠ n.normalizedCheckpoint.sha256)
    (invalid "sharded_safetensors_normalization_contract_invalid")
  failIf (unordered (n.shards.map ShardedSafetensorsSourceFile.path)
      ∨ n.shards.any fun source => source.byteLen == 0 || !Path.isAbsolute source.path)
    (integrity "sharded_safetensors_source_manifest_invalid")
  let payloadBytes ← n.normalizedInventory.tensors.foldlM (fun total tensor =>
    checkedAdd u64Width total tensor.dataByteCount
      (invalid "sharded_safetensors_payload_size_overflow")) 0
  failIf (payloadBytes ≠ n.sourceTensorByteCount)
    (integrity "sharded_safetensors_payload_size_mismatch")
  verifyReference h n.normalizedCheckpoint
  let inventory ← inspectModelSafetensors h n.normalizedCheckpoint.path
  failIf (inventory ≠ n.normalizedInventory)
    (integrity "sharded_safetensors_normalized_inventory_mismatch")

def authenticateShardedSafetensorsNormalization (h : Host) (reference : PrivateFileReference) :
    BrainResult ShardedSafetensorsNormalization := do
  failIf (reference.path ≠ shardedNormalizationPath h.root reference.sha256)
    (integrity "sharded_safetensors_normalization_path_not_canonical")
  let bytes ← reference.readVerifiedBounded h.files maxNormalizationRecordBytes
  let normalization ← fromSlice ShardedSafetensorsNormalization bytes
  failIf (toVec normalization ≠ bytes) (integrity "sharded_safetensors_normalization_noncanonical")
  validateNormalizationContract h normalization
  return normalization

/-! ## A run -/

/-- Put the checkpoint at the path of its digest and open it there. -/
def installNormalized (h : Host) (bytes : ByteArray) :
    BrainResult (Host × PrivateFileReference × ModelParameterInventory) := do
  let digest := digestBytes bytes
  let path := normalizedCheckpointPath h.root digest
  let (h, installed) ← h.installPrivateImmutableFile path bytes
  let _ ← bif installed then pure () else verifyReference h { path := path, sha256 := digest }
  let inventory ← inspectModelSafetensors h path
  return (h, { path := path, sha256 := digest }, inventory)

def recordNormalization (h : Host) (normalization : ShardedSafetensorsNormalization) :
    BrainResult (Host × PrivateFileReference) := do
  validateNormalizationContract h normalization
  let bytes := toVec normalization
  let digest := digestBytes bytes
  let path := shardedNormalizationPath h.root digest
  let (h, written) ← h.writeOrVerifyImmutable path bytes
  failIf (written ≠ digest) (integrity "sharded_safetensors_normalization_write_mismatch")
  let reference : PrivateFileReference := { path := path, sha256 := digest }
  let replayed ← authenticateShardedSafetensorsNormalization h reference
  failIf (replayed ≠ normalization) (integrity "sharded_safetensors_normalization_replay_mismatch")
  return (h, reference)

def ShardedSafetensorsSourceFile.notAfter (a b : ShardedSafetensorsSourceFile) : Prop :=
  Path.before b.path a.path = false

instance : DecidableRel ShardedSafetensorsSourceFile.notAfter :=
  fun _ _ => inferInstanceAs (Decidable (_ = _))

def normalizeShardedSafetensors (h : Host) (input : ShardedSafetensorsNormalizationInput) :
    BrainResult (Host × ShardedSafetensorsNormalizationReceipt) := do
  failIf (input.schema ≠ shardedSafetensorsNormalizationInputSchema)
    (invalid "sharded_safetensors_normalization_input_invalid")
  let c ← openIndexedShards h input.indexPath
  checkWeightMap c
  let (locations, sourceTensorByteCount) ← locateTensors c
  let bytes ← writeNormalized c.shards locations
  let (h, normalizedCheckpoint, normalizedInventory) ← installNormalized h bytes
  failIf (normalizedInventory.modelSha256 ≠ normalizedCheckpoint.sha256
      ∨ normalizedInventory.tensors ≠ locations.map ShardedTensorLocation.spec)
    (integrity "sharded_safetensors_normalized_output_mismatch")
  let normalization : ShardedSafetensorsNormalization := {
    schema := shardedSafetensorsNormalizationSchema
    index := c.indexSource
    shards := c.shards.sources.insertionSort ShardedSafetensorsSourceFile.notAfter
    weightMapEntryCount := c.weightMap.size
    sourceTensorByteCount := sourceTensorByteCount
    normalizedCheckpoint := normalizedCheckpoint
    normalizedInventory := normalizedInventory
    tensorPayloadsPreservedExactly := true
    authorizesBehavioralEquivalence := false
    authorizesPromotion := false }
  let (h, normalizationReference) ← recordNormalization h normalization
  return (h, {
    schema := shardedSafetensorsNormalizationReceiptSchema
    normalization := normalization
    normalizationReference := normalizationReference
    authorizesPromotion := false })

end Tidex.Receiver
