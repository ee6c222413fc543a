/-
  Receiver.Shards — a sharded checkpoint made into one file.

  An index names the shard of each tensor.
-/
import Tidex.Foundation.Pretty
import Tidex.Receiver.Layout

namespace Tidex.Receiver

open Tidex.Lib List ParsedTensor

/-! ## The index -/

def maxShardedIndexBytes : Nat := 64 * 1024 * 1024
def maxShardedTensors : Nat := 1000000
def maxShardedFiles : Nat := 4096
def maxNormalizationRecordBytes : Nat := 64 * 1024 * 1024

structure HfSafetensorsIndex where
  metadata : BTreeMap String JsonValue
  weightMap : BTreeMap TensorId String

def weightMapEntry (values : BTreeMap TensorId String) (entry : String × JsonValue) :
    BrainResult (BTreeMap TensorId String) := do
  let shard ← okOr entry.2.asStr .json
  let tensor ← okOr (TensorId.parse entry.1).toOption .json
  failIf (shard = "" ∨ tensor ∈ values) .json
  return values.insert tensor shard

def strictWeightMap (value : JsonValue) : BrainResult (BTreeMap TensorId String) := do
  let members ← okOr value.asMembers .json
  members.foldlM weightMapEntry ∅

def indexMetadata (members : List (String × JsonValue)) :
    BrainResult (BTreeMap String JsonValue) :=
  match members.lookup "metadata" with
  | none => return ∅
  | some value => okOr value.asObject .json

/-- The index of a document: an object without other or repeated fields, or its fields in
    their order. -/
def decodeIndex : JsonValue → BrainResult HfSafetensorsIndex
  | .object members => do
    failIf (¬(members.map Prod.fst).Nodup
        ∨ members.any fun member => member.1 ∉ ["metadata", "weight_map"]) .json
    let metadata ← indexMetadata members
    let weightMap ← okOr (members.lookup "weight_map") .json
    let weightMap ← strictWeightMap weightMap
    return { metadata, weightMap }
  | .array [metadata, weightMap] => do
    let metadata ← okOr metadata.asObject .json
    let weightMap ← strictWeightMap weightMap
    return { metadata, weightMap }
  | _ => .error .json

structure ShardedSafetensorsSourceFile where
  path : String
  sha256 : Sha256Digest
  byteLen : Nat
  deriving DecidableEq

instance : Serialize ShardedSafetensorsSourceFile where
  toJson s := .obj [("path", toJson s.path), ("sha256", toJson s.sha256),
    ("byte_len", toJson s.byteLen)]

def isShardedSafetensorsIndex (path : String) : Bool :=
  match Path.fileName path with
  | some name => Path.hasSuffix name ".safetensors.index.json"
  | none => false

section

variable [Platform] [JsonReader]

def readShardedIndexSource (h : Host) (path : String) :
    BrainResult (ShardedSafetensorsSourceFile × HfSafetensorsIndex) := do
  let canonical ← canonicalExistingFile h path
  failIf (!isShardedSafetensorsIndex canonical) (invalid "sharded_safetensors_index_name_invalid")
  let bytes ← osResult (h.content canonical)
  failIf (bytes.size = 0 ∨ bytes.size > maxShardedIndexBytes)
    (invalid "sharded_safetensors_index_size_invalid")
  let value ← okOr (JsonReader.read bytes) .json
  let index ← decodeIndex value
  return ({ path := canonical, sha256 := Sha256Digest.digestBytes bytes, byteLen := bytes.size },
    index)

/-! ## The shards -/

def normalName : PathComponent → Option String
  | .normal name => some name
  | _ => none

/-- Go down the components of a shard name, through directories, to a file. -/
def walkShard (h : Host) (current : String) (names : List String) : BrainResult String :=
  match names with
  | [] => .ok current
  | name :: names => do
    let current := Path.push current name
    let fileType ← osIntegrity "sharded_safetensors_shard_unreadable" (h.fileType current)
    failIf (fileType = .symlink) (integrity "sharded_safetensors_shard_symlink_forbidden")
    if names = [] then
      failIf (fileType ≠ .file) (integrity "sharded_safetensors_shard_not_regular_file")
    else
      failIf (fileType ≠ .dir) (integrity "sharded_safetensors_shard_parent_not_directory")
    walkShard h current names

def canonicalShardFromIndex (h : Host) (indexParent relative : String) : BrainResult String := do
  failIf (relative = "" ∨ relative.utf8ByteSize > 16 * 1024)
    (invalid "sharded_safetensors_shard_name_invalid")
  failIf (Path.isAbsolute relative
      ∨ (Path.components relative).any (fun component => (normalName component).isNone)
      ∨ !Path.hasSuffix relative ".safetensors")
    (invalid "sharded_safetensors_shard_path_invalid")
  let current ← walkShard h indexParent ((Path.components relative).filterMap normalName)
  let canonical ← osResult (h.canonicalize current)
  failIf (!Path.startsWith canonical indexParent)
    (integrity "sharded_safetensors_shard_escaped_index_root")
  return canonical

structure OpenedShards where
  archives : List SafeTensorArchive
  labels : List String
  sources : List ShardedSafetensorsSourceFile
  shardByName : BTreeMap String Nat
  canonicalPaths : BTreeSet String

def openShard (h : Host) (indexParent : String) (s : OpenedShards) (name : String) :
    BrainResult OpenedShards := do
  let path ← canonicalShardFromIndex h indexParent name
  failIf (path ∈ s.canonicalPaths) (integrity "sharded_safetensors_shard_alias_collision")
  let archive ← SafeTensorArchive.openPath h path
  return { archives := s.archives ++ [archive]
           labels := s.labels ++ [name]
           sources := s.sources ++ [{ path := path
                                      sha256 := archive.inventory.modelSha256
                                      byteLen := archive.inventory.modelByteLen }]
           shardByName := s.shardByName.insert name s.archives.length
           canonicalPaths := s.canonicalPaths.insert path }

structure IndexedShards where
  indexSource : ShardedSafetensorsSourceFile
  weightMap : BTreeMap TensorId String
  declaredTotalSize : Option Nat
  shards : OpenedShards

def declaredSize (metadata : BTreeMap String JsonValue) : BrainResult (Option Nat) :=
  match metadata["total_size"]? with
  | none => return none
  | some value => do
    let size ← okOr (value.asU64.filter fun size => 0 < size)
      (invalid "sharded_safetensors_total_size_invalid")
    return some size

def openIndexedShards (h : Host) (indexPath : String) : BrainResult IndexedShards := do
  let (indexSource, index) ← readShardedIndexSource h indexPath
  let weightMap := index.weightMap
  failIf (weightMap.isEmpty ∨ weightMap.size > maxShardedTensors)
    (invalid "sharded_safetensors_weight_map_size_invalid")
  let declaredTotalSize ← declaredSize index.metadata
  let indexParent ← okOr (Path.parent indexSource.path)
    (invalid "sharded_safetensors_index_parent_missing")
  let shardNames := BTreeSet.extend ∅ (BTreeMap.values weightMap)
  failIf (shardNames.isEmpty ∨ shardNames.size > maxShardedFiles)
    (invalid "sharded_safetensors_shard_count_invalid")
  let shards ← shardNames.toList.foldlM (openShard h indexParent)
    { archives := [], labels := [], sources := [], shardByName := ∅, canonicalPaths := ∅ }
  return { indexSource, weightMap, declaredTotalSize, shards }

end

/-! ## The index against the shards -/

def checkShardTensors (weightMap : BTreeMap TensorId String) (labels : List String)
    (shard : SafeTensorArchive × Nat) : BrainResult Unit := do
  let label ← okOr labels[shard.2]? (integrity "sharded_safetensors_shard_label_missing")
  forM shard.1.tensors fun tensor =>
    failIf (weightMap[tensor.id]? ≠ some label)
      (integrity "sharded_safetensors_weight_map_tensor_mismatch")

def checkWeightMap (c : IndexedShards) : BrainResult Unit := do
  let actualTensorCount ← c.shards.archives.foldlM (fun total archive =>
    checkedAdd u64Width total archive.tensors.length
      (invalid "sharded_safetensors_tensor_count_overflow")) 0
  failIf (actualTensorCount ≠ c.weightMap.size)
    (integrity "sharded_safetensors_weight_map_not_bijective")
  forM c.shards.archives.zipIdx (checkShardTensors c.weightMap c.shards.labels)

structure ShardedTensorLocation where
  shardIndex : Nat
  tensorIndex : Nat
  spec : ModelTensorSpec
  deriving DecidableEq

def locateTensor (shards : OpenedShards) (entry : TensorId × String) :
    BrainResult ShardedTensorLocation := do
  let shardIndex ← okOr shards.shardByName[entry.2]?
    (integrity "sharded_safetensors_weight_map_shard_missing")
  let archive ← okOr shards.archives[shardIndex]? (integrity "sharded_safetensors_archive_missing")
  let tensorIndex ← okOr archive.index[entry.1]?
    (integrity "sharded_safetensors_weight_map_tensor_missing")
  let tensor ← okOr archive.tensors[tensorIndex]?
    (integrity "sharded_safetensors_tensor_index_invalid")
  return { shardIndex, tensorIndex, spec := tensor.spec }

def locateNext (shards : OpenedShards) (located : List ShardedTensorLocation × Nat)
    (entry : TensorId × String) : BrainResult (List ShardedTensorLocation × Nat) := do
  let location ← locateTensor shards entry
  let total ← checkedAdd u64Width located.2 location.spec.dataByteCount
    (invalid "sharded_safetensors_payload_size_overflow")
  return (located.1 ++ [location], total)

/-- The places of the tensors in the order of their names, and the size of their data. -/
def locateTensors (c : IndexedShards) : BrainResult (List ShardedTensorLocation × Nat) := do
  let located ← c.weightMap.toList.foldlM (locateNext c.shards) ([], 0)
  failIf (c.declaredTotalSize.any fun declared => declared != located.2)
    (integrity "sharded_safetensors_total_size_mismatch")
  return located

/-! ## The normalized checkpoint -/

def normalizedMetadata : Json :=
  .obj [("format", .str "pt"),
    ("tidex_normalization", .str "hf_safetensors_index_to_single_v1")]

def nextHeaderEntry (header : BTreeMap String Json × Nat) (spec : ModelTensorSpec) :
    BrainResult (BTreeMap String Json × Nat) := do
  let stop ← checkedAdd u64Width header.2 spec.dataByteCount
    (invalid "sharded_safetensors_normalized_size_overflow")
  return (header.1.insert spec.tensorId.asStr (tensorInfo spec.dtype spec.shape header.2 stop), stop)

def normalizedShardedHeader (specs : List ModelTensorSpec) : BrainResult ByteArray := do
  failIf (specs = [] ∨ specs.length > maxShardedTensors)
    (invalid "sharded_safetensors_tensor_count_invalid")
  let (entries, _) ← specs.foldlM nextHeaderEntry
    ((∅ : BTreeMap String Json).insert metadataKey normalizedMetadata, 0)
  let bytes := paddedHeader (.obj entries.toList)
  failIf (bytes.size = 0 ∨ bytes.size > maxSafetensorsHeaderBytes)
    (invalid "sharded_safetensors_normalized_header_invalid")
  return bytes

def copyLocated [Platform] (shards : OpenedShards) (location : ShardedTensorLocation) :
    BrainResult ByteArray := do
  let archive ← okOr shards.archives[location.shardIndex]?
    (integrity "sharded_safetensors_archive_missing")
  let tensor ← okOr archive.tensors[location.tensorIndex]?
    (integrity "sharded_safetensors_tensor_index_invalid")
  failIf (tensor.spec ≠ location.spec) (integrity "sharded_safetensors_tensor_changed_before_copy")
  archive.copyTensorBytes tensor

def writeNormalized [Platform] (shards : OpenedShards) (locations : List ShardedTensorLocation) :
    BrainResult ByteArray := do
  let header ← normalizedShardedHeader (locations.map ShardedTensorLocation.spec)
  let parts ← locations.mapM (copyLocated shards)
  return le64 header.size ++ header ++ joined parts

/-! ## The header of the normalized checkpoint -/

def normalizationMetadata : BTreeMap String String :=
  ofMembers [("format", "pt"), ("tidex_normalization", "hf_safetensors_index_to_single_v1")]

lemma metadataMember_normalization :
    metadataMember normalizationMetadata = (metadataKey, normalizedMetadata) := by
  have hlist : normalizationMetadata.toList =
      [("format", "pt"), ("tidex_normalization", "hf_safetensors_index_to_single_v1")] := by
    unfold normalizationMetadata ofMembers
    rw [toList_collect]
    · rfl
    · simp only [pairwise_cons, mem_cons, forall_eq_or_imp, not_mem_nil,
        IsEmpty.forall_iff, implies_true, and_true, Pairwise.nil]
      decide
  unfold metadataMember
  rw [hlist]
  rfl

lemma nextHeaderEntry_run {tensors : List ParsedTensor} {entries : BTreeMap String Json}
    {start stop : Nat} (hvalid : ∀ t ∈ tensors, t.Valid)
    (htiles : Tiles start (tensors.map span) stop) (hlt : stop < u64Width) :
    (tensors.map spec).foldlM nextHeaderEntry (entries, start) =
      .ok (tensors.foldl (fun m t => m.insert t.member.1 t.member.2) entries, stop) := by
  induction tensors generalizing entries start with
  | nil =>
    have hstop : start = stop := htiles
    rw [hstop]
    rfl
  | cons t tensors ih =>
    rw [forall_mem_cons] at hvalid
    obtain ⟨hfirst, -, hrest⟩ := htiles
    have hle := hrest.le
    have hspan := hvalid.1.size
    have hstart : t.dataStart = start := hfirst
    have hend : t.span.2 = t.dataEnd := rfl
    have hstep : nextHeaderEntry (entries, start) t.spec =
        .ok (entries.insert t.member.1 t.member.2, t.dataEnd) := by
      unfold nextHeaderEntry
      rw [bind_ok]
      refine ⟨t.dataEnd, checkedAdd_ok.mpr ⟨?_, ?_⟩, ?_⟩
      · dsimp only
        omega
      · dsimp only
        omega
      · rw [← hstart]
        rfl
    rw [map_cons, foldlM_cons, hstep, ok_bind, foldl_cons]
    exact ih hvalid.2 hrest

lemma normalizedShardedHeader_layout (l : Layout) (hmetadata : l.metadata = some normalizationMetadata)
    (hcount : l.tensors.length ≤ maxShardedTensors)
    (hsize : l.header.size ≤ maxSafetensorsHeaderBytes) :
    normalizedShardedHeader (l.tensors.map spec) = .ok l.header := by
  have hentries : l.tensors.foldl (fun m t => m.insert t.member.1 t.member.2)
      ((∅ : BTreeMap String Json).insert metadataKey normalizedMetadata) =
      ofMembers (headerMembers l.metadata l.tensors) := by
    unfold ofMembers collect headerMembers
    rw [hmetadata, Option.map_some, Option.toList_some, singleton_append, foldl_cons,
      metadataMember_normalization, foldl_map]
  have hne : l.tensors.map spec ≠ [] := by
    intro hempty
    exact l.tensors_ne (map_eq_nil_iff.mp hempty)
  have hheader : paddedHeader (.obj (ofMembers (headerMembers l.metadata l.tensors)).toList) =
      l.header := rfl
  unfold normalizedShardedHeader
  rw [bind_ok]
  refine ⟨(), failIf_ok.mpr ?_, ?_⟩
  · rw [length_map, not_or]
    exact ⟨hne, Nat.not_lt.mpr hcount⟩
  rw [nextHeaderEntry_run l.tensors_valid l.tiles l.stop_lt, ok_bind, hentries]
  dsimp only
  rw [hheader, bind_ok]
  refine ⟨(), failIf_ok.mpr ?_, rfl⟩
  have hpos := l.header_pos
  omega

end Tidex.Receiver
