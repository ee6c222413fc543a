/-
  Receiver.Runs — what a normalization makes of an indexed checkpoint.
-/
import Tidex.Receiver.Sharding

namespace Tidex.Receiver

open Tidex.Lib List Json Std.ExtTreeMap BTreeMap Sha256Digest Path SafeTensorArchive

/-! ## What a run leaves -/

section

variable [Platform] [JsonReader] {h h' : Host} {path : String} {bytes : ByteArray}

lemma openPath_confined_iff {a : SafeTensorArchive}
    (hcontent : h.files.content path = .ok bytes) : openPath h path = .ok a ↔
      (isAbsolute path = true ∧ .parentDir ∉ components path) ∧ parse bytes = .ok a := by
  obtain ⟨hcanonical, htype, hplain⟩ := h.confined hcontent
  unfold openPath
  simp only [bind_ok, canonicalExistingFile_ok, osResult_ok, hcanonical, Except.ok.injEq]
  constructor
  · intro hopen
    obtain ⟨canonical, ⟨hpath, rfl, -⟩, file, hfile, hparse⟩ := hopen
    rw [hplain] at hfile
    cases hfile
    exact ⟨hpath, hparse⟩
  · intro hopen
    obtain ⟨hpath, hparse⟩ := hopen
    exact ⟨path, ⟨hpath, rfl, htype⟩, bytes, hplain, hparse⟩

lemma openPath_confined {a : SafeTensorArchive} (hcontent : h.files.content path = .ok bytes)
    (hopen : openPath h path = .ok a) : parse bytes = .ok a :=
  ((openPath_confined_iff hcontent).mp hopen).2

variable {reference : PrivateFileReference}

lemma installNormalized_spec {inventory : ModelParameterInventory}
    (hinstall : installNormalized h bytes = .ok (h', reference, inventory)) :
    reference.sha256 = digestBytes bytes ∧
      reference.path = normalizedCheckpointPath h.root reference.sha256 ∧
      ∃ file a, h'.files.content reference.path = .ok file ∧
        parse file = .ok a ∧ inventory = a.inventory ∧
        (file = bytes ∨ (h.files.content reference.path = .ok file ∧
          digestBytes file = digestBytes bytes)) := by
  unfold installNormalized at hinstall
  simp only [bind_ok, pure_ok, Prod.mk.injEq] at hinstall
  obtain ⟨⟨middle, installed⟩, hlink, _, hverify, found, hinspect, rfl, rfl, rfl⟩ := hinstall
  unfold inspectModelSafetensors at hinspect
  simp only [bind_ok, pure_ok] at hinspect
  obtain ⟨a, hopen, rfl⟩ := hinspect
  refine ⟨rfl, rfl, ?_⟩
  rcases Host.installPrivateImmutableFile_ok hlink with ⟨rfl, -, rfl⟩ | ⟨rfl, rfl, existing, hfile⟩
  · have hcontent : (h.withFile (normalizedCheckpointPath h.root (digestBytes bytes))
        bytes).files.content (normalizedCheckpointPath h.root (digestBytes bytes)) =
        .ok bytes := Host.content_files_withFile
    exact ⟨bytes, a, hcontent, openPath_confined hcontent hopen, rfl, .inl rfl⟩
  · have hdigest : digestBytes existing = digestBytes bytes := by
      rw [cond_false] at hverify
      unfold verifyReference at hverify
      simp only [hfile, ok_bind, failIf_ok, not_not, ne_eq] at hverify
      exact hverify
    exact ⟨existing, a, hfile, openPath_confined hfile hopen, rfl, .inr ⟨hfile, hdigest⟩⟩

lemma recordNormalization_keeps {n : ShardedSafetensorsNormalization}
    (hrecord : recordNormalization h n = .ok (h', reference))
    (hcontent : h.files.content path = .ok bytes) : h'.files.content path = .ok bytes := by
  unfold recordNormalization Host.writeOrVerifyImmutable at hrecord
  simp only [bind_ok, pure_ok, Prod.mk.injEq] at hrecord
  obtain ⟨_, -, _, ⟨⟨middle, installed⟩, hlink, _, -, rfl⟩, _, -, _, -, _, -, rfl, -⟩ := hrecord
  rcases Host.installPrivateImmutableFile_ok hlink with ⟨-, habsent, hmiddle⟩ | ⟨-, hmiddle, -⟩
  · dsimp only at hmiddle ⊢
    rw [hmiddle, Host.content_files_withFile_of_ne]
    · exact hcontent
    · intro heq
      rw [heq, habsent] at hcontent
      cases hcontent
  · dsimp only at hmiddle ⊢
    rw [hmiddle]
    exact hcontent

/-- No other file with the digest of the normal form lies where it goes. -/
def CollisionFree (h : Host) (c : IndexedShards) : Prop :=
  ∀ bytes existing, c.normalized = .ok bytes →
    h.files.content (normalizedCheckpointPath h.root (digestBytes bytes)) =
      .ok existing →
    Set.InjOn Platform.sha256 {existing, bytes}

/-- What a run made of an indexed checkpoint. -/
structure NormalizedAs (c : IndexedShards) (file : ByteArray) : Prop where
  sound : c.shards.Sound
  bijection : c.placed.Perm c.weightMap.toList
  form : ∃ locations parts header, NormalForm c locations parts header file ∧
    ∃ a, SafeTensorArchive.parse file = .ok a ∧
      a.tensors.map ParsedTensor.spec = locations.map ShardedTensorLocation.spec

/-- A run leaves the normal form of the indexed checkpoint. -/
lemma normalize_spec {input : ShardedSafetensorsNormalizationInput}
    {receipt : ShardedSafetensorsNormalizationReceipt} {c : IndexedShards}
    (hrun : normalizeShardedSafetensors h input = .ok (h', receipt))
    (hopen : openIndexedShards h input.indexPath = .ok c) (hfree : CollisionFree h c) :
    ∃ file, h'.files.content receipt.normalization.normalizedCheckpoint.path = .ok file ∧
      NormalizedAs c file := by
  unfold normalizeShardedSafetensors at hrun
  simp only [hopen, ok_bind, bind_ok, failIf_ok, pure_ok, not_or, not_not, ne_eq,
    Prod.mk.injEq] at hrun
  obtain ⟨_, -, _, hcheck, ⟨locations, total⟩, hlocate, bytes, hwrite, ⟨middle, reference, inventory⟩,
    hinstall, _, ⟨-, hspecs⟩, ⟨last, recorded⟩, hrecord, rfl, rfl⟩ := hrun
  have hs := openIndexedShards_sound hopen
  obtain ⟨parts, header, hform⟩ := normalForm_of_write hs hlocate hwrite
  obtain ⟨hdigest, hpath, file, a, hcontent, hparse, hinventory, horigin⟩ :=
    installNormalized_spec hinstall
  have hnormalized : c.normalized = .ok bytes := by
    unfold IndexedShards.normalized
    rw [hlocate]
    exact hwrite
  have hfile : file = bytes := by
    rcases horigin with heq | ⟨hexisting, hsame⟩
    · exact heq
    · rw [hpath, hdigest] at hexisting
      have hinjective := hfree bytes file hnormalized hexisting
      exact hinjective (by simp) (by simp) hsame
  subst hfile
  obtain ⟨-, ha, -, -⟩ := parse_valid hparse
  refine ⟨file, recordNormalization_keeps hrecord hcontent, hs, checkWeightMap_perm hs hcheck,
    locations, parts, header, hform, a, hparse, ?_⟩
  rw [← ha.specs_eq, ← hinventory]
  exact hspecs

end

/-! ## One shard of one byte -/

open Tidex.Knowledge (byteSize_around byteSize_reference byteSize_toJson_nat_le
  byteSize_toJson_digest)

namespace Sample

attribute [local instance] Platform.reference JsonReader.exact

def tensorId : TensorId := ⟨"a.w", by decide⟩

def weight : ParsedTensor where
  spec := { tensorId := tensorId, dtype := "U8", shape := [1], parameterCount := 1, dataByteCount := 1 }
  dataStart := 0
  dataEnd := 1

def layout (metadata : Option (BTreeMap String String)) : Layout where
  metadata := metadata
  tensors := [weight]
  stop := 1
  tensors_ne := by decide
  tensors_valid := by
    intro t ht
    rw [List.mem_singleton] at ht
    subst ht
    exact ⟨⟨by decide, by decide, by decide, 8, by decide, by decide, by decide⟩, by decide⟩
  tiles := ⟨rfl, by decide, rfl⟩
  nodup := by decide
  counts_lt := by decide
  stop_lt := by decide

lemma readsHeader (metadata : Option (BTreeMap String String)) :
    ReadsHeader metadata (layout metadata).tensors :=
  read_padded _ _

def parts : List ByteArray := [⟨#[7]⟩]

def shardFile : ByteArray := (layout none).encode parts
def normalFile : ByteArray := (layout (some normalizationMetadata)).encode parts

def indexPath : String := "/m/model.safetensors.index.json"
def shardPath : String := "/m/a.safetensors"

def indexDocument : Json := .obj [("weight_map", .obj [("a.w", .str "a.safetensors")])]
def indexFile : ByteArray := indexDocument.toBytes ++ Json.spaces 1

def contents (path : String) : Except OsError ByteArray :=
  if path = indexPath then .ok indexFile
  else if path = shardPath then .ok shardFile
  else .error ⟨.notFound, "No such file or directory"⟩

def host : Host where
  root := "/r"
  files := { content := fun _ => .error (.io .notFound)
             capabilityBundle := fun _ => .error .json }
  canonicalize := fun path => (contents path).map fun _ => path
  fileType := fun path => (contents path).map fun _ => .file
  content := contents
  confined := by
    intro path bytes h
    cases h

lemma document_plain : headerDocument none [weight] = .obj [weight.member] := by
  unfold headerDocument headerMembers ofMembers
  rw [toList_collect]
  · rfl
  · exact pairwise_singleton _ _

lemma document_normal : headerDocument (some normalizationMetadata) [weight] =
    .obj [(metadataKey, normalizedMetadata), weight.member] := by
  unfold headerDocument headerMembers ofMembers
  rw [Option.map_some, Option.toList_some, metadataMember_normalization, toList_collect]
  · rfl
  · show Pairwise _ [(metadataKey, normalizedMetadata), weight.member]
    rw [pairwise_pair]
    decide

variable {metadata : Option (BTreeMap String String)}

lemma header_le {members : List (String × Json)}
    (h : headerDocument metadata [weight] = .obj members) (hsize : byteSize (.obj members) ≤ 1000) :
    (layout metadata).header.size ≤ 1008 := by
  unfold Layout.header paddedHeader
  show (_ ++ _ : ByteArray).size ≤ 1008
  have hdocument : headerDocument (layout metadata).metadata (layout metadata).tensors =
    .obj members := h
  rw [hdocument, ByteArray.size_append, size_spaces, size_toBytes]
  omega

lemma plain_le : (layout none).header.size ≤ 1008 :=
  header_le document_plain (by decide)

lemma normal_le : (layout (some normalizationMetadata)).header.size ≤ 1008 :=
  header_le document_normal (by decide +kernel)

lemma opens (hle : (layout metadata).header.size ≤ 1008) :
    ∃ a, parse ((layout metadata).encode parts) = .ok a ∧
      a.metadata = metadata ∧ a.tensors = [weight] ∧ a.tensors.map a.tensorBytes = parts := by
  have hstop : (layout metadata).stop = 1 := rfl
  refine (layout metadata).parse_written (readsHeader metadata) ?_ ?_ ?_
  · unfold maxSafetensorsHeaderBytes
    omega
  · unfold u64Width
    omega
  · rfl

lemma size_indexFile : indexFile.size = 39 := by
  unfold indexFile
  rw [ByteArray.size_append, size_spaces, size_toBytes]
  decide

def sampleIndex : HfSafetensorsIndex :=
  { metadata := ∅, weightMap := (∅ : BTreeMap TensorId String).insert tensorId "a.safetensors" }

lemma index_decodes : decodeIndex indexDocument.toValue = .ok sampleIndex := by
  have hentry : weightMapEntry ∅ ("a.w", .string "a.safetensors") = .ok sampleIndex.weightMap := by
    unfold weightMapEntry
    simp only [bind_ok, okOr_ok, failIf_ok, pure_ok]
    refine ⟨"a.safetensors", rfl, tensorId, rfl, (), ?_, rfl⟩
    rw [not_or]
    exact ⟨by decide, not_mem_empty⟩
  have hmap : strictWeightMap (.object [("a.w", .string "a.safetensors")]) =
      .ok sampleIndex.weightMap := by
    unfold strictWeightMap
    show [("a.w", JsonValue.string "a.safetensors")].foldlM weightMapEntry ∅ = _
    rw [foldlM_cons, hentry]
    rfl
  have hdocument : indexDocument.toValue =
      .object [("weight_map", .object [("a.w", .string "a.safetensors")])] := rfl
  rw [hdocument]
  unfold decodeIndex
  simp only [bind_ok, failIf_ok, okOr_ok, pure_ok]
  exact ⟨(), by decide, ∅, rfl, _, rfl, _, hmap, rfl⟩

noncomputable def indexSource : ShardedSafetensorsSourceFile :=
  { path := indexPath, sha256 := digestBytes indexFile, byteLen := 39 }

lemma index_read : readShardedIndexSource host indexPath = .ok (indexSource, sampleIndex) := by
  have hread : JsonReader.read indexFile = some indexDocument.toValue := read_padded _ _
  have hpath : canonicalExistingFile host indexPath = .ok indexPath := by
    rw [canonicalExistingFile_ok]
    exact ⟨by decide, rfl, rfl⟩
  have hcontent : osResult (host.content indexPath) = .ok indexFile := rfl
  unfold readShardedIndexSource
  simp only [bind_ok, failIf_ok, okOr_ok, pure_ok]
  refine ⟨indexPath, hpath, (), by decide, indexFile, hcontent, (), ?_, _, hread, sampleIndex,
    index_decodes, ?_⟩
  · rw [size_indexFile]
    decide
  · rw [size_indexFile]
    rfl

lemma shard_path : canonicalShardFromIndex host "/m" "a.safetensors" = .ok shardPath := by
  decide

lemma shard_opens : ∃ a, openPath host shardPath = .ok a ∧
    parse shardFile = .ok a ∧ a.tensors = [weight] ∧ a.tensors.map a.tensorBytes = parts := by
  obtain ⟨a, hparse, -, htensors, hbytes⟩ := opens plain_le
  have hpath : canonicalExistingFile host shardPath = .ok shardPath := by
    rw [canonicalExistingFile_ok]
    exact ⟨by decide, rfl, rfl⟩
  refine ⟨a, ?_, hparse, htensors, hbytes⟩
  unfold openPath
  simp only [bind_ok]
  exact ⟨shardPath, hpath, shardFile, rfl, hparse⟩

noncomputable def opened (a : SafeTensorArchive) : IndexedShards where
  indexSource := indexSource
  weightMap := sampleIndex.weightMap
  declaredTotalSize := none
  shards := {
    archives := [a]
    labels := ["a.safetensors"]
    sources := [{ path := shardPath, sha256 := a.inventory.modelSha256
                  byteLen := a.inventory.modelByteLen }]
    shardByName := (∅ : BTreeMap String Nat).insert "a.safetensors" 0
    canonicalPaths := (∅ : BTreeSet String).insert shardPath }

lemma toList_weightMap : sampleIndex.weightMap.toList = [(tensorId, "a.safetensors")] :=
  toList_insert_empty _ _

lemma indexed_opens {a : SafeTensorArchive} (ha : openPath host shardPath = .ok a) :
    openIndexedShards host indexPath = .ok (opened a) := by
  have hvalues : BTreeMap.values sampleIndex.weightMap = ["a.safetensors"] := by
    unfold BTreeMap.values
    rw [toList_weightMap]
    rfl
  have hnames : (BTreeSet.extend ∅ (BTreeMap.values sampleIndex.weightMap)).toList =
      ["a.safetensors"] := by
    rw [hvalues]
    exact toList_insert_empty "a.safetensors"
  have hsize : sampleIndex.weightMap.size = 1 := by
    rw [← length_toList, toList_weightMap]
    rfl
  have hcount : (BTreeSet.extend ∅ (BTreeMap.values sampleIndex.weightMap)).size = 1 := by
    rw [← Std.ExtTreeSet.length_toList, hnames]
    rfl
  have hshard : openShard host "/m" ⟨[], [], [], ∅, ∅⟩ "a.safetensors" = .ok (opened a).shards := by
    unfold openShard
    simp only [bind_ok, failIf_ok, pure_ok]
    exact ⟨shardPath, shard_path, (), Std.ExtTreeSet.not_mem_empty, a, ha, rfl⟩
  unfold openIndexedShards
  simp only [bind_ok, failIf_ok, okOr_ok, pure_ok, not_or]
  refine ⟨(indexSource, sampleIndex), index_read, (), ⟨?_, ?_⟩, none, rfl, "/m", by decide, (), ⟨?_, ?_⟩,
    (opened a).shards, ?_, rfl⟩
  · rw [isEmpty_eq_size_beq_zero, hsize]
    decide
  · rw [hsize]
    decide
  · rw [Std.ExtTreeSet.isEmpty_eq_size_beq_zero, hcount]
    decide
  · rw [hcount]
    decide
  · rw [hnames, foldlM_cons, hshard]
    rfl

variable {a : SafeTensorArchive}

lemma checks (ha : a.tensors = [weight]) : checkWeightMap (opened a) = .ok () := by
  have hsize : sampleIndex.weightMap.size = 1 := by
    rw [← length_toList, toList_weightMap]
    rfl
  have hlookup : sampleIndex.weightMap[tensorId]? = some "a.safetensors" := by
    rw [← mem_toList_iff (p := (tensorId, "a.safetensors")), toList_weightMap]
    exact mem_singleton_self _
  have hone : checkShardTensors sampleIndex.weightMap ["a.safetensors"] (a, 0) = .ok () := by
    unfold checkShardTensors
    simp only [bind_ok, okOr_ok]
    refine ⟨"a.safetensors", rfl, ?_⟩
    rw [forM_ok]
    intro t ht
    rw [ha, mem_singleton] at ht
    rw [ht, failIf_ok, not_not]
    exact hlookup
  unfold checkWeightMap
  simp only [bind_ok, failIf_ok, forM_ok]
  refine ⟨1, ?_, (), ?_, ?_⟩
  · show (checkedAdd u64Width 0 a.tensors.length _ >>= fun total => pure total) = _
    rw [ha]
    rfl
  · exact not_not.mpr hsize.symm
  · intro shard hshard
    have hentry : shard = (a, 0) := mem_singleton.mp hshard
    rw [hentry]
    exact hone

def location : ShardedTensorLocation := { shardIndex := 0, tensorIndex := 0, spec := weight.spec }

lemma locates (ha : a.Valid) (htensors : a.tensors = [weight]) :
    locateTensors (opened a) = .ok ([location], 1) := by
  have hindex : a.index[tensorId]? = some 0 := by
    rw [ha.index_eq, htensors]
    have hnodup : ([(weight, 0)].map fun entry : ParsedTensor × Nat => entry.1.id).Nodup :=
      nodup_singleton _
    exact getElem?_collect_of_mem (x := (weight, 0)) hnodup (mem_singleton_self _)
  have hname : (opened a).shards.shardByName["a.safetensors"]? = some 0 :=
    getElem?_insert_self
  have hone : locateTensor (opened a).shards (tensorId, "a.safetensors") = .ok location := by
    unfold locateTensor
    simp only [bind_ok, okOr_ok, pure_ok]
    refine ⟨0, hname, a, rfl, 0, hindex, weight, ?_, rfl⟩
    rw [htensors]
    rfl
  have hnext : locateNext (opened a).shards ([], 0) (tensorId, "a.safetensors") =
      .ok ([location], 1) := by
    unfold locateNext
    rw [hone]
    rfl
  unfold locateTensors
  have hlist : (opened a).weightMap.toList = [(tensorId, "a.safetensors")] := toList_weightMap
  rw [hlist, foldlM_cons, hnext]
  rfl

lemma writes (ha : a.Valid) (hdigests : a.Digested) (htensors : a.tensors = [weight])
    (hbytes : a.tensors.map a.tensorBytes = parts) :
    writeNormalized (opened a).shards [location] = .ok normalFile := by
  have hheader := normalizedShardedHeader_layout (layout (some normalizationMetadata)) rfl
    (by decide) (by have := normal_le; unfold maxSafetensorsHeaderBytes; omega)
  have hpart : a.tensorBytes weight = ⟨#[7]⟩ := by
    rw [htensors] at hbytes
    exact (cons.inj hbytes).1
  have hmem : weight ∈ a.tensors := htensors ▸ mem_singleton_self _
  have hcopy : copyLocated (opened a).shards location = .ok ⟨#[7]⟩ := by
    have hle := ha.header_le
    have hlt := ha.size_lt
    have hstart : weight.dataStart = 0 := rfl
    unfold copyLocated copyTensorBytes
    simp only [bind_ok, okOr_ok, failIf_ok, checkedAdd_ok, pure_ok]
    refine ⟨a, rfl, weight, ?_, (), not_not.mpr rfl, _, ⟨by omega, rfl⟩, (),
      verifyConsumedTensor_ok hdigests hmem, hpart⟩
    rw [htensors]
    rfl
  have hspecs : [location].map ShardedTensorLocation.spec =
      (layout (some normalizationMetadata)).tensors.map ParsedTensor.spec := rfl
  unfold writeNormalized
  rw [hspecs, hheader, ok_bind, mapM_cons, hcopy]
  rfl

lemma push_plain {path : String} (hne : path.toList.isEmpty = false)
    (hend : path.toList.getLast? ≠ some '/') (name : String) :
    push path name = path ++ "/" ++ name := by
  unfold push
  rw [if_neg (by rw [hne]; decide), if_neg hend]

lemma path_plain {folder extension : String} (digest : Sha256Digest)
    (habsolute : folder.toList.head? = some '/') (hfolder : folder.toList.count '.' = 0)
    (hextension : extension.toList.count '.' = 1) :
    isAbsolute (folder ++ digest.hex ++ extension) = true ∧
      .parentDir ∉ components (folder ++ digest.hex ++ extension) := by
  constructor
  · unfold isAbsolute
    rw [String.toList_append, String.toList_append, append_assoc, head?_append, habsolute]
    rfl
  · apply not_mem_components_parentDir
    rw [String.toList_append, String.toList_append, count_append, count_append, hfolder,
      hextension, count_eq_zero.mpr (Knowledge.Sha256Digest.dot_not_mem digest)]

lemma normalizedCheckpointPath_eq (digest : Sha256Digest) :
    normalizedCheckpointPath "/r" digest =
      "/r/artifacts/models/by-sha/" ++ digest.hex ++ ".safetensors" := by
  have hfolder : push "/r" "artifacts/models/by-sha" = "/r/artifacts/models/by-sha" := by decide
  unfold normalizedCheckpointPath
  rw [hfolder, push_plain (by decide) (by decide), ← String.append_assoc]
  rfl

lemma shardedNormalizationPath_eq (digest : Sha256Digest) :
    shardedNormalizationPath "/r" digest =
      "/r/state/model_normalizations/sharded-safetensors/by-sha/" ++ digest.hex ++ ".json" := by
  have hfolder : push "/r" "state/model_normalizations/sharded-safetensors/by-sha" =
    "/r/state/model_normalizations/sharded-safetensors/by-sha" := by decide
  unfold shardedNormalizationPath
  rw [hfolder, push_plain (by decide) (by decide), ← String.append_assoc]
  rfl

noncomputable def reference : PrivateFileReference :=
  { path := normalizedCheckpointPath "/r" (digestBytes normalFile)
    sha256 := digestBytes normalFile }

lemma reference_plain : isAbsolute reference.path = true ∧
    .parentDir ∉ components reference.path := by
  unfold reference
  rw [normalizedCheckpointPath_eq]
  exact path_plain _ (by decide) (by decide) (by decide)

noncomputable def inventory : ModelParameterInventory where
  schema := modelParameterInventorySchema
  modelSha256 := reference.sha256
  modelByteLen := normalFile.size
  tensorCount := 1
  totalParameterCount := 1
  tensors := [weight.spec]

lemma normal_opens {h : Host} (hcontent : h.files.content reference.path = .ok normalFile) :
    inspectModelSafetensors h reference.path = .ok inventory := by
  obtain ⟨b, hparse, -, htensors, -⟩ := opens normal_le
  obtain ⟨hfile, hvalid, hdigested, -⟩ := parse_valid hparse
  have hopen := (openPath_confined_iff hcontent).mpr ⟨reference_plain, hparse⟩
  have hmodel : b.inventory.modelSha256 = digestBytes normalFile := by
    rw [hdigested.model, hfile]
    rfl
  have hlength : b.inventory.modelByteLen = normalFile.size := by
    rw [hvalid.byteLen_eq, hfile]
    rfl
  have hcount : b.inventory.tensorCount = 1 := by
    rw [hvalid.count_eq, htensors]
    rfl
  have htotal : b.inventory.totalParameterCount = 1 := by
    rw [hvalid.total_eq, htensors]
    rfl
  have hspecs : b.inventory.tensors = [weight.spec] := by
    rw [hvalid.specs_eq, htensors]
    rfl
  have hinventory : b.inventory = inventory := by
    have heta : b.inventory = ⟨b.inventory.schema, b.inventory.modelSha256,
      b.inventory.modelByteLen, b.inventory.tensorCount, b.inventory.totalParameterCount,
      b.inventory.tensors⟩ := rfl
    rw [heta, hvalid.schema_eq, hmodel, hlength, hcount, htotal, hspecs]
    rfl
  unfold inspectModelSafetensors
  rw [hopen, ok_bind, hinventory]
  rfl

lemma size_normalFile : 0 < normalFile.size ∧ normalFile.size < 10 ^ 4 := by
  have hsize : ((layout (some normalizationMetadata)).encode parts).size = _ :=
    (layout (some normalizationMetadata)).size_encode rfl
  have hle := normal_le
  have hstop : (layout (some normalizationMetadata)).stop = 1 := rfl
  unfold normalFile
  omega

noncomputable def record (source : ShardedSafetensorsSourceFile) :
    ShardedSafetensorsNormalization where
  schema := shardedSafetensorsNormalizationSchema
  index := indexSource
  shards := [source]
  weightMapEntryCount := 1
  sourceTensorByteCount := 1
  normalizedCheckpoint := reference
  normalizedInventory := inventory
  tensorPayloadsPreservedExactly := true
  authorizesBehavioralEquivalence := false
  authorizesPromotion := false

variable {source : ShardedSafetensorsSourceFile}

lemma record_validates {h : Host} (hroot : h.root = "/r")
    (hcontent : h.files.content reference.path = .ok normalFile)
    (hpath : source.path = shardPath) (hlen : source.byteLen ≠ 0) :
    validateNormalizationContract h (record source) = .ok () := by
  have hverify : verifyReference h (record source).normalizedCheckpoint = .ok () := by
    unfold verifyReference
    show (h.files.content reference.path >>= _) = _
    rw [hcontent, ok_bind, failIf_ok]
    exact not_not.mpr rfl
  have habsolute : isAbsolute source.path = true := by
    rw [hpath]
    decide
  have hname : isShardedSafetensorsIndex indexPath = true := by decide
  unfold validateNormalizationContract
  simp only [bind_ok, failIf_ok]
  refine ⟨(), ?_, (), ?_, 1, rfl, (), not_not.mpr rfl, (), hverify, _, normal_opens hcontent,
    not_not.mpr rfl⟩
  · simp [record, hroot, indexSource, hname, maxShardedIndexBytes, maxShardedFiles,
      maxShardedTensors, inventory, reference]
  · simp [record, unordered, habsolute, hlen]

lemma size_source (hpath : source.path = shardPath) (hlen : source.byteLen < 10 ^ 4) :
    (toJson source).byteSize ≤ 200 := by
  have hmembers : toJson source = .obj [("path", toJson source.path),
    ("sha256", toJson source.sha256), ("byte_len", toJson source.byteLen)] := rfl
  have hlength := byteSize_toJson_nat_le (by decide) hlen
  have hname : (toJson shardPath).byteSize = 18 := by decide
  have hkeys : textSize (quote "path") + textSize (quote "sha256") +
    textSize (quote "byte_len") = 24 := by decide
  rw [hmembers, byteSize_obj _ (cons_ne_nil _ _)]
  simp only [membersSize, map_cons, map_nil, sum_cons, sum_nil,
    byteSize_toJson_digest, hpath, hname]
  omega

lemma size_reference : (toJson reference).byteSize ≤ 300 := by
  have hbefore : (toJson "/r/artifacts/models/by-sha/").byteSize = 29 := by decide
  have hafter : (toJson ".safetensors").byteSize = 14 := by decide
  have hreference : toJson reference = toJson (⟨_, _⟩ : PrivateFileReference) := rfl
  rw [hreference, byteSize_reference, normalizedCheckpointPath_eq, byteSize_around, hbefore, hafter]
  omega

lemma size_inventory : (toJson inventory).byteSize ≤ 1000 := by
  have hmembers : toJson inventory = .obj [("schema", toJson modelParameterInventorySchema),
    ("model_sha256", toJson reference.sha256), ("model_byte_len", toJson normalFile.size),
    ("tensor_count", toJson 1), ("total_parameter_count", toJson 1),
    ("tensors", toJson [weight.spec])] := rfl
  have hlength := byteSize_toJson_nat_le (by decide) size_normalFile.2
  have hrest : textSize (quote "schema") + textSize (quote "model_sha256") +
    textSize (quote "model_byte_len") + textSize (quote "tensor_count") +
    textSize (quote "total_parameter_count") + textSize (quote "tensors") +
    (toJson modelParameterInventorySchema).byteSize + 2 * (toJson 1).byteSize +
    (toJson [weight.spec]).byteSize ≤ 400 := by decide +kernel
  rw [hmembers, byteSize_obj _ (cons_ne_nil _ _)]
  simp only [membersSize, map_cons, map_nil, sum_cons, sum_nil, byteSize_toJson_digest]
  omega

lemma record_le (hpath : source.path = shardPath) (hlen : source.byteLen < 10 ^ 4) :
    (toVec (record source)).size ≤ maxNormalizationRecordBytes := by
  have hmembers : toJson (record source) = .obj [
    ("schema", toJson shardedSafetensorsNormalizationSchema), ("index", toJson indexSource),
    ("shards", .arr [toJson source]), ("weight_map_entry_count", toJson 1),
    ("source_tensor_byte_count", toJson 1), ("normalized_checkpoint", toJson reference),
    ("normalized_inventory", toJson inventory),
    ("tensor_payloads_preserved_exactly", toJson true),
    ("authorizes_behavioral_equivalence", toJson false),
    ("authorizes_promotion", toJson false)] := rfl
  have hindexMembers : toJson indexSource = .obj [("path", toJson indexPath),
    ("sha256", toJson indexSource.sha256), ("byte_len", toJson 39)] := rfl
  have hindex : (toJson indexSource).byteSize ≤ 200 := by
    have hrest : textSize (quote "path") + textSize (quote "sha256") +
      textSize (quote "byte_len") + (toJson indexPath).byteSize +
      (toJson 39).byteSize ≤ 100 := by decide
    rw [hindexMembers, byteSize_obj _ (cons_ne_nil _ _)]
    simp only [membersSize, map_cons, map_nil, sum_cons, sum_nil, byteSize_toJson_digest]
    omega
  have hsource := size_source hpath hlen
  have hreference := size_reference
  have hinventory := size_inventory
  have hrest : textSize (quote "schema") + textSize (quote "index") +
    textSize (quote "shards") + textSize (quote "weight_map_entry_count") +
    textSize (quote "source_tensor_byte_count") +
    textSize (quote "normalized_checkpoint") +
    textSize (quote "normalized_inventory") +
    textSize (quote "tensor_payloads_preserved_exactly") +
    textSize (quote "authorizes_behavioral_equivalence") +
    textSize (quote "authorizes_promotion") +
    (toJson shardedSafetensorsNormalizationSchema).byteSize + 2 * (toJson 1).byteSize +
    (toJson true).byteSize + 2 * (toJson false).byteSize ≤ 1000 := by decide +kernel
  rw [toVec, size_toBytes, hmembers, byteSize_obj _ (cons_ne_nil _ _)]
  simp only [membersSize, map_cons, map_nil, sum_cons, sum_nil,
    byteSize_arr _ (cons_ne_nil _ _), elementsSize]
  unfold maxNormalizationRecordBytes
  omega

noncomputable def installed : Host := host.withFile reference.path normalFile

lemma installs : installNormalized host normalFile = .ok (installed, reference, inventory) := by
  have hlink : host.installPrivateImmutableFile reference.path normalFile =
      .ok (installed, true) := rfl
  have hinspect := normal_opens (h := installed) Host.content_files_withFile
  unfold installNormalized
  simp only [bind_ok, pure_ok]
  exact ⟨(installed, true), hlink, (), rfl, inventory, hinspect, rfl⟩

noncomputable def recordReference (source : ShardedSafetensorsSourceFile) :
    PrivateFileReference where
  path := shardedNormalizationPath "/r" (digestBytes (toVec (record source)))
  sha256 := digestBytes (toVec (record source))

lemma paths_ne : (recordReference source).path ≠ reference.path := by
  unfold recordReference reference
  rw [normalizedCheckpointPath_eq, shardedNormalizationPath_eq]
  intro heq
  have hchars := congrArg (fun path => path.toList.take 4) heq
  simp only [String.toList_append, append_assoc] at hchars
  rw [take_append_of_le_length (by decide), take_append_of_le_length (by decide)] at hchars
  exact absurd hchars (by decide)

lemma records (hpath : source.path = shardPath) (hpos : source.byteLen ≠ 0)
    (hlen : source.byteLen < 10 ^ 4) : recordNormalization installed (record source) =
      .ok (installed.withFile (recordReference source).path (toVec (record source)),
        recordReference source) := by
  have hcontent : installed.files.content reference.path = .ok normalFile :=
    Host.content_files_withFile
  have habsent : installed.files.content (recordReference source).path = .error (.io .notFound) :=
    Host.content_files_withFile_of_ne paths_ne
  have hlink : installed.installPrivateImmutableFile (recordReference source).path
      (toVec (record source)) =
      .ok (installed.withFile (recordReference source).path (toVec (record source)), true) := by
    unfold Host.installPrivateImmutableFile
    rw [habsent]
  have hkept : (installed.withFile (recordReference source).path
      (toVec (record source))).files.content reference.path = .ok normalFile := by
    rw [Host.content_files_withFile_of_ne paths_ne.symm]
    exact hcontent
  have hread : (recordReference source).readVerifiedBounded
      (installed.withFile (recordReference source).path (toVec (record source))).files
      maxNormalizationRecordBytes = .ok (toVec (record source)) := by
    rw [readVerifiedBounded_ok]
    exact ⟨Host.content_files_withFile, record_le hpath hlen, rfl⟩
  have hauthentic : authenticateShardedSafetensorsNormalization
      (installed.withFile (recordReference source).path (toVec (record source)))
      (recordReference source) = .ok (record source) := by
    unfold authenticateShardedSafetensorsNormalization
    simp only [bind_ok, failIf_ok, pure_ok]
    have hroot : (installed.withFile (recordReference source).path
      (toVec (record source))).root = "/r" := rfl
    rw [hroot]
    exact ⟨(), not_not.mpr rfl, _, hread, record source, fromSlice_toVec (decodesCanonical_reference _), (),
      not_not.mpr rfl, (), record_validates rfl hkept hpath hpos, rfl⟩
  unfold recordNormalization Host.writeOrVerifyImmutable
  simp only [bind_ok, failIf_ok, pure_ok]
  exact ⟨(), record_validates rfl hcontent hpath hpos, _, ⟨_, hlink, (), rfl, rfl⟩, (),
    not_not.mpr rfl, record source, hauthentic, (), not_not.mpr rfl, rfl⟩

def input : ShardedSafetensorsNormalizationInput where
  schema := shardedSafetensorsNormalizationInputSchema
  indexPath := indexPath

def shardSource (a : SafeTensorArchive) : ShardedSafetensorsSourceFile where
  path := shardPath
  sha256 := a.inventory.modelSha256
  byteLen := a.inventory.modelByteLen

lemma runs : ∃ c h' receipt, openIndexedShards host input.indexPath = .ok c ∧
    normalizeShardedSafetensors host input = .ok (h', receipt) := by
  obtain ⟨a, hopen, hparse, htensors, hbytes⟩ := shard_opens
  obtain ⟨hfile, hvalid, hdigested, -⟩ := parse_valid hparse
  have hsize : 0 < (shardSource a).byteLen ∧ (shardSource a).byteLen < 10 ^ 4 := by
    have hlength : (shardSource a).byteLen = shardFile.size := by
      rw [← hfile]
      exact hvalid.byteLen_eq
    have hencode : shardFile.size = 8 + (layout none).header.size + (layout none).stop :=
      (layout none).size_encode rfl
    have hle := plain_le
    have hstop : (layout none).stop = 1 := rfl
    omega
  have hopened := indexed_opens hopen
  have hwrites := writes hvalid hdigested htensors hbytes
  have hrecord := records rfl hsize.1.ne' hsize.2
  refine ⟨opened a,
    installed.withFile (recordReference (shardSource a)).path (toVec (record (shardSource a))),
    ⟨shardedSafetensorsNormalizationReceiptSchema, record (shardSource a),
      recordReference (shardSource a), false⟩, hopened, ?_⟩
  unfold normalizeShardedSafetensors
  simp only [bind_ok, failIf_ok, pure_ok]
  exact ⟨(), not_not.mpr rfl, opened a, hopened, (), checks htensors, _, locates hvalid htensors,
    normalFile, hwrites, _, installs, (), by simp [inventory, reference, location], _, hrecord, rfl⟩

lemma collisionFree (c : IndexedShards) : CollisionFree host c := by
  intro bytes existing _ hstored
  cases hstored

end Sample

end Tidex.Receiver
