/-
  Receiver.SafeTensors — one checkpoint file and what opening it checks.
-/
import Tidex.Foundation.Names
import Tidex.Lib.Bytes
import Tidex.Lib.JsonValue
import Tidex.Receiver.Host

namespace Tidex.Receiver

open Tidex.Lib List Sha256Digest ByteArray

/-! ## Specifications of tensors -/

/-- The number of values of an unsigned machine word. -/
def u64Width : Nat := 2 ^ 64

def maxSafetensorsHeaderBytes : Nat := 100000000

structure ModelTensorSpec where
  tensorId : TensorId
  dtype : String
  shape : List Nat
  parameterCount : Nat
  dataByteCount : Nat
  deriving DecidableEq

structure ModelParameterInventory where
  schema : String
  modelSha256 : Sha256Digest
  modelByteLen : Nat
  tensorCount : Nat
  totalParameterCount : Nat
  /-- In the order of the data. -/
  tensors : List ModelTensorSpec
  deriving DecidableEq

instance : Serialize ModelTensorSpec where
  toJson s := .obj [("tensor_id", toJson s.tensorId), ("dtype", toJson s.dtype),
    ("shape", toJson s.shape), ("parameter_count", toJson s.parameterCount),
    ("data_byte_count", toJson s.dataByteCount)]

instance : Serialize ModelParameterInventory where
  toJson i := .obj [("schema", toJson i.schema), ("model_sha256", toJson i.modelSha256),
    ("model_byte_len", toJson i.modelByteLen), ("tensor_count", toJson i.tensorCount),
    ("total_parameter_count", toJson i.totalParameterCount), ("tensors", toJson i.tensors)]

def modelParameterInventorySchema : String := "tidex.model_parameter_inventory/v1"

def dtypeBits (dtype : String) : Option Nat :=
  if dtype = "F4" then some 4
  else if dtype ∈ ["F6_E2M3", "F6_E3M2"] then some 6
  else if dtype ∈ ["BOOL", "U8", "I8", "F8_E5M2", "F8_E4M3", "F8_E8M0", "F8_E4M3FNUZ",
    "F8_E5M2FNUZ"] then some 8
  else if dtype ∈ ["I16", "U16", "F16", "BF16"] then some 16
  else if dtype ∈ ["I32", "U32", "F32"] then some 32
  else if dtype ∈ ["C64", "F64", "I64", "U64"] then some 64
  else none

def checkedParameterCount (shape : List Nat) : BrainResult Nat := do
  failIf (shape = [] ∨ 0 ∈ shape) (invalid "safetensors_tensor_shape_invalid")
  shape.foldlM (fun total value =>
    checkedMul u64Width total value (invalid "safetensors_tensor_shape_overflow")) 1

def parseShape (value : JsonValue) : BrainResult (List Nat) := do
  let array ← okOr value.asArray (integrity "safetensors_tensor_shape_not_array")
  let shape ← array.mapM fun dimension =>
    okOr dimension.asU64 (integrity "safetensors_tensor_dimension_invalid")
  let _ ← checkedParameterCount shape
  return shape

def parseOffsets (value : JsonValue) : BrainResult (Nat × Nat) := do
  let array ← okOr (value.asArray.filter fun values => values.length == 2)
    (integrity "safetensors_tensor_offsets_invalid")
  let start ← okOr (array[0]?.bind JsonValue.asU64)
    (integrity "safetensors_tensor_offset_invalid")
  let stop ← okOr (array[1]?.bind JsonValue.asU64)
    (integrity "safetensors_tensor_offset_invalid")
  failIf (stop < start) (integrity "safetensors_tensor_offsets_reversed")
  return (start, stop)

/-! ## The header -/

/-- A tensor and where its bytes begin and end, counted from the end of the header. -/
structure ParsedTensor where
  spec : ModelTensorSpec
  dataStart : Nat
  dataEnd : Nat
  deriving DecidableEq

def ParsedTensor.span (t : ParsedTensor) : Nat × Nat := (t.dataStart, t.dataEnd)

def ParsedTensor.id (t : ParsedTensor) : TensorId := t.spec.tensorId

def metadataKey : String := "__metadata__"

def parseMetadata (object : BTreeMap String JsonValue) :
    BrainResult (Option (BTreeMap String String)) :=
  match object[metadataKey]? with
  | none => return none
  | some value => do
    let object ← okOr value.asObject (integrity "safetensors_metadata_not_object")
    let entries ← object.toList.mapM fun entry => do
      let text ← okOr entry.2.asStr (integrity "safetensors_metadata_value_not_string")
      return (entry.1, text)
    return some (ofMembers entries)

def parseTensor (entry : String × JsonValue) : BrainResult ParsedTensor := do
  let tensorId ← TensorId.parse entry.1
  let tensor ← okOr entry.2.asObject (integrity "safetensors_tensor_info_not_object")
  failIf (tensor.keys ≠ ["data_offsets", "dtype", "shape"])
    (integrity ("safetensors_tensor_info_fields_invalid:" ++ tensorId.asStr))
  let dtype ← okOr (tensor["dtype"]?.bind JsonValue.asStr)
    (integrity "safetensors_tensor_dtype_invalid")
  let bits ← okOr (dtypeBits dtype) (integrity ("safetensors_dtype_unsupported:" ++ dtype))
  let shape ← okOr tensor["shape"]? (integrity "safetensors_tensor_shape_missing")
  let shape ← parseShape shape
  let parameterCount ← checkedParameterCount shape
  let offsets ← okOr tensor["data_offsets"]? (integrity "safetensors_tensor_offsets_missing")
  let (start, stop) ← parseOffsets offsets
  let bitCount ← checkedMul u64Width parameterCount bits
    (invalid "safetensors_tensor_byte_count_overflow")
  failIf (bitCount % 8 ≠ 0) (integrity "safetensors_tensor_subbyte_misaligned")
  let dataByteCount := bitCount / 8
  failIf (stop - start ≠ dataByteCount)
    (integrity ("safetensors_tensor_byte_count_mismatch:" ++ tensorId.asStr))
  return { spec := { tensorId, dtype, shape, parameterCount, dataByteCount }
           dataStart := start
           dataEnd := stop }

/-- The order in which the data of two tensors lies. -/
def ParsedTensor.before (a b : ParsedTensor) : Prop :=
  a.dataStart < b.dataStart ∨ (a.dataStart = b.dataStart ∧ a.dataEnd ≤ b.dataEnd)

instance : DecidableRel ParsedTensor.before := fun _ _ => inferInstanceAs (Decidable (_ ∨ _))

/-- What the pass over the sorted tensors has seen. -/
structure TensorScan where
  expectedStart : Nat
  ids : BTreeSet TensorId
  totalParameterCount : Nat

def scanTensor (s : TensorScan) (tensor : ParsedTensor) : BrainResult TensorScan := do
  failIf (tensor.dataStart ≠ s.expectedStart ∨ tensor.id ∈ s.ids)
    (integrity "safetensors_offsets_or_tensor_identity_invalid")
  let total ← checkedAdd u64Width s.totalParameterCount tensor.spec.parameterCount
    (invalid "safetensors_total_parameter_count_overflow")
  return { expectedStart := tensor.dataEnd
           ids := s.ids.insert tensor.id
           totalParameterCount := total }

/-! ## Archives -/

/-- An open checkpoint: its bytes, and what one pass over them authenticated. -/
structure SafeTensorArchive where
  file : ByteArray
  dataStart : Nat
  metadata : Option (BTreeMap String String)
  tensors : List ParsedTensor
  index : BTreeMap TensorId Nat
  inventory : ModelParameterInventory
  tensorSha256 : BTreeMap TensorId Sha256Digest

def readSizes (file : ByteArray) (position : Nat) (sizes : List Nat) : List ByteArray :=
  match sizes with
  | [] => []
  | size :: sizes =>
    file.extract position (position + size) :: readSizes file (position + size) sizes

namespace SafeTensorArchive

section

variable [Platform] [JsonReader]

/-- The document of a header, whose members are taken by name. -/
def readHeader (header : ByteArray) : BrainResult (BTreeMap String JsonValue) := do
  let value ← okOr (JsonReader.read header) .json
  let object ← okOr value.asObject (integrity "safetensors_header_not_object")
  failIf (object.isEmpty) (integrity "safetensors_header_empty")
  return object

/-- The archive of accepted tensors: its digests are of the header that was read and of
    the bytes in physical order. -/
def authenticated (file : ByteArray) (dataStart : Nat)
    (metadata : Option (BTreeMap String String)) (tensors : List ParsedTensor)
    (totalParameterCount : Nat) : SafeTensorArchive :=
  let headerLenRaw := file.extract 0 8
  let header := file.extract 8 dataStart
  let consumed := readSizes file dataStart (tensors.map fun tensor => tensor.spec.dataByteCount)
  { file := file
    dataStart := dataStart
    metadata := metadata
    tensors := tensors
    index := collect (fun entry => entry.1.id) Prod.snd tensors.zipIdx
    inventory := {
      schema := modelParameterInventorySchema
      modelSha256 := digestBytes (headerLenRaw ++ header ++ joined consumed)
      modelByteLen := file.size
      tensorCount := tensors.length
      totalParameterCount := totalParameterCount
      tensors := tensors.map ParsedTensor.spec }
    tensorSha256 := collect (fun entry => entry.1.id)
      (fun entry => digestBytes entry.2) (tensors.zip consumed) }

def parse (file : ByteArray) : BrainResult SafeTensorArchive := do
  failIf (file.size < 8) (.io .other)
  let headerLenRaw := file.extract 0 8
  let headerLen := ofLe headerLenRaw
  failIf (headerLen = 0 ∨ headerLen > maxSafetensorsHeaderBytes)
    (integrity "safetensors_header_size_invalid")
  let dataStart ← checkedAdd u64Width 8 headerLen (invalid "safetensors_header_offset_overflow")
  failIf (dataStart > file.size) (integrity "safetensors_header_exceeds_file")
  let header := file.extract 8 dataStart
  let object ← readHeader header
  let metadata ← parseMetadata object
  let parsed ← (object.toList.filter fun entry => entry.1 != metadataKey).mapM parseTensor
  failIf (parsed = []) (integrity "safetensors_tensor_set_empty")
  let tensors := parsed.insertionSort ParsedTensor.before
  let scan ← tensors.foldlM scanTensor
    { expectedStart := 0, ids := ∅, totalParameterCount := 0 }
  let total ← checkedAdd u64Width dataStart scan.expectedStart
    (invalid "safetensors_total_size_overflow")
  failIf (total ≠ file.size) (integrity "safetensors_data_does_not_cover_file")
  return authenticated file dataStart metadata tensors scan.totalParameterCount

def openPath (h : Host) (path : String) : BrainResult SafeTensorArchive := do
  let canonical ← canonicalExistingFile h path
  let file ← osResult (h.content canonical)
  parse file

end

/-- The bytes of a tensor, as a seek and a read of its size return them. -/
def tensorBytes (a : SafeTensorArchive) (tensor : ParsedTensor) : ByteArray :=
  a.file.extract (a.dataStart + tensor.dataStart)
    (a.dataStart + tensor.dataStart + tensor.spec.dataByteCount)

def tensor (a : SafeTensorArchive) (tensorId : TensorId) : BrainResult ParsedTensor := do
  let index ← okOr a.index[tensorId]? (invalid ("model_tensor_not_found:" ++ tensorId.asStr))
  okOr a.tensors[index]? (integrity "model_tensor_index_invalid")

/-- The bytes that were read are those that opening authenticated. -/
def verifyConsumedTensor [Platform] (a : SafeTensorArchive) (tensor : ParsedTensor)
    (consumed : ByteArray) : BrainResult Unit := do
  let expected ← okOr a.tensorSha256[tensor.id]?
    (integrity "model_tensor_authenticated_digest_missing")
  failIf (digestBytes consumed ≠ expected)
    (integrity ("model_tensor_consumed_digest_mismatch:" ++ tensor.id.asStr))

def copyTensorBytes [Platform] (a : SafeTensorArchive) (tensor : ParsedTensor) :
    BrainResult ByteArray := do
  let _ ← checkedAdd u64Width a.dataStart tensor.dataStart (invalid "model_tensor_offset_overflow")
  let bytes := a.tensorBytes tensor
  a.verifyConsumedTensor tensor bytes
  return bytes

end SafeTensorArchive

/-! ## What an accepted file is -/

/-- A specification whose counts are those of its shape and type. -/
structure ModelTensorSpec.Valid (s : ModelTensorSpec) : Prop where
  shape_ne : s.shape ≠ []
  shape_pos : 0 ∉ s.shape
  count : s.parameterCount = s.shape.prod
  bytes : ∃ bits, dtypeBits s.dtype = some bits ∧ s.parameterCount * bits < u64Width ∧
    8 * s.dataByteCount = s.parameterCount * bits

lemma foldlM_checkedMul {shape : List Nat} {start count : Nat} {e : BrainError}
    (h : shape.foldlM (fun total value => checkedMul u64Width total value e) start = .ok count) :
    count = start * shape.prod := by
  induction shape generalizing start with
  | nil =>
    rw [foldlM_nil, pure_ok] at h
    rw [← h, prod_nil, Nat.mul_one]
  | cons dimension shape ih =>
    rw [foldlM_cons, bind_ok] at h
    obtain ⟨product, hproduct, hrest⟩ := h
    rw [checkedMul_ok] at hproduct
    rw [ih hrest, hproduct.2, prod_cons, Nat.mul_assoc]

lemma checkedParameterCount_spec {shape : List Nat} {count : Nat}
    (h : checkedParameterCount shape = .ok count) :
    shape ≠ [] ∧ 0 ∉ shape ∧ count = shape.prod := by
  unfold checkedParameterCount at h
  simp only [bind_ok, failIf_ok, not_or] at h
  obtain ⟨_, hshape, hfold⟩ := h
  have hcount := foldlM_checkedMul hfold
  rw [Nat.one_mul] at hcount
  exact ⟨hshape.1, hshape.2, hcount⟩

/-- What reading one entry of the header gives. -/
structure ParsedTensor.Valid (t : ParsedTensor) : Prop where
  spec : t.spec.Valid
  size : t.dataEnd = t.dataStart + t.spec.dataByteCount

lemma parseTensor_spec {entry : String × JsonValue} {t : ParsedTensor}
    (h : parseTensor entry = .ok t) : t.Valid ∧ t.id.asStr = entry.1 := by
  unfold parseTensor at h
  simp only [bind_ok, TensorId.parse_ok, okOr_ok, failIf_ok, checkedMul_ok,
    pure_ok, ne_eq, not_not] at h
  obtain ⟨tensorId, hid, tensor, -, _, -, dtype, -, bits, hbits, _, -, shape, -, count, hcount,
    offsets, -, ends, hends, product, hproduct, _, haligned, _, hsize, rfl⟩ := h
  have hle : ends.1 ≤ ends.2 := by
    unfold parseOffsets at hends
    simp only [bind_ok, failIf_ok, pure_ok, not_lt] at hends
    obtain ⟨_, -, _, -, _, -, _, hle, rfl⟩ := hends
    exact hle
  obtain ⟨hne, hpos, hprod⟩ := checkedParameterCount_spec hcount
  refine ⟨⟨⟨hne, hpos, hprod, bits, hbits, hproduct.1, ?_⟩, ?_⟩, hid.symm⟩
  · show 8 * (product / 8) = count * bits
    omega
  · show ends.2 = ends.1 + product / 8
    omega

/-- The pass over the sorted tensors accepts them when they lie one after another. -/
structure Scanned (tensors : List ParsedTensor) (s : TensorScan) : Prop where
  tiles : Tiles 0 (tensors.map ParsedTensor.span) s.expectedStart
  mem_ids : ∀ id, id ∈ s.ids ↔ id ∈ tensors.map ParsedTensor.id
  nodup : (tensors.map ParsedTensor.id).Nodup
  total : s.totalParameterCount = (tensors.map fun t => t.spec.parameterCount).sum

lemma Scanned.step {tensors : List ParsedTensor} {s s' : TensorScan} {t : ParsedTensor}
    (hs : Scanned tensors s) (ht : t.Valid) (h : scanTensor s t = .ok s') :
    Scanned (tensors ++ [t]) s' := by
  unfold scanTensor at h
  simp only [bind_ok, failIf_ok, checkedAdd_ok, pure_ok, not_or, not_not, ne_eq] at h
  obtain ⟨_, ⟨hstart, hfresh⟩, total, ⟨-, rfl⟩, rfl⟩ := h
  refine ⟨?_, ?_, ?_, ?_⟩
  · rw [map_append, map_singleton]
    refine hs.tiles.snoc hstart ?_
    show t.dataStart ≤ t.dataEnd
    have := ht.size
    omega
  · intro id
    simp only [BTreeSet.mem_insert_iff, hs.mem_ids, map_append, map_singleton,
      mem_append, mem_singleton]
    exact or_comm
  · rw [map_append, map_singleton]
    exact nodup_snoc hs.nodup fun hid => hfresh ((hs.mem_ids _).mpr hid)
  · simp only [map_append, map_singleton, sum_append, sum_singleton, hs.total]

lemma Scanned.run {before tensors : List ParsedTensor} {s s' : TensorScan}
    (hs : Scanned before s) (hvalid : ∀ t ∈ tensors, t.Valid)
    (h : tensors.foldlM scanTensor s = .ok s') : Scanned (before ++ tensors) s' := by
  induction tensors generalizing before s with
  | nil =>
    rw [foldlM_nil, pure_ok] at h
    rw [append_nil, ← h]
    exact hs
  | cons t tensors ih =>
    rw [forall_mem_cons] at hvalid
    rw [foldlM_cons, bind_ok] at h
    obtain ⟨middle, hstep, hrest⟩ := h
    have hmore := ih (hs.step hvalid.1 hstep) hvalid.2 hrest
    rwa [List.append_assoc] at hmore

lemma scanned_start :
    Scanned [] { expectedStart := 0, ids := ∅, totalParameterCount := 0 } where
  tiles := rfl
  mem_ids := by simp
  nodup := nodup_nil
  total := rfl

lemma readSizes_of_tiles (file : ByteArray) (base : Nat) {tensors : List ParsedTensor}
    {start stop : Nat} (hvalid : ∀ t ∈ tensors, t.Valid)
    (htiles : Tiles start (tensors.map ParsedTensor.span) stop) :
    readSizes file (base + start) (tensors.map fun t => t.spec.dataByteCount) =
      tensors.map fun t => file.extract (base + t.dataStart)
        (base + t.dataStart + t.spec.dataByteCount) := by
  induction tensors generalizing start with
  | nil => rfl
  | cons t tensors ih =>
    rw [forall_mem_cons] at hvalid
    obtain ⟨hfirst, hspan, hrest⟩ := htiles
    have hstart : t.dataStart = start := hfirst
    replace hrest : Tiles t.dataEnd (tensors.map ParsedTensor.span) stop := hrest
    have hnext : base + start + t.spec.dataByteCount = base + t.dataEnd := by
      have := hvalid.1.size
      omega
    rw [map_cons, map_cons, readSizes, hnext, ih hvalid.2 hrest, hstart, hnext]

namespace SafeTensorArchive

/-- What opening a checkpoint guarantees of it. -/
structure Valid (a : SafeTensorArchive) : Prop where
  header_size : a.dataStart = 8 + ofLe (a.file.extract 0 8)
  header_le : a.dataStart ≤ a.file.size
  size_lt : a.file.size < u64Width
  tensors_ne : a.tensors ≠ []
  tensors_valid : ∀ t ∈ a.tensors, t.Valid
  tiles : Tiles 0 (a.tensors.map ParsedTensor.span) (a.file.size - a.dataStart)
  nodup : (a.tensors.map ParsedTensor.id).Nodup
  index_eq : a.index = collect (fun entry => entry.1.id) Prod.snd a.tensors.zipIdx
  specs_eq : a.inventory.tensors = a.tensors.map ParsedTensor.spec
  schema_eq : a.inventory.schema = modelParameterInventorySchema
  count_eq : a.inventory.tensorCount = a.tensors.length
  total_eq : a.inventory.totalParameterCount =
    (a.tensors.map fun t => t.spec.parameterCount).sum
  byteLen_eq : a.inventory.modelByteLen = a.file.size

/-- The digests that opening a checkpoint computed. -/
structure Digested [Platform] (a : SafeTensorArchive) : Prop where
  model : a.inventory.modelSha256 = digestBytes a.file
  tensors : ∀ t ∈ a.tensors, a.tensorSha256[t.id]? =
    some (digestBytes (a.tensorBytes t))

def HasHeader [JsonReader] (a : SafeTensorArchive) (object : BTreeMap String JsonValue) : Prop :=
  readHeader (a.file.extract 8 a.dataStart) = .ok object ∧
    parseMetadata object = .ok a.metadata ∧
    ∃ parsed, List.Forall₂ (fun entry t => parseTensor entry = .ok t)
        (object.toList.filter fun entry => entry.1 != metadataKey) parsed ∧
      a.tensors = parsed.insertionSort ParsedTensor.before

variable {a : SafeTensorArchive} {file : ByteArray}

lemma Valid.readSizes_eq (ha : a.Valid) :
    readSizes a.file a.dataStart (a.tensors.map fun t => t.spec.dataByteCount) =
      a.tensors.map a.tensorBytes :=
  readSizes_of_tiles a.file a.dataStart ha.tensors_valid ha.tiles

variable {t : ParsedTensor}

lemma Valid.tensorBytes_eq (ha : a.Valid) (ht : t ∈ a.tensors) :
    a.tensorBytes t = slice a.file (a.dataStart + t.dataStart, a.dataStart + t.dataEnd) := by
  unfold tensorBytes slice
  rw [(ha.tensors_valid t ht).size, Nat.add_assoc]

lemma Valid.shifted (ha : a.Valid) : Tiles a.dataStart
      (a.tensors.map fun t => (a.dataStart + t.dataStart, a.dataStart + t.dataEnd))
      a.file.size := by
  have hshift := ha.tiles.shift a.dataStart
  rw [map_map, Nat.add_zero, Nat.add_sub_cancel' ha.header_le] at hshift
  exact hshift

/-- The data of a checkpoint is its tensors, in their order. -/
lemma Valid.joined_tensors (ha : a.Valid) :
    joined (a.tensors.map a.tensorBytes) = a.file.extract a.dataStart a.file.size := by
  rw [← joined_slices a.file ha.shifted, map_map]
  congr 1
  refine map_congr_left ?_
  intro t ht
  exact ha.tensorBytes_eq ht

lemma Valid.size_tensorBytes (ha : a.Valid) (ht : t ∈ a.tensors) :
    (a.tensorBytes t).size = t.spec.dataByteCount := by
  have hspan := ha.shifted.mem (mem_map_of_mem ht)
  have hsize := (ha.tensors_valid t ht).size
  unfold tensorBytes
  rw [size_extract]
  dsimp only at hspan
  omega

lemma Valid.file_eq (ha : a.Valid) :
    a.file.extract 0 8 ++ a.file.extract 8 a.dataStart ++ joined (a.tensors.map a.tensorBytes) =
      a.file := by
  have height : 8 ≤ a.dataStart := by
    have := ha.header_size
    omega
  rw [ha.joined_tensors, ← extract_eq_extract_append_extract 8 (by omega) height,
    ← extract_eq_extract_append_extract a.dataStart (by omega) ha.header_le]
  exact extract_zero_size

section

variable [Platform] [JsonReader]

omit [JsonReader] in
lemma digested_of_valid {dataStart total : Nat} {metadata : Option (BTreeMap String String)}
    {tensors : List ParsedTensor}
    (ha : (authenticated file dataStart metadata tensors total).Valid) :
    (authenticated file dataStart metadata tensors total).Digested := by
  set a := authenticated file dataStart metadata tensors total with hauthenticated
  have hconsumed : readSizes file dataStart (tensors.map fun t => t.spec.dataByteCount) =
      tensors.map a.tensorBytes := ha.readSizes_eq
  constructor
  · show digestBytes (file.extract 0 8 ++ file.extract 8 dataStart ++
      joined (readSizes file dataStart (tensors.map fun t => t.spec.dataByteCount))) =
      digestBytes file
    rw [hconsumed]
    exact congrArg digestBytes ha.file_eq
  · intro t ht
    have hzip : tensors.zip (tensors.map a.tensorBytes) =
        tensors.map fun t => (t, a.tensorBytes t) := by
      have hpairs := zip_map' (l := tensors) (f := id) (g := a.tensorBytes)
      rwa [map_id] at hpairs
    show (collect (fun entry => entry.1.id) (fun entry => digestBytes entry.2)
      (tensors.zip (readSizes file dataStart (tensors.map fun t => t.spec.dataByteCount))))[t.id]? =
      some (digestBytes (a.tensorBytes t))
    rw [hconsumed, hzip, getElem?_collect]
    · exact ⟨(t, a.tensorBytes t), mem_map_of_mem ht, rfl, rfl⟩
    · rw [map_map]
      exact ha.nodup

lemma parse_valid (h : parse file = .ok a) :
    a.file = file ∧ a.Valid ∧ a.Digested ∧ ∃ object, a.HasHeader object := by
  unfold parse at h
  simp only [bind_ok, failIf_ok, checkedAdd_ok, pure_ok, not_lt, gt_iff_lt,
    not_or, ne_eq, not_not] at h
  obtain ⟨_, hlength, _, hheaderLen, dataStart, ⟨hbound, hdataStart⟩, _, hle, object, hobject,
    metadata, hmetadata, parsed, hparsed, _, hne, s, hscan, total, ⟨htotal, rfl⟩, _, hcover,
    rfl⟩ := h
  have hvalid : ∀ t ∈ parsed.insertionSort ParsedTensor.before, t.Valid := by
    intro t ht
    rw [mem_insertionSort] at ht
    obtain ⟨entry, -, hentry⟩ := exists_of_mem_mapM hparsed ht
    exact (parseTensor_spec hentry).1
  have hscanned := scanned_start.run hvalid hscan
  rw [nil_append] at hscanned
  have hsorted : parsed.insertionSort ParsedTensor.before ≠ [] := by
    intro hempty
    have hperm := perm_insertionSort ParsedTensor.before parsed
    rw [hempty] at hperm
    exact hne hperm.symm.eq_nil
  have hrest : s.expectedStart = file.size - dataStart := by omega
  have ha : (authenticated file dataStart metadata (parsed.insertionSort ParsedTensor.before)
      s.totalParameterCount).Valid := {
    header_size := hdataStart
    header_le := hle
    size_lt := hcover ▸ htotal
    tensors_ne := hsorted
    tensors_valid := hvalid
    tiles := by
      show Tiles 0 _ (file.size - dataStart)
      rw [← hrest]
      exact hscanned.tiles
    nodup := hscanned.nodup
    index_eq := rfl
    specs_eq := rfl
    schema_eq := rfl
    count_eq := rfl
    total_eq := hscanned.total
    byteLen_eq := rfl }
  exact ⟨rfl, ha, digested_of_valid ha, object, hobject, hmetadata, parsed,
    mapM_ok.mp hparsed, rfl⟩

end

/-! ## Lookups and copies -/

lemma Valid.tensor_ok (ha : a.Valid) {tensorId : TensorId} :
    a.tensor tensorId = .ok t ↔ t ∈ a.tensors ∧ t.id = tensorId := by
  have hnodup : (a.tensors.zipIdx.map fun entry => entry.1.id).Nodup := by
    have hfirst : (a.tensors.zipIdx.map fun entry => entry.1.id) =
        a.tensors.map ParsedTensor.id := by
      show a.tensors.zipIdx.map (ParsedTensor.id ∘ Prod.fst) = a.tensors.map ParsedTensor.id
      rw [← map_map, zipIdx_map_fst]
    rw [hfirst]
    exact ha.nodup
  unfold tensor
  simp only [bind_ok, okOr_ok, ha.index_eq, getElem?_collect hnodup]
  constructor
  · intro h
    obtain ⟨index, ⟨entry, hentry, hid, hindex⟩, hget⟩ := h
    rw [mem_zipIdx_iff_getElem?, hindex, hget] at hentry
    cases hentry
    exact ⟨mem_of_getElem? hget, hid⟩
  · intro h
    obtain ⟨hmem, hid⟩ := h
    obtain ⟨index, hget⟩ := mem_iff_getElem?.mp hmem
    exact ⟨index, ⟨(t, index), mem_zipIdx_iff_getElem?.mpr hget, hid, rfl⟩, hget⟩

lemma Valid.tensors_of_layout (ha : a.Valid) {header : ByteArray} {parts : List ByteArray}
    (hheader : header.size < u64Width) (hfile : a.file = le64 header.size ++ header ++ joined parts)
    (hsizes : (a.tensors.map fun t => t.spec.dataByteCount) = parts.map ByteArray.size) :
    a.tensors.map a.tensorBytes = parts := by
  have hlength : a.file.extract 0 8 = le64 header.size := by
    rw [hfile, ByteArray.append_assoc]
    exact ByteArray.extract_append_eq_left (size_le64 _).symm
  have hstart : a.dataStart = (le64 header.size ++ header).size := by
    rw [ha.header_size, hlength, ofLe_le64 hheader, ByteArray.size_append, size_le64]
  have hspans := ha.shifted
  rw [hstart, hfile] at hspans
  have hcut := slices_joined (le64 header.size ++ header) parts hspans ?_
  · rw [map_map] at hcut
    rw [← hcut]
    refine map_congr_left ?_
    intro t ht
    rw [ha.tensorBytes_eq ht, hfile, hstart]
    rfl
  · rw [← hsizes, map_map]
    refine map_congr_left ?_
    intro t ht
    have hsize := (ha.tensors_valid t ht).size
    show (le64 header.size ++ header).size + t.dataEnd -
      ((le64 header.size ++ header).size + t.dataStart) = t.spec.dataByteCount
    omega

lemma verifyConsumedTensor_ok [Platform] (ha : a.Digested) (ht : t ∈ a.tensors) :
    a.verifyConsumedTensor t (a.tensorBytes t) = .ok () := by
  unfold verifyConsumedTensor
  rw [ha.tensors t ht, bind_ok]
  exact ⟨_, rfl, failIf_ok.mpr (not_not.mpr rfl)⟩

lemma copyTensorBytes_ok [Platform] {bytes : ByteArray} (h : a.copyTensorBytes t = .ok bytes) :
    bytes = a.tensorBytes t := by
  unfold copyTensorBytes at h
  simp only [bind_ok, pure_ok] at h
  obtain ⟨_, -, _, -, rfl⟩ := h
  rfl

end SafeTensorArchive

end Tidex.Receiver
