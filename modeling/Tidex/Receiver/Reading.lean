/-
  Receiver.Reading — how many readings the header of a checkpoint has.
-/
import Tidex.Foundation.Reference
import Tidex.Receiver.Layout

namespace Tidex.Receiver

open Tidex.Lib List Json ByteArray SafeTensorArchive JsonReader

/-! ## Readers that resolve repeated names -/

/-- How a reader takes the members of an object by name. -/
abbrev Resolution : Type := List (String × JsonValue) → BTreeMap String JsonValue

/-- A resolution takes, of every name, one of the members of that name. -/
structure Conforming (resolve : Resolution) : Prop where
  sound : ∀ members name value, (resolve members)[name]? = some value → (name, value) ∈ members
  complete : ∀ members name value, (name, value) ∈ members → ∃ v, (resolve members)[name]? = some v

/-- Where no name is repeated there is nothing to resolve. -/
lemma Conforming.eq_ofMembers {resolve : Resolution} (h : Conforming resolve)
    {members : List (String × JsonValue)} (hnodup : (members.map Prod.fst).Nodup) :
    resolve members = ofMembers members := by
  have hmem : ∀ name value, (ofMembers members)[name]? = some value ↔ (name, value) ∈ members := by
    intro name value
    unfold ofMembers
    rw [getElem?_collect hnodup]
    constructor
    · intro hentry
      obtain ⟨entry, hentry, rfl, rfl⟩ := hentry
      exact hentry
    · intro hentry
      exact ⟨(name, value), hentry, rfl, rfl⟩
  refine Std.ExtTreeMap.ext_getElem? ?_
  intro name
  cases hvalue : (ofMembers members)[name]? with
  | none =>
    rw [Option.eq_none_iff_forall_ne_some]
    intro value hsome
    rw [(hmem name value).mpr (h.sound members name value hsome)] at hvalue
    cases hvalue
  | some value =>
    have hentry := (hmem name value).mp hvalue
    obtain ⟨found, hfound⟩ := h.complete members name value hentry
    rw [hfound]
    have hother := (hmem name found).mpr (h.sound members name found hfound)
    rw [hvalue] at hother
    exact hother.symm

def objectBy (resolve : Resolution) : JsonValue → Option (BTreeMap String JsonValue)
  | .object members => some (resolve members)
  | _ => none

/-- The names of the members of an object are different. -/
def NamesOnce (value : JsonValue) : Prop :=
  ∀ members, value = .object members → (members.map Prod.fst).Nodup

lemma Conforming.objectBy_eq {resolve : Resolution} (h : Conforming resolve)
    {value : JsonValue} (hnames : NamesOnce value) : objectBy resolve value = value.asObject := by
  cases value with
  | object members =>
    show some (resolve members) = some (ofMembers members)
    rw [h.eq_ofMembers (hnames members rfl)]
  | null => rfl
  | bool b => rfl
  | number n => rfl
  | string s => rfl
  | array elements => rfl

/-! ## Opening by a resolution -/

section

variable (resolve : Resolution)

def readHeaderBy [JsonReader] (header : ByteArray) : BrainResult (BTreeMap String JsonValue) := do
  let value ← okOr (JsonReader.read header) .json
  let object ← okOr (objectBy resolve value) (integrity "safetensors_header_not_object")
  failIf (object.isEmpty) (integrity "safetensors_header_empty")
  return object

def parseMetadataBy (object : BTreeMap String JsonValue) :
    BrainResult (Option (BTreeMap String String)) :=
  match object[metadataKey]? with
  | none => return none
  | some value => do
    let object ← okOr (objectBy resolve value) (integrity "safetensors_metadata_not_object")
    let entries ← object.toList.mapM fun entry => do
      let text ← okOr entry.2.asStr (integrity "safetensors_metadata_value_not_string")
      return (entry.1, text)
    return some (ofMembers entries)

def parseTensorBy (entry : String × JsonValue) : BrainResult ParsedTensor := do
  let tensorId ← TensorId.parse entry.1
  let tensor ← okOr (objectBy resolve entry.2) (integrity "safetensors_tensor_info_not_object")
  failIf (tensor.keys ≠ ["data_offsets", "dtype", "shape"])
    (integrity ("safetensors_tensor_info_fields_invalid:" ++ tensorId.asStr))
  let dtype ← okOr (tensor["dtype"]?.bind JsonValue.asStr)
    (integrity "safetensors_tensor_dtype_invalid")
  let bits ← okOr (dtypeBits dtype) (integrity ("safetensors_dtype_unsupported:" ++ dtype))
  let shape ← okOr tensor["shape"]? (integrity "safetensors_tensor_shape_missing")
  let shape ← parseShape shape
  let parameterCount ← checkedParameterCount shape
  let offsets ← okOr tensor["data_offsets"]? (integrity "safetensors_tensor_offsets_missing")
  let (start, stop) ← parseOffsets offsets
  let bitCount ← checkedMul u64Width parameterCount bits
    (invalid "safetensors_tensor_byte_count_overflow")
  failIf (bitCount % 8 ≠ 0) (integrity "safetensors_tensor_subbyte_misaligned")
  let dataByteCount := bitCount / 8
  failIf (stop - start ≠ dataByteCount)
    (integrity ("safetensors_tensor_byte_count_mismatch:" ++ tensorId.asStr))
  return { spec := { tensorId, dtype, shape, parameterCount, dataByteCount }
           dataStart := start
           dataEnd := stop }

def parseBy [Platform] [JsonReader] (file : ByteArray) : BrainResult SafeTensorArchive := do
  failIf (file.size < 8) (.io .other)
  let headerLenRaw := file.extract 0 8
  let headerLen := ofLe headerLenRaw
  failIf (headerLen = 0 ∨ headerLen > maxSafetensorsHeaderBytes)
    (integrity "safetensors_header_size_invalid")
  let dataStart ← checkedAdd u64Width 8 headerLen (invalid "safetensors_header_offset_overflow")
  failIf (dataStart > file.size) (integrity "safetensors_header_exceeds_file")
  let header := file.extract 8 dataStart
  let object ← readHeaderBy resolve header
  let metadata ← parseMetadataBy resolve object
  let parsed ← (object.toList.filter fun entry => entry.1 != metadataKey).mapM
    (parseTensorBy resolve)
  failIf (parsed = []) (integrity "safetensors_tensor_set_empty")
  let tensors := parsed.insertionSort ParsedTensor.before
  let scan ← tensors.foldlM scanTensor
    { expectedStart := 0, ids := ∅, totalParameterCount := 0 }
  let total ← checkedAdd u64Width dataStart scan.expectedStart
    (invalid "safetensors_total_size_overflow")
  failIf (total ≠ file.size) (integrity "safetensors_data_does_not_cover_file")
  return SafeTensorArchive.authenticated file dataStart metadata tensors scan.totalParameterCount

end

/-! ## Readers of a header without repeated names -/

def headerBytes (file : ByteArray) : ByteArray :=
  file.extract 8 (8 + ofLe (file.extract 0 8))

/-- The header names no tensor, no metadata and no field of a tensor twice. -/
def NoRepeats [JsonReader] (file : ByteArray) : Prop :=
  ∀ value, JsonReader.read (headerBytes file) = some value →
    NamesOnce value ∧ ∀ members, value = .object members → ∀ m ∈ members, NamesOnce m.2

lemma bind_congr_ok {α β : Type} {x : BrainResult α} {f g : α → BrainResult β}
    (h : ∀ a, x = .ok a → f a = g a) : (x >>= f) = (x >>= g) := by
  cases x with
  | error e => rfl
  | ok a => exact h a rfl

lemma mapM_congr_mem {α β : Type} {f g : α → BrainResult β} {xs : List α}
    (h : ∀ x ∈ xs, f x = g x) : xs.mapM f = xs.mapM g := by
  induction xs with
  | nil => rfl
  | cons x xs ih =>
    rw [mapM_cons, mapM_cons, h x mem_cons_self, ih fun y hy => h y (mem_cons_of_mem _ hy)]

section

variable [JsonReader] {resolve : Resolution}

lemma readHeaderBy_eq (hresolve : Conforming resolve) {header : ByteArray}
    (hnames : ∀ value, read header = some value → NamesOnce value) :
    readHeaderBy resolve header = readHeader header := by
  unfold readHeaderBy readHeader
  refine bind_congr_ok ?_
  intro value hvalue
  rw [hresolve.objectBy_eq (hnames value (okOr_ok.mp hvalue))]

lemma member_of_readHeader {header : ByteArray} {object : BTreeMap String JsonValue}
    (h : readHeader header = .ok object) : ∃ members, read header = some (.object members) ∧
      ((members.map Prod.fst).Nodup → ∀ entry, entry ∈ object.toList → entry ∈ members) := by
  unfold readHeader at h
  simp only [bind_ok, okOr_ok, pure_ok] at h
  obtain ⟨value, hread, found, hobject, -, -, rfl⟩ := h
  cases value with
  | object members =>
    refine ⟨members, hread, ?_⟩
    intro hnodup entry hentry
    have hfound : ofMembers members = found := Option.some.inj hobject
    have hperm : (ofMembers members).toList.Perm (members.map fun m => (m.1, m.2)) :=
      toList_collect_perm hnodup
    rw [hfound] at hperm
    have hmem := hperm.mem_iff.mp hentry
    rwa [show (fun m : String × JsonValue => (m.1, m.2)) = id from rfl, map_id] at hmem
  | null => cases hobject
  | bool b => cases hobject
  | number n => cases hobject
  | string s => cases hobject
  | array elements => cases hobject

section

omit [JsonReader]

lemma parseMetadataBy_eq (hresolve : Conforming resolve) {object : BTreeMap String JsonValue}
    (hnames : ∀ entry ∈ object.toList, NamesOnce entry.2) :
    parseMetadataBy resolve object = parseMetadata object := by
  unfold parseMetadataBy parseMetadata
  cases hvalue : object[metadataKey]? with
  | none => rfl
  | some value =>
    dsimp only
    have hmem : (metadataKey, value) ∈ object.toList := BTreeMap.mem_toList_iff.mpr hvalue
    rw [hresolve.objectBy_eq (hnames _ hmem)]

lemma parseTensorBy_eq (hresolve : Conforming resolve) {entry : String × JsonValue}
    (hnames : NamesOnce entry.2) : parseTensorBy resolve entry = parseTensor entry := by
  unfold parseTensorBy parseTensor
  rw [hresolve.objectBy_eq hnames]

end

/-- Where no name is repeated, all readers open the same checkpoint. -/
lemma parseBy_eq [Platform] (hresolve : Conforming resolve) {file : ByteArray}
    (hnames : NoRepeats file) : parseBy resolve file = parse file := by
  unfold parseBy parse
  refine bind_congr_ok fun _ _ => ?_
  refine bind_congr_ok fun _ _ => ?_
  refine bind_congr_ok fun dataStart hstart => ?_
  refine bind_congr_ok fun _ _ => ?_
  rw [checkedAdd_ok] at hstart
  have hheader : file.extract 8 dataStart = headerBytes file := by
    unfold headerBytes
    rw [hstart.2]
  rw [hheader]
  dsimp only
  rw [readHeaderBy_eq hresolve fun value hvalue => (hnames value hvalue).1]
  refine bind_congr_ok fun object hobject => ?_
  obtain ⟨members, hread, hmembers⟩ := member_of_readHeader hobject
  obtain ⟨hnodup, hinner⟩ := hnames _ hread
  have hentries : ∀ entry ∈ object.toList, NamesOnce entry.2 := by
    intro entry hentry
    exact hinner members rfl entry (hmembers (hnodup members rfl) entry hentry)
  rw [parseMetadataBy_eq hresolve hentries]
  refine bind_congr_ok fun metadata _ => ?_
  have htensors : (object.toList.filter fun entry => entry.1 != metadataKey).mapM
      (parseTensorBy resolve) =
        (object.toList.filter fun entry => entry.1 != metadataKey).mapM parseTensor := by
    refine mapM_congr_mem ?_
    intro entry hentry
    exact parseTensorBy_eq hresolve (hentries entry (mem_filter.mp hentry).1)
  rw [htensors]

/-! ## One reading -/

/-- What holds of the tensors of a checkpoint: they are not empty, they partition the data, and
    their lengths are those of their shapes and types; and the digest is that of the file. -/
structure Partitioned [Platform] (file : ByteArray) (a : SafeTensorArchive) : Prop where
  nonempty : ∀ t ∈ a.tensors, t.dataStart < t.dataEnd
  tiles : Tiles 0 (a.tensors.map ParsedTensor.span) (file.size - a.dataStart)
  width : ∀ t ∈ a.tensors, ∃ bits, dtypeBits t.spec.dtype = some bits ∧
    8 * (t.dataEnd - t.dataStart) = t.spec.shape.prod * bits
  digest : a.inventory.modelSha256 = Sha256Digest.digestBytes file

/-- The header has one reading: no name is repeated, the tensors partition the data, and every
    reader opens the same checkpoint. -/
structure OneReading [Platform] (file : ByteArray) (a : SafeTensorArchive) : Prop where
  names : NoRepeats file
  partitioned : Partitioned file a
  readers : ∀ resolve, Conforming resolve → parseBy resolve file = .ok a

/-- **The tensors that are read partition the data, whatever the header is; the header has one
    reading exactly when it repeats no name.** -/
theorem one_reading_iff [Platform] {file : ByteArray} {a : SafeTensorArchive}
    (h : SafeTensorArchive.parse file = .ok a) :
    Partitioned file a ∧ (OneReading file a ↔ NoRepeats file) := by
  obtain ⟨rfl, hvalid, hdigested, -⟩ := parse_valid h
  have hpartitioned : Partitioned a.file a := by
    refine ⟨?_, hvalid.tiles, ?_, hdigested.model⟩
    · intro t ht
      exact Layout.dataStart_lt (hvalid.tensors_valid t ht)
    · intro t ht
      have htensor := hvalid.tensors_valid t ht
      obtain ⟨bits, hbits, -, hsize⟩ := htensor.spec.bytes
      refine ⟨bits, hbits, ?_⟩
      rw [htensor.size, Nat.add_sub_cancel_left, hsize, htensor.spec.count]
  refine ⟨hpartitioned, ?_, ?_⟩
  · intro hone
    exact hone.names
  · intro hnames
    refine ⟨hnames, hpartitioned, ?_⟩
    intro resolve hresolve
    rw [parseBy_eq hresolve hnames]
    exact h

end

/-! ## A tensor named twice -/

namespace ReadingSample

attribute [local instance] Platform.reference JsonReader.exact

def tensorId : TensorId := ⟨"b.w", by decide⟩

def weight : ParsedTensor where
  spec := { tensorId := tensorId, dtype := "U8", shape := [1], parameterCount := 1,
            dataByteCount := 1 }
  dataStart := 0
  dataEnd := 1

lemma stop_lt : 1 < u64Width := by decide

def layout : Layout where
  metadata := none
  tensors := [weight]
  stop := 1
  tensors_ne := by decide
  tensors_valid := by
    intro t ht
    rw [List.mem_singleton] at ht
    subst ht
    exact ⟨⟨by decide, by decide, by decide, 8, by decide, by decide, by decide⟩, by decide⟩
  tiles := ⟨rfl, by decide, rfl⟩
  nodup := by decide
  counts_lt := by decide
  stop_lt := stop_lt

def document (before : List (String × Json)) : Json := .obj (before ++ [weight.member])

def header (before : List (String × Json)) : ByteArray := paddedHeader (document before)

def file (before : List (String × Json)) : ByteArray :=
  le64 (header before).size ++ header before ++ joined [⟨#[7]⟩]

def signed : String × Json := ("b.w", tensorInfo "I8" [1] 0 1)

lemma ofMembers_twice (v w : JsonValue) (name : String) :
    ofMembers [(name, v), (name, w)] = ofMembers [(name, w)] := by
  refine Std.ExtTreeMap.ext_getElem? ?_
  intro k
  show (((∅ : BTreeMap String JsonValue).insert name v).insert name w)[k]? =
    ((∅ : BTreeMap String JsonValue).insert name w)[k]?
  by_cases hk : name = k
  · rw [hk, Std.ExtTreeMap.getElem?_insert_self, Std.ExtTreeMap.getElem?_insert_self]
  · have hne : ¬compare name k = .eq := fun heq => hk (Std.LawfulEqOrd.eq_of_compare heq)
    rw [Std.ExtTreeMap.getElem?_insert, Std.ExtTreeMap.getElem?_insert,
      Std.ExtTreeMap.getElem?_insert, if_neg hne, if_neg hne, if_neg hne]

lemma opens (before : List (String × Json))
    (hbefore : ofMembers (toMembers (before ++ [weight.member])) =
      ofMembers (toMembers [weight.member])) (hsize : byteSize (document before) ≤ 1000) :
    ∃ a, parse (file before) = .ok a ∧ a.tensors = [weight] := by
  have hlist : (ofMembers (toMembers (before ++ [weight.member]))).toList =
      [(weight.member.1, weight.member.2.toValue)] := by
    rw [hbefore]
    unfold ofMembers
    rw [toList_collect]
    · rfl
    · exact pairwise_singleton _ _
  have hread : readHeader (header before) =
      .ok (ofMembers (toMembers (before ++ [weight.member]))) := by
    have hdocument : read (header before) = some (document before).toValue :=
      read_padded _ _
    unfold readHeader
    simp only [bind_ok, okOr_ok, failIf_ok, pure_ok]
    refine ⟨_, hdocument, _, rfl, (), ?_, rfl⟩
    intro hempty
    rw [Std.ExtTreeMap.isEmpty_iff] at hempty
    rw [hempty] at hlist
    cases hlist
  have hheader : (header before).size ≤ 1008 := by
    unfold header paddedHeader
    rw [size_append, size_spaces, size_toBytes]
    omega
  have hpos : 0 < (header before).size := by
    have := size_toBytes_pos (document before)
    unfold header paddedHeader
    rw [size_append]
    omega
  have hstop : layout.stop = 1 := rfl
  have hparts : [(⟨#[7]⟩ : ByteArray)].map size =
      layout.tensors.map fun t => t.spec.dataByteCount := rfl
  obtain ⟨a, hparse, -, htensors, -⟩ := layout.parse_of_header hread
    (by rw [hlist]; exact Perm.refl _) hpos
    (by unfold maxSafetensorsHeaderBytes; omega) (by unfold u64Width; omega) hparts
  exact ⟨a, hparse, htensors⟩

/-- A header that names its tensor once has one reading. -/
theorem once_reading : ∃ a, SafeTensorArchive.parse (file []) = .ok a ∧
      (OneReading (file []) a ↔ NoRepeats (file [])) := by
  obtain ⟨a, hparse, -⟩ := opens [] rfl (by decide)
  exact ⟨a, hparse, (one_reading_iff hparse).2⟩

lemma headerBytes_file (before : List (String × Json))
    (hsize : byteSize (document before) ≤ 1000) : headerBytes (file before) = header before := by
  have hheader : (header before).size ≤ 1008 := by
    unfold header paddedHeader
    rw [ByteArray.size_append, size_spaces, size_toBytes]
    omega
  have hlength : (file before).extract 0 8 = le64 (header before).size := by
    unfold file
    rw [ByteArray.append_assoc]
    exact ByteArray.extract_append_eq_left (size_le64 _).symm
  have hcount : ofLe (le64 (header before).size) = (header before).size := ofLe_le64 (by omega)
  unfold headerBytes
  rw [hlength, hcount]
  unfold file
  rw [ByteArray.append_assoc]
  have hmove := ByteArray.extract_append_size_add (a := le64 (header before).size)
    (b := header before ++ joined [⟨#[7]⟩]) (i := 0) (j := (header before).size)
  rw [Nat.add_zero, size_le64] at hmove
  rw [hmove]
  exact ByteArray.extract_append_eq_left rfl

/-- **A header that names its tensor twice**, with signed values and with unsigned ones, is
    accepted. -/
theorem twice_reading :
    ∃ a, SafeTensorArchive.parse (file [signed]) = .ok a ∧ a.tensors = [weight] ∧
      ¬OneReading (file [signed]) a := by
  have hsize : byteSize (document [signed]) ≤ 1000 := by decide
  obtain ⟨a, hparse, htensors⟩ := opens [signed] (ofMembers_twice _ _ _) hsize
  refine ⟨a, hparse, htensors, ?_⟩
  intro hone
  have hread : read (headerBytes (file [signed])) = some (document [signed]).toValue := by
    rw [headerBytes_file [signed] hsize]
    exact read_padded _ _
  have hnodup := (hone.names _ hread).1 _ rfl
  rw [toMembers_eq] at hnodup
  exact absurd hnodup (by decide)

end ReadingSample

end Tidex.Receiver
