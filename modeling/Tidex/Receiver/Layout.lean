/-
  Receiver.Layout — checkpoints as they are written.
-/
import Tidex.Receiver.SafeTensors

namespace Tidex.Receiver

open Tidex.Lib List Json Nat ByteArray SafeTensorArchive ParsedTensor

/-! ## Headers -/

def tensorInfo (dtype : String) (shape : List Nat) (start stop : Nat) : Json :=
  .obj [("data_offsets", .arr [toJson start, toJson stop]), ("dtype", toJson dtype),
    ("shape", toJson shape)]

def paddedHeader (document : Json) : ByteArray :=
  document.toBytes ++ Json.spaces ((8 - document.toBytes.size % 8) % 8)

def ParsedTensor.member (t : ParsedTensor) : String × Json :=
  (t.id.asStr, tensorInfo t.spec.dtype t.spec.shape t.dataStart t.dataEnd)

def metadataMember (metadata : BTreeMap String String) : String × Json :=
  (metadataKey, .obj (metadata.toList.map fun entry => (entry.1, .str entry.2)))

def headerMembers (metadata : Option (BTreeMap String String)) (tensors : List ParsedTensor) :
    List (String × Json) :=
  (metadata.map metadataMember).toList ++ tensors.map ParsedTensor.member

/-- The document of a header, whose entries are in the order of their names. -/
def headerDocument (metadata : Option (BTreeMap String String)) (tensors : List ParsedTensor) :
    Json :=
  .obj (ofMembers (headerMembers metadata tensors)).toList

def ReadsHeader [JsonReader] (metadata : Option (BTreeMap String String))
    (tensors : List ParsedTensor) : Prop :=
  JsonReader.read (paddedHeader (headerDocument metadata tensors)) =
    some (headerDocument metadata tensors).toValue

/-! ## One entry -/

lemma metadataKey_ne (i : TensorId) : i.asStr ≠ metadataKey := by
  intro h
  have hdot := i.dot_mem
  rw [h] at hdot
  exact absurd hdot (by decide)

lemma foldlM_checkedMul_ok {shape : List Nat} {start : Nat} {e : BrainError}
    (hpos : 0 ∉ shape) (hlt : start * shape.prod < u64Width) :
    shape.foldlM (fun total value => checkedMul u64Width total value e) start =
      .ok (start * shape.prod) := by
  induction shape generalizing start with
  | nil =>
    rw [List.foldlM_nil, List.prod_nil, Nat.mul_one]
    rfl
  | cons dimension shape ih =>
    rw [List.mem_cons, not_or] at hpos
    rw [List.prod_cons, ← Nat.mul_assoc] at hlt
    have hprod : 0 < shape.prod := by
      rw [List.prod_pos_iff_forall_pos_nat]
      intro value hvalue
      rw [Nat.pos_iff_ne_zero]
      intro hzero
      exact hpos.2 (hzero ▸ hvalue)
    have hfirst : start * dimension < u64Width :=
      lt_of_le_of_lt (Nat.le_mul_of_pos_right _ hprod) hlt
    rw [List.foldlM_cons, bind_ok]
    refine ⟨start * dimension, checkedMul_ok.mpr ⟨hfirst, rfl⟩, ?_⟩
    rw [ih hpos.2 hlt, List.prod_cons, Nat.mul_assoc]

lemma checkedParameterCount_ok {s : ModelTensorSpec} (hs : s.Valid) :
    checkedParameterCount s.shape = .ok s.parameterCount := by
  obtain ⟨bits, hbits, hlt, -⟩ := hs.bytes
  have hpos : 0 < bits := by
    rw [Nat.pos_iff_ne_zero]
    intro hzero
    subst hzero
    unfold dtypeBits at hbits
    repeat' split at hbits
    all_goals cases hbits
  have hcount : 1 * s.shape.prod < u64Width := by
    rw [Nat.one_mul, ← hs.count]
    exact lt_of_le_of_lt (Nat.le_mul_of_pos_right _ hpos) hlt
  unfold checkedParameterCount
  rw [bind_ok]
  refine ⟨(), failIf_ok.mpr (not_or.mpr ⟨hs.shape_ne, hs.shape_pos⟩), ?_⟩
  rw [foldlM_checkedMul_ok hs.shape_pos hcount, Nat.one_mul, hs.count]

lemma le_prod_of_mem {shape : List Nat} (hpos : 0 ∉ shape) {value : Nat} (hvalue : value ∈ shape) :
    value ≤ shape.prod := by
  induction shape with
  | nil => cases hvalue
  | cons dimension shape ih =>
    rw [List.mem_cons, not_or] at hpos
    have hrest : 0 < shape.prod := by
      rw [List.prod_pos_iff_forall_pos_nat]
      intro other hother
      exact Nat.pos_of_ne_zero fun hzero => hpos.2 (hzero ▸ hother)
    rw [List.prod_cons]
    rcases List.mem_cons.mp hvalue with rfl | hvalue
    · exact Nat.le_mul_of_pos_right _ hrest
    · exact (ih hpos.2 hvalue).trans
        (Nat.le_mul_of_pos_left _ (Nat.pos_of_ne_zero fun hzero => hpos.1 hzero.symm))

lemma dtypeBits_pos {dtype : String} {bits : Nat} (h : dtypeBits dtype = some bits) : 0 < bits := by
  rw [pos_iff_ne_zero]
  intro hzero
  subst hzero
  unfold dtypeBits at h
  repeat' split at h
  all_goals cases h

lemma ModelTensorSpec.Valid.count_lt {s : ModelTensorSpec} (hs : s.Valid) :
    s.parameterCount < u64Width := by
  obtain ⟨bits, hbits, hlt, -⟩ := hs.bytes
  exact lt_of_le_of_lt (Nat.le_mul_of_pos_right _ (dtypeBits_pos hbits)) hlt

lemma asU64_of_lt {n : Nat} (h : n < u64Width) : (toJson n).toValue.asU64 = some n :=
  if_pos h

lemma parseShape_ok {s : ModelTensorSpec} (hs : s.Valid) :
    parseShape (toJson s.shape).toValue = .ok s.shape := by
  have harray : (toJson s.shape).toValue.asArray =
      some (s.shape.map fun value : Nat => (toJson value).toValue) := by
    show some (toValues (s.shape.map toJson)) = _
    rw [toValues_eq, map_map]
    rfl
  have hvalues : (s.shape.map fun value : Nat => (toJson value).toValue).mapM (fun dimension =>
      okOr dimension.asU64 (integrity "safetensors_tensor_dimension_invalid")) = .ok s.shape := by
    rw [mapM_ok, forall₂_map_left_iff, forall₂_same]
    intro value hvalue
    have hlt : value < u64Width :=
      lt_of_le_of_lt (le_prod_of_mem hs.shape_pos hvalue) (hs.count ▸ hs.count_lt)
    rw [asU64_of_lt hlt]
    rfl
  unfold parseShape
  rw [harray, bind_ok]
  refine ⟨_, rfl, ?_⟩
  rw [hvalues, ok_bind, checkedParameterCount_ok hs]
  rfl

lemma parseOffsets_ok {start stop : Nat} (hle : start ≤ stop) (hlt : stop < u64Width) :
    parseOffsets (arr [toJson start, toJson stop]).toValue = .ok (start, stop) := by
  have hstart : (toJson start).toValue.asU64 = some start := asU64_of_lt (lt_of_le_of_lt hle hlt)
  have hstop : (toJson stop).toValue.asU64 = some stop := asU64_of_lt hlt
  show (do
    let first ← okOr (toJson start).toValue.asU64 (integrity "safetensors_tensor_offset_invalid")
    let last ← okOr (toJson stop).toValue.asU64 (integrity "safetensors_tensor_offset_invalid")
    failIf (last < first) (integrity "safetensors_tensor_offsets_reversed")
    return (first, last)) = Except.ok (start, stop)
  rw [hstart, hstop]
  simp only [bind_ok, okOr_ok, failIf_ok, pure_ok, Option.some.injEq]
  exact ⟨start, rfl, stop, rfl, (), not_lt.mpr hle, rfl⟩

lemma parseTensor_member {t : ParsedTensor} (ht : t.Valid) (hlt : t.dataEnd < u64Width) :
    parseTensor (t.member.1, t.member.2.toValue) = .ok t := by
  obtain ⟨bits, hbits, hbound, hsize⟩ := ht.spec.bytes
  have hspan := ht.size
  set info : List (String × JsonValue) :=
    [("data_offsets", (arr [toJson t.dataStart, toJson t.dataEnd]).toValue),
      ("dtype", JsonValue.string t.spec.dtype), ("shape", (toJson t.spec.shape).toValue)] with hinfo
  have hobject : t.member.2.toValue.asObject = some (ofMembers info) := rfl
  have hsorted : info.Pairwise fun a b => compare a.1 b.1 = .lt := by
    rw [hinfo]
    simp only [pairwise_cons, mem_cons, forall_eq_or_imp, not_mem_nil,
      IsEmpty.forall_iff, implies_true, and_true, Pairwise.nil]
    decide
  have hkeys : (ofMembers info).keys = ["data_offsets", "dtype", "shape"] := by
    rw [← Std.ExtTreeMap.map_fst_toList_eq_keys]
    unfold ofMembers
    rw [toList_collect hsorted]
    rfl
  have hnodup : (info.map Prod.fst).Nodup := by
    rw [hinfo]
    simp only [map_cons, map_nil]
    decide
  have hlookup : ∀ entry ∈ info, (ofMembers info)[entry.1]? = some entry.2 := fun entry hentry =>
    getElem?_collect_of_mem hnodup hentry
  have hoffsets := hlookup _ (mem_cons_self (l := info.tail))
  have hdtype := hlookup ("dtype", JsonValue.string t.spec.dtype) (by simp [hinfo])
  have hshape := hlookup ("shape", (toJson t.spec.shape).toValue) (by simp [hinfo])
  have haligned : t.spec.parameterCount * bits % 8 = 0 := by omega
  have hdifference : t.dataEnd - t.dataStart = t.spec.parameterCount * bits / 8 := by omega
  have hbytes : t.spec.parameterCount * bits / 8 = t.spec.dataByteCount := by omega
  unfold parseTensor
  simp only [bind_ok, TensorId.parse_ok, okOr_ok, failIf_ok, checkedMul_ok, pure_ok, ne_eq, not_not]
  refine ⟨t.id, rfl, _, hobject, (), hkeys, t.spec.dtype, ?_, bits, hbits, _, hshape, t.spec.shape,
    parseShape_ok ht.spec, t.spec.parameterCount, checkedParameterCount_ok ht.spec, _, hoffsets,
    (t.dataStart, t.dataEnd), parseOffsets_ok (by omega) hlt, _, ⟨hbound, rfl⟩, (), haligned, (),
    hdifference, ?_⟩
  · rw [hdtype]
    rfl
  · rw [hbytes]
    rfl

/-! ## Layouts -/

/-- Tensors that lie one after another, with the metadata of their header. -/
structure Layout where
  metadata : Option (BTreeMap String String)
  tensors : List ParsedTensor
  stop : Nat
  tensors_ne : tensors ≠ []
  tensors_valid : ∀ t ∈ tensors, t.Valid
  tiles : Tiles 0 (tensors.map ParsedTensor.span) stop
  nodup : (tensors.map ParsedTensor.id).Nodup
  counts_lt : (tensors.map fun t => t.spec.parameterCount).sum < u64Width
  stop_lt : stop < u64Width

namespace Layout

variable (l : Layout)

lemma dataEnd_le {t : ParsedTensor} (ht : t ∈ l.tensors) : t.dataEnd ≤ l.stop :=
  (l.tiles.mem (mem_map_of_mem ht)).2.2

lemma dataStart_lt {t : ParsedTensor} (ht : t.Valid) : t.dataStart < t.dataEnd := by
  obtain ⟨bits, hbits, -, hsize⟩ := ht.spec.bytes
  have hcount : 0 < t.spec.parameterCount := by
    rw [ht.spec.count, List.prod_pos_iff_forall_pos_nat]
    intro value hvalue
    exact pos_of_ne_zero fun hzero => ht.spec.shape_pos (hzero ▸ hvalue)
  have hproduct := mul_pos hcount (dtypeBits_pos hbits)
  have hspan := ht.size
  omega

lemma pairwise_dataStart {tensors : List ParsedTensor} {start stop : Nat}
    (hvalid : ∀ t ∈ tensors, t.Valid) (h : Tiles start (tensors.map span) stop) :
    tensors.Pairwise fun t u => t.dataStart < u.dataStart := by
  induction tensors generalizing start with
  | nil => exact Pairwise.nil
  | cons t tensors ih =>
    rw [forall_mem_cons] at hvalid
    obtain ⟨-, -, hrest⟩ := h
    rw [pairwise_cons]
    refine ⟨?_, ih hvalid.2 hrest⟩
    intro u hu
    have hnext : t.dataEnd ≤ u.dataStart := (hrest.mem (mem_map_of_mem hu)).1
    have := dataStart_lt hvalid.1
    omega

instance : Std.Total ParsedTensor.before where
  total := by
    intro a b
    unfold ParsedTensor.before
    omega

instance : IsTrans ParsedTensor ParsedTensor.before where
  trans := by
    intro a b c hab hbc
    unfold ParsedTensor.before at hab hbc ⊢
    omega

/-- Sorting by the offsets finds the order of the data again. -/
lemma insertionSort_eq {parsed : List ParsedTensor} (hperm : parsed.Perm l.tensors) :
    parsed.insertionSort before = l.tensors := by
  have hstarts := pairwise_dataStart l.tensors_valid l.tiles
  have hbefore : l.tensors.Pairwise before := hstarts.imp fun hlt => .inl hlt
  refine Perm.eq_of_pairwise ?_ (pairwise_insertionSort _ _) hbefore
    ((perm_insertionSort _ _).trans hperm)
  intro t u ht hu htu hut
  rw [mem_insertionSort, hperm.mem_iff] at ht
  by_contra hne
  have hapart : t.dataStart ≠ u.dataStart := by
    intro heq
    exact hne (inj_on_of_nodup_map
      (pairwise_map.mpr (hstarts.imp fun hlt => ne_of_lt hlt)) ht hu heq)
  unfold before at htu hut
  omega

lemma scan_ok {before tensors : List ParsedTensor} {s : TensorScan} {stop : Nat}
    (hs : Scanned before s) (hvalid : ∀ t ∈ tensors, t.Valid)
    (htiles : Tiles s.expectedStart (tensors.map span) stop)
    (hnodup : ((before ++ tensors).map ParsedTensor.id).Nodup)
    (hcounts : s.totalParameterCount + (tensors.map fun t => t.spec.parameterCount).sum <
      u64Width) : ∃ s', tensors.foldlM scanTensor s = .ok s' ∧ s'.expectedStart = stop ∧
      s'.totalParameterCount =
        s.totalParameterCount + (tensors.map fun t => t.spec.parameterCount).sum := by
  induction tensors generalizing before s with
  | nil =>
    refine ⟨s, rfl, htiles, ?_⟩
    rw [map_nil, sum_nil, add_zero]
  | cons t tensors ih =>
    rw [forall_mem_cons] at hvalid
    obtain ⟨hfirst, -, hrest⟩ := htiles
    rw [map_cons, sum_cons] at hcounts
    have hfresh : t.id ∉ s.ids := by
      intro hmem
      rw [map_append, nodup_append] at hnodup
      exact hnodup.2.2 t.id ((hs.mem_ids _).mp hmem) t.id (mem_cons_self ..) rfl
    have hstep : scanTensor s t = .ok
        { expectedStart := t.dataEnd
          ids := s.ids.insert t.id
          totalParameterCount := s.totalParameterCount + t.spec.parameterCount } := by
      unfold scanTensor
      simp only [bind_ok, failIf_ok, checkedAdd_ok, pure_ok, not_or, not_not, ne_eq]
      exact ⟨(), ⟨hfirst, hfresh⟩, _, ⟨by omega, rfl⟩, rfl⟩
    have hnodup' : ((before ++ [t] ++ tensors).map ParsedTensor.id).Nodup := by
      rw [List.append_assoc]
      exact hnodup
    obtain ⟨s', hrun, hstop, htotal⟩ := ih (hs.step hvalid.1 hstep) hvalid.2 hrest hnodup'
      (by dsimp only; omega)
    refine ⟨s', ?_, hstop, ?_⟩
    · rw [foldlM_cons, hstep]
      exact hrun
    · rw [htotal, map_cons, sum_cons]
      dsimp only
      omega

/-! ## Whole headers -/

lemma nodup_members : ((headerMembers l.metadata l.tensors).map Prod.fst).Nodup := by
  have htensors : ((l.tensors.map member).map Prod.fst).Nodup := by
    rw [map_map]
    have hnames := l.nodup.map TensorId.asStr_injective
    rwa [map_map] at hnames
  have hnew : metadataKey ∉ (l.tensors.map member).map Prod.fst := by
    intro hmem
    rw [map_map] at hmem
    obtain ⟨t, -, ht⟩ := mem_map.mp hmem
    exact metadataKey_ne t.id ht
  unfold headerMembers
  cases l.metadata with
  | none => exact htensors
  | some metadata => exact nodup_cons.mpr ⟨hnew, htensors⟩

lemma object_perm {object : BTreeMap String JsonValue}
    (h : object.toList = (ofMembers (headerMembers l.metadata l.tensors)).toList.map
      fun member => (member.1, member.2.toValue)) :
    object.toList.Perm ((headerMembers l.metadata l.tensors).map
      fun member => (member.1, member.2.toValue)) := by
  rw [h]
  have hperm : (ofMembers (headerMembers l.metadata l.tensors)).toList.Perm _ :=
    toList_collect_perm l.nodup_members
  have hsame : (headerMembers l.metadata l.tensors).map (fun member => (member.1, member.2)) =
      headerMembers l.metadata l.tensors := map_id _
  rw [hsame] at hperm
  exact hperm.map _

/-- The tensors of a header are read back, in some order. -/
lemma parsed_perm {object : BTreeMap String JsonValue}
    (h : object.toList.Perm ((headerMembers l.metadata l.tensors).map
      fun member => (member.1, member.2.toValue))) :
    ∃ parsed, (object.toList.filter fun entry => entry.1 != metadataKey).mapM parseTensor =
      .ok parsed ∧ parsed.Perm l.tensors := by
  have hfilter : (object.toList.filter fun entry => entry.1 != metadataKey).Perm
      (l.tensors.map fun t => (t.member.1, t.member.2.toValue)) := by
    refine (h.filter _).trans (Perm.of_eq ?_)
    have hkeep : ((l.tensors.map member).map fun member =>
        (member.1, member.2.toValue)).filter (fun entry => entry.1 != metadataKey) =
        l.tensors.map fun t => (t.member.1, t.member.2.toValue) := by
      rw [map_map, filter_eq_self.mpr]
      · rfl
      · intro entry hentry
        obtain ⟨t, -, rfl⟩ := mem_map.mp hentry
        exact bne_iff_ne.mpr (metadataKey_ne t.id)
    unfold headerMembers
    rw [map_append, filter_append, hkeep]
    cases l.metadata with
    | none => rfl
    | some metadata =>
      have hdrop : ([metadataMember metadata].map fun member =>
          (member.1, member.2.toValue)).filter (fun entry => entry.1 != metadataKey) = [] := by
        rw [filter_eq_nil_iff]
        intro entry hentry
        rw [map_singleton, mem_singleton] at hentry
        subst hentry
        simp [metadataMember]
      show _ ++ _ = _
      rw [Option.map_some, Option.toList_some, hdrop, nil_append]
  have hall : Forall₂ (fun entry t => parseTensor entry = .ok t)
      (l.tensors.map fun t => (t.member.1, t.member.2.toValue)) l.tensors := by
    rw [forall₂_map_left_iff, forall₂_same]
    intro t ht
    exact parseTensor_member (l.tensors_valid t ht)
      (lt_of_le_of_lt (l.dataEnd_le ht) l.stop_lt)
  obtain ⟨parsed, hparsed, hperm⟩ := perm_comp_forall₂ hfilter hall
  exact ⟨parsed, mapM_ok.mpr hparsed, hperm⟩

lemma parseMetadata_ok {object : BTreeMap String JsonValue}
    (h : object.toList.Perm ((headerMembers l.metadata l.tensors).map
      fun member => (member.1, member.2.toValue))) : parseMetadata object = .ok l.metadata := by
  have hlookup : ∀ v, object[metadataKey]? = some v ↔
      (metadataKey, v) ∈ (headerMembers l.metadata l.tensors).map
        fun member => (member.1, member.2.toValue) := by
    intro v
    rw [← h.mem_iff, BTreeMap.mem_toList_iff]
  have htensors : ∀ v, (metadataKey, v) ∉ (l.tensors.map member).map
      fun member => (member.1, member.2.toValue) := by
    intro v hmem
    rw [map_map] at hmem
    obtain ⟨t, -, ht⟩ := mem_map.mp hmem
    exact metadataKey_ne t.id (Prod.mk.inj ht).1
  unfold parseMetadata
  unfold headerMembers at hlookup
  cases hmetadata : l.metadata with
  | none =>
    have hnone : object[metadataKey]? = none := by
      rw [Option.eq_none_iff_forall_ne_some]
      intro v hv
      rw [hlookup, hmetadata] at hv
      exact htensors v hv
    rw [hnone]
    rfl
  | some metadata =>
    have hsome : object[metadataKey]? = some (metadataMember metadata).2.toValue := by
      rw [hlookup, hmetadata]
      exact mem_cons_self
    have hobject : (metadataMember metadata).2.toValue.asObject =
        some (ofMembers (metadata.toList.map fun entry => (entry.1, JsonValue.string entry.2))) := by
      show some (ofMembers (toMembers _)) = _
      rw [toMembers_eq, map_map]
      rfl
    have hentries : (ofMembers (metadata.toList.map fun entry =>
        (entry.1, JsonValue.string entry.2))).toList =
        metadata.toList.map fun entry => (entry.1, JsonValue.string entry.2) := by
      unfold ofMembers
      rw [toList_collect]
      · rw [map_map]
        rfl
      · rw [pairwise_map]
        exact Std.ExtTreeMap.ordered_keys_toList
    have htexts : (metadata.toList.map fun entry => (entry.1, JsonValue.string entry.2)).mapM
        (fun entry => do
          let text ← okOr entry.2.asStr (integrity "safetensors_metadata_value_not_string")
          return (entry.1, text)) = .ok metadata.toList := by
      rw [mapM_ok, forall₂_map_left_iff, forall₂_same]
      intro entry _
      rfl
    rw [hsome]
    dsimp only
    rw [hobject, bind_ok]
    refine ⟨_, rfl, ?_⟩
    rw [hentries, htexts, ok_bind]
    show Except.ok (some (ofMembers metadata.toList)) = Except.ok (some metadata)
    unfold ofMembers
    rw [collect_toList]

/-! ## Whole files -/

def header : ByteArray := paddedHeader (headerDocument l.metadata l.tensors)

def encode (parts : List ByteArray) : ByteArray :=
  le64 l.header.size ++ l.header ++ joined parts

section

variable [Platform] [JsonReader] {parts : List ByteArray}

section

omit [Platform] [JsonReader]

lemma size_file (header : ByteArray)
    (hparts : parts.map ByteArray.size = l.tensors.map fun t => t.spec.dataByteCount) :
    (le64 header.size ++ header ++ joined parts).size = 8 + header.size + l.stop := by
  have hsum : ∀ {tensors : List ParsedTensor} {start stop : Nat}, (∀ t ∈ tensors, t.Valid) →
      Tiles start (tensors.map span) stop →
      start + (tensors.map fun t => t.spec.dataByteCount).sum = stop := by
    intro tensors
    induction tensors with
    | nil =>
      intro start stop _ htiles
      exact htiles
    | cons t tensors ih =>
      intro start stop hvalid htiles
      rw [forall_mem_cons] at hvalid
      obtain ⟨hfirst, -, hrest⟩ := htiles
      have hnext := ih hvalid.2 hrest
      have hspan := hvalid.1.size
      have hstart : t.dataStart = start := hfirst
      have hend : t.span.2 = t.dataEnd := rfl
      rw [map_cons, sum_cons]
      omega
  have htotal := hsum l.tensors_valid l.tiles
  rw [size_append, size_append, size_joined, hparts, size_le64]
  omega

lemma size_encode
    (hparts : parts.map ByteArray.size = l.tensors.map fun t => t.spec.dataByteCount) :
    (l.encode parts).size = 8 + l.header.size + l.stop :=
  l.size_file l.header hparts

end

omit [Platform] in
lemma readHeader_ok (hreads : ReadsHeader l.metadata l.tensors) :
    ∃ object, readHeader l.header = .ok object ∧
      object.toList.Perm ((headerMembers l.metadata l.tensors).map
        fun member => (member.1, member.2.toValue)) := by
  obtain ⟨object, hobject, hlist⟩ :=
    asObject_toValue (ofMembers (headerMembers l.metadata l.tensors))
  have hperm := l.object_perm hlist
  refine ⟨object, ?_, hperm⟩
  have hne : ¬object.isEmpty = true := by
    intro hempty
    rw [Std.ExtTreeMap.isEmpty_iff] at hempty
    rw [hempty] at hperm
    have hlength := hperm.length_eq
    have hpos := length_pos_iff.mpr l.tensors_ne
    unfold headerMembers at hlength
    simp only [length_map, length_append] at hlength
    have hzero : (∅ : BTreeMap String JsonValue).toList.length = 0 := rfl
    omega
  unfold readHeader
  have hread : JsonReader.read l.header = some (headerDocument l.metadata l.tensors).toValue :=
    hreads
  rw [hread, bind_ok]
  refine ⟨_, rfl, ?_⟩
  have hvalue : (headerDocument l.metadata l.tensors).toValue.asObject = some object := hobject
  rw [hvalue, bind_ok]
  refine ⟨object, rfl, ?_⟩
  rw [bind_ok]
  exact ⟨(), failIf_ok.mpr hne, rfl⟩

omit [Platform] [JsonReader] in
lemma header_pos : 0 < l.header.size := by
  have hpos := size_toBytes_pos (headerDocument l.metadata l.tensors)
  unfold header paddedHeader
  rw [size_append]
  omega

/-- A file opens as a layout whose entries its header is read as. -/
lemma parse_of_header {header : ByteArray} {object : BTreeMap String JsonValue}
    (hobject : readHeader header = .ok object)
    (hperm : object.toList.Perm ((headerMembers l.metadata l.tensors).map
      fun member => (member.1, member.2.toValue)))
    (hpos : 0 < header.size) (hheader : header.size ≤ maxSafetensorsHeaderBytes)
    (hfits : 8 + header.size + l.stop < u64Width)
    (hparts : parts.map ByteArray.size = l.tensors.map fun t => t.spec.dataByteCount) :
    ∃ a, parse (le64 header.size ++ header ++ joined parts) = .ok a ∧
      a.metadata = l.metadata ∧ a.tensors = l.tensors ∧ a.tensors.map a.tensorBytes = parts := by
  have hsize := l.size_file header hparts
  have hlength : (le64 header.size ++ header ++ joined parts).extract 0 8 = le64 header.size := by
    rw [ByteArray.append_assoc]
    exact ByteArray.extract_append_eq_left (size_le64 _).symm
  have hcount : ofLe ((le64 header.size ++ header ++ joined parts).extract 0 8) = header.size := by
    rw [hlength]
    exact ofLe_le64 (by unfold u64Width at hfits; omega)
  have hbytes : (le64 header.size ++ header ++ joined parts).extract 8 (8 + header.size) =
      header := by
    rw [ByteArray.append_assoc]
    have hmove := ByteArray.extract_append_size_add (a := le64 header.size)
      (b := header ++ joined parts) (i := 0) (j := header.size)
    rw [add_zero, size_le64] at hmove
    rw [hmove]
    exact ByteArray.extract_append_eq_left rfl
  obtain ⟨parsed, hparsed, hparsedPerm⟩ := l.parsed_perm hperm
  have hsorted := l.insertionSort_eq hparsedPerm
  obtain ⟨s, hscan, hstop, -⟩ := scan_ok scanned_start l.tensors_valid l.tiles
    (by rw [nil_append]; exact l.nodup) (by rw [zero_add]; exact l.counts_lt)
  have hne : parsed ≠ [] := by
    intro hempty
    rw [hempty] at hparsedPerm
    exact l.tensors_ne hparsedPerm.symm.eq_nil
  have hparse : parse (le64 header.size ++ header ++ joined parts) =
      .ok (authenticated (le64 header.size ++ header ++ joined parts)
        (8 + header.size) l.metadata l.tensors s.totalParameterCount) := by
    unfold parse
    simp only [bind_ok, failIf_ok, checkedAdd_ok, pure_ok, not_lt, gt_iff_lt,
      not_or, ne_eq, not_not]
    refine ⟨(), by omega, (), ⟨by omega, by omega⟩, 8 + header.size, ⟨by omega, by rw [hcount]⟩,
      (), by omega, object, ?_, l.metadata, l.parseMetadata_ok hperm, parsed, hparsed, (), hne, s,
      ?_, 8 + header.size + s.expectedStart, ⟨by omega, rfl⟩, (), by omega, ?_⟩
    · rw [hbytes]
      exact hobject
    · rw [hsorted]
      exact hscan
    · rw [hsorted]
  obtain ⟨hfile, ha, -, -⟩ := parse_valid hparse
  refine ⟨_, hparse, rfl, rfl, ?_⟩
  have hwidth : header.size < u64Width := by
    unfold u64Width at hfits ⊢
    omega
  exact ha.tensors_of_layout hwidth hfile hparts.symm

lemma parse_written (hreads : ReadsHeader l.metadata l.tensors)
    (hheader : l.header.size ≤ maxSafetensorsHeaderBytes)
    (hfits : 8 + l.header.size + l.stop < u64Width)
    (hparts : parts.map ByteArray.size = l.tensors.map fun t => t.spec.dataByteCount) :
    ∃ a, parse (l.encode parts) = .ok a ∧ a.metadata = l.metadata ∧
      a.tensors = l.tensors ∧ a.tensors.map a.tensorBytes = parts := by
  obtain ⟨object, hobject, hperm⟩ := l.readHeader_ok hreads
  exact l.parse_of_header hobject hperm l.header_pos hheader hfits hparts

end

end Layout

end Tidex.Receiver
