/-
  Receiver.Sharding — normalization forgets only the sharding.
-/
import Tidex.Receiver.Normalize
import Mathlib.Data.List.Perm.Subperm

namespace Tidex.Receiver

open Tidex.Lib List SafeTensorArchive ParsedTensor

/-! ## Named tensors -/

structure NamedTensor where
  id : TensorId
  dtype : String
  shape : List Nat
  bytes : ByteArray

def SafeTensorArchive.named (a : SafeTensorArchive) (t : ParsedTensor) : NamedTensor :=
  { id := t.id, dtype := t.spec.dtype, shape := t.spec.shape, bytes := a.tensorBytes t }

def SafeTensorArchive.namedTensors (a : SafeTensorArchive) : List NamedTensor :=
  a.tensors.map a.named

def IndexedShards.namedTensors (c : IndexedShards) : List NamedTensor :=
  c.shards.archives.flatMap SafeTensorArchive.namedTensors

/-- The name of every tensor of every shard with the name of the shard, in the order in
    which they lie in the shards. -/
def IndexedShards.placed (c : IndexedShards) : List (TensorId × String) :=
  (c.shards.labels.zip c.shards.archives).flatMap fun shard =>
    shard.2.tensors.map fun t => (t.id, shard.1)

lemma ModelTensorSpec.Valid.eq {s s' : ModelTensorSpec} (hs : s.Valid) (hs' : s'.Valid)
    (hid : s.tensorId = s'.tensorId) (hdtype : s.dtype = s'.dtype) (hshape : s.shape = s'.shape) :
    s = s' := by
  obtain ⟨bits, hbits, -, hsize⟩ := hs.bytes
  obtain ⟨bits', hbits', -, hsize'⟩ := hs'.bytes
  have hcount : s.parameterCount = s'.parameterCount := by rw [hs.count, hs'.count, hshape]
  have hsame : bits = bits' := by
    rw [hdtype, hbits'] at hbits
    exact (Option.some.inj hbits).symm
  have hbytes : s.dataByteCount = s'.dataByteCount := by
    rw [hsame, hcount] at hsize
    omega
  obtain ⟨id, dtype, shape, count, size⟩ := s
  obtain ⟨id', dtype', shape', count', size'⟩ := s'
  dsimp only at hid hdtype hshape hcount hbytes
  rw [hid, hdtype, hshape, hcount, hbytes]

/-! ## The opened shards -/

structure OpenedShards.Sound [Platform] (s : OpenedShards) : Prop where
  length_eq : s.labels.length = s.archives.length
  nodup : s.labels.Nodup
  byName : ∀ {name : String} {i : Nat}, s.shardByName[name]? = some i ↔ s.labels[i]? = some name
  archives : ∀ a ∈ s.archives, a.Valid ∧ a.Digested

section

variable [Platform] [JsonReader] {h : Host} {indexParent name : String} {s s' : OpenedShards}

omit [JsonReader] in
lemma OpenedShards.sound_start :
    OpenedShards.Sound ⟨[], [], [], ∅, ∅⟩ where
  length_eq := rfl
  nodup := nodup_nil
  byName := by simp
  archives := by simp

lemma openPath_valid {path : String} {a : SafeTensorArchive}
    (hopen : openPath h path = .ok a) : a.Valid ∧ a.Digested := by
  unfold openPath at hopen
  simp only [bind_ok] at hopen
  obtain ⟨_, -, file, -, hparse⟩ := hopen
  obtain ⟨-, hvalid, hdigested, -⟩ := parse_valid hparse
  exact ⟨hvalid, hdigested⟩

lemma openShard_labels (hopen : openShard h indexParent s name = .ok s') :
    s'.labels = s.labels ++ [name] := by
  unfold openShard at hopen
  simp only [bind_ok, pure_ok] at hopen
  obtain ⟨_, -, _, -, _, -, rfl⟩ := hopen
  rfl

lemma OpenedShards.Sound.step (hs : s.Sound) (hnew : name ∉ s.labels)
    (hopen : openShard h indexParent s name = .ok s') : s'.Sound := by
  unfold openShard at hopen
  simp only [bind_ok, pure_ok] at hopen
  obtain ⟨path, -, _, -, archive, harchive, rfl⟩ := hopen
  refine ⟨?_, ?_, ?_, ?_⟩
  · simp only [List.length_append, hs.length_eq, List.length_singleton]
  · exact nodup_snoc hs.nodup hnew
  · intro other i
    rw [BTreeMap.getElem?_insert_iff]
    by_cases hname : name = other
    · subst hname
      rw [if_pos rfl, Option.some.injEq, ← hs.length_eq]
      constructor
      · intro hi
        rw [← hi, List.getElem?_append_right (Nat.le_refl _), Nat.sub_self]
        rfl
      · intro hget
        by_contra hne
        rcases Nat.lt_or_ge i s.labels.length with hlt | hge
        · rw [List.getElem?_append_left hlt] at hget
          exact hnew (List.mem_of_getElem? hget)
        · have hlen := (List.getElem?_eq_some_iff.mp hget).1
          rw [List.length_append, List.length_singleton] at hlen
          omega
    · rw [if_neg hname, hs.byName]
      constructor
      · intro hget
        rw [List.getElem?_append_left (List.getElem?_eq_some_iff.mp hget).1]
        exact hget
      · intro hget
        rcases Nat.lt_or_ge i s.labels.length with hlt | hge
        · rwa [List.getElem?_append_left hlt] at hget
        · rw [List.getElem?_append_right hge] at hget
          have hmem := List.mem_of_getElem? hget
          rw [List.mem_singleton] at hmem
          exact absurd hmem.symm hname
  · intro a ha
    rcases List.mem_append.mp ha with ha | ha
    · exact hs.archives a ha
    · rw [List.mem_singleton] at ha
      rw [ha]
      exact openPath_valid harchive

lemma OpenedShards.Sound.run {names : List String} (hs : s.Sound)
    (hnodup : (s.labels ++ names).Nodup)
    (hopen : names.foldlM (openShard h indexParent) s = .ok s') : s'.Sound := by
  induction names generalizing s with
  | nil =>
    rw [foldlM_nil, pure_ok] at hopen
    rw [← hopen]
    exact hs
  | cons name names ih =>
    rw [foldlM_cons, bind_ok] at hopen
    obtain ⟨middle, hone, hrest⟩ := hopen
    have hnew : name ∉ s.labels := by
      intro hmem
      rw [nodup_append] at hnodup
      exact hnodup.2.2 name hmem name mem_cons_self rfl
    refine ih (hs.step hnew hone) ?_ hrest
    rw [openShard_labels hone, append_assoc]
    exact hnodup

/-- Opening an indexed checkpoint opens valid archives under distinct names. -/
lemma openIndexedShards_sound {path : String} {c : IndexedShards}
    (hopen : openIndexedShards h path = .ok c) : c.shards.Sound := by
  unfold openIndexedShards at hopen
  simp only [bind_ok, pure_ok] at hopen
  obtain ⟨_, -, _, -, _, -, _, -, _, -, shards, hshards, rfl⟩ := hopen
  exact OpenedShards.sound_start.run (BTreeSet.nodup_toList _) hshards

end

/-! ## The index against the shards -/

section

variable {c : IndexedShards}

lemma mem_zip_iff_getElem? {α β : Type} {xs : List α} {ys : List β} {x : α} {y : β} :
    (x, y) ∈ xs.zip ys ↔ ∃ i : Nat, xs[i]? = some x ∧ ys[i]? = some y := by
  rw [mem_iff_getElem?]
  simp only [getElem?_zip_eq_some]

lemma nodup_placed [Platform] (hs : c.shards.Sound) : c.placed.Nodup := by
  unfold IndexedShards.placed
  rw [nodup_flatMap]
  constructor
  · intro shard hshard
    have hmem : shard.2 ∈ c.shards.archives := (of_mem_zip hshard).2
    have hnodup := (hs.archives _ hmem).1.nodup
    have hcompose : (shard.2.tensors.map fun t => (t.id, shard.1)) =
        (shard.2.tensors.map ParsedTensor.id).map fun id => (id, shard.1) := by
      rw [map_map]
      rfl
    rw [hcompose]
    refine hnodup.map ?_
    intro id other heq
    exact (Prod.mk.inj heq).1
  · have hfirst : ((c.shards.labels.zip c.shards.archives).map Prod.fst).Nodup := by
      rw [map_fst_zip (Nat.le_of_eq hs.length_eq)]
      exact hs.nodup
    unfold Nodup at hfirst
    rw [pairwise_map] at hfirst
    refine hfirst.imp ?_
    intro shard other hne entry hentry hother
    obtain ⟨_, -, rfl⟩ := mem_map.mp hentry
    obtain ⟨_, -, heq⟩ := mem_map.mp hother
    exact hne (Prod.mk.inj heq).2.symm

lemma checkedAdd_foldlM {xs : List SafeTensorArchive} {start total : Nat} {e : BrainError}
    (h : xs.foldlM (fun total archive => checkedAdd u64Width total archive.tensors.length e)
      start = .ok total) : total = start + (xs.map fun archive => archive.tensors.length).sum := by
  induction xs generalizing start with
  | nil =>
    rw [foldlM_nil, pure_ok] at h
    rw [← h, map_nil, sum_nil, Nat.add_zero]
  | cons archive xs ih =>
    rw [foldlM_cons, bind_ok] at h
    obtain ⟨middle, hmiddle, hrest⟩ := h
    rw [checkedAdd_ok] at hmiddle
    rw [ih hrest, hmiddle.2, map_cons, sum_cons, Nat.add_assoc]

/-- A count and a lookup in one direction make the index a permutation of what the
    shards hold. -/
lemma checkWeightMap_perm [Platform] (hs : c.shards.Sound) (h : checkWeightMap c = .ok ()) :
    c.placed.Perm c.weightMap.toList := by
  unfold checkWeightMap at h
  simp only [bind_ok, failIf_ok, not_not, ne_eq, forM_ok] at h
  obtain ⟨total, htotal, _, hcount, hall⟩ := h
  have hlength : c.placed.length = c.weightMap.toList.length := by
    have hsum := checkedAdd_foldlM htotal
    rw [Nat.zero_add, hcount] at hsum
    unfold IndexedShards.placed
    rw [length_flatMap, Std.ExtTreeMap.length_toList, hsum]
    have hzip : (c.shards.labels.zip c.shards.archives).map Prod.snd = c.shards.archives :=
      map_snd_zip (Nat.le_of_eq hs.length_eq.symm)
    have hlengths : ((c.shards.labels.zip c.shards.archives).map fun shard =>
        (shard.2.tensors.map fun t => (t.id, shard.1)).length) =
        ((c.shards.labels.zip c.shards.archives).map Prod.snd).map fun archive =>
          archive.tensors.length := by
      rw [map_map]
      refine map_congr_left ?_
      intro shard _
      exact length_map _
    rw [hlengths, hzip]
  refine (Nodup.subperm (nodup_placed hs) ?_).perm_of_length_le (Nat.le_of_eq hlength.symm)
  intro entry hentry
  unfold IndexedShards.placed at hentry
  obtain ⟨shard, hshard, hentry⟩ := mem_flatMap.mp hentry
  obtain ⟨t, ht, rfl⟩ := mem_map.mp hentry
  obtain ⟨i, hlabel, harchive⟩ := mem_zip_iff_getElem?.mp hshard
  have hone := hall (shard.2, i) (mem_zipIdx_iff_getElem?.mpr harchive)
  unfold checkShardTensors at hone
  simp only [hlabel, bind_ok, okOr_ok, forM_ok, failIf_ok, not_not, ne_eq] at hone
  obtain ⟨label, hsome, hlisted⟩ := hone
  rw [Option.some.inj hsome, BTreeMap.mem_toList_iff]
  exact hlisted t ht

end

/-! ## Where the tensors are -/

def Located (shards : OpenedShards) (entry : TensorId × String)
    (location : ShardedTensorLocation) : Prop :=
  ∃ a t, shards.labels[location.shardIndex]? = some entry.2 ∧
    shards.archives[location.shardIndex]? = some a ∧
    a.tensors[location.tensorIndex]? = some t ∧ t.id = entry.1 ∧ location.spec = t.spec

section

variable {shards : OpenedShards}

lemma locateTensor_spec [Platform] (hs : shards.Sound) {entry : TensorId × String}
    {location : ShardedTensorLocation} (h : locateTensor shards entry = .ok location) :
    Located shards entry location := by
  unfold locateTensor at h
  simp only [bind_ok, okOr_ok, pure_ok] at h
  obtain ⟨shardIndex, hshard, a, ha, tensorIndex, hindex, t, ht, rfl⟩ := h
  have hvalid := (hs.archives a (mem_of_getElem? ha)).1
  have hfound : a.tensor entry.1 = .ok t := by
    unfold tensor
    rw [hindex, bind_ok]
    refine ⟨tensorIndex, rfl, ?_⟩
    rw [ht]
    rfl
  exact ⟨a, t, hs.byName.mp hshard, ha, ht, (hvalid.tensor_ok.mp hfound).2, rfl⟩

lemma locateNext_run {entries : List (TensorId × String)}
    {located located' : List ShardedTensorLocation × Nat}
    (h : entries.foldlM (locateNext shards) located = .ok located') :
    ∃ more, located'.1 = located.1 ++ more ∧
      Forall₂ (fun entry location => locateTensor shards entry = .ok location) entries more ∧
      located'.2 = located.2 + (more.map fun location => location.spec.dataByteCount).sum := by
  induction entries generalizing located with
  | nil =>
    rw [foldlM_nil, pure_ok] at h
    exact ⟨[], by rw [← h, append_nil], Forall₂.nil, by rw [← h]; rfl⟩
  | cons entry entries ih =>
    rw [foldlM_cons, bind_ok] at h
    obtain ⟨middle, hone, hrest⟩ := h
    unfold locateNext at hone
    simp only [bind_ok, checkedAdd_ok, pure_ok] at hone
    obtain ⟨location, hlocation, total, ⟨-, rfl⟩, rfl⟩ := hone
    obtain ⟨more, happend, hall, htotal⟩ := ih hrest
    refine ⟨location :: more, ?_, Forall₂.cons hlocation hall, ?_⟩
    · rw [happend, append_assoc]
      rfl
    · rw [htotal, map_cons, sum_cons, Nat.add_assoc]

/-- The locations are those of the entries of the index, in their order. -/
lemma locateTensors_spec [Platform] {c : IndexedShards} (hs : c.shards.Sound)
    {locations : List ShardedTensorLocation} {total : Nat}
    (h : locateTensors c = .ok (locations, total)) :
    Forall₂ (Located c.shards) c.weightMap.toList locations := by
  unfold locateTensors at h
  simp only [bind_ok, pure_ok] at h
  obtain ⟨located, hrun, _, -, hresult⟩ := h
  obtain ⟨more, happend, hall, -⟩ := locateNext_run hrun
  rw [hresult] at happend
  replace happend : locations = more := happend
  rw [happend]
  exact hall.imp fun _ _ hone => locateTensor_spec hs hone

end

/-! ## What is written -/

def writtenTensor (location : ShardedTensorLocation) (bytes : ByteArray) : NamedTensor :=
  { id := location.spec.tensorId, dtype := location.spec.dtype, shape := location.spec.shape,
    bytes := bytes }

def writtenTensors (locations : List ShardedTensorLocation) (parts : List ByteArray) :
    List NamedTensor :=
  List.zipWith writtenTensor locations parts

@[simp] lemma writtenTensors_cons {location : ShardedTensorLocation} {bytes : ByteArray}
    {locations : List ShardedTensorLocation} {parts : List ByteArray} :
    writtenTensors (location :: locations) (bytes :: parts) =
      writtenTensor location bytes :: writtenTensors locations parts := rfl

section

variable [Platform] {c : IndexedShards} {locations : List ShardedTensorLocation}
  {parts : List ByteArray} {location : ShardedTensorLocation}

lemma copyLocated_spec {entry : TensorId × String} {bytes : ByteArray}
    (hlocated : Located c.shards entry location) (h : copyLocated c.shards location = .ok bytes) :
    ∃ a ∈ c.shards.archives, ∃ t ∈ a.tensors, t.id = entry.1 ∧ location.spec = t.spec ∧
      bytes = a.tensorBytes t := by
  obtain ⟨a, t, -, ha, ht, hid, hspec⟩ := hlocated
  unfold copyLocated at h
  simp only [bind_ok, okOr_ok] at h
  obtain ⟨b, hb, u, hu, _, -, hcopy⟩ := h
  rw [ha] at hb
  cases hb
  rw [ht] at hu
  cases hu
  exact ⟨a, mem_of_getElem? ha, t, mem_of_getElem? ht, hid, hspec,
    copyTensorBytes_ok hcopy⟩

structure WrittenEntry (c : IndexedShards) (entry : TensorId × String)
    (location : ShardedTensorLocation) (bytes : ByteArray) : Prop where
  id : location.spec.tensorId = entry.1
  mem : writtenTensor location bytes ∈ c.namedTensors
  valid : location.spec.Valid
  size : bytes.size = location.spec.dataByteCount

lemma writtenEntry_of_copy (hs : c.shards.Sound) {entry : TensorId × String} {bytes : ByteArray}
    (hlocated : Located c.shards entry location) (h : copyLocated c.shards location = .ok bytes) :
    WrittenEntry c entry location bytes := by
  obtain ⟨a, ha, t, ht, hid, hspec, hbytes⟩ := copyLocated_spec hlocated h
  have hvalid := (hs.archives a ha).1
  refine ⟨?_, ?_, ?_, ?_⟩
  · rw [hspec]
    exact hid
  · have hnamed : writtenTensor location bytes = a.named t := by
      unfold writtenTensor named ParsedTensor.id
      rw [hspec, hbytes]
    rw [hnamed]
    exact mem_flatMap.mpr ⟨a, ha, mem_map_of_mem ht⟩
  · rw [hspec]
    exact (hvalid.tensors_valid t ht).spec
  · rw [hspec, hbytes]
    exact hvalid.size_tensorBytes ht

/-- The entries of the index, their locations and what was copied for them. -/
inductive Written (c : IndexedShards) :
    List (TensorId × String) → List ShardedTensorLocation → List ByteArray → Prop where
  | nil : Written c [] [] []
  | cons {entry location bytes entries locations parts} :
      WrittenEntry c entry location bytes → Written c entries locations parts →
      Written c (entry :: entries) (location :: locations) (bytes :: parts)

lemma written_of_copies (hs : c.shards.Sound) {entries : List (TensorId × String)}
    (hlocated : Forall₂ (Located c.shards) entries locations)
    (hcopies : Forall₂ (fun location bytes => copyLocated c.shards location = .ok bytes)
      locations parts) : Written c entries locations parts := by
  induction hlocated generalizing parts with
  | nil =>
    cases hcopies
    exact Written.nil
  | cons hone _ ih =>
    cases hcopies with
    | cons hcopy hrest => exact Written.cons (writtenEntry_of_copy hs hone hcopy) (ih hrest)

namespace Written

omit [Platform]

variable {entries : List (TensorId × String)}

section

variable (h : Written c entries locations parts)
include h

lemma ids : (writtenTensors locations parts).map NamedTensor.id = entries.map Prod.fst := by
  induction h with
  | nil => rfl
  | cons hone _ ih =>
    rw [writtenTensors_cons, map_cons, map_cons, ih, ← hone.id]
    rfl

lemma subset : writtenTensors locations parts ⊆ c.namedTensors := by
  induction h with
  | nil => exact nil_subset _
  | cons hone _ ih => exact cons_subset.mpr ⟨hone.mem, ih⟩

lemma valid : ∀ location ∈ locations, location.spec.Valid := by
  induction h with
  | nil => simp
  | cons hone _ ih => exact forall_mem_cons.mpr ⟨hone.valid, ih⟩

lemma sizes :
    locations.map (fun location => location.spec.dataByteCount) = parts.map ByteArray.size := by
  induction h with
  | nil => rfl
  | cons hone _ ih => rw [map_cons, map_cons, ih, hone.size]

lemma bytes : (writtenTensors locations parts).map NamedTensor.bytes = parts := by
  induction h with
  | nil => rfl
  | cons _ _ ih =>
    rw [writtenTensors_cons, map_cons, ih]
    rfl

lemma contents : (writtenTensors locations parts).map (fun n => (n.id, n.dtype, n.shape)) =
      locations.map fun location =>
        (location.spec.tensorId, location.spec.dtype, location.spec.shape) := by
  induction h with
  | nil => rfl
  | cons _ _ ih =>
    rw [writtenTensors_cons, map_cons, map_cons, ih]
    rfl

end

end Written

lemma map_id_namedTensors (hs : c.shards.Sound) :
    c.namedTensors.map NamedTensor.id = c.placed.map Prod.fst := by
  have hzip : (c.shards.labels.zip c.shards.archives).map Prod.snd = c.shards.archives :=
    map_snd_zip (Nat.le_of_eq hs.length_eq.symm)
  unfold IndexedShards.namedTensors IndexedShards.placed
  conv_lhs => rw [← hzip]
  rw [flatMap_map, map_flatMap, map_flatMap]
  congr 1
  funext shard
  unfold namedTensors
  rw [map_map, map_map]
  rfl

section

omit [Platform]

lemma sorted_weightMap :
    (c.weightMap.toList.map Prod.fst).Pairwise fun i j => compare i j = .lt := by
  rw [pairwise_map]
  exact Std.ExtTreeMap.ordered_keys_toList

lemma Written.sorted (h : Written c c.weightMap.toList locations parts) :
    (writtenTensors locations parts).Pairwise fun m n => compare m.id n.id = .lt := by
  have hids : ((writtenTensors locations parts).map NamedTensor.id).Pairwise
      fun i j => compare i j = .lt := by
    rw [h.ids]
    exact sorted_weightMap
  exact pairwise_map.mp hids

end

lemma Written.perm (hs : c.shards.Sound) (hperm : c.placed.Perm c.weightMap.toList)
    (h : Written c c.weightMap.toList locations parts) :
    (writtenTensors locations parts).Perm c.namedTensors := by
  have hids : (c.namedTensors.map NamedTensor.id).Perm (c.weightMap.toList.map Prod.fst) := by
    rw [map_id_namedTensors hs]
    exact hperm.map Prod.fst
  have hnodup : (writtenTensors locations parts).Nodup := by
    apply Nodup.of_map NamedTensor.id
    rw [h.ids]
    exact nodup_of_ascending (pairwise_map.mp sorted_weightMap)
  have hlength : c.namedTensors.length = (writtenTensors locations parts).length := by
    have hcount := hids.length_eq
    rw [← h.ids, length_map, length_map] at hcount
    exact hcount
  exact (subperm_of_subset hnodup h.subset).perm_of_length_le (Nat.le_of_eq hlength)

omit [Platform] in
lemma specs_eq_of_contents {specs specs' : List ModelTensorSpec} (hvalid : ∀ s ∈ specs, s.Valid)
    (hvalid' : ∀ s ∈ specs', s.Valid) (h : (specs.map fun s => (s.tensorId, s.dtype, s.shape)) =
      specs'.map fun s => (s.tensorId, s.dtype, s.shape)) : specs = specs' := by
  induction specs generalizing specs' with
  | nil =>
    cases specs' with
    | nil => rfl
    | cons s' specs' => cases h
  | cons s specs ih =>
    cases specs' with
    | nil => cases h
    | cons s' specs' =>
      rw [forall_mem_cons] at hvalid hvalid'
      rw [map_cons, map_cons] at h
      obtain ⟨hone, hrest⟩ := cons.inj h
      obtain ⟨hid, hrest'⟩ := Prod.mk.inj hone
      obtain ⟨hdtype, hshape⟩ := Prod.mk.inj hrest'
      rw [hvalid.1.eq hvalid'.1 hid hdtype hshape, ih hvalid.2 hvalid'.2 hrest]

def IndexedShards.normalized (c : IndexedShards) : BrainResult ByteArray := do
  let (locations, _) ← locateTensors c
  writeNormalized c.shards locations

/-- What the bytes of a normalized checkpoint are made of. -/
structure NormalForm (c : IndexedShards) (locations : List ShardedTensorLocation)
    (parts : List ByteArray) (header bytes : ByteArray) : Prop where
  written : Written c c.weightMap.toList locations parts
  header_eq : normalizedShardedHeader (locations.map ShardedTensorLocation.spec) = .ok header
  bytes_eq : bytes = le64 header.size ++ header ++ joined parts

lemma normalForm_of_write (hs : c.shards.Sound) {total : Nat} {bytes : ByteArray}
    (hlocate : locateTensors c = .ok (locations, total))
    (hwrite : writeNormalized c.shards locations = .ok bytes) :
    ∃ parts header, NormalForm c locations parts header bytes := by
  unfold writeNormalized at hwrite
  simp only [bind_ok, pure_ok] at hwrite
  obtain ⟨header, hheader, parts, hparts, rfl⟩ := hwrite
  exact ⟨parts, header,
    written_of_copies hs (locateTensors_spec hs hlocate) (mapM_ok.mp hparts), hheader, rfl⟩

section

omit [Platform]

lemma header_size_le {specs : List ModelTensorSpec} {header : ByteArray}
    (h : normalizedShardedHeader specs = .ok header) : header.size ≤ maxSafetensorsHeaderBytes := by
  unfold normalizedShardedHeader at h
  simp only [bind_ok, pure_ok, failIf_ok, not_or, not_lt, gt_iff_lt] at h
  obtain ⟨_, -, _, -, _, hsize, rfl⟩ := h
  exact hsize.2

lemma NormalForm.opened {header bytes : ByteArray} {a : SafeTensorArchive}
    (hform : NormalForm c locations parts header bytes) (ha : a.Valid) (hfile : a.file = bytes)
    (hspecs : a.tensors.map spec = locations.map ShardedTensorLocation.spec) :
    a.namedTensors = writtenTensors locations parts := by
  have hheader : header.size < u64Width := by
    have hle := header_size_le hform.header_eq
    unfold maxSafetensorsHeaderBytes at hle
    unfold u64Width
    omega
  have hsizes : (a.tensors.map fun t => t.spec.dataByteCount) = parts.map ByteArray.size := by
    rw [← hform.written.sizes]
    have hmap := congrArg (map ModelTensorSpec.dataByteCount) hspecs
    rwa [map_map, map_map] at hmap
  have hbytes : a.tensors.map a.tensorBytes = parts :=
    ha.tensors_of_layout hheader (hfile.trans hform.bytes_eq) hsizes
  have hzip : a.namedTensors =
      zipWith (fun spec bytes => NamedTensor.mk spec.tensorId spec.dtype spec.shape bytes)
        (a.tensors.map spec) (a.tensors.map a.tensorBytes) := by
    rw [zipWith_map, zipWith_self]
    rfl
  rw [hzip, hspecs, hbytes, zipWith_map_left]
  rfl

end

lemma NormalForm.unique {c' : IndexedShards} {locations' : List ShardedTensorLocation}
    {parts' : List ByteArray} {header header' bytes bytes' : ByteArray}
    (hs : c.shards.Sound) (hs' : c'.shards.Sound)
    (hperm : c.placed.Perm c.weightMap.toList) (hperm' : c'.placed.Perm c'.weightMap.toList)
    (hform : NormalForm c locations parts header bytes)
    (hform' : NormalForm c' locations' parts' header' bytes')
    (hsame : ∀ n, n ∈ c.namedTensors ↔ n ∈ c'.namedTensors) : bytes = bytes' := by
  have hwritten := hform.written.perm hs hperm
  have hwritten' := hform'.written.perm hs' hperm'
  have heq : writtenTensors locations parts = writtenTensors locations' parts' := by
    apply eq_of_ascending hform.written.sorted hform'.written.sorted
    intro n
    rw [hwritten.mem_iff, hwritten'.mem_iff]
    exact hsame n
  have hparts : parts = parts' := by
    rw [← hform.written.bytes, ← hform'.written.bytes, heq]
  have hspecs : locations.map ShardedTensorLocation.spec =
      locations'.map ShardedTensorLocation.spec := by
    apply specs_eq_of_contents
    · intro spec hspec
      obtain ⟨location, hlocation, rfl⟩ := mem_map.mp hspec
      exact hform.written.valid location hlocation
    · intro spec hspec
      obtain ⟨location, hlocation, rfl⟩ := mem_map.mp hspec
      exact hform'.written.valid location hlocation
    · have hcontents := hform.written.contents
      rw [heq, hform'.written.contents] at hcontents
      rw [map_map, map_map]
      exact hcontents.symm
  have hheader : header = header' := by
    have hfirst := hform.header_eq
    rw [hspecs, hform'.header_eq] at hfirst
    exact (Except.ok.inj hfirst).symm
  rw [hform.bytes_eq, hform'.bytes_eq, hheader, hparts]

end

end Tidex.Receiver
