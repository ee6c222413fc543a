/-
  Foundation.DvecWrite — the writers of deltas.
-/
import Tidex.Foundation.Dvec
import Tidex.Foundation.Reference
import Tidex.Knowledge.Identity

namespace Tidex

open Tidex.Lib List Function Sha256Digest ByteArray Option Path CountedForm
open Tidex.Knowledge (isAsciiAlphanumeric)

namespace Dvec

/-! ## Places -/

def validId (id : String) : Bool :=
  !id.toList.isEmpty && decide (id.utf8ByteSize ≤ 128) &&
    id.toList.all fun ch => isAsciiAlphanumeric ch || ch == '-' || ch == '_' || ch == '.'

def outputPath (root id : String) : BrainResult String := do
  failIf (validId id = false) (invalid "artifact_id_invalid")
  return Path.push (artifactDir root) (id ++ ".dvec")

/-- Link a staged file to a path that has none; a file that is there stays. -/
def install (fs : PrivateRoot) (path : String) (bytes : ByteArray)
    (existing written : PrivateRoot → BrainResult DeltaArtifactRef) :
    PrivateRoot × BrainResult DeltaArtifactRef :=
  match fs.content path with
  | .ok _ => (fs, existing fs)
  | .error (.io .notFound) =>
    (replacePrivateFileAtomic fs path bytes, written (replacePrivateFileAtomic fs path bytes))
  | .error e => (fs, .error e)

/-! ## Lists and iterators -/

section

variable [Platform]

def dvecMatchesValues (root : String) (fs : PrivateRoot) (path : String) (values : List F32) :
    BrainResult Bool := do
  let (inspected, bytes) ← inspectOpenDvec root fs path
  return inspected.parameterCount == values.length
    && decide (form.elements bytes values.length = values.map f32ToLeBytes)

def inspectAs (root : String) (fs : PrivateRoot) (path : String) (digest : Sha256Digest)
    (count : Nat) (code : String) : BrainResult DeltaArtifactRef := do
  let inspected ← inspectDvec root fs path
  failIf (inspected.sha256 ≠ digest ∨ inspected.parameterCount ≠ count) (integrity code)
  return inspected

def acceptDvec (root : String) (fs : PrivateRoot) (path : String) (digest : Sha256Digest)
    (values : List F32) (code : String) : BrainResult DeltaArtifactRef := do
  let existing ← inspectAs root fs path digest values.length code
  let same ← dvecMatchesValues root fs path values
  failIf (same = false) (integrity code)
  return existing

def createDvec (root : String) (fs : PrivateRoot) (id : String) (values : List F32) :
    PrivateRoot × BrainResult DeltaArtifactRef :=
  if values.any (fun value => !value.isFinite) then
    (fs, .error (invalid "artifact_value_non_finite"))
  else
    match outputPath root id with
    | .error e => (fs, .error e)
    | .ok path =>
      install fs path (dvecBytes values)
        (fun _ => .error (integrity "artifact_already_exists"))
        (fun fs => inspectDvec root fs path)

def createContentAddressedDvec (root : String) (fs : PrivateRoot) (values : List F32) :
    PrivateRoot × BrainResult DeltaArtifactRef :=
  if values = [] ∨ values.any (fun value => !value.isFinite) then
    (fs, .error (invalid "artifact_values_invalid"))
  else
    let digest := digestBytes (dvecBytes values)
    let path := contentOutputPath root digest
    install fs path (dvecBytes values)
      (fun fs => acceptDvec root fs path digest values "content_addressed_artifact_collision")
      (fun fs => acceptDvec root fs path digest values "content_addressed_artifact_write_mismatch")

def streamValues (parameterCount : Nat) : Nat → List F32 → BrainResult ByteArray
  | observed, [] => do
    failIf (observed ≠ parameterCount) (invalid ("artifact_stream_value_count_mismatch:" ++
      toString observed ++ ":" ++ toString parameterCount))
    return ByteArray.empty
  | observed, value :: values => do
    failIf (observed ≥ parameterCount) (invalid "artifact_stream_too_many_values")
    failIf (value.isFinite = false) (invalid "artifact_stream_value_non_finite")
    let rest ← streamValues parameterCount (observed + 1) values
    return f32ToLeBytes value ++ rest

def createContentAddressedDvecIter (root : String) (fs : PrivateRoot) (parameterCount : Nat)
    (values : List F32) : PrivateRoot × BrainResult DeltaArtifactRef :=
  if parameterCount = 0 then
    (fs, .error (invalid "artifact_stream_parameter_count_zero"))
  else
    match streamValues parameterCount 0 values with
    | .error e => (fs, .error e)
    | .ok rest =>
      let bytes := form.header parameterCount ++ rest
      let digest := digestBytes bytes
      let path := contentOutputPath root digest
      install fs path bytes
        (fun fs =>
          inspectAs root fs path digest parameterCount "content_addressed_stream_collision")
        (fun fs =>
          inspectAs root fs path digest parameterCount "content_addressed_stream_write_mismatch")

end

/-! ## Linear combinations -/

section

variable [Platform]

abbrev Weighted := List (VerifiedDvecReader × F64)

def openSources (root : String) (fs : PrivateRoot) :
    Option Nat → List (DeltaArtifactRef × F64) → BrainResult (Weighted × Option Nat)
  | count, [] => .ok ([], count)
  | count, (reference, coefficient) :: sources => do
    let r ← openReader root fs reference
    failIf (∃ expected ∈ count, expected ≠ r.reference.parameterCount)
      (invalid "artifact_combine_parameter_count_mismatch")
    let (readers, count) ← openSources root fs (some r.reference.parameterCount) sources
    return ((r, coefficient) :: readers, count)

def combinationReaders (root : String) (fs : PrivateRoot)
    (sources : List (DeltaArtifactRef × F64)) : BrainResult (Weighted × Nat) := do
  failIf (sources = []) (invalid "artifact_combine_empty")
  failIf (sources.any (fun source => !source.2.isFinite) = true)
    (invalid "artifact_combine_coefficient_non_finite")
  let (readers, count) ← openSources root fs none sources
  let count ← okOr count (invalid "artifact_combine_empty")
  return (readers, count)

def finishCombinationReaders (readers : Weighted) : BrainResult Unit :=
  readers.forM fun reader => reader.1.finish

/-- Add the next value of each reader to a sum, with its coefficient. -/
def weightedSum : F64 → Weighted → BrainResult (F64 × Weighted)
  | sum, [] => .ok (sum, [])
  | sum, (r, coefficient) :: readers => do
    let (value, r) ← r.readOneF32
    let (total, readers) ← weightedSum (sum.add (coefficient.mul value.toF64)) readers
    return (total, (r, coefficient) :: readers)

def combineNext (readers : Weighted) : BrainResult (F32 × Weighted) := do
  let (sum, readers) ← weightedSum (F64.zero false) readers
  failIf (sum.isFinite = false ∨ F32.maxF64.lt? sum.abs = true)
    (.numerical "artifact_combine_nonfinite_or_overflow")
  return (F32.ofF64 sum, readers)

def streamLinearCombinationBytes {σ : Type} (consume : ByteArray → σ → BrainResult σ) :
    Nat → Weighted → σ → BrainResult (Weighted × σ)
  | 0, readers, state => .ok (readers, state)
  | n + 1, readers, state => do
    let (value, readers) ← combineNext readers
    let state ← consume (f32ToLeBytes value) state
    streamLinearCombinationBytes consume n readers state

def writeLinearCombination (root : String) (fs : PrivateRoot)
    (sources : List (DeltaArtifactRef × F64)) : BrainResult (ByteArray × Nat) := do
  let (readers, count) ← combinationReaders root fs sources
  let (readers, bytes) ← streamLinearCombinationBytes (fun raw written => .ok (written ++ raw))
    count readers (form.header count)
  finishCombinationReaders readers
  return (bytes, count)

def compareNext (expected : ByteArray) (state : VerifiedDvecReader × Bool) :
    BrainResult (VerifiedDvecReader × Bool) := do
  let (actual, target) ← state.1.readOneF32
  return (target, state.2 && decide (f32ToLeBytes actual = expected))

def linearCombinationMatches (root : String) (fs : PrivateRoot) (path : String)
    (sources : List (DeltaArtifactRef × F64)) (expectedCount : Nat) : BrainResult Bool := do
  let (readers, count) ← combinationReaders root fs sources
  if count ≠ expectedCount then return false
  let inspected ← inspectDvec root fs path
  if inspected.parameterCount ≠ count then return false
  let target ← openReader root fs inspected
  let (readers, target, same) ←
    streamLinearCombinationBytes compareNext count readers (target, true)
  finishCombinationReaders readers
  target.finish
  return same

def acceptCombination (root : String) (fs : PrivateRoot) (path : String) (digest : Sha256Digest)
    (sources : List (DeltaArtifactRef × F64)) (count : Nat) (code : String) :
    BrainResult DeltaArtifactRef := do
  let existing ← inspectAs root fs path digest count code
  let same ← linearCombinationMatches root fs path sources count
  failIf (same = false) (integrity code)
  return existing

def combineContentAddressedDvec (root : String) (fs : PrivateRoot)
    (sources : List (DeltaArtifactRef × F64)) : PrivateRoot × BrainResult DeltaArtifactRef :=
  match writeLinearCombination root fs sources with
  | .error e => (fs, .error e)
  | .ok (bytes, count) =>
    let digest := digestBytes bytes
    let path := contentOutputPath root digest
    install fs path bytes
      (fun fs => acceptCombination root fs path digest sources count
        "content_addressed_combination_collision")
      (fun fs => acceptCombination root fs path digest sources count
        "content_addressed_combination_write_mismatch")

def combineDvec (root : String) (fs : PrivateRoot) (id : String)
    (sources : List (DeltaArtifactRef × F64)) : PrivateRoot × BrainResult DeltaArtifactRef :=
  match outputPath root id with
  | .error e => (fs, .error e)
  | .ok path =>
    match fs.content path with
    | .ok _ => (fs, .error (integrity "artifact_already_exists"))
    | .error (.io .notFound) =>
      match writeLinearCombination root fs sources with
      | .error e => (fs, .error e)
      | .ok (bytes, count) =>
        install fs path bytes
          (fun _ => .error (integrity "artifact_already_exists"))
          (fun fs => inspectAs root fs path (digestBytes bytes) count
            "artifact_combine_written_count_mismatch")
    | .error e => (fs, .error e)

end

/-! ## The writers -/

inductive DvecWriter where
  | dvec (id : String) (values : List F32)
  | contentAddressed (values : List F32)
  | contentAddressedIter (parameterCount : Nat) (values : List F32)
  | combination (sources : List (DeltaArtifactRef × F64))
  | namedCombination (id : String) (sources : List (DeltaArtifactRef × F64))

namespace DvecWriter

variable [Platform]

def write (root : String) (fs : PrivateRoot) :
    DvecWriter → PrivateRoot × BrainResult DeltaArtifactRef
  | dvec id values => createDvec root fs id values
  | contentAddressed values => createContentAddressedDvec root fs values
  | contentAddressedIter parameterCount values =>
    createContentAddressedDvecIter root fs parameterCount values
  | combination sources => combineContentAddressedDvec root fs sources
  | namedCombination id sources => combineDvec root fs id sources

end DvecWriter

/-! ## Places are verified -/

section

variable {root dir stem : String}

lemma isName_dvec (hstem : '/' ∉ stem.toList) : IsName (stem ++ ".dvec") :=
  isName_artifact hstem (by decide) (by decide)

lemma open_artifactDir (hroot : IsRoot root) : Open (artifactDir root) := by
  unfold artifactDir
  exact open_push (open_push hroot.rooted ⟨by decide, by decide⟩)
    ⟨by decide, by decide⟩

lemma open_contentArtifactDir (hroot : IsRoot root) : Open (contentArtifactDir root) := by
  unfold contentArtifactDir
  exact open_push (open_artifactDir hroot) ⟨by decide, by decide⟩

lemma fileStem_dvec (hdir : Open dir) (hstem : '/' ∉ stem.toList) (hne : stem.toList ≠ []) :
    fileStem (push dir (stem ++ ".dvec")) = some stem ∧
      extension (push dir (stem ++ ".dvec")) = some "dvec" := by
  have hfile := fileName_push hdir (isName_dvec hstem)
  have hsplit : splitAtLastDot (stem ++ ".dvec").toList =
      some (stem.toList, "dvec".toList) := by
    rw [String.toList_append]
    exact splitAtLastDot_append (by decide)
  unfold fileStem extension
  rw [hfile]
  simp only [bind_eq_bind, bind_some, hsplit]
  cases hchars : stem.toList with
  | nil => exact absurd hchars hne
  | cons ch chars =>
    refine ⟨?_, rfl⟩
    show some (String.ofList (ch :: chars)) = some stem
    rw [← hchars, String.ofList_toList]

lemma verifiedDvecPath {names : List String} (hroot : IsRoot root) (hdir : Open dir)
    (hplace : push dir (stem ++ ".dvec") = place root names) (hne : names ≠ [])
    (hnames : ∀ n ∈ names, IsName n)
    (hdirs : dir = artifactDir root ∨ dir = contentArtifactDir root)
    (hstem : '/' ∉ stem.toList) (hempty : stem.toList ≠ []) :
    verifiedDvecPathUnderRoot root (push dir (stem ++ ".dvec")) =
      .ok (push dir (stem ++ ".dvec")) := by
  have hconfined : confine root (push dir (stem ++ ".dvec")) =
      .ok (push dir (stem ++ ".dvec")) := by
    rw [hplace]
    exact confine_place hroot hne hnames
  have hparent := parentComponents_push hdir (isName_dvec hstem)
  unfold verifiedDvecPathUnderRoot
  simp only [bind_ok, failIf_ok, okOr_ok, pure_ok]
  refine ⟨_, hconfined, _, hparent, (), ?_, rfl⟩
  intro hbad
  rcases hbad with hextension | hother
  · exact hextension (fileStem_dvec hdir hstem hempty).2
  · rcases hdirs with hdirs | hdirs
    · exact hother.1 (congrArg Path.components hdirs)
    · exact hother.2 (congrArg Path.components hdirs)

lemma parentName_push {before last : String} (hbefore : Open before)
    (hlast : IsName last) (hstem : '/' ∉ stem.toList) :
    parentName (push (push before last) (stem ++ ".dvec")) = some last := by
  have hparent := parentComponents_push (open_push hbefore hlast) (isName_dvec hstem)
  unfold parentName
  rw [hparent, components_push_name hbefore hlast]
  simp only [bind_eq_bind, bind_some, getLast?_append_cons]
  rfl

lemma named_dvec (hroot : IsRoot root) {id : String} (hid : validId id = true) :
    verifiedDvecPathUnderRoot root (push (artifactDir root) (id ++ ".dvec")) =
        .ok (push (artifactDir root) (id ++ ".dvec")) ∧
      contentDvecDigestFromPath (push (artifactDir root) (id ++ ".dvec")) = .ok none := by
  unfold validId at hid
  simp only [Bool.and_eq_true, Bool.not_eq_true', isEmpty_eq_false_iff] at hid
  obtain ⟨⟨hne, -⟩, hall⟩ := hid
  have hslash : '/' ∉ id.toList := by
    intro hmem
    have hchar := all_eq_true.mp hall '/' hmem
    exact absurd hchar (by decide)
  refine ⟨?_, ?_⟩
  · have hplace : push (artifactDir root) (id ++ ".dvec") =
        place root ["artifacts", "deltas", id ++ ".dvec"] := by
      unfold artifactDir place
      simp only [foldl_cons, foldl_nil]
    refine verifiedDvecPath hroot (open_artifactDir hroot) hplace (cons_ne_nil _ _) ?_
      (.inl rfl) hslash hne
    intro n hn
    simp only [mem_cons, not_mem_nil, or_false] at hn
    rcases hn with rfl | rfl | rfl
    · exact ⟨by decide, by decide⟩
    · exact ⟨by decide, by decide⟩
    · exact isName_dvec hslash
  · have hparent : parentName (push (artifactDir root) (id ++ ".dvec")) = some "deltas" :=
      parentName_push (open_push hroot.rooted ⟨by decide, by decide⟩)
        ⟨by decide, by decide⟩ hslash
    unfold contentDvecDigestFromPath
    rw [hparent, if_pos (by decide)]

lemma content_dvec (hroot : IsRoot root) (digest : Sha256Digest) :
    verifiedDvecPathUnderRoot root (contentOutputPath root digest) =
        .ok (contentOutputPath root digest) ∧
      contentDvecDigestFromPath (contentOutputPath root digest) = .ok (some digest) := by
  have hslash := slash_not_mem_hex digest
  have hne : digest.hex.toList ≠ [] := by
    have hlength := digest.length_hex
    intro hnil
    rw [hnil] at hlength
    cases hlength
  refine ⟨?_, ?_⟩
  · have hplace : push (contentArtifactDir root) (digest.hex ++ ".dvec") =
        place root ["artifacts", "deltas", "by-sha", digest.hex ++ ".dvec"] := by
      unfold contentArtifactDir artifactDir place
      simp only [foldl_cons, foldl_nil]
    unfold contentOutputPath
    refine verifiedDvecPath hroot (open_contentArtifactDir hroot) hplace (cons_ne_nil _ _) ?_
      (.inr rfl) hslash hne
    intro n hn
    simp only [mem_cons, not_mem_nil, or_false] at hn
    rcases hn with rfl | rfl | rfl | rfl
    · exact ⟨by decide, by decide⟩
    · exact ⟨by decide, by decide⟩
    · exact ⟨by decide, by decide⟩
    · exact isName_dvec hslash
  · have hparent : parentName (contentOutputPath root digest) = some "by-sha" :=
      parentName_push (open_artifactDir hroot) ⟨by decide, by decide⟩ hslash
    have hstem : fileStem (contentOutputPath root digest) = some digest.hex :=
      (fileStem_dvec (open_contentArtifactDir hroot) hslash hne).1
    unfold contentDvecDigestFromPath
    rw [hparent, hstem, if_neg (by decide)]
    show (if h : _ then _ else _) = _
    rw [dif_pos digest.valid]
    rfl

end

/-! ## What is at a verified place is read back -/

section

variable [Platform] {root path : String} {fs fs' : PrivateRoot} {values : List F32}
  {reference : DeltaArtifactRef}

/-- A path where the delta of some values may be. -/
structure PlaceOf (root path : String) (values : List F32) : Prop where
  verified : verifiedDvecPathUnderRoot root path = .ok path
  named : contentDvecDigestFromPath path = .ok none ∨
    contentDvecDigestFromPath path = .ok (some (digestBytes (dvecBytes values))) ∧
      path = contentOutputPath root (digestBytes (dvecBytes values))

lemma placeOf_named (hroot : IsRoot root) {id : String} (h : outputPath root id = .ok path)
    (values : List F32) : PlaceOf root path values := by
  unfold outputPath at h
  simp only [bind_ok, failIf_ok, pure_ok, Bool.not_eq_false] at h
  obtain ⟨_, hid, rfl⟩ := h
  obtain ⟨hverified, hnone⟩ := named_dvec hroot hid
  exact ⟨hverified, .inl hnone⟩

lemma placeOf_content (hroot : IsRoot root) (values : List F32) :
    PlaceOf root (contentOutputPath root (digestBytes (dvecBytes values))) values := by
  obtain ⟨hverified, hsome⟩ := content_dvec hroot (digestBytes (dvecBytes values))
  exact ⟨hverified, .inr ⟨hsome, rfl⟩⟩

lemma PlaceOf.stored (h : PlaceOf root path values)
    (hcontent : fs.content path = .ok (dvecBytes values)) : DvecStored root fs path values :=
  ⟨h.verified, hcontent, h.named⟩

/-- A reference at which some values are stored, accepted and read back. -/
structure RoundTrip (root : String) (fs : PrivateRoot) (reference : DeltaArtifactRef)
    (values : List F32) : Prop where
  finite : ∀ x ∈ values, x.isFinite = true
  stored : fs.content reference.path = .ok (dvecBytes values)
  inspected : inspectDvec root fs reference.path = .ok reference
  read : readDvecF32 root fs reference = .ok values

lemma inspectDvec_of_stored (h : DvecValues values) (hstored : DvecStored root fs path values) :
    inspectDvec root fs path = .ok (referenceOf path values) := by
  unfold inspectDvec
  rw [inspect_of_stored h hstored, ok_bind]
  rfl

lemma roundTrip_of_stored (h : DvecValues values) (hstored : DvecStored root fs path values) :
    RoundTrip root fs (referenceOf path values) values :=
  ⟨h.finite, hstored.content, inspectDvec_of_stored h hstored, read_of_stored h hstored⟩

lemma inspectDvec_ok (h : inspectDvec root fs path = .ok reference) :
    ∃ bytes, Inspected root fs path reference bytes := by
  unfold inspectDvec at h
  simp only [bind_ok, pure_ok, Prod.exists] at h
  obtain ⟨inspected, bytes, hinspect, rfl⟩ := h
  exact ⟨bytes, inspectOpenDvec_ok hinspect⟩

/-- What is accepted at the place of stored values is their reference, and is read back. -/
lemma roundTrip_of_inspect (hplace : PlaceOf root path values)
    (hfinite : ∀ x ∈ values, x.isFinite = true)
    (hcontent : fs.content path = .ok (dvecBytes values))
    (h : inspectDvec root fs path = .ok reference) : RoundTrip root fs reference values := by
  obtain ⟨bytes, hfile⟩ := inspectDvec_ok h
  obtain ⟨confined, hconfined, hbytes⟩ := hfile.file
  rw [hplace.verified] at hconfined
  cases hconfined
  rw [hcontent] at hbytes
  cases hbytes
  have hsize := hfile.size
  rw [size_dvecBytes] at hsize
  have hfits := hfile.fits
  have hvalues : DvecValues values := ⟨hfinite, by omega⟩
  have hstored := hplace.stored hcontent
  rw [inspectDvec_of_stored hvalues hstored] at h
  cases h
  exact roundTrip_of_stored hvalues hstored

omit [Platform] in
lemma install_ok {bytes : ByteArray}
    {existing written : PrivateRoot → BrainResult DeltaArtifactRef}
    (h : install fs path bytes existing written = (fs', .ok reference)) :
    (fs' = fs ∧ (∃ old, fs.content path = .ok old) ∧ existing fs' = .ok reference) ∨
      (fs'.content path = .ok bytes ∧ written fs' = .ok reference) := by
  unfold install at h
  split at h
  · rename_i old hold
    simp only [Prod.mk.injEq] at h
    obtain ⟨rfl, hexisting⟩ := h
    exact .inl ⟨rfl, ⟨old, hold⟩, hexisting⟩
  · simp only [Prod.mk.injEq] at h
    obtain ⟨rfl, hwritten⟩ := h
    exact .inr ⟨update_self .., hwritten⟩
  · simp only [Prod.mk.injEq, reduceCtorEq, and_false] at h

end

/-! ## Streams of values -/

section

variable [Platform] {root path : String} {fs fs' : PrivateRoot} {values : List F32}
  {sources : List (DeltaArtifactRef × F64)}

omit [Platform] in
lemma streamValues_ok {parameterCount observed : Nat} {bytes : ByteArray} :
    streamValues parameterCount observed values = .ok bytes ↔
      observed + values.length = parameterCount ∧ (∀ x ∈ values, x.isFinite = true) ∧
        bytes = payload values := by
  induction values generalizing observed bytes with
  | nil =>
    unfold streamValues
    simp only [bind_ok, failIf_ok, pure_ok, ne_eq, not_not, length_nil,
      Nat.add_zero, not_mem_nil, false_implies, implies_true, true_and, exists_const]
    exact and_congr_right fun _ => eq_comm
  | cons value values ih =>
    unfold streamValues
    simp only [bind_ok, failIf_ok, pure_ok, Bool.not_eq_false, forall_mem_cons,
      length_cons, not_le, ge_iff_le]
    have hpayload : payload (value :: values) = f32ToLeBytes value ++ payload values := by
      rw [← payload_one, ← payload_append]
      rfl
    rw [hpayload]
    constructor
    · intro h
      obtain ⟨_, hlt, _, hfinite, rest, hrest, hbytes⟩ := h
      obtain ⟨hcount, hall, hrest⟩ := ih.mp hrest
      refine ⟨by omega, ⟨hfinite, hall⟩, ?_⟩
      rw [← hbytes, hrest]
    · intro h
      obtain ⟨hcount, ⟨hfinite, hall⟩, hbytes⟩ := h
      exact ⟨(), by omega, (), hfinite, payload values, ih.mpr ⟨by omega, hall, rfl⟩, hbytes.symm⟩

def combineMany : Nat → Weighted → BrainResult (List F32 × Weighted)
  | 0, readers => .ok ([], readers)
  | n + 1, readers => do
    let (value, readers) ← combineNext readers
    let (values, readers) ← combineMany n readers
    return (value :: values, readers)

def linearCombination (root : String) (fs : PrivateRoot) (sources : List (DeltaArtifactRef × F64)) :
    BrainResult (List F32) := do
  let (readers, count) ← combinationReaders root fs sources
  let (values, readers) ← combineMany count readers
  finishCombinationReaders readers
  return values

section

omit [Platform]

/-- A combination is as long as is asked, and is finite. -/
lemma combineMany_ok {n : Nat} {readers readers' : Weighted}
    (h : combineMany n readers = .ok (values, readers')) :
    values.length = n ∧ ∀ x ∈ values, x.isFinite = true := by
  induction n generalizing readers readers' values with
  | zero =>
    unfold combineMany at h
    cases h
    exact ⟨rfl, forall_mem_nil _⟩
  | succ n ih =>
    unfold combineMany combineNext at h
    simp only [bind_ok, failIf_ok, pure_ok, Prod.exists, Prod.mk.injEq, not_or,
      Bool.not_eq_false, Bool.not_eq_true] at h
    obtain ⟨value, _, ⟨sum, _, -, _, ⟨hfinite, hbound⟩, hvalue, -⟩, rest, _, hrest, hvalues, -⟩ := h
    obtain ⟨hlength, hall⟩ := ih hrest
    rw [← hvalues, length_cons, hlength, forall_mem_cons, ← hvalue]
    exact ⟨rfl, F32.isFinite_ofF64 hfinite hbound, hall⟩

lemma streamLinearCombination_ok {σ : Type} {consume : ByteArray → σ → BrainResult σ}
    {n : Nat} {readers readers' : Weighted} {state state' : σ} :
    streamLinearCombinationBytes consume n readers state = .ok (readers', state') ↔
      ∃ values, combineMany n readers = .ok (values, readers') ∧
        values.foldlM (fun state value => consume (f32ToLeBytes value) state) state =
          .ok state' := by
  induction n generalizing readers state with
  | zero =>
    unfold streamLinearCombinationBytes combineMany
    constructor
    · intro h
      cases h
      exact ⟨[], rfl, rfl⟩
    · intro h
      obtain ⟨values, hvalues, hfold⟩ := h
      cases hvalues
      cases hfold
      rfl
  | succ n ih =>
    unfold streamLinearCombinationBytes combineMany
    simp only [bind_ok, pure_ok, Prod.exists, Prod.mk.injEq, ih]
    constructor
    · intro h
      obtain ⟨value, next, hnext, middle, hconsume, values, hvalues, hfold⟩ := h
      refine ⟨value :: values, ⟨value, next, hnext, values, readers', hvalues, rfl, rfl⟩, ?_⟩
      rw [foldlM_cons, hconsume]
      exact hfold
    · intro h
      obtain ⟨_, ⟨value, next, hnext, values, last, hvalues, rfl, rfl⟩, hfold⟩ := h
      rw [foldlM_cons, bind_ok] at hfold
      obtain ⟨middle, hconsume, hfold⟩ := hfold
      exact ⟨value, next, hnext, middle, hconsume, values, hvalues, hfold⟩

lemma foldlM_append (start : ByteArray) (values : List F32) :
    values.foldlM (fun (written : ByteArray) value =>
      (Except.ok (written ++ f32ToLeBytes value) : BrainResult ByteArray)) start =
        .ok (start ++ payload values) := by
  induction values generalizing start with
  | nil =>
    rw [payload_nil, ByteArray.append_empty]
    rfl
  | cons value values ih =>
    rw [foldlM_cons, ok_bind, ih, ByteArray.append_assoc, ← payload_one, ← payload_append]
    rfl

end

lemma writeLinearCombination_ok {bytes : ByteArray} {count : Nat} :
    writeLinearCombination root fs sources = .ok (bytes, count) ↔
      ∃ values, linearCombination root fs sources = .ok values ∧ bytes = dvecBytes values ∧
        count = values.length := by
  unfold writeLinearCombination linearCombination
  simp only [bind_ok, pure_ok, Prod.exists, Prod.mk.injEq, streamLinearCombination_ok,
    foldlM_append]
  constructor
  · intro h
    obtain ⟨readers, n, hopen, last, _, ⟨values, hvalues, hbytes⟩, _, hfinish, rfl, rfl⟩ := h
    cases hbytes
    obtain ⟨hlength, -⟩ := combineMany_ok hvalues
    refine ⟨values, ⟨readers, n, hopen, values, last, hvalues, (), hfinish, rfl⟩, ?_, hlength.symm⟩
    rw [dvecBytes_eq, hlength]
  · intro h
    obtain ⟨values, ⟨readers, n, hopen, _, last, hvalues, _, hfinish, rfl⟩, rfl, rfl⟩ := h
    obtain ⟨hlength, -⟩ := combineMany_ok hvalues
    refine ⟨readers, n, hopen, last, _, ⟨_, hvalues, rfl⟩, (), hfinish, ?_, hlength.symm⟩
    rw [dvecBytes_eq, hlength]

lemma linearCombination_finite (h : linearCombination root fs sources = .ok values) :
    ∀ x ∈ values, x.isFinite = true := by
  unfold linearCombination at h
  simp only [bind_ok, pure_ok, Prod.exists] at h
  obtain ⟨readers, n, -, _, last, hvalues, _, -, rfl⟩ := h
  exact (combineMany_ok hvalues).2

/-! ## Comparing with a stored delta -/

section

omit [Platform]

lemma f32ToLeBytes_injective : Injective f32ToLeBytes := by
  intro x y h
  rw [← f32FromLeBytes_toLeBytes x, h, f32FromLeBytes_toLeBytes]

lemma handed_of_readOneF32 {r r' : VerifiedDvecReader} {x : F32}
    (h : r.readOneF32 = .ok (x, r')) : Handed r [x] r' := by
  have hnext : r.nextParameter < r.reference.parameterCount := by
    unfold VerifiedDvecReader.readOneF32 at h
    simp only [bind_ok, failIf_ok] at h
    obtain ⟨_, hlt, -⟩ := h
    omega
  exact (readOneF32_ok hnext).mp h

end

variable {target target' : VerifiedDvecReader}

section

omit [Platform]

lemma handed_of_compare {target target' : VerifiedDvecReader} {same : Bool}
    (h : values.foldlM (fun state value => compareNext (f32ToLeBytes value) state) (target, same) =
      .ok (target', true)) : same = true ∧ Handed target values target' := by
  induction values generalizing target same with
  | nil =>
    cases h
    exact ⟨rfl, Handed.refl _⟩
  | cons value values ih =>
    rw [foldlM_cons] at h
    unfold compareNext at h
    simp only [bind_ok, pure_ok, Prod.exists, Prod.mk.injEq] at h
    obtain ⟨after, _, ⟨actual, next, hread, rfl, rfl⟩, hfold⟩ := h
    obtain ⟨hsame, htail⟩ := ih hfold
    rw [Bool.and_eq_true, decide_eq_true_iff] at hsame
    obtain ⟨hsame, hbytes⟩ := hsame
    have hvalue := f32ToLeBytes_injective hbytes
    rw [hvalue] at hread
    exact ⟨hsame, (handed_of_readOneF32 hread).trans htail⟩

lemma compare_of_handed (h : Handed target values target')
    (hstop : target.nextParameter + values.length ≤ target.reference.parameterCount) :
    values.foldlM (fun state value => compareNext (f32ToLeBytes value) state) (target, true) =
      .ok (target', true) := by
  induction values generalizing target with
  | nil =>
    rw [h.eq_of_nil]
    rfl
  | cons value values ih =>
    have hsplit : Handed target ([value] ++ values) target' := h
    rw [length_cons] at hstop
    obtain ⟨next, hhead, htail⟩ := hsplit.split
    have hnext := hhead.next
    rw [length_singleton] at hnext
    have hone : compareNext (f32ToLeBytes value) (target, true) = .ok (next, true) := by
      unfold compareNext
      simp only [(readOneF32_ok (by omega)).mpr hhead, ok_bind, Bool.true_and, decide_true]
      rfl
    rw [foldlM_cons, hone, ok_bind]
    exact ih htail (by rw [hnext, hhead.reference]; omega)

end

lemma content_of_combinationMatches {count : Nat}
    (hverified : verifiedDvecPathUnderRoot root path = .ok path)
    (hvalues : linearCombination root fs sources = .ok values)
    (h : linearCombinationMatches root fs path sources count = .ok true) :
    fs.content path = .ok (dvecBytes values) := by
  unfold linearCombination at hvalues
  unfold linearCombinationMatches at h
  simp only [bind_ok, pure_ok, Prod.exists] at hvalues
  obtain ⟨readers, n, hopen, _, last, hmany, _, -, rfl⟩ := hvalues
  simp only [hopen, ok_bind, ite_ok, bind_ok, pure_ok, Prod.exists,
    Bool.false_eq_true, and_false, false_or, streamLinearCombination_ok, hmany] at h
  obtain ⟨-, inspected, hinspect, -, target, htarget, _, target', same, ⟨_, heq, hfold⟩, _, -, _,
    hfinish, rfl⟩ := h
  cases heq
  obtain ⟨-, hhanded⟩ := handed_of_compare hfold
  have hopened := openReader_ok htarget
  obtain ⟨confined, hconfined, hcontent⟩ := (stored_of_finish hopened hhanded hfinish).holds
  obtain ⟨bytes, hfile⟩ := inspectDvec_ok hinspect
  rw [hfile.reference.1, hverified] at hconfined
  cases hconfined
  exact hcontent

lemma combinationMatches_of_stored (h : DvecValues values)
    (hstored : DvecStored root fs path values)
    (hvalues : linearCombination root fs sources = .ok values) :
    linearCombinationMatches root fs path sources values.length = .ok true := by
  unfold linearCombination at hvalues
  simp only [bind_ok, pure_ok, Prod.exists] at hvalues
  obtain ⟨readers, n, hopen, combined, last, hmany, _, hfinish, hcombined⟩ := hvalues
  rw [hcombined] at hmany
  obtain ⟨hlength, -⟩ := combineMany_ok hmany
  have hcount : (referenceOf path values).parameterCount = n := hlength
  have hcompare := compare_of_handed (handed_all path h) (Nat.le_of_eq (Nat.zero_add _))
  have hstream := streamLinearCombination_ok.mpr ⟨_, hmany, hcompare⟩
  have hfirst : openReader root fs (referenceOf path values) = .ok (readerAt path values) :=
    open_of_stored h hstored
  unfold linearCombinationMatches
  simp only [hopen, ok_bind, inspectDvec_of_stored h hstored, hfirst]
  rw [if_neg (not_not.mpr hlength.symm), if_neg (not_not.mpr hcount)]
  simp only [hstream, ok_bind, hfinish, finish_end]
  rfl

end

/-! ## What is stored is accepted -/

section

variable [Platform] {root path : String} {fs fs' : PrivateRoot} {values : List F32}
  {sources : List (DeltaArtifactRef × F64)} {reference : DeltaArtifactRef}

lemma inspectAs_of_stored (h : DvecValues values) (hstored : DvecStored root fs path values)
    (code : String) : inspectAs root fs path (digestBytes (dvecBytes values)) values.length code =
      .ok (referenceOf path values) := by
  unfold inspectAs
  simp only [inspectDvec_of_stored h hstored, ok_bind, bind_ok, failIf_ok, pure_ok,
    not_or, ne_eq, not_not]
  exact ⟨(), ⟨rfl, rfl⟩, trivial⟩

variable {digest : Sha256Digest} {code : String}

lemma inspectAs_ok {count : Nat} (h : inspectAs root fs path digest count code = .ok reference) :
    inspectDvec root fs path = .ok reference ∧ reference.sha256 = digest := by
  unfold inspectAs at h
  simp only [bind_ok, failIf_ok, pure_ok, not_or, ne_eq, not_not] at h
  obtain ⟨inspected, hinspect, _, ⟨hdigest, -⟩, rfl⟩ := h
  exact ⟨hinspect, hdigest⟩

lemma acceptDvec_of_stored (h : DvecValues values) (hstored : DvecStored root fs path values)
    (code : String) : acceptDvec root fs path (digestBytes (dvecBytes values)) values code =
      .ok (referenceOf path values) := by
  have helements : form.elements (dvecBytes values) values.length = values.map f32ToLeBytes := by
    have hencode : form.elements (form.encode (values.map f32ToLeBytes))
        (values.map f32ToLeBytes).length = values.map f32ToLeBytes :=
      elements_encode sizes_f32
    rwa [length_map] at hencode
  have hmatches : dvecMatchesValues root fs path values = .ok true := by
    unfold dvecMatchesValues
    rw [inspect_of_stored h hstored, ok_bind]
    rw [pure_ok, Bool.and_eq_true, beq_iff_eq, decide_eq_true_iff]
    exact ⟨rfl, helements⟩
  unfold acceptDvec
  simp only [inspectAs_of_stored h hstored, hmatches, ok_bind, bind_ok, failIf_ok, pure_ok]
  exact ⟨(), by decide, trivial⟩

/-- What matches a list is the delta of it. -/
lemma content_of_matches (hverified : verifiedDvecPathUnderRoot root path = .ok path)
    (h : dvecMatchesValues root fs path values = .ok true) :
    fs.content path = .ok (dvecBytes values) := by
  unfold dvecMatchesValues at h
  simp only [bind_ok, pure_ok, Prod.exists, Bool.and_eq_true, beq_iff_eq, decide_eq_true_iff] at h
  obtain ⟨inspected, bytes, hinspect, hcount, helements⟩ := h
  have hfile := inspectOpenDvec_ok hinspect
  obtain ⟨confined, hconfined, hcontent⟩ := hfile.file
  rw [hverified] at hconfined
  cases hconfined
  have hsize := hfile.size
  rw [hcount] at hsize
  have hheader : headerBytes = 16 := rfl
  -- the file is its header and the bytes that were compared
  obtain ⟨header, rest, hread⟩ : ∃ header rest, readExact bytes headerBytes =
      .ok (header, rest) := by
    refine ⟨bytes.extract 0 16, bytes.extract 16 bytes.size, readExact_ok.mpr ⟨?_, ?_⟩⟩
    · rw [size_extract]
      omega
    · rw [← extract_eq_extract_append_extract 16 (by omega) (by omega), extract_zero_size]
  obtain ⟨hlength, hbytes⟩ := readExact_ok.mp hread
  have hself := header_of_readHeader hfile.counted hlength hbytes
  have hrest : payload values = rest := by
    have htiles := tiles_evenSpans headerBytes 4 values.length
    unfold payload
    rw [← helements]
    unfold elements cut
    show joined ((evenSpans headerBytes 4 values.length).map (slice bytes)) = rest
    rw [joined_slices bytes htiles, ← hsize, hbytes]
    exact extract_append_eq_right hlength.symm (by rw [size_append, hlength])
  rw [hcontent, dvecBytes_eq, hrest, ← hcount, ← hself, ← hbytes]

lemma acceptDvec_ok (h : acceptDvec root fs path digest values code = .ok reference) :
    inspectDvec root fs path = .ok reference ∧
      dvecMatchesValues root fs path values = .ok true := by
  unfold acceptDvec at h
  simp only [bind_ok, failIf_ok, pure_ok, Bool.not_eq_false] at h
  obtain ⟨existing, hexisting, same, hmatches, _, hsame, rfl⟩ := h
  rw [hsame] at hmatches
  exact ⟨(inspectAs_ok hexisting).1, hmatches⟩

lemma acceptCombination_of_stored (h : DvecValues values)
    (hstored : DvecStored root fs path values)
    (hvalues : linearCombination root fs sources = .ok values) (code : String) :
    acceptCombination root fs path (digestBytes (dvecBytes values)) sources
      values.length code = .ok (referenceOf path values) := by
  unfold acceptCombination
  simp only [inspectAs_of_stored h hstored, combinationMatches_of_stored h hstored hvalues, ok_bind,
    bind_ok, failIf_ok, pure_ok]
  exact ⟨(), by decide, trivial⟩

lemma acceptCombination_ok {count : Nat}
    (h : acceptCombination root fs path digest sources count code = .ok reference) :
    inspectDvec root fs path = .ok reference ∧
      linearCombinationMatches root fs path sources count = .ok true := by
  unfold acceptCombination at h
  simp only [bind_ok, failIf_ok, pure_ok, Bool.not_eq_false] at h
  obtain ⟨existing, hexisting, same, hmatches, _, hsame, rfl⟩ := h
  rw [hsame] at hmatches
  exact ⟨(inspectAs_ok hexisting).1, hmatches⟩

/-! ## What is kept -/

/-- Every file that was there is there. -/
def Kept (fs fs' : PrivateRoot) : Prop :=
  ∀ path file, fs.content path = .ok file → fs'.content path = .ok file

lemma inspectOpenDvec_kept (hkept : Kept fs fs') {found : DeltaArtifactRef × ByteArray}
    (h : inspectOpenDvec root fs path = .ok found) : inspectOpenDvec root fs' path = .ok found := by
  unfold inspectOpenDvec at h ⊢
  rw [bind_ok] at h ⊢
  obtain ⟨confined, hconfined, h⟩ := h
  refine ⟨confined, hconfined, ?_⟩
  rw [bind_ok] at h ⊢
  obtain ⟨bytes, hbytes, h⟩ := h
  exact ⟨bytes, hkept confined bytes hbytes, h⟩

lemma openReader_kept (hkept : Kept fs fs') {r : VerifiedDvecReader}
    (h : openReader root fs reference = .ok r) : openReader root fs' reference = .ok r := by
  unfold openReader verifiedDeltaReferenceOpen at h ⊢
  rw [bind_ok] at h ⊢
  obtain ⟨opened, hopened, h⟩ := h
  refine ⟨opened, ?_, h⟩
  rw [bind_ok] at hopened ⊢
  obtain ⟨found, hfound, hopened⟩ := hopened
  exact ⟨found, inspectOpenDvec_kept hkept hfound, hopened⟩

lemma openSources_kept (hkept : Kept fs fs') {expected : Option Nat}
    {opened : Weighted × Option Nat} (h : openSources root fs expected sources = .ok opened) :
    openSources root fs' expected sources = .ok opened := by
  induction sources generalizing expected opened with
  | nil => exact h
  | cons source sources ih =>
    unfold openSources at h ⊢
    rw [bind_ok] at h ⊢
    obtain ⟨r, hr, h⟩ := h
    refine ⟨r, openReader_kept hkept hr, ?_⟩
    rw [bind_ok] at h ⊢
    obtain ⟨_, hcount, h⟩ := h
    refine ⟨(), hcount, ?_⟩
    rw [bind_ok] at h ⊢
    obtain ⟨rest, hrest, h⟩ := h
    exact ⟨rest, ih hrest, h⟩

lemma linearCombination_kept (hkept : Kept fs fs')
    (h : linearCombination root fs sources = .ok values) :
    linearCombination root fs' sources = .ok values := by
  unfold linearCombination combinationReaders at h ⊢
  rw [bind_ok] at h ⊢
  obtain ⟨readers, hreaders, h⟩ := h
  refine ⟨readers, ?_, h⟩
  simp only [bind_ok] at hreaders ⊢
  obtain ⟨_, hempty, _, hfinite, opened, hopened, hreaders⟩ := hreaders
  exact ⟨(), hempty, (), hfinite, opened, openSources_kept hkept hopened, hreaders⟩

variable {existing written : PrivateRoot → BrainResult DeltaArtifactRef}

omit [Platform]

lemma install_of_absent {bytes : ByteArray} (h : fs.content path = .error (.io .notFound))
    (hwritten : ∀ fs', fs'.content path = .ok bytes → Kept fs fs' → written fs' = .ok reference) :
    ∃ fs', install fs path bytes existing written = (fs', .ok reference) ∧
      fs'.content path = .ok bytes := by
  have hcontent : (replacePrivateFileAtomic fs path bytes).content path = .ok bytes :=
    update_self ..
  have hkept : Kept fs (replacePrivateFileAtomic fs path bytes) := by
    apply kept_of_free (.inl h) hcontent
    intro other hother
    exact update_of_ne hother ..
  refine ⟨replacePrivateFileAtomic fs path bytes, ?_, hcontent⟩
  unfold install
  simp only [h]
  rw [hwritten _ hcontent hkept]

lemma install_of_free {bytes : ByteArray} (h : FreeFor fs path bytes)
    (hexisting : ∀ fs', fs'.content path = .ok bytes → Kept fs fs' → existing fs' = .ok reference)
    (hwritten : ∀ fs', fs'.content path = .ok bytes → Kept fs fs' → written fs' = .ok reference) :
    ∃ fs', install fs path bytes existing written = (fs', .ok reference) ∧
      fs'.content path = .ok bytes := by
  rcases h with habsent | hsame
  · exact install_of_absent habsent hwritten
  · refine ⟨fs, ?_, hsame⟩
    unfold install
    simp only [hsame]
    rw [hexisting fs hsame (fun _ _ hfile => hfile)]

end

/-! ## Every writer -/

namespace DvecWriter

section

variable [Platform]

def values (root : String) (fs : PrivateRoot) : DvecWriter → BrainResult (List F32)
  | dvec _ values => .ok values
  | contentAddressed values => .ok values
  | contentAddressedIter _ values => .ok values
  | combination sources => linearCombination root fs sources
  | namedCombination _ sources => linearCombination root fs sources

def place (root : String) (values : List F32) : DvecWriter → BrainResult String
  | dvec id _ => outputPath root id
  | contentAddressed _ => .ok (contentOutputPath root (digestBytes (dvecBytes values)))
  | contentAddressedIter _ _ =>
    .ok (contentOutputPath root (digestBytes (dvecBytes values)))
  | combination _ => .ok (contentOutputPath root (digestBytes (dvecBytes values)))
  | namedCombination id _ => outputPath root id

def Takes (values : List F32) : DvecWriter → Prop
  | dvec _ _ => True
  | contentAddressed _ => values ≠ []
  | contentAddressedIter parameterCount _ => values ≠ [] ∧ parameterCount = values.length
  | combination _ => True
  | namedCombination _ _ => True

/-- A path at which a writer finds nothing, or its own bytes under their digest. -/
def Free (fs : PrivateRoot) (path : String) (values : List F32) : DvecWriter → Prop
  | dvec _ _ => fs.content path = .error (.io .notFound)
  | contentAddressed _ => FreeFor fs path (dvecBytes values)
  | contentAddressedIter _ _ => FreeFor fs path (dvecBytes values)
  | combination _ => FreeFor fs path (dvecBytes values)
  | namedCombination _ _ => fs.content path = .error (.io .notFound)

end

section

variable [Platform] {root path : String} {fs fs' : PrivateRoot} {values : List F32}
  {reference : DeltaArtifactRef} {w : DvecWriter}

lemma path_of_content (h : (.ok (contentOutputPath root (digestBytes (dvecBytes values))) :
      BrainResult String) = .ok path) :
    contentOutputPath root (digestBytes (dvecBytes values)) = path :=
  Except.ok.inj h

lemma placeOf (hroot : IsRoot root) (hplace : w.place root values = .ok path) :
    PlaceOf root path values := by
  cases w with
  | dvec id values => exact placeOf_named hroot hplace _
  | namedCombination id sources => exact placeOf_named hroot hplace _
  | contentAddressed _ | contentAddressedIter _ _ | combination _ =>
    rw [← path_of_content hplace]
    exact placeOf_content hroot values

omit [Platform] in
lemma any_nonfinite :
    values.any (fun value => !value.isFinite) = true ↔ ¬∀ x ∈ values, x.isFinite = true := by
  rw [List.any_eq_true, not_forall]
  simp only [Classical.not_imp, Bool.not_eq_true', Bool.not_eq_true]

lemma write_of_free (hroot : IsRoot root) (h : DvecValues values)
    (hvalues : w.values root fs = .ok values) (htakes : w.Takes values)
    (hplace : w.place root values = .ok path) (hfree : w.Free fs path values) :
    ∃ fs', w.write root fs = (fs', .ok (referenceOf path values)) ∧
      RoundTrip root fs' (referenceOf path values) values := by
  have hwhere := placeOf hroot hplace
  have hfinite : ¬values.any (fun value => !value.isFinite) = true := by
    rw [any_nonfinite, not_not]
    exact h.finite
  suffices hwritten : ∃ fs', w.write root fs = (fs', .ok (referenceOf path values)) ∧
      fs'.content path = .ok (dvecBytes values) by
    obtain ⟨fs', hwrite, hcontent⟩ := hwritten
    exact ⟨fs', hwrite, roundTrip_of_stored h (hwhere.stored hcontent)⟩
  cases w with
  | dvec id _ =>
    cases hvalues
    have hplace : outputPath root id = .ok path := hplace
    show ∃ fs', createDvec root fs id values = _ ∧ _
    unfold createDvec
    rw [if_neg hfinite, hplace]
    refine install_of_absent hfree ?_
    intro fs' hcontent _
    exact inspectDvec_of_stored h (hwhere.stored hcontent)
  | contentAddressed _ =>
    cases hvalues
    have hpath := path_of_content hplace
    show ∃ fs', createContentAddressedDvec root fs values = _ ∧ _
    unfold createContentAddressedDvec
    rw [if_neg (not_or.mpr ⟨htakes, hfinite⟩)]
    simp only [hpath]
    refine install_of_free hfree ?_ ?_
    · intro fs' hcontent _
      exact acceptDvec_of_stored h (hwhere.stored hcontent) _
    · intro fs' hcontent _
      exact acceptDvec_of_stored h (hwhere.stored hcontent) _
  | contentAddressedIter parameterCount _ =>
    cases hvalues
    have hpath := path_of_content hplace
    obtain ⟨hne, rfl⟩ := htakes
    have hlength : values.length ≠ 0 := by
      intro hzero
      exact hne (eq_nil_of_length_eq_zero hzero)
    have hstream := streamValues_ok.mpr ⟨Nat.zero_add values.length, h.finite, rfl⟩
    show ∃ fs', createContentAddressedDvecIter root fs values.length values = _ ∧ _
    unfold createContentAddressedDvecIter
    rw [if_neg hlength, hstream]
    simp only [← dvecBytes_eq, hpath]
    refine install_of_free hfree ?_ ?_
    · intro fs' hcontent _
      exact inspectAs_of_stored h (hwhere.stored hcontent) _
    · intro fs' hcontent _
      exact inspectAs_of_stored h (hwhere.stored hcontent) _
  | combination sources =>
    have hpath := path_of_content hplace
    have hvalues : linearCombination root fs sources = .ok values := hvalues
    have hbytes := writeLinearCombination_ok.mpr ⟨values, hvalues, rfl, rfl⟩
    show ∃ fs', combineContentAddressedDvec root fs sources = _ ∧ _
    unfold combineContentAddressedDvec
    simp only [hbytes, hpath]
    refine install_of_free hfree ?_ ?_
    · intro fs' hcontent hkept
      exact acceptCombination_of_stored h (hwhere.stored hcontent)
        (linearCombination_kept hkept hvalues) _
    · intro fs' hcontent hkept
      exact acceptCombination_of_stored h (hwhere.stored hcontent)
        (linearCombination_kept hkept hvalues) _
  | namedCombination id sources =>
    have hplace : outputPath root id = .ok path := hplace
    have hfree : fs.content path = .error (.io .notFound) := hfree
    have hbytes := writeLinearCombination_ok.mpr ⟨values, hvalues, rfl, rfl⟩
    show ∃ fs', combineDvec root fs id sources = _ ∧ _
    unfold combineDvec
    simp only [hplace, hfree, hbytes]
    refine install_of_absent hfree ?_
    intro fs' hcontent _
    exact inspectAs_of_stored h (hwhere.stored hcontent) _

def NoCollision (fs : PrivateRoot) (bytes : ByteArray) : Prop :=
  ∀ path file, fs.content path = .ok file →
    digestBytes file = digestBytes bytes → file = bytes

/-- What any writer returned is stored, accepted and read back. -/
lemma written_of_write (hroot : IsRoot root)
    (hcollision : ∀ values, w.values root fs = .ok values → NoCollision fs (dvecBytes values))
    (h : w.write root fs = (fs', .ok reference)) :
    ∃ values, w.values root fs = .ok values ∧ RoundTrip root fs' reference values := by
  cases w with
  | dvec id values =>
    have h : createDvec root fs id values = (fs', .ok reference) := h
    unfold createDvec at h
    split at h
    · cases h
    · rename_i hfinite
      rw [any_nonfinite, not_not] at hfinite
      cases hplace : outputPath root id with
      | error e =>
        rw [hplace] at h
        cases h
      | ok path =>
        rw [hplace] at h
        refine ⟨values, rfl, ?_⟩
        obtain ⟨-, -, hnone⟩ | ⟨hcontent, hinspect⟩ := install_ok h
        · cases hnone
        · exact roundTrip_of_inspect (placeOf_named hroot hplace _) hfinite hcontent hinspect
  | contentAddressed values =>
    have h : createContentAddressedDvec root fs values = (fs', .ok reference) := h
    unfold createContentAddressedDvec at h
    split at h
    · cases h
    · rename_i hvalid
      rw [not_or, any_nonfinite, not_not] at hvalid
      have hwhere := placeOf_content hroot values
      refine ⟨values, rfl, ?_⟩
      obtain ⟨rfl, -, haccept⟩ | ⟨hcontent, haccept⟩ := install_ok h
      · obtain ⟨hinspect, hmatches⟩ := acceptDvec_ok haccept
        have hcontent := content_of_matches hwhere.verified hmatches
        exact roundTrip_of_inspect hwhere hvalid.2 hcontent hinspect
      · exact roundTrip_of_inspect hwhere hvalid.2 hcontent (acceptDvec_ok haccept).1
  | contentAddressedIter parameterCount values =>
    have h : createContentAddressedDvecIter root fs parameterCount values =
        (fs', .ok reference) := h
    unfold createContentAddressedDvecIter at h
    split at h
    · cases h
    · cases hstream : streamValues parameterCount 0 values with
      | error e =>
        rw [hstream] at h
        cases h
      | ok rest =>
        rw [hstream] at h
        obtain ⟨hcount, hfinite, hrest⟩ := streamValues_ok.mp hstream
        rw [Nat.zero_add] at hcount
        have hwhere := placeOf_content hroot values
        rw [hrest, ← hcount] at h
        simp only [← dvecBytes_eq] at h
        refine ⟨values, rfl, ?_⟩
        obtain ⟨rfl, ⟨old, hold⟩, haccept⟩ | ⟨hcontent, haccept⟩ := install_ok h
        · -- the file that was there has the digest, so it has the bytes
          obtain ⟨hinspect, hdigest⟩ := inspectAs_ok haccept
          obtain ⟨bytes, hfile⟩ := inspectDvec_ok hinspect
          obtain ⟨confined, hconfined, hbytes⟩ := hfile.file
          rw [hwhere.verified] at hconfined
          cases hconfined
          rw [hfile.reference.2] at hdigest
          have hsame := hcollision values rfl _ bytes hbytes hdigest
          rw [hsame] at hbytes
          exact roundTrip_of_inspect hwhere hfinite hbytes hinspect
        · exact roundTrip_of_inspect hwhere hfinite hcontent (inspectAs_ok haccept).1
  | combination sources =>
    have h : combineContentAddressedDvec root fs sources = (fs', .ok reference) := h
    unfold combineContentAddressedDvec at h
    cases hwritten : writeLinearCombination root fs sources with
    | error e =>
      rw [hwritten] at h
      cases h
    | ok written =>
      obtain ⟨bytes, count⟩ := written
      rw [hwritten] at h
      have hbytes := hwritten
      obtain ⟨values, hvalues, rfl, rfl⟩ := writeLinearCombination_ok.mp hbytes
      have hwhere := placeOf_content hroot values
      have hfinite := linearCombination_finite hvalues
      refine ⟨values, hvalues, ?_⟩
      obtain ⟨rfl, -, haccept⟩ | ⟨hcontent, haccept⟩ := install_ok h
      · obtain ⟨hinspect, hmatches⟩ := acceptCombination_ok haccept
        have hcontent := content_of_combinationMatches hwhere.verified hvalues hmatches
        exact roundTrip_of_inspect hwhere hfinite hcontent hinspect
      · exact roundTrip_of_inspect hwhere hfinite hcontent (acceptCombination_ok haccept).1
  | namedCombination id sources =>
    have h : combineDvec root fs id sources = (fs', .ok reference) := h
    unfold combineDvec at h
    cases hplace : outputPath root id with
    | error e =>
      rw [hplace] at h
      cases h
    | ok path =>
      rw [hplace] at h
      cases hwritten : writeLinearCombination root fs sources with
      | error e =>
        simp only [hwritten] at h
        split at h
        · cases h
        · cases h
        · cases h
      | ok written =>
        obtain ⟨bytes, count⟩ := written
        obtain ⟨values, hvalues, rfl, rfl⟩ := writeLinearCombination_ok.mp hwritten
        simp only [hwritten] at h
        refine ⟨values, hvalues, ?_⟩
        split at h
        · cases h
        · obtain ⟨-, -, hnone⟩ | ⟨hcontent, haccept⟩ := install_ok h
          · cases hnone
          · exact roundTrip_of_inspect (placeOf_named hroot hplace _)
              (linearCombination_finite hvalues) hcontent (inspectAs_ok haccept).1
        · cases h

end

end DvecWriter

end Dvec

open Dvec

/-- **Deltas are written, accepted and read back alike.** -/
theorem dvec_round_trip [Platform] {root : String} (hroot : IsRoot root) :
    (∀ (w : DvecWriter) (fs : PrivateRoot) (path : String) (values : List F32),
      w.values root fs = .ok values → DvecValues values → w.Takes values →
      w.place root values = .ok path → w.Free fs path values →
      ∃ fs', w.write root fs = (fs', .ok (referenceOf path values)) ∧
        RoundTrip root fs' (referenceOf path values) values) ∧
    (∀ (w : DvecWriter) (fs fs' : PrivateRoot) (reference : DeltaArtifactRef),
      (∀ values, w.values root fs = .ok values → DvecWriter.NoCollision fs (dvecBytes values)) →
      w.write root fs = (fs', .ok reference) →
      ∃ values, w.values root fs = .ok values ∧ RoundTrip root fs' reference values) ∧
    (∀ (fs : PrivateRoot) (reference : DeltaArtifactRef) (values : List F32),
      readDvecF32 root fs reference = .ok values → DeltaOf root fs reference values) ∧
    (∀ (fs : PrivateRoot) (reference : DeltaArtifactRef) (values : List F32) (lens : List Nat),
      (∀ len ∈ lens, 0 < len) → lens.sum = reference.parameterCount →
      (readDvecByChunks root fs reference lens = .ok values ↔
        readDvecF32 root fs reference = .ok values)) ∧
    (∀ (fs : PrivateRoot) (reference : DeltaArtifactRef) (r r' : VerifiedDvecReader)
      (values : List F32), openReader root fs reference = .ok r → Handed r values r' →
      r'.finish = .ok () → Sha256Digest.digestBytes r'.consumed = reference.sha256) := by
  refine ⟨?_, ?_, ?_, ?_, ?_⟩
  · intro w fs path values hvalues h htakes hplace hfree
    exact DvecWriter.write_of_free hroot h hvalues htakes hplace hfree
  · intro w fs fs' reference hcollision hwrite
    exact DvecWriter.written_of_write hroot hcollision hwrite
  · intro fs reference values hread
    exact stored_of_read hread
  · intro fs reference values lens hpos hsum
    exact readByChunks_iff hpos hsum
  · intro fs reference r r' values hopen hhanded hfinish
    have hopened := openReader_ok hopen
    have hdigest : digestBytes r'.consumed = r'.reference.sha256 := by
      unfold VerifiedDvecReader.finish at hfinish
      simp only [bind_ok, failIf_ok, ne_eq, not_not] at hfinish
      obtain ⟨_, -, _, -, hdigest⟩ := hfinish
      exact hdigest
    rw [hdigest, hhanded.reference, hopened.same.1]

end Tidex

/-! ## A delta of two values -/

namespace Tidex.DvecSample

open Tidex.Lib
open Tidex.Dvec

attribute [local instance] Platform.reference

def twoValues : List F32 := [⟨0x3f800000, by decide⟩, ⟨0xc0200000, by decide⟩]

def noFiles : PrivateRoot where
  content := fun _ => .error (.io .notFound)
  capabilityBundle := fun _ => .error (.io .notFound)

def firstPath : String := Path.push (artifactDir "/private") ("first" ++ ".dvec")

lemma isRoot : IsRoot "/private" := ⟨by decide, by decide, by decide⟩

lemma dvecValues_two : DvecValues twoValues where
  finite := by decide
  fits := by decide

theorem first_round_trip : ∃ fs, (DvecWriter.dvec "first" twoValues).write "/private" noFiles =
        (fs, .ok (referenceOf firstPath twoValues)) ∧
      RoundTrip "/private" fs (referenceOf firstPath twoValues) twoValues ∧
      readDvecByChunks "/private" fs (referenceOf firstPath twoValues) [1, 1] = .ok twoValues := by
  obtain ⟨hwrites, -, -, hchunks, -⟩ := dvec_round_trip isRoot
  have hplace : (DvecWriter.dvec "first" twoValues).place "/private" twoValues = .ok firstPath := by
    show outputPath "/private" "first" = .ok firstPath
    unfold outputPath
    simp only [bind_ok, failIf_ok, pure_ok]
    exact ⟨(), by decide, rfl⟩
  obtain ⟨fs, hwrite, htrip⟩ := hwrites (.dvec "first" twoValues) noFiles firstPath twoValues rfl
    dvecValues_two trivial hplace rfl
  refine ⟨fs, hwrite, htrip, ?_⟩
  rw [hchunks fs (referenceOf firstPath twoValues) twoValues [1, 1] (by decide) rfl]
  exact htrip.read

end Tidex.DvecSample
