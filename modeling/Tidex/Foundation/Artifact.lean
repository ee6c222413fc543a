/-
  Foundation.Artifact — numeric artifacts under the private root.
-/
import Tidex.Foundation.Authority
import Tidex.Lib.Binary64
import Tidex.Lib.Counted
import Tidex.Lib.Path

namespace Tidex

open Tidex.Lib List Function Sha256Digest Option Path CountedForm

/-! ## Paths under the root -/

def rootRelativePath (root raw : String) : BrainResult (List String) := do
  failIf (!Path.isAbsolute raw) (invalid "private_file_path_must_be_absolute")
  let relative ← okOr ((Path.components root).isPrefixOf? (Path.components raw))
    (integrity "private_file_path_outside_root")
  failIf (relative = []) (invalid "private_file_path_not_confined")
  okOr (relative.mapM Path.asNormal) (invalid "private_file_path_not_confined")

/-- The file a path names under the root. -/
def confine (root raw : String) : BrainResult String := do
  let names ← rootRelativePath root raw
  return Path.place root names

structure IsRoot (root : String) : Prop where
  absolute : Path.isAbsolute root = true
  rooted : Path.Open root

lemma isPrefixOf?_append {α : Type} [BEq α] [LawfulBEq α] (xs ys : List α) :
    xs.isPrefixOf? (xs ++ ys) = some ys := by
  induction xs with
  | nil => rw [nil_append, isPrefixOf?]
  | cons x xs ih => rw [cons_append, isPrefixOf?, beq_self_eq_true, if_pos rfl, ih]

lemma mapM_asNormal (names : List String) :
    (names.map PathComponent.normal).mapM asNormal = some names := by
  induction names with
  | nil => rfl
  | cons name names ih =>
    rw [map_cons, mapM_cons, ih]
    rfl

section

variable {root : String} {names : List String}

lemma confine_place (hroot : IsRoot root) (hne : names ≠ []) (hnames : ∀ n ∈ names, IsName n) :
    confine root (place root names) = .ok (place root names) := by
  have hcomponents := components_place hroot.rooted hnames
  have habsolute : isAbsolute (place root names) = true := by
    rw [isAbsolute_place hroot.rooted hnames]
    exact hroot.absolute
  unfold confine rootRelativePath
  simp only [bind_ok, failIf_ok, okOr_ok, pure_ok, habsolute, hcomponents, isPrefixOf?_append]
  refine ⟨names, ⟨(), by decide, _, rfl, (), ?_, mapM_asNormal names⟩, rfl⟩
  rw [map_eq_nil_iff]
  exact hne

lemma eq_append_of_isPrefixOf? {α : Type} [BEq α] [LawfulBEq α] {xs ys zs : List α}
    (h : xs.isPrefixOf? ys = some zs) : ys = xs ++ zs := by
  induction xs generalizing ys with
  | nil =>
    rw [isPrefixOf?, some.injEq] at h
    exact h
  | cons x xs ih =>
    cases ys with
    | nil => cases h
    | cons y ys =>
      rw [isPrefixOf?] at h
      by_cases heq : (x == y) = true
      · rw [if_pos heq] at h
        rw [beq_iff_eq.mp heq, ih h, cons_append]
      · rw [if_neg heq] at h
        cases h

lemma eq_map_of_mapM_asNormal {parts : List PathComponent}
    (h : parts.mapM asNormal = some names) : parts = names.map .normal := by
  induction parts generalizing names with
  | nil =>
    rw [mapM_nil] at h
    cases h
    rfl
  | cons part parts ih =>
    rw [mapM_cons] at h
    cases part with
    | normal name =>
      cases hrest : parts.mapM asNormal with
      | none =>
        rw [hrest] at h
        cases h
      | some rest =>
        rw [hrest] at h
        cases h
        rw [map_cons, ← ih hrest]
    | rootDir => cases h
    | curDir => cases h
    | parentDir => cases h

lemma components_of_relative {raw : String} (h : rootRelativePath root raw = .ok names) :
    components raw = components root ++ names.map .normal := by
  unfold rootRelativePath at h
  simp only [bind_ok, failIf_ok, okOr_ok] at h
  obtain ⟨_, -, relative, hprefix, _, -, hnormal⟩ := h
  rw [eq_append_of_isPrefixOf? hprefix, eq_map_of_mapM_asNormal hnormal]

lemma relative_ne_nil {raw : String} (h : rootRelativePath root raw = .ok names) :
    names ≠ [] := by
  unfold rootRelativePath at h
  simp only [bind_ok, failIf_ok, okOr_ok] at h
  obtain ⟨_, -, relative, -, _, hne, hnormal⟩ := h
  intro hnil
  rw [eq_map_of_mapM_asNormal hnormal, hnil] at hne
  exact hne rfl

lemma confine_ok {raw path : String} (h : confine root raw = .ok path) :
    ∃ names, path = place root names ∧ names ≠ [] ∧ (∀ n ∈ names, IsName n) ∧
      components raw = components root ++ names.map .normal := by
  unfold confine at h
  simp only [bind_ok, pure_ok] at h
  obtain ⟨names, hnames, rfl⟩ := h
  have hcomponents := components_of_relative hnames
  refine ⟨names, rfl, relative_ne_nil hnames, ?_, hcomponents⟩
  intro n hn
  have hmem : PathComponent.normal n ∈ components raw := by
    rw [hcomponents]
    exact mem_append_right _ (mem_map_of_mem hn)
  exact isName_of_mem_components hmem

end

/-! ## Vectors of doubles -/

/-- The number of values of an unsigned machine word. -/
def u64Values : Nat := 2 ^ 64

/-- The error of a read past the end of a file. -/
def unexpectedEof : BrainError := .io .other

namespace F64Artifact

def form : CountedForm where
  mark := "TIDEXF64".toByteArray
  width := 8
  size_mark := by decide

end F64Artifact

structure F64ArtifactRef where
  path : String
  sha256 : Sha256Digest
  elementCount : Nat
  deriving DecidableEq

instance : SerializeSome F64ArtifactRef where
  toJson r := .obj [("path", toJson r.path), ("sha256", toJson r.sha256),
    ("element_count", toJson r.elementCount)]

def f64ToLeBytes (x : F64) : ByteArray := le64 x.bits

def f64FromLeBytes (raw : ByteArray) : F64 where
  bits := ofLe raw % 2 ^ 64
  lt := Nat.mod_lt _ (by decide)

lemma f64FromLeBytes_toLeBytes (x : F64) : f64FromLeBytes (f64ToLeBytes x) = x := by
  obtain ⟨bits, hlt⟩ := x
  have hword : ofLe (le64 bits) = bits := ofLe_le64 hlt
  unfold f64FromLeBytes f64ToLeBytes
  simp only [hword, Nat.mod_eq_of_lt hlt]

def f64ArtifactDir (root : String) : String :=
  Path.push (Path.push (Path.push root "artifacts") "f64") "by-sha"

def f64ContentOutputPath (root : String) (digest : Sha256Digest) : String :=
  Path.push (f64ArtifactDir root) (digest.hex ++ ".f64bin")

def f64Bytes (values : List F64) : ByteArray := F64Artifact.form.encode (values.map f64ToLeBytes)

def readF64Header (bytes : ByteArray) : BrainResult Nat := do
  failIf (bytes.size < 8) unexpectedEof
  failIf (CountedForm.markOf bytes ≠ F64Artifact.form.mark)
    (integrity "f64_artifact_magic_invalid")
  failIf (bytes.size < CountedForm.headerBytes) unexpectedEof
  return CountedForm.countOf bytes

/-- The digest that the name of an artifact gives. -/
def f64DigestFromPath (path : String) : BrainResult Sha256Digest := do
  let stem ← okOr (Path.fileStem path) (integrity "f64_content_addressed_name_invalid")
  if h : isValidStr stem = true then return ⟨stem, h⟩
  else .error (invalid "sha256_digest_invalid")

def verifiedF64PathUnderRoot (root path : String) : BrainResult String := do
  let confined ← confine root path
  failIf (Path.extension path ≠ some "f64bin"
      ∨ Path.parentComponents path ≠ some (Path.components (f64ArtifactDir root)))
    (integrity "f64_artifact_path_root_mismatch")
  return confined

variable [Platform]

def inspectOpenF64Artifact (root : String) (fs : PrivateRoot) (path : String) :
    BrainResult (F64ArtifactRef × ByteArray) := do
  let confined ← verifiedF64PathUnderRoot root path
  let bytes ← fs.content confined
  let count ← readF64Header bytes
  let payload ← checkedMul u64Values count 8 (invalid "f64_artifact_size_overflow")
  let expected ← checkedAdd u64Values CountedForm.headerBytes payload
    (invalid "f64_artifact_size_overflow")
  failIf (bytes.size ≠ expected)
    (integrity ("f64_artifact_size_mismatch:" ++ toString bytes.size ++ ":" ++ toString expected))
  let named ← f64DigestFromPath path
  failIf (named ≠ digestBytes bytes)
    (integrity "f64_content_addressed_name_digest_mismatch")
  return ({ path := path, sha256 := digestBytes bytes, elementCount := count }, bytes)

def f64MatchesValues (root : String) (fs : PrivateRoot) (path : String) (values : List F64) :
    BrainResult Bool := do
  let (inspected, bytes) ← inspectOpenF64Artifact root fs path
  return inspected.elementCount == values.length
    && decide (F64Artifact.form.elements bytes values.length = values.map f64ToLeBytes)

def acceptF64 (root : String) (fs : PrivateRoot) (path : String) (digest : Sha256Digest)
    (values : List F64) (code : String) : BrainResult F64ArtifactRef := do
  let (existing, _) ← inspectOpenF64Artifact root fs path
  let same ← f64MatchesValues root fs path values
  failIf (existing.sha256 ≠ digest ∨ existing.elementCount ≠ values.length ∨ !same) (integrity code)
  return existing

/-- Store the artifact of some values under their digest, or accept the one that is there. -/
def createContentAddressedF64 (root : String) (fs : PrivateRoot) (values : List F64) :
    PrivateRoot × BrainResult F64ArtifactRef :=
  if values = [] ∨ values.any (fun value => !value.isFinite) then
    (fs, .error (invalid "f64_artifact_values_invalid"))
  else
    let digest := digestBytes (f64Bytes values)
    let path := f64ContentOutputPath root digest
    match fs.content path with
    | .ok _ => (fs, acceptF64 root fs path digest values "f64_artifact_collision")
    | .error (.io .notFound) =>
      let fs := { fs with content := update fs.content path (.ok (f64Bytes values)) }
      (fs, acceptF64 root fs path digest values "f64_artifact_write_mismatch")
    | .error e => (fs, .error e)

def readF64Artifact (root : String) (fs : PrivateRoot) (reference : F64ArtifactRef) :
    BrainResult (List F64) := do
  let (inspected, bytes) ← inspectOpenF64Artifact root fs reference.path
  failIf (inspected.sha256 ≠ reference.sha256 ∨ inspected.elementCount ≠ reference.elementCount)
    (integrity "f64_artifact_reference_mismatch")
  failIf (Path.components inspected.path ≠
      Path.components (f64ContentOutputPath root reference.sha256))
    (integrity "f64_content_addressed_reference_path_mismatch")
  (F64Artifact.form.elements bytes inspected.elementCount).mapM fun raw => do
    failIf (!(f64FromLeBytes raw).isFinite) (integrity "f64_artifact_non_finite")
    return f64FromLeBytes raw

/-! ## What was created is read back -/

section

variable {root : String} {values : List F64} {fs : PrivateRoot}

structure F64Values (values : List F64) : Prop where
  ne : values ≠ []
  finite : ∀ value ∈ values, value.isFinite = true
  fits : CountedForm.headerBytes + values.length * 8 < u64Values

section

omit [Platform]

lemma sizes_f64 : ∀ part ∈ values.map f64ToLeBytes, part.size = F64Artifact.form.width := by
  intro part hpart
  obtain ⟨value, -, rfl⟩ := mem_map.mp hpart
  exact size_le64 _

lemma size_f64Bytes : (f64Bytes values).size = headerBytes + values.length * 8 := by
  unfold f64Bytes
  rw [size_encode sizes_f64, length_map]
  rfl

lemma readF64Header_f64Bytes (h : F64Values values) :
    readF64Header (f64Bytes values) = .ok values.length := by
  have hsize : (f64Bytes values).size = headerBytes + values.length * 8 :=
    size_f64Bytes
  have hcount : countOf (f64Bytes values) = values.length := by
    have hlength : (values.map f64ToLeBytes).length < 2 ^ 64 := by
      have hfits := h.fits
      unfold u64Values at hfits
      rw [length_map]
      omega
    unfold f64Bytes
    rw [count_encode hlength, length_map]
  have hheader : headerBytes = 16 := rfl
  unfold readF64Header
  simp only [bind_ok, failIf_ok, pure_ok, ne_eq, not_not, not_lt]
  exact ⟨(), by omega, (), mark_encode, (), by omega, hcount⟩

end

def f64Names (digest : Sha256Digest) : List String :=
  ["artifacts", "f64", "by-sha", digest.hex ++ ".f64bin"]

section

omit [Platform]

lemma isName_artifact {before after : String} (hbefore : '/' ∉ before.toList)
    (hafter : '/' ∉ after.toList) (hlong : 3 ≤ after.toList.length) : IsName (before ++ after) := by
  refine ⟨?_, ?_⟩
  · rw [String.toList_append, mem_append, not_or]
    exact ⟨hbefore, hafter⟩
  · intro hmem
    have hlength : 3 ≤ (before ++ after).toList.length := by
      rw [String.toList_append, length_append]
      omega
    simp only [mem_cons, not_mem_nil, or_false] at hmem
    rcases hmem with hempty | hdot | hup
    · rw [hempty] at hlength
      exact absurd hlength (by decide)
    · rw [hdot] at hlength
      exact absurd hlength (by decide)
    · rw [hup] at hlength
      exact absurd hlength (by decide)

lemma slash_not_mem_hex (digest : Sha256Digest) : '/' ∉ digest.hex.toList := by
  intro hmem
  have hdigit := digest.isAsciiHexdigit_of_mem hmem
  exact absurd hdigit (by decide)

lemma isName_f64Names (digest : Sha256Digest) : ∀ n ∈ f64Names digest, IsName n := by
  unfold f64Names
  simp only [forall_mem_cons]
  refine ⟨⟨by decide, by decide⟩, ⟨by decide, by decide⟩, ⟨by decide, by decide⟩, ?_, by simp⟩
  exact isName_artifact (slash_not_mem_hex digest) (by decide) (by decide)

lemma open_f64ArtifactDir (hroot : IsRoot root) : Open (f64ArtifactDir root) := by
  unfold f64ArtifactDir
  exact open_push (open_push (open_push hroot.rooted ⟨by decide, by decide⟩)
    ⟨by decide, by decide⟩) ⟨by decide, by decide⟩

lemma fileStem_f64 (hroot : IsRoot root) (digest : Sha256Digest) :
    fileStem (f64ContentOutputPath root digest) = some digest.hex ∧
      extension (f64ContentOutputPath root digest) = some "f64bin" := by
  have hname : IsName (digest.hex ++ ".f64bin") :=
    isName_artifact (slash_not_mem_hex digest) (by decide) (by decide)
  have hfile := fileName_push (open_f64ArtifactDir hroot) hname
  have hsplit : splitAtLastDot (digest.hex ++ ".f64bin").toList =
      some (digest.hex.toList, "f64bin".toList) := by
    rw [String.toList_append]
    exact splitAtLastDot_append (by decide)
  have hlength := digest.length_hex
  unfold f64ContentOutputPath fileStem extension
  rw [hfile]
  simp only [bind_eq_bind, bind_some, hsplit]
  cases hhex : digest.hex.toList with
  | nil =>
    rw [hhex] at hlength
    cases hlength
  | cons c cs =>
    refine ⟨?_, rfl⟩
    show some (String.ofList (c :: cs)) = some digest.hex
    rw [← hhex, String.ofList_toList]

lemma f64ContentOutputPath_eq (digest : Sha256Digest) :
    f64ContentOutputPath root digest = place root (f64Names digest) := by
  unfold f64ContentOutputPath f64ArtifactDir place f64Names
  simp only [foldl_cons, foldl_nil]

lemma verifiedF64Path (hroot : IsRoot root) (digest : Sha256Digest) :
    verifiedF64PathUnderRoot root (f64ContentOutputPath root digest) =
      .ok (f64ContentOutputPath root digest) := by
  have hconfined : confine root (f64ContentOutputPath root digest) =
      .ok (f64ContentOutputPath root digest) := by
    rw [f64ContentOutputPath_eq]
    exact confine_place hroot (cons_ne_nil _ _) (isName_f64Names digest)
  have hname : IsName (digest.hex ++ ".f64bin") :=
    isName_artifact (slash_not_mem_hex digest) (by decide) (by decide)
  have hparent := parentComponents_push (open_f64ArtifactDir hroot) hname
  unfold verifiedF64PathUnderRoot
  simp only [bind_ok, failIf_ok, pure_ok, not_or, ne_eq, not_not]
  exact ⟨_, hconfined, (), ⟨(fileStem_f64 hroot digest).2, hparent⟩, rfl⟩

end

def F64Stored (root : String) (fs : PrivateRoot) (values : List F64) : Prop :=
  fs.content (f64ContentOutputPath root (digestBytes (f64Bytes values))) =
    .ok (f64Bytes values)

def f64Reference (root : String) (values : List F64) : F64ArtifactRef where
  path := f64ContentOutputPath root (digestBytes (f64Bytes values))
  sha256 := digestBytes (f64Bytes values)
  elementCount := values.length

lemma path_f64Reference : (f64Reference root values).path =
    f64ContentOutputPath root (digestBytes (f64Bytes values)) := by
  simp only [f64Reference]

lemma f64Stored_iff : F64Stored root fs values ↔
    fs.content (f64Reference root values).path = .ok (f64Bytes values) := by
  unfold F64Stored
  rw [path_f64Reference]

lemma inspect_of_stored (hroot : IsRoot root) (h : F64Values values)
    (hstored : F64Stored root fs values) :
    inspectOpenF64Artifact root fs (f64Reference root values).path =
      .ok (f64Reference root values, f64Bytes values) := by
  have hfits := h.fits
  have hsize : (f64Bytes values).size = headerBytes + values.length * 8 :=
    size_f64Bytes
  have hnamed : f64DigestFromPath
      (f64ContentOutputPath root (digestBytes (f64Bytes values))) =
      .ok (digestBytes (f64Bytes values)) := by
    unfold f64DigestFromPath
    rw [(fileStem_f64 hroot _).1]
    show (if h : _ then _ else _) = _
    rw [dif_pos (digestBytes (f64Bytes values)).valid]
    rfl
  unfold inspectOpenF64Artifact f64Reference
  simp only [bind_ok, failIf_ok, checkedAdd_ok, checkedMul_ok, pure_ok, ne_eq, not_not]
  exact ⟨_, verifiedF64Path hroot _, _, hstored, _, readF64Header_f64Bytes h, _,
    ⟨by omega, rfl⟩, _, ⟨hfits, rfl⟩, (), hsize, _, hnamed, (), rfl, rfl⟩

omit [Platform] in
lemma elements_f64Bytes : F64Artifact.form.elements (f64Bytes values) values.length =
    values.map f64ToLeBytes := by
  have hencode : F64Artifact.form.elements (F64Artifact.form.encode (values.map f64ToLeBytes))
      (values.map f64ToLeBytes).length = values.map f64ToLeBytes :=
    elements_encode sizes_f64
  rwa [length_map] at hencode

lemma accept_of_stored (hroot : IsRoot root) (h : F64Values values)
    (hstored : F64Stored root fs values) (code : String) :
    acceptF64 root fs (f64Reference root values).path (f64Reference root values).sha256 values
      code = .ok (f64Reference root values) := by
  have hinspect := inspect_of_stored hroot h hstored
  have hmatches : f64MatchesValues root fs (f64Reference root values).path values = .ok true := by
    unfold f64MatchesValues
    rw [hinspect, ok_bind]
    rw [pure_ok, Bool.and_eq_true, beq_iff_eq, decide_eq_true_iff]
    exact ⟨rfl, elements_f64Bytes⟩
  unfold acceptF64
  simp only [hinspect, hmatches, ok_bind, bind_ok, failIf_ok, pure_ok, not_or, ne_eq, not_not]
  exact ⟨(), ⟨trivial, rfl, by decide⟩, trivial⟩

/-- A file that is not there yet, or that has its bytes. -/
def FreeFor (fs : PrivateRoot) (path : String) (bytes : ByteArray) : Prop :=
  fs.content path = .error (.io .notFound) ∨ fs.content path = .ok bytes

lemma write_free_spec {path : String} {bytes : ByteArray} (h : FreeFor fs path bytes) :
    ∃ fs', writeOrVerifyImmutable fs path bytes = .ok (fs', digestBytes bytes) ∧
      fs'.content path = .ok bytes ∧
      ∀ other, other ≠ path → fs'.content other = fs.content other := by
  unfold writeOrVerifyImmutable
  rcases h with hnone | hsame
  · rw [hnone]
    refine ⟨_, rfl, update_self .., ?_⟩
    intro other hother
    exact update_of_ne hother ..
  · rw [hsame]
    refine ⟨fs, ?_, hsame, fun _ _ => rfl⟩
    simp only [bind_ok, failIf_ok, pure_ok]
    exact ⟨(), not_not.mpr rfl, trivial⟩

omit [Platform] in
lemma kept_of_free {fs' : PrivateRoot} {path : String} {bytes : ByteArray}
    (hfree : FreeFor fs path bytes) (hnew : fs'.content path = .ok bytes)
    (hsame : ∀ other, other ≠ path → fs'.content other = fs.content other) :
    ∀ other file, fs.content other = .ok file → fs'.content other = .ok file := by
  intro other file hfile
  by_cases hother : other = path
  · rcases hfree with hnone | hold
    · rw [hother, hnone] at hfile
      cases hfile
    · rw [hother, hold] at hfile
      rw [hother, hnew]
      exact hfile
  · rw [hsame other hother]
    exact hfile

/-- Creating leaves the artifact of the values, and nothing else changes. -/
lemma create_f64_spec (hroot : IsRoot root) (h : F64Values values)
    (hfree : FreeFor fs (f64Reference root values).path (f64Bytes values)) :
    ∃ fs', createContentAddressedF64 root fs values = (fs', .ok (f64Reference root values)) ∧
      F64Stored root fs' values ∧
      ∀ path, path ≠ (f64Reference root values).path → fs'.content path = fs.content path := by
  have hvalid : ¬(values = [] ∨ values.any (fun value => !value.isFinite) = true) := by
    rw [not_or]
    refine ⟨h.ne, ?_⟩
    rw [List.any_eq_true]
    intro hbad
    obtain ⟨value, hmem, hinfinite⟩ := hbad
    rw [h.finite value hmem] at hinfinite
    cases hinfinite
  have hpath : (f64Reference root values).path =
      f64ContentOutputPath root (digestBytes (f64Bytes values)) := path_f64Reference
  have hsha : (f64Reference root values).sha256 = digestBytes (f64Bytes values) := rfl
  unfold createContentAddressedF64
  rw [if_neg hvalid]
  rcases hfree with hnone | hstored
  · rw [hpath] at hnone
    simp only [hnone]
    have hnew : F64Stored root (replacePrivateFileAtomic fs
        (f64ContentOutputPath root (digestBytes (f64Bytes values)))
        (f64Bytes values)) values := by
      unfold F64Stored replacePrivateFileAtomic
      dsimp only
      rw [update_self]
    have haccept := accept_of_stored hroot h hnew "f64_artifact_write_mismatch"
    rw [hpath, hsha] at haccept
    refine ⟨_, congrArg (Prod.mk _) haccept, hnew, ?_⟩
    intro path hne
    dsimp only
    rw [hpath] at hne
    rw [update_of_ne hne]
  · rw [hpath] at hstored
    have hkept : F64Stored root fs values := hstored
    simp only [hstored]
    have haccept := accept_of_stored hroot h hkept "f64_artifact_collision"
    rw [hpath, hsha] at haccept
    exact ⟨fs, congrArg (Prod.mk fs) haccept, hkept, fun _ _ => rfl⟩

lemma read_f64_of_stored (hroot : IsRoot root) (h : F64Values values)
    (hstored : F64Stored root fs values) :
    readF64Artifact root fs (f64Reference root values) = .ok values := by
  have hcount : (f64Reference root values).elementCount = values.length := rfl
  have hpath : (f64Reference root values).path =
      f64ContentOutputPath root (f64Reference root values).sha256 := by
    simp only [f64Reference]
  unfold readF64Artifact
  rw [inspect_of_stored hroot h hstored, ok_bind]
  simp only [bind_ok, failIf_ok, not_or, ne_eq, not_not]
  refine ⟨(), ⟨trivial, trivial⟩, (), by rw [hpath], ?_⟩
  rw [hcount, elements_f64Bytes, mapM_ok, forall₂_map_left_iff]
  refine forall₂_same.mpr ?_
  intro value hmem
  simp only [f64FromLeBytes_toLeBytes, bind_ok, failIf_ok, pure_ok]
  refine ⟨(), ?_, trivial⟩
  rw [h.finite value hmem]
  decide

end

end Tidex
