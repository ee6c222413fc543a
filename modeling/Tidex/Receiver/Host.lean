/-
  Receiver.Host — model files outside and under the private root.
-/
import Tidex.Foundation.Authority
import Tidex.Lib.Path

namespace Tidex.Receiver

open Tidex.Lib Sha256Digest Function

/-! ## The host -/

/-- An operating-system error, with the text it is shown by. -/
structure OsError where
  kind : IoErrorKind
  text : String
  deriving DecidableEq

/-- What a path names, without following a link at its end. -/
inductive FileType where
  | file
  | dir
  | symlink
  | other
  deriving DecidableEq

/-- The files of the host and those under the private root. -/
structure Host where
  root : String
  files : PrivateRoot
  canonicalize : String → Except OsError String
  fileType : String → Except OsError FileType
  content : String → Except OsError ByteArray
  confined : ∀ {path bytes}, files.content path = .ok bytes →
    canonicalize path = .ok path ∧ fileType path = .ok .file ∧ content path = .ok bytes

/-- The error of an operating-system call that the code does not explain. -/
def osResult {α : Type} : Except OsError α → BrainResult α
  | .ok a => .ok a
  | .error e => .error (.io e.kind)

@[simp] lemma osResult_ok {α : Type} {x : Except OsError α} {a : α} :
    osResult x = .ok a ↔ x = .ok a := by
  cases x <;> simp [osResult]

def osIntegrity {α : Type} (code : String) : Except OsError α → BrainResult α
  | .ok a => .ok a
  | .error e => .error (integrity (code ++ ":" ++ e.text))

@[simp] lemma osIntegrity_ok {α : Type} {code : String} {x : Except OsError α} {a : α} :
    osIntegrity code x = .ok a ↔ x = .ok a := by
  cases x <;> simp [osIntegrity]

namespace Host

/-! ## Writing under the private root -/

def withFile (h : Host) (path : String) (bytes : ByteArray) : Host where
  root := h.root
  files := { h.files with content := update h.files.content path (.ok bytes) }
  canonicalize := update h.canonicalize path (.ok path)
  fileType := update h.fileType path (.ok .file)
  content := update h.content path (.ok bytes)
  confined := by
    intro other read hread
    replace hread : update h.files.content path (.ok bytes) other = .ok read := hread
    by_cases hpath : other = path
    · subst hpath
      rw [update_self] at hread ⊢
      rw [update_self, update_self]
      cases hread
      exact ⟨rfl, rfl, rfl⟩
    · rw [update_of_ne hpath] at hread ⊢
      rw [update_of_ne hpath, update_of_ne hpath]
      exact h.confined hread

/-- Link a complete staged file to its place; an existing file stays. -/
def installPrivateImmutableFile (h : Host) (path : String) (bytes : ByteArray) :
    BrainResult (Host × Bool) :=
  match h.files.content path with
  | .ok _ => .ok (h, false)
  | .error (.io .notFound) => .ok (h.withFile path bytes, true)
  | .error e => .error e

/-- The file that is there holds the bytes of a digest. -/
def verifyImmutableContent [Platform] (h : Host) (path : String) (expected : Sha256Digest) :
    BrainResult Unit := do
  let existing ← h.files.content path
  failIf (digestBytes existing ≠ expected)
    (integrity "private_file_immutable_content_mismatch")

/-- Install immutable bytes, or accept the file that already holds them. -/
def writeOrVerifyImmutable [Platform] (h : Host) (path : String) (bytes : ByteArray) :
    BrainResult (Host × Sha256Digest) := do
  let expected := digestBytes bytes
  let (h, installed) ← h.installPrivateImmutableFile path bytes
  let _ ← bif installed then pure () else h.verifyImmutableContent path expected
  return (h, expected)

variable {h h' : Host} {path : String} {bytes : ByteArray}

@[simp] lemma root_withFile : (h.withFile path bytes).root = h.root := rfl

@[simp] lemma content_files_withFile :
    (h.withFile path bytes).files.content path = .ok bytes := update_self ..

lemma content_files_withFile_of_ne {other : String} (hne : other ≠ path) :
    (h.withFile path bytes).files.content other = h.files.content other :=
  update_of_ne hne ..

/-- An install links the new bytes, or leaves the file that is there. -/
lemma installPrivateImmutableFile_ok {installed : Bool}
    (hinstall : h.installPrivateImmutableFile path bytes = .ok (h', installed)) :
    (installed = true ∧ h.files.content path = .error (.io .notFound) ∧
        h' = h.withFile path bytes) ∨
      (installed = false ∧ h' = h ∧ ∃ existing, h.files.content path = .ok existing) := by
  unfold installPrivateImmutableFile at hinstall
  cases hcontent : h.files.content path with
  | ok existing =>
    simp only [hcontent, Except.ok.injEq, Prod.mk.injEq] at hinstall
    obtain ⟨rfl, rfl⟩ := hinstall
    exact .inr ⟨rfl, rfl, existing, rfl⟩
  | error e =>
    by_cases hnotFound : e = .io .notFound
    · subst hnotFound
      simp only [hcontent, Except.ok.injEq, Prod.mk.injEq] at hinstall
      obtain ⟨rfl, rfl⟩ := hinstall
      exact .inl ⟨rfl, rfl, rfl⟩
    · exfalso
      cases e with
      | io kind =>
        cases kind with
        | notFound => exact hnotFound rfl
        | other => simp [hcontent] at hinstall
      | _ => simp [hcontent] at hinstall

end Host

/-! ## Checkpoint paths -/

def canonicalExistingFile (h : Host) (path : String) : BrainResult String := do
  failIf (!Path.isAbsolute path ∨ .parentDir ∈ Path.components path)
    (invalid "model_weight_source_path_invalid")
  let canonical ← osIntegrity "model_weight_source_unreadable" (h.canonicalize path)
  let fileType ← osResult (h.fileType canonical)
  failIf (fileType ≠ .file) (integrity "model_weight_source_not_regular_file")
  return canonical

lemma canonicalExistingFile_ok {h : Host} {path canonical : String} :
    canonicalExistingFile h path = .ok canonical ↔
      (Path.isAbsolute path = true ∧ .parentDir ∉ Path.components path) ∧
        h.canonicalize path = .ok canonical ∧ h.fileType canonical = .ok .file := by
  unfold canonicalExistingFile
  simp only [bind_ok, failIf_ok, osIntegrity_ok, osResult_ok, pure_ok,
    not_or, Bool.not_eq_true', Bool.not_eq_false, ne_eq, not_not]
  constructor
  · intro hrun
    obtain ⟨_, hpath, c, hcanonical, t, htype, _, rfl, rfl⟩ := hrun
    exact ⟨hpath, hcanonical, htype⟩
  · intro hrun
    obtain ⟨hpath, hcanonical, htype⟩ := hrun
    exact ⟨(), hpath, canonical, hcanonical, .file, htype, (), rfl, rfl⟩

end Tidex.Receiver
