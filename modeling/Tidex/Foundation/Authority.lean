/-
  Foundation.Authority — errors, content digests and private files.

  What every subsystem rests on: the one error type, SHA-256 identities with their
  validity built in, and files under the private root read through a digest and a byte
  limit.
-/
import Tidex.Foundation.Serialize

namespace Tidex

open Tidex.Lib Function

/-! ## Errors -/

/-- The kinds of operating-system error the code tells apart. -/
inductive IoErrorKind where
  | notFound
  | other
  deriving DecidableEq, Repr

inductive BrainError where
  | invalid (code : String)
  | integrity (code : String)
  | numerical (code : String)
  | io (kind : IoErrorKind)
  | json
  deriving DecidableEq, Repr

abbrev BrainResult (α : Type) : Type := Except BrainError α

/-- An error value: the caller broke a documented bound or shape. -/
def invalid (code : String) : BrainError := .invalid code

/-- An error value: stored or derived data does not hold together. -/
def integrity (code : String) : BrainError := .integrity code

/-! ## Digests -/

/-- An ASCII hexadecimal digit of either case. -/
def isAsciiHexdigit (c : Char) : Bool :=
  c.isDigit || ('a' ≤ c && c ≤ 'f') || ('A' ≤ c && c ≤ 'F')

def isAsciiUppercase (c : Char) : Bool :=
  'A' ≤ c && c ≤ 'Z'

def Sha256Digest.hexLen : Nat := 64

/-- Exactly 64 lower-case hexadecimal characters. -/
def Sha256Digest.isValidStr (value : String) : Bool :=
  value.toList.length == Sha256Digest.hexLen
    && value.toList.all isAsciiHexdigit
    && value.toList.all (fun c => !isAsciiUppercase c)

structure Sha256Digest where
  hex : String
  valid : Sha256Digest.isValidStr hex = true
  deriving DecidableEq

namespace Sha256Digest

lemma hex_injective : Injective hex := by
  rintro ⟨a, ha⟩ ⟨b, hb⟩ h
  cases h
  rfl

instance : Ord Sha256Digest := ordBy hex
instance : Std.TransOrd Sha256Digest := transOrd_ordBy hex
instance : Std.LawfulEqOrd Sha256Digest := lawfulEqOrd_ordBy hex_injective

def zero : Sha256Digest :=
  ⟨"0000000000000000000000000000000000000000000000000000000000000000", by decide⟩

instance : SerializeSome Sha256Digest where
  toJson d := .str d.hex
  toJson_injective := by
    intro a b h
    exact hex_injective (Json.str.inj h)

instance : SerializeKey Sha256Digest where
  keyText d := d.hex
  keyText_injective := hex_injective

lemma length_hex (d : Sha256Digest) : d.hex.toList.length = 64 := by
  have h := d.valid
  simp only [isValidStr, Bool.and_eq_true, beq_iff_eq, hexLen] at h
  exact h.1.1

lemma isAsciiHexdigit_of_mem (d : Sha256Digest) {c : Char} (hc : c ∈ d.hex.toList) :
    isAsciiHexdigit c = true := by
  have h := d.valid
  simp only [isValidStr, Bool.and_eq_true, List.all_eq_true] at h
  exact h.1.2 c hc

end Sha256Digest

structure CapabilityBundleDigest where
  raw : Sha256Digest
  deriving DecidableEq

/-- The marker of a bundle that was never sealed. -/
def CapabilityBundleDigest.isDraft (d : CapabilityBundleDigest) : Bool :=
  d.raw = Sha256Digest.zero

instance : SerializeSome CapabilityBundleDigest where
  toJson d := toJson d.raw
  toJson_ne_null a := SerializeSome.toJson_ne_null a.raw

/-! ## The platform: hashing and decoding -/

/-- The parts of the program that are not its own: the SHA-256 function and the JSON decoder. -/
class Platform where
  /-- SHA-256 of a byte string. -/
  sha256 : ByteArray → Sha256Digest
  /-- Decode the value of a type from bytes that need not be canonical. -/
  fromSlice : (α : Type) → [Serialize α] → ByteArray → Option α

section

variable [Platform]

def Sha256Digest.digestBytes (bytes : ByteArray) : Sha256Digest :=
  Platform.sha256 bytes

def Sha256Digest.digestDomain (domain : String) (payload : ByteArray) : Sha256Digest :=
  Platform.sha256 (domain.toByteArray ++ payload)

/-- Decode a value, or fail with the JSON error. -/
def fromSlice (α : Type) [Serialize α] (bytes : ByteArray) : BrainResult α :=
  okOr (Platform.fromSlice α bytes) .json

def DecodesCanonical {α : Type} [Serialize α] (a : α) : Prop :=
  Platform.fromSlice α (toVec a) = some a

lemma fromSlice_toVec {α : Type} [Serialize α] {a : α} (h : DecodesCanonical a) :
    fromSlice α (toVec a) = .ok a := by
  rw [fromSlice, h]
  rfl

end

/-! ## Private files -/

/-- Content identity of an immutable file under the private root. -/
structure PrivateFileReference where
  path : String
  sha256 : Sha256Digest
  deriving DecidableEq

instance : SerializeSome PrivateFileReference where
  toJson r := .obj [("path", toJson r.path), ("sha256", toJson r.sha256)]
  toJson_injective := by
    rintro ⟨p, d⟩ ⟨p', d'⟩ h
    simpa using h

/-- The private root as a confined open sees it: the content under a path, or
    the error that opening it gives; and what authenticating a capability bundle
    under it returns, which no file written here takes part in. -/
structure PrivateRoot where
  content : String → BrainResult ByteArray
  capabilityBundle : PrivateFileReference → BrainResult CapabilityBundleDigest

def readUntrustedPrivateFileBounded (fs : PrivateRoot) (path : String) (maxBytes : Nat) :
    BrainResult ByteArray := do
  let bytes ← fs.content path
  failIf (bytes.size > maxBytes) (invalid "private_file_read_limit_exceeded")
  return bytes

def PrivateFileReference.readVerifiedBounded [Platform] (r : PrivateFileReference)
    (fs : PrivateRoot) (maxBytes : Nat) : BrainResult ByteArray := do
  let bytes ← fs.content r.path
  failIf (bytes.size > maxBytes) (invalid "private_file_read_limit_exceeded")
  failIf (Sha256Digest.digestBytes bytes ≠ r.sha256)
    (integrity "private_file_reference_digest_mismatch")
  return bytes

/-- Store immutable bytes, or accept the file that already holds them. -/
def writeOrVerifyImmutable [Platform] (fs : PrivateRoot) (path : String) (bytes : ByteArray) :
    BrainResult (PrivateRoot × Sha256Digest) :=
  let expected := Sha256Digest.digestBytes bytes
  match fs.content path with
  | .ok existing => do
    failIf (Sha256Digest.digestBytes existing ≠ expected)
      (integrity "private_file_immutable_content_mismatch")
    return (fs, expected)
  | .error (.io .notFound) =>
    .ok ({ fs with content := update fs.content path (.ok bytes) }, expected)
  | .error e => .error e

def replacePrivateFileAtomic (fs : PrivateRoot) (path : String) (bytes : ByteArray) :
    PrivateRoot :=
  { fs with content := update fs.content path (.ok bytes) }

section

variable {r : PrivateFileReference} {fs : PrivateRoot} {maxBytes : Nat} {bytes : ByteArray}

lemma readVerifiedBounded_ok [Platform] : r.readVerifiedBounded fs maxBytes = .ok bytes ↔
      fs.content r.path = .ok bytes ∧ bytes.size ≤ maxBytes ∧
        Sha256Digest.digestBytes bytes = r.sha256 := by
  unfold PrivateFileReference.readVerifiedBounded
  simp only [bind_ok, failIf_ok, pure_ok, not_lt, gt_iff_lt, ne_eq, not_not]
  constructor
  · rintro ⟨b, hread, -, hsize, -, hdigest, rfl⟩
    exact ⟨hread, hsize, hdigest⟩
  · rintro ⟨hread, hsize, hdigest⟩
    exact ⟨bytes, hread, (), hsize, (), hdigest, rfl⟩

lemma readUntrustedPrivateFileBounded_ok {path : String} :
    readUntrustedPrivateFileBounded fs path maxBytes = .ok bytes ↔
      fs.content path = .ok bytes ∧ bytes.size ≤ maxBytes := by
  unfold readUntrustedPrivateFileBounded
  simp only [bind_ok, failIf_ok, pure_ok, not_lt, gt_iff_lt]
  constructor
  · rintro ⟨b, hread, -, hsize, rfl⟩
    exact ⟨hread, hsize⟩
  · rintro ⟨hread, hsize⟩
    exact ⟨bytes, hread, (), hsize, rfl⟩

end

end Tidex
