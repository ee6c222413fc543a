/-
  Foundation.Pretty — files that hold one indented document.
-/
import Tidex.Foundation.Reference
import Tidex.Lib.JsonPretty

namespace Tidex

open Tidex.Lib Function Sha256Digest

/-! ## Lines -/

def serializePrettyLine {α : Type} [Serialize α] (a : α) : ByteArray :=
  (toJson a).toPrettyLineBytes

lemma serializePrettyLine_injective {α : Type} [Serialize α] :
    Injective (serializePrettyLine (α := α)) :=
  Json.toPrettyLineBytes_injective.comp Serialize.toJson_injective

def DecodesPretty [Platform] {α : Type} [Serialize α] (a : α) : Prop :=
  Platform.fromSlice α (serializePrettyLine a) = some a

lemma fromSlice_serializePrettyLine [Platform] {α : Type} [Serialize α] {a : α}
    (h : DecodesPretty a) : fromSlice α (serializePrettyLine a) = .ok a := by
  rw [fromSlice, h]
  rfl

/-! ## Untyped documents -/

/-- A document as a value: it is its own JSON. -/
instance : Serialize Json where
  toJson j := j
  toJson_injective := by
    intro a b h
    exact h

/-- The member of an object under a key. -/
def Lib.Json.get (j : Json) (key : String) : Option Json :=
  match j with
  | .obj ms => (ms.find? fun m => m.1 = key).map Prod.snd
  | _ => none

def Lib.Json.asStr : Json → Option String
  | .str s => some s
  | _ => none

def Lib.Json.getStr (j : Json) (key : String) : Option String :=
  (j.get key).bind Json.asStr

/-! ## Files -/

section

variable [Platform]

def readPrivateJson (α : Type) [Serialize α] (fs : PrivateRoot) (path : String)
    (maxBytes : Nat) : BrainResult α := do
  let bytes ← readUntrustedPrivateFileBounded fs path maxBytes
  fromSlice α bytes

/-- Store immutable bytes, or accept the file that already holds them. -/
def writeNewPrivate (fs : PrivateRoot) (path : String) (bytes : ByteArray) :
    BrainResult (PrivateRoot × Unit) := do
  let (fs, digest) ← writeOrVerifyImmutable fs path bytes
  failIf (digest ≠ digestBytes bytes)
    (integrity "private_immutable_write_digest_mismatch")
  return (fs, ())

variable {fs fs' : PrivateRoot} {path : String} {bytes : ByteArray}

lemma writeNewPrivate_ok (h : writeNewPrivate fs path bytes = .ok (fs', ())) :
    (fs.content path = .error (.io .notFound) ∧
        fs' = { fs with content := update fs.content path (.ok bytes) }) ∨
      (fs' = fs ∧ ∃ existing, fs.content path = .ok existing ∧
        digestBytes existing = digestBytes bytes) := by
  unfold writeNewPrivate writeOrVerifyImmutable at h
  cases hcontent : fs.content path with
  | ok existing =>
    simp only [hcontent, bind_ok, failIf_ok, pure_ok, not_not, ne_eq, Prod.mk.injEq] at h
    obtain ⟨p, ⟨_, hsame, rfl⟩, _, -, rfl, -⟩ := h
    exact .inr ⟨rfl, existing, rfl, hsame⟩
  | error e =>
    by_cases hnotFound : e = .io .notFound
    · subst hnotFound
      simp only [hcontent, ok_bind, bind_ok, pure_ok, Prod.mk.injEq] at h
      obtain ⟨_, -, rfl, -⟩ := h
      exact .inl ⟨rfl, rfl⟩
    · exfalso
      cases e with
      | io kind =>
        cases kind with
        | notFound => exact hnotFound rfl
        | other => simp [hcontent] at h
      | _ => simp [hcontent] at h

lemma writeNewPrivate_new (h : fs.content path = .error (.io .notFound)) :
    writeNewPrivate fs path bytes =
      .ok ({ fs with content := update fs.content path (.ok bytes) }, ()) := by
  unfold writeNewPrivate writeOrVerifyImmutable
  simp only [h, ok_bind]
  rw [bind_ok]
  exact ⟨(), failIf_ok.mpr (not_not.mpr rfl), rfl⟩

lemma writeNewPrivate_same {existing : ByteArray} (h : fs.content path = .ok existing)
    (hsame : digestBytes existing = digestBytes bytes) :
    writeNewPrivate fs path bytes = .ok (fs, ()) := by
  unfold writeNewPrivate writeOrVerifyImmutable
  simp only [h]
  rw [bind_ok]
  refine ⟨(fs, digestBytes bytes), ?_, ?_⟩
  · rw [bind_ok]
    exact ⟨(), failIf_ok.mpr (not_not.mpr hsame), rfl⟩
  · rw [bind_ok]
    exact ⟨(), failIf_ok.mpr (not_not.mpr rfl), rfl⟩

lemma readPrivateJson_ok {α : Type} [Serialize α] {maxBytes : Nat} {a : α} :
    readPrivateJson α fs path maxBytes = .ok a ↔
      ∃ bytes, fs.content path = .ok bytes ∧ bytes.size ≤ maxBytes ∧
        Platform.fromSlice α bytes = some a := by
  unfold readPrivateJson
  simp only [bind_ok, readUntrustedPrivateFileBounded_ok, fromSlice, okOr_ok, and_assoc]

end

/-! ## The platform of the program -/

open Classical in
/-- The value whose compact or indented document is given, if there is one. -/
noncomputable def decodeEither (α : Type) [Serialize α] (bytes : ByteArray) : Option α :=
  if h : ∃ a : α, toVec a = bytes ∨ serializePrettyLine a = bytes then some h.choose else none

lemma decodeEither_serializePrettyLine {α : Type} [Serialize α] (a : α) :
    decodeEither α (serializePrettyLine a) = some a := by
  have h : ∃ b : α, toVec b = serializePrettyLine a ∨
      serializePrettyLine b = serializePrettyLine a := ⟨a, .inr rfl⟩
  rw [decodeEither, dif_pos h]
  rcases h.choose_spec with hspec | hspec
  · exact absurd hspec (Json.toBytes_ne_toPrettyLineBytes _ _)
  · rw [serializePrettyLine_injective hspec]

/-- The platform of SHA-256 and a decoder of compact and indented documents. -/
@[reducible] noncomputable def Platform.serde : Platform where
  sha256 := Tidex.sha256
  fromSlice α _ bytes := decodeEither α bytes

lemma decodesPretty_serde {α : Type} [Serialize α] (a : α) :
    @DecodesPretty Platform.serde α _ a :=
  decodeEither_serializePrettyLine a

end Tidex
