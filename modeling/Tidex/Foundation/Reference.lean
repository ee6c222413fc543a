/-
  Foundation.Reference — the platform the program runs on.
-/
import Tidex.Foundation.Authority
import Tidex.Lib.JsonText
import Tidex.Lib.Sha256

namespace Tidex

open Tidex.Lib List Json Sha256Digest String Platform

variable {cs : List Char}

lemma isValidStr_of_hexDigits (hlength : cs.length = 64) (hdigits : ∀ c ∈ cs, c ∈ hexDigits) :
    isValidStr (ofList cs) = true := by
  have hchars : hexDigits.all (fun c => isAsciiHexdigit c && !isAsciiUppercase c) = true := by
    decide
  simp only [all_eq_true, Bool.and_eq_true, Bool.not_eq_true'] at hchars
  simp only [isValidStr, toList_ofList, hlength, hexLen,
    Bool.and_eq_true, beq_iff_eq, all_eq_true, Bool.not_eq_true']
  exact ⟨⟨trivial, fun c hc => (hchars c (hdigits c hc)).1⟩,
    fun c hc => (hchars c (hdigits c hc)).2⟩

def sha256 (bytes : ByteArray) : Sha256Digest where
  hex := String.ofList (Sha256.hexChars (bytes.data.toList.map UInt8.toNat))
  valid := isValidStr_of_hexDigits (Sha256.hexChars_spec _).1 (Sha256.hexChars_spec _).2

open Classical in
/-- The value whose canonical bytes are given, if there is one. -/
noncomputable def decodeExactly (α : Type) [Serialize α] (bytes : ByteArray) : Option α :=
  if h : ∃ a : α, toVec a = bytes then some h.choose else none

lemma decodeExactly_toVec {α : Type} [Serialize α] (a : α) :
    decodeExactly α (toVec a) = some a := by
  have h : ∃ b : α, toVec b = toVec a := ⟨a, rfl⟩
  rw [decodeExactly, dif_pos h, toVec_injective h.choose_spec]

/-- The platform of SHA-256 and exact decoding. -/
@[reducible] noncomputable def Platform.reference : Platform where
  sha256 := Tidex.sha256
  fromSlice α _ bytes := decodeExactly α bytes

/-- The reference platform reads back every value. -/
lemma decodesCanonical_reference {α : Type} [Serialize α] (a : α) :
    @DecodesCanonical reference α _ a :=
  decodeExactly_toVec a

/-! ## Digests of text -/

/-- The text is ASCII and its digest is a given one. -/
def hashesTo (cs : List Char) (d : Sha256Digest) : Bool :=
  cs.all (fun c => c.toNat < 128) &&
    Sha256.hexChars (cs.map Char.toNat) == quickText d.hex

def domainText (domain : String) (j : Json) : List Char :=
  quickText domain ++ j.renderWith quickText

lemma data_encodeText_ascii (h : ∀ c ∈ cs, c.toNat < 128) :
    (encodeText cs).data.toList.map UInt8.toNat = cs.map Char.toNat := by
  induction cs with
  | nil => rfl
  | cons c cs ih =>
    rw [forall_mem_cons] at h
    have hcons : encodeText (c :: cs) = [c].utf8Encode ++ encodeText cs :=
      utf8Encode_cons
    have hone : [c].utf8Encode.data.toList.map UInt8.toNat = [c.toNat] := by
      have hsize : c.utf8Size = 1 := by
        rw [Char.utf8Size_eq_one_iff, UInt32.le_iff_toNat_le]
        have h127 : (127 : UInt32).toNat = 127 := rfl
        have hval : c.val.toNat = c.toNat := rfl
        omega
      rw [utf8Encode_singleton, utf8EncodeChar_eq_singleton hsize]
      have hbyte : c.val.toUInt8.toNat = c.toNat := by
        rw [UInt32.toNat_toUInt8]
        exact Nat.mod_eq_of_lt (h.1.trans (by decide))
      change [c.val.toUInt8.toNat] = [c.toNat]
      rw [hbyte]
    rw [hcons, ByteArray.data_append, Array.toList_append, map_append, ih h.2, hone]
    rfl

variable {d : Sha256Digest}

lemma sha256_encodeText (h : hashesTo cs d = true) : sha256 (encodeText cs) = d := by
  simp only [hashesTo, Bool.and_eq_true, all_eq_true, decide_eq_true_eq, beq_iff_eq,
    quickText_eq] at h
  apply hex_injective
  have hhex : (sha256 (encodeText cs)).hex = ofList (Sha256.hexChars
      ((encodeText cs).data.toList.map UInt8.toNat)) := rfl
  rw [hhex, data_encodeText_ascii h.1, h.2, ofList_toList]

/-- The digest of an ASCII document is the one computed from its text. -/
lemma digestDomain_eq {domain : String} {j : Json} (h : hashesTo (domainText domain j) d = true) :
    @digestDomain reference domain j.toBytes = d := by
  have happend : domain.toByteArray ++ j.toBytes = encodeText (domainText domain j) := by
    rw [domainText, renderWith_quickText, quickText_eq, toBytes, encodeText,
      encodeText, ofList_append, String.toByteArray_append, ofList_toList]
  have hdigest : @digestDomain reference domain j.toBytes =
      sha256 (domain.toByteArray ++ j.toBytes) := rfl
  rw [hdigest, happend]
  exact sha256_encodeText h

lemma digestBytes_eq {j : Json} (h : hashesTo (j.renderWith quickText) d = true) :
    @digestBytes reference j.toBytes = d := by
  rw [renderWith_quickText] at h
  exact sha256_encodeText h

end Tidex
