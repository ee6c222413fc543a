/-
  Lib.Binary32 — IEEE 754 single precision on words.
-/
import Tidex.Lib.Binary64Exact
import Tidex.Lib.Bytes

namespace Tidex.Lib

open List F64

/-- A single, as its word. -/
structure F32 where
  bits : Nat
  lt : bits < 2 ^ 32
  deriving DecidableEq

namespace F32

/-! ## Fields -/

def infBits : Nat := 0x7f800000

def absBits (x : F32) : Nat := x.bits % 2 ^ 31

def isSignNegative (x : F32) : Bool := 2 ^ 31 ≤ x.bits

def isNaN (x : F32) : Bool := infBits < x.absBits

def isInfinite (x : F32) : Bool := x.absBits == infBits

def isFinite (x : F32) : Bool := x.absBits < infBits

/-- The magnitude of a finite word, in units of 2^-149. -/
def magnitude (x : F32) : Nat :=
  let field := x.absBits / 2 ^ 23
  if field = 0 then x.absBits else (2 ^ 23 + x.absBits % 2 ^ 23) * 2 ^ (field - 1)

def ofParts (negative : Bool) (word : Nat) : F32 where
  bits := (if negative then 2 ^ 31 else 0) + word % 2 ^ 31
  lt := by
    split <;> omega

lemma absBits_ofParts {negative : Bool} {word : Nat} (h : word < 2 ^ 31) :
    (ofParts negative word).absBits = word := by
  unfold absBits ofParts
  cases negative with
  | false =>
    show (0 + word % 2 ^ 31) % 2 ^ 31 = word
    omega
  | true =>
    show (2 ^ 31 + word % 2 ^ 31) % 2 ^ 31 = word
    omega

/-! ## Conversions -/

def unit : Nat := 2 ^ 925

def toF64 (x : F32) : F64 :=
  if x.isNaN then F64.nan
  else if x.isInfinite then F64.infinity x.isSignNegative
  else F64.round x.isSignNegative (x.magnitude * unit) 1

def roundBits (n d : Nat) : Nat :=
  let k := Nat.log2 (n / d) - 23
  min (k * 2 ^ 23 + F64.nearestEven n (d * 2 ^ k)) infBits

def ofF64 (x : F64) : F32 :=
  if x.isNaN then ofParts x.isSignNegative 0x7fc00000
  else if x.isInfinite then ofParts x.isSignNegative infBits
  else ofParts x.isSignNegative (roundBits x.magnitude unit)

def maxF64 : F64 := ⟨0x47efffffe0000000, by decide⟩

lemma unit_pos : 0 < unit := by
  unfold unit
  positivity

lemma nearestEven_le {n d m : Nat} (hd : 0 < d) (h : n ≤ m * d) : nearestEven n d ≤ m := by
  have hdiv := Nat.div_add_mod n d
  have hq : n / d ≤ m := Nat.div_le_of_le_mul (by rw [Nat.mul_comm]; exact h)
  have hup : 0 < n % d → n / d + 1 ≤ m := by
    intro hr
    by_contra hlt
    have heq : n / d = m := by omega
    have hmul : d * (n / d) = m * d := by rw [heq, Nat.mul_comm]
    omega
  unfold nearestEven
  show (if 2 * (n % d) < d then n / d else if d < 2 * (n % d) then n / d + 1
    else if n / d % 2 = 0 then n / d else n / d + 1) ≤ m
  by_cases hlow : 2 * (n % d) < d
  · rw [if_pos hlow]
    exact hq
  rw [if_neg hlow]
  have hr : 0 < n % d := by omega
  by_cases hhigh : d < 2 * (n % d)
  · rw [if_pos hhigh]
    exact hup hr
  rw [if_neg hhigh]
  by_cases heven : n / d % 2 = 0
  · rw [if_pos heven]
    exact hq
  · rw [if_neg heven]
    exact hup hr

lemma magnitude_maxF64 : maxF64.magnitude = (2 ^ 24 - 1) * 2 ^ 253 * unit := by decide +kernel

lemma roundBits_lt {n d : Nat} (hd : 0 < d) (h : n ≤ (2 ^ 24 - 1) * 2 ^ 253 * d) :
    roundBits n d < infBits := by
  have hinf : infBits = 255 * 2 ^ 23 := by decide
  have hquot : n / d ≤ (2 ^ 24 - 1) * 2 ^ 253 := by
    apply Nat.div_le_of_le_mul
    rw [Nat.mul_comm]
    exact h
  unfold roundBits
  show min (_ + _) infBits < infBits
  apply min_lt_of_left_lt
  by_cases htop : Nat.log2 (n / d) - 23 = 253
  · -- the last binade
    rw [htop]
    have hle : nearestEven n (d * 2 ^ 253) ≤ 2 ^ 24 - 1 := by
      apply nearestEven_le (Nat.mul_pos hd (Nat.two_pow_pos 253))
      calc n ≤ (2 ^ 24 - 1) * 2 ^ 253 * d := h
        _ = (2 ^ 24 - 1) * (d * 2 ^ 253) := by rw [Nat.mul_assoc, Nat.mul_comm d]
    omega
  · have hlog : Nat.log2 (n / d) < 24 + 253 := by
      by_cases hzero : n / d = 0
      · rw [hzero]
        decide
      · rw [Nat.log2_lt hzero]
        calc n / d ≤ (2 ^ 24 - 1) * 2 ^ 253 := hquot
          _ < 2 ^ 24 * 2 ^ 253 := Nat.mul_lt_mul_of_pos_right (by decide) (Nat.two_pow_pos 253)
          _ = 2 ^ (24 + 253) := (Nat.pow_add 2 24 253).symm
    have hk : Nat.log2 (n / d) - 23 ≤ 252 := by omega
    have hle : nearestEven n (d * 2 ^ (Nat.log2 (n / d) - 23)) ≤ 2 ^ 24 := by
      apply nearestEven_le (Nat.mul_pos hd (Nat.two_pow_pos _))
      have hbelow : n / d < 2 ^ (Nat.log2 (n / d) + 1) := Nat.lt_log2_self
      have hsplit : 2 ^ (Nat.log2 (n / d) + 1) ≤ 2 ^ 24 * 2 ^ (Nat.log2 (n / d) - 23) := by
        rw [← Nat.pow_add]
        exact Nat.pow_le_pow_right (by decide) (by omega)
      have hlt : n < (n / d + 1) * d := Nat.lt_mul_of_div_lt (Nat.lt_succ_self _) hd
      have hmul : (n / d + 1) * d ≤ 2 ^ 24 * 2 ^ (Nat.log2 (n / d) - 23) * d :=
        Nat.mul_le_mul_right d (by omega)
      calc n ≤ 2 ^ 24 * 2 ^ (Nat.log2 (n / d) - 23) * d := by omega
        _ = 2 ^ 24 * (d * 2 ^ (Nat.log2 (n / d) - 23)) := by
            rw [Nat.mul_assoc, Nat.mul_comm d]
    omega

lemma absBits_abs (x : F64) : x.abs.absBits = x.absBits := by
  have hlt : x.absBits < 2 ^ 63 := Nat.mod_lt _ (by decide)
  have habs : x.abs.bits = 0 + x.absBits % 2 ^ 63 := rfl
  show x.abs.bits % 2 ^ 63 = x.absBits
  omega

/-- A finite double that is not above the largest single becomes a finite single. -/
lemma isFinite_ofF64 {x : F64} (hfinite : x.isFinite = true)
    (h : maxF64.lt? x.abs = false) : (ofF64 x).isFinite = true := by
  have hnan := F64.isNaN_of_isFinite hfinite
  have hlt : x.absBits < F64.infBits := by
    unfold F64.isFinite at hfinite
    exact of_decide_eq_true hfinite
  have hinf : x.isInfinite = false := by
    unfold F64.isInfinite
    rw [beq_eq_false_iff_ne]
    omega
  have hnot : ¬maxF64.absBits < x.absBits := by
    intro hcontra
    have hkey : x.abs.key = x.absBits := by
      have hpositive : x.abs.isSignNegative = false := by
        have habs : x.abs.bits = 0 + x.absBits % 2 ^ 63 := rfl
        unfold F64.isSignNegative
        rw [decide_eq_false_iff_not]
        omega
      unfold F64.key
      rw [hpositive, if_neg Bool.false_ne_true, absBits_abs]
    have hkeyMax : maxF64.key = maxF64.absBits := by decide
    have hnanMax : maxF64.isNaN = false := by decide
    have hnanAbs : x.abs.isNaN = false := by
      unfold F64.isNaN at hnan ⊢
      rw [absBits_abs]
      exact hnan
    unfold F64.lt? at h
    rw [hnanMax, hnanAbs, hkey, hkeyMax] at h
    simp only [Bool.not_false, Bool.and_self, Bool.true_and, decide_eq_false_iff_not] at h
    omega
  have hle : x.magnitude ≤ maxF64.magnitude := by
    rw [← F64.magnitude_lt_iff] at hnot
    omega
  rw [magnitude_maxF64] at hle
  have hbits := roundBits_lt unit_pos hle
  have hword : roundBits x.magnitude unit < 2 ^ 31 := hbits.trans (by decide)
  unfold ofF64 isFinite
  rw [hnan, hinf, if_neg Bool.false_ne_true, if_neg Bool.false_ne_true, absBits_ofParts hword]
  exact decide_eq_true hbits

end F32

/-! ## Bytes -/

/-- The bytes of a word of 32 bits, the lowest first. -/
def le32 (n : Nat) : ByteArray :=
  ⟨((List.range 4).map fun i => (n / 256 ^ i).toUInt8).toArray⟩

lemma size_le32 (n : Nat) : (le32 n).size = 4 := rfl

lemma ofLe_le32 {n : Nat} (h : n < 2 ^ 32) : ofLe (le32 n) = n := by
  have hbyte : ∀ m : Nat, m.toUInt8.toNat = m % 256 := fun m => rfl
  unfold ofLe le32
  simp only [range, range.loop, map_cons, map_nil, foldr_cons, foldr_nil, hbyte]
  omega

lemma toUInt8_eq {b : UInt8} {n : Nat} (h : n % 256 = b.toNat) : n.toUInt8 = b := by
  apply UInt8.toNat_inj.mp
  exact h

lemma le32_ofLe {raw : ByteArray} (h : raw.size = 4) : le32 (ofLe raw) = raw := by
  obtain ⟨⟨bytes⟩⟩ := raw
  have hlength : bytes.length = 4 := h
  obtain ⟨a, b, c, d, rfl⟩ : ∃ a b c d, bytes = [a, b, c, d] := by
    match bytes, hlength with
    | [a, b, c, d], _ => exact ⟨a, b, c, d, rfl⟩
  have ha := a.toNat_lt
  have hb := b.toNat_lt
  have hc := c.toNat_lt
  have hd := d.toNat_lt
  show (⟨⟨_⟩⟩ : ByteArray) = ⟨⟨_⟩⟩
  congr 2
  unfold ofLe
  simp only [range, range.loop, map_cons, map_nil, foldr_cons, foldr_nil]
  rw [toUInt8_eq (b := a) (by omega), toUInt8_eq (b := b) (by omega),
    toUInt8_eq (b := c) (by omega), toUInt8_eq (b := d) (by omega)]

lemma le64_ofLe {raw : ByteArray} (h : raw.size = 8) : le64 (ofLe raw) = raw := by
  obtain ⟨⟨bytes⟩⟩ := raw
  have hlength : bytes.length = 8 := h
  obtain ⟨a, b, c, d, e, f, g, i, rfl⟩ : ∃ a b c d e f g i, bytes = [a, b, c, d, e, f, g, i] := by
    match bytes, hlength with
    | [a, b, c, d, e, f, g, i], _ => exact ⟨a, b, c, d, e, f, g, i, rfl⟩
  have ha := a.toNat_lt
  have hb := b.toNat_lt
  have hc := c.toNat_lt
  have hd := d.toNat_lt
  have he := e.toNat_lt
  have hf := f.toNat_lt
  have hg := g.toNat_lt
  have hi := i.toNat_lt
  show (⟨⟨_⟩⟩ : ByteArray) = ⟨⟨_⟩⟩
  congr 2
  unfold ofLe
  simp only [range, range.loop, map_cons, map_nil, foldr_cons, foldr_nil]
  rw [toUInt8_eq (b := a) (by omega), toUInt8_eq (b := b) (by omega),
    toUInt8_eq (b := c) (by omega), toUInt8_eq (b := d) (by omega), toUInt8_eq (b := e) (by omega),
    toUInt8_eq (b := f) (by omega), toUInt8_eq (b := g) (by omega), toUInt8_eq (b := i) (by omega)]

lemma ofLe_lt {raw : ByteArray} : ofLe raw < 256 ^ raw.size := by
  obtain ⟨⟨bytes⟩⟩ := raw
  show bytes.foldr (fun byte n => byte.toNat + 256 * n) 0 < 256 ^ bytes.length
  induction bytes with
  | nil => decide
  | cons byte bytes ih =>
    have hbyte := byte.toNat_lt
    rw [foldr_cons, length_cons, Nat.pow_succ]
    omega

lemma joined_append (a b : List ByteArray) : joined (a ++ b) = joined a ++ joined b := by
  induction a with
  | nil => rw [nil_append, joined_nil, ByteArray.empty_append]
  | cons part a ih => rw [cons_append, joined_cons, joined_cons, ih, ByteArray.append_assoc]

end Tidex.Lib
