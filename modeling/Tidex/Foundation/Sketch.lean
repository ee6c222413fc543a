/-
  Foundation.Sketch — the buckets and the signs of a sketch.
-/
import Tidex.Foundation.Authority
import Tidex.Lib.Binary64
import Tidex.Lib.Mix

namespace Tidex

open Tidex.Lib Tidex.Lib.Mix Function F64

/-! ## The mixer -/

def splitmix64 (x : BitVec 64) : BitVec 64 :=
  let x := x + 0x9E3779B97F4A7C15#64
  let z := x
  let z := (z ^^^ (z >>> 30)) * 0xBF58476D1CE4E5B9#64
  let z := (z ^^^ (z >>> 27)) * 0x94D049BB133111EB#64
  z ^^^ (z >>> 31)

lemma splitmix64_eq : splitmix64 =
    foldHigh 31 ∘ (· * 0x94D049BB133111EB#64) ∘ foldHigh 27 ∘ (· * 0xBF58476D1CE4E5B9#64) ∘
      foldHigh 30 ∘ (· + 0x9E3779B97F4A7C15#64) := rfl

lemma splitmix64_bijective : Bijective splitmix64 := by
  have hfirst : (0xBF58476D1CE4E5B9#64) * 0x96de1b173f119089#64 = 1 := by decide
  have hsecond : (0x94D049BB133111EB#64) * 0x319642b2d24d8ec3#64 = 1 := by decide
  have hinjective : Injective splitmix64 := by
    rw [splitmix64_eq]
    apply (foldHigh_injective (by decide)).comp
    apply (timesUnit_injective hsecond).comp
    apply (foldHigh_injective (by decide)).comp
    apply (timesUnit_injective hfirst).comp
    apply (foldHigh_injective (by decide)).comp
    exact plus_injective _
  exact ⟨hinjective, surjective_of_injective hinjective⟩

/-! ## Buckets and signs -/

def sketchHash (seed coordinate : BitVec 64) : BitVec 64 := splitmix64 (coordinate ^^^ seed)

def sketchBucket (sketchDim : Nat) (seed coordinate : BitVec 64) : Nat :=
  (sketchHash seed coordinate).toNat % sketchDim

def sketchSign (seed coordinate : BitVec 64) : F64 :=
  if sketchHash seed coordinate &&& 1#64 = 0#64 then F64.ofNat 1 else -F64.ofNat 1

lemma sketchHash_surjective (seed : BitVec 64) : Surjective (sketchHash seed) := by
  intro word
  obtain ⟨mixed, hmixed⟩ := splitmix64_bijective.2 word
  obtain ⟨coordinate, hcoordinate⟩ := surjective_of_injective (xor_injective seed) mixed
  refine ⟨coordinate, ?_⟩
  show splitmix64 (coordinate ^^^ seed) = word
  rw [show coordinate ^^^ seed = mixed from hcoordinate, hmixed]

lemma one_ne_neg_one : ofNat 1 ≠ -ofNat 1 := by
  decide +kernel

lemma and_one_eq_zero_iff (word : BitVec 64) : word &&& 1#64 = 0#64 ↔ word.toNat % 2 = 0 := by
  constructor
  · intro h
    have hnat : (word &&& 1#64).toNat = (0#64).toNat := by rw [h]
    rw [BitVec.toNat_and, show (1#64).toNat = 1 from rfl, Nat.and_one_is_mod] at hnat
    exact hnat
  · intro h
    apply BitVec.eq_of_toNat_eq
    rw [BitVec.toNat_and, show (1#64).toNat = 1 from rfl, Nat.and_one_is_mod]
    exact h

lemma sketchSign_eq_one {seed coordinate : BitVec 64} :
    sketchSign seed coordinate = ofNat 1 ↔ (sketchHash seed coordinate).toNat % 2 = 0 := by
  unfold sketchSign
  rw [← and_one_eq_zero_iff]
  constructor
  · intro h
    by_contra hne
    rw [if_neg hne] at h
    exact absurd h.symm one_ne_neg_one
  · intro h
    rw [if_pos h]

lemma sketchSign_eq_neg_one {seed coordinate : BitVec 64} :
    sketchSign seed coordinate = -ofNat 1 ↔ (sketchHash seed coordinate).toNat % 2 = 1 := by
  unfold sketchSign
  by_cases hzero : sketchHash seed coordinate &&& 1#64 = 0#64
  · rw [if_pos hzero]
    have heven := (and_one_eq_zero_iff _).mp hzero
    constructor
    · intro h
      exact absurd h one_ne_neg_one
    · intro h
      omega
  · rw [if_neg hzero]
    have hodd := mt (and_one_eq_zero_iff (sketchHash seed coordinate)).mpr hzero
    constructor
    · intro _
      omega
    · intro _
      rfl

/-! ## Both signs in a bucket -/

def BothSigns (sketchDim : Nat) (seed : BitVec 64) (bucket : Nat) : Prop :=
  ∃ i j : BitVec 64, sketchBucket sketchDim seed i = bucket ∧
    sketchBucket sketchDim seed j = bucket ∧
    sketchSign seed i = F64.ofNat 1 ∧ sketchSign seed j = -F64.ofNat 1

lemma sketchSign_of_bucket {sketchDim : Nat} (heven : sketchDim % 2 = 0)
    (seed coordinate : BitVec 64) : sketchSign seed coordinate =
      if sketchBucket sketchDim seed coordinate % 2 = 0 then ofNat 1 else -ofNat 1 := by
  have hparity : sketchBucket sketchDim seed coordinate % 2 =
      (sketchHash seed coordinate).toNat % 2 := by
    unfold sketchBucket
    exact Nat.mod_mod_of_dvd _ (Nat.dvd_of_mod_eq_zero heven)
  by_cases hzero : (sketchHash seed coordinate).toNat % 2 = 0
  · rw [if_pos (hparity.trans hzero)]
    exact sketchSign_eq_one.mpr hzero
  · rw [if_neg (fun h => hzero (hparity.symm.trans h))]
    apply sketchSign_eq_neg_one.mpr
    omega

/-- Of two different numbers with one residue, the larger is at least a modulus above it. -/
lemma add_le_of_mod_eq {d b m n : Nat} (hm : m % d = b) (hn : n % d = b) (hne : m ≠ n) :
    b + d ≤ max m n := by
  have hmdiv := Nat.div_add_mod m d
  have hndiv := Nat.div_add_mod n d
  by_cases hzero : m / d = 0
  · -- then the other quotient is positive
    have hpos : 1 ≤ n / d := by
      apply Nat.pos_of_ne_zero
      intro hzero'
      rw [hzero, Nat.mul_zero] at hmdiv
      rw [hzero', Nat.mul_zero] at hndiv
      omega
    have hmul : d * 1 ≤ d * (n / d) := Nat.mul_le_mul_left d hpos
    omega
  · have hpos : 1 ≤ m / d := Nat.pos_of_ne_zero hzero
    have hmul : d * 1 ≤ d * (m / d) := Nat.mul_le_mul_left d hpos
    omega

/-- **Which buckets have both signs.** -/
theorem bothSigns_iff {sketchDim : Nat} (seed : BitVec 64) {bucket : Nat}
    (hbucket : bucket < sketchDim) :
    BothSigns sketchDim seed bucket ↔ sketchDim % 2 = 1 ∧ bucket + sketchDim < 2 ^ 64 := by
  constructor
  · intro h
    obtain ⟨i, j, hi, hj, hplus, hminus⟩ := h
    have hieven := sketchSign_eq_one.mp hplus
    have hjodd := sketchSign_eq_neg_one.mp hminus
    refine ⟨?_, ?_⟩
    · by_contra hodd
      have heven : sketchDim % 2 = 0 := by omega
      have hsame := sketchSign_of_bucket heven seed i
      rw [hi, ← hj, ← sketchSign_of_bucket heven seed j, hplus, hminus] at hsame
      exact one_ne_neg_one hsame
    · have hne : (sketchHash seed i).toNat ≠ (sketchHash seed j).toNat := by
        intro heq
        omega
      have hle := add_le_of_mod_eq hi hj hne
      omega
  · intro h
    obtain ⟨hodd, hfits⟩ := h
    -- the bucket itself and the bucket one dimension above differ in parity
    obtain ⟨i, hi⟩ := sketchHash_surjective seed (BitVec.ofNat 64 bucket)
    obtain ⟨j, hj⟩ := sketchHash_surjective seed (BitVec.ofNat 64 (bucket + sketchDim))
    have hinat : (sketchHash seed i).toNat = bucket := by
      rw [hi, BitVec.toNat_ofNat]
      exact Nat.mod_eq_of_lt (by omega)
    have hjnat : (sketchHash seed j).toNat = bucket + sketchDim := by
      rw [hj, BitVec.toNat_ofNat]
      exact Nat.mod_eq_of_lt hfits
    have hibucket : sketchBucket sketchDim seed i = bucket := by
      unfold sketchBucket
      rw [hinat, Nat.mod_eq_of_lt hbucket]
    have hjbucket : sketchBucket sketchDim seed j = bucket := by
      unfold sketchBucket
      rw [hjnat, Nat.add_mod_right, Nat.mod_eq_of_lt hbucket]
    by_cases heven : bucket % 2 = 0
    · refine ⟨i, j, hibucket, hjbucket, ?_, ?_⟩
      · apply sketchSign_eq_one.mpr
        omega
      · apply sketchSign_eq_neg_one.mpr
        omega
    · refine ⟨j, i, hjbucket, hibucket, ?_, ?_⟩
      · apply sketchSign_eq_one.mpr
        omega
      · apply sketchSign_eq_neg_one.mpr
        omega

/-- Every bucket of an odd dimension of 17 has both signs. -/
theorem bothSigns_seventeen : BothSigns 17 7#64 3 :=
  (bothSigns_iff 7#64 (by decide)).mpr (by decide)

/-- In 32 dimensions no bucket has both signs: the sign is the parity of the bucket. -/
theorem not_bothSigns_thirtyTwo : ¬BothSigns 32 0#64 0 := by
  intro h
  obtain ⟨i, j, hi, hj, hplus, hminus⟩ := h
  have hplus' := sketchSign_of_bucket (show 32 % 2 = 0 from rfl) 0#64 i
  have hminus' := sketchSign_of_bucket (show 32 % 2 = 0 from rfl) 0#64 j
  rw [hi, hplus] at hplus'
  rw [hj, hminus] at hminus'
  exact one_ne_neg_one hminus'.symm

end Tidex
