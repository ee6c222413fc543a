/-
  Lib.Mix — steps that mix a machine word without losing it.
-/
import Mathlib.Data.Fintype.EquivFin

namespace Tidex.Lib.Mix

open Function

variable {w : Nat}

def foldHigh (k : Nat) (x : BitVec w) : BitVec w := x ^^^ (x >>> k)

lemma getLsbD_foldHigh (k : Nat) (x : BitVec w) (i : Nat) :
    (foldHigh k x).getLsbD i = (x.getLsbD i ^^ x.getLsbD (k + i)) := by
  unfold foldHigh
  rw [BitVec.getLsbD_xor, BitVec.getLsbD_ushiftRight]

/-- Folding the high bits can be undone, one bit at a time from the top. -/
lemma foldHigh_injective {k : Nat} (hk : 0 < k) : Injective (@foldHigh w k) := by
  intro x y hxy
  -- `n` bits from the top agree; each further one is told by one above it
  have hagree : ∀ n i, w ≤ i + n → x.getLsbD i = y.getLsbD i := by
    intro n
    induction n with
    | zero =>
      intro i hi
      rw [BitVec.getLsbD_of_ge x i (by omega), BitVec.getLsbD_of_ge y i (by omega)]
    | succ n ih =>
      intro i hi
      have habove : x.getLsbD (k + i) = y.getLsbD (k + i) := by
        apply ih
        omega
      have hbit : (foldHigh k x).getLsbD i = (foldHigh k y).getLsbD i := by rw [hxy]
      rw [getLsbD_foldHigh, getLsbD_foldHigh, habove] at hbit
      exact Bool.xor_left_inj.mp hbit
  apply BitVec.eq_of_getLsbD_eq
  intro i hi
  apply hagree w
  omega

lemma timesUnit_injective {c inverse : BitVec w} (hunit : c * inverse = 1) :
    Injective (fun x : BitVec w => x * c) := by
  intro x y hxy
  have hback : x * c * inverse = y * c * inverse := congrArg (· * inverse) hxy
  rw [BitVec.mul_assoc, BitVec.mul_assoc, hunit] at hback
  have hone : ∀ z : BitVec w, z * 1 = z := fun z => BitVec.mul_one z
  rwa [hone, hone] at hback

lemma plus_injective (c : BitVec w) : Injective (fun x : BitVec w => x + c) := by
  intro x y hxy
  exact (BitVec.add_left_inj c).mp hxy

lemma xor_injective (c : BitVec w) : Injective (fun x : BitVec w => x ^^^ c) := by
  intro x y hxy
  exact (BitVec.xor_left_inj c).mp hxy

lemma finite_words : Finite (BitVec w) := by
  apply Finite.of_injective (fun x : BitVec w => x.toFin)
  intro x y hxy
  exact BitVec.eq_of_toFin_eq hxy

/-- What merges no two words reaches every word. -/
lemma surjective_of_injective {f : BitVec w → BitVec w} (hf : Injective f) : Surjective f := by
  have := @finite_words w
  exact Finite.surjective_of_injective hf

end Tidex.Lib.Mix
