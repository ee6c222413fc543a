/-
  Lib.Decimal — numbers written with leading zeros.
-/
import Mathlib.Algebra.Order.Ring.Nat
import Mathlib.Data.List.Basic

namespace Tidex.Lib

open List

def padDecimal (width n : Nat) : List Char :=
  List.replicate (width - (Nat.toDigits 10 n).length) '0' ++ Nat.toDigits 10 n

lemma ofDigitChars_padDecimal (width n : Nat) :
    Nat.ofDigitChars 10 (padDecimal width n) 0 = n := by
  unfold padDecimal
  rw [Nat.ofDigitChars_append, Nat.ofDigitChars_replicate_zero, Nat.mul_zero,
    Nat.ofDigitChars_ten_toDigits]

lemma padDecimal_injective (width : Nat) : Function.Injective (padDecimal width) := by
  intro m n h
  rw [← ofDigitChars_padDecimal width m, h, ofDigitChars_padDecimal]

lemma isDigit_of_mem_padDecimal {width n : Nat} {c : Char} (h : c ∈ padDecimal width n) :
    c.isDigit = true := by
  unfold padDecimal at h
  rcases mem_append.mp h with h | h
  · rw [eq_of_mem_replicate h]
    decide
  · exact Nat.isDigit_of_mem_toDigits (by decide) (by decide) h

lemma length_padDecimal_le (width : Nat) {n k : Nat} (hk : 0 < k) (hn : n < 10 ^ k) :
    (padDecimal width n).length ≤ max width k := by
  have hdigits := (Nat.length_toDigits_le_iff (by decide) hk).mpr hn
  unfold padDecimal
  rw [length_append, length_replicate]
  omega

/-- Two numbers with a dash between them can be told apart. -/
lemma dash_injective {width m n m' n' : Nat}
    (h : padDecimal width m ++ '-' :: padDecimal width n =
      padDecimal width m' ++ '-' :: padDecimal width n') : m = m' ∧ n = n' := by
  have hdash : ∀ k, ('-' : Char) ∉ padDecimal width k := by
    intro k hk
    exact absurd (isDigit_of_mem_padDecimal hk) (by decide)
  have hsplit : ∀ k l, (padDecimal width k ++ '-' :: padDecimal width l).takeWhile (· ≠ '-') =
      padDecimal width k := by
    intro k l
    have hall : ∀ c ∈ padDecimal width k, decide (c ≠ '-') = true := by
      intro c hc
      exact decide_eq_true fun heq => hdash k (heq ▸ hc)
    rw [takeWhile_append_of_pos hall, takeWhile_cons_of_neg (by decide), append_nil]
  have hfirst : padDecimal width m = padDecimal width m' := by
    rw [← hsplit m n, h, hsplit m' n']
  rw [hfirst] at h
  have hsecond := cons.inj (append_cancel_left h)
  exact ⟨padDecimal_injective width hfirst, padDecimal_injective width hsecond.2⟩

end Tidex.Lib
