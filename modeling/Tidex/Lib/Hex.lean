/-
  Lib.Hex — numbers as lower-case hexadecimal text.
-/
import Mathlib.Algebra.Order.Ring.Nat
import Mathlib.Data.List.GetD
import Mathlib.Data.List.Nodup

namespace Tidex.Lib

open List

def hexDigits : List Char :=
  ['0', '1', '2', '3', '4', '5', '6', '7', '8', '9', 'a', 'b', 'c', 'd', 'e', 'f']

def hexDigit (n : Nat) : Char :=
  hexDigits.getD (Nat.mod n 16) '0'

/-- The `n` last hexadecimal digits of a number. -/
def hexText : Nat → Nat → List Char
  | 0, _ => []
  | n + 1, x => hexText n (Nat.div x 16) ++ [hexDigit x]

lemma hexDigit_mem (n : Nat) : hexDigit n ∈ hexDigits := by
  have hlt : Nat.mod n 16 < 16 := Nat.mod_lt n (by omega)
  rw [hexDigit, getD_eq_getElem hexDigits '0' hlt]
  exact getElem_mem hlt

lemma length_hexText (n x : Nat) : (hexText n x).length = n := by
  induction n generalizing x with
  | zero => rfl
  | succ n ih => simp [hexText, ih]

lemma mem_hexDigits_of_mem_hexText {n x : Nat} {c : Char} (h : c ∈ hexText n x) :
    c ∈ hexDigits := by
  induction n generalizing x with
  | zero => cases h
  | succ n ih =>
    rcases mem_append.mp h with h | h
    · exact ih h
    · rw [mem_singleton.mp h]
      exact hexDigit_mem x

lemma hexDigit_inj {x y : Nat} (h : hexDigit x = hexDigit y) : x % 16 = y % 16 := by
  have hnodup : hexDigits.Nodup := by decide
  have hx : Nat.mod x 16 < hexDigits.length := Nat.mod_lt x (by decide)
  have hy : Nat.mod y 16 < hexDigits.length := Nat.mod_lt y (by decide)
  rw [hexDigit, hexDigit, getD_eq_getElem hexDigits _ hx, getD_eq_getElem hexDigits _ hy] at h
  exact (Nodup.getElem_inj_iff hnodup).mp h

/-- Numbers of at most `n` digits have different texts. -/
lemma hexText_inj {n x y : Nat} (hx : x < 16 ^ n) (hy : y < 16 ^ n)
    (h : hexText n x = hexText n y) : x = y := by
  induction n generalizing x y with
  | zero => omega
  | succ n ih =>
    have hlength : (hexText n (x / 16)).length = (hexText n (y / 16)).length := by
      rw [length_hexText, length_hexText]
    obtain ⟨hinit, hlast⟩ := append_inj h hlength
    have hhigh : x / 16 = y / 16 := by
      rw [Nat.pow_succ] at hx hy
      exact ih (by omega) (by omega) hinit
    have hlow : x % 16 = y % 16 := hexDigit_inj (singleton_inj.mp hlast)
    omega

end Tidex.Lib
