/-
  Lib.StableSort — a sort by a key that many elements may have.
-/
import Mathlib.Data.List.Perm.Basic

namespace Tidex.Lib

open List

variable {α κ : Type} [Ord κ] [Std.TransOrd κ] [DecidableEq κ] {key : α → κ}

omit [DecidableEq κ] in
lemma isLE_total (a b : κ) : ((compare a b).isLE || (compare b a).isLE) = true := by
  rw [@Std.OrientedCmp.eq_swap κ compare _ b]
  cases compare a b <;> decide

def part (key : α → κ) (k : κ) (xs : List α) : List α := xs.filter fun x => decide (key x = k)

omit [Ord κ] [Std.TransOrd κ] in
lemma mem_part {k : κ} {xs : List α} {x : α} : x ∈ part key k xs ↔ x ∈ xs ∧ key x = k := by
  unfold part
  rw [mem_filter, decide_eq_true_eq]

lemma filter_mergeSort (key : α → κ) (k : κ) (xs : List α) :
    part key k (xs.mergeSort fun a b => (compare (key a) (key b)).isLE) = part key k xs := by
  have hsublist : (part key k xs).Sublist
      (xs.mergeSort fun a b => (compare (key a) (key b)).isLE) := by
    apply sublist_mergeSort
    · intro a b c hab hbc
      exact Std.TransCmp.isLE_trans hab hbc
    · intro a b
      exact isLE_total (key a) (key b)
    · rw [pairwise_iff_forall_sublist]
      intro a b hab
      have ha := (mem_part.mp (hab.subset mem_cons_self)).2
      have hb := (mem_part.mp (hab.subset (mem_cons_of_mem _ mem_cons_self))).2
      rw [ha, hb, Std.ReflOrd.compare_self]
      rfl
    · exact filter_sublist
  have hfilter := hsublist.filter fun x => decide (key x = k)
  have hsame : (part key k xs).filter (fun x => decide (key x = k)) = part key k xs := by
    unfold part
    rw [filter_filter]
    simp only [Bool.and_self]
  rw [hsame] at hfilter
  refine (hfilter.eq_of_length ?_).symm
  exact (((mergeSort_perm xs _).filter _).length_eq).symm

lemma eq_of_parts [Std.LawfulEqOrd κ] :
    ∀ {xs ys : List α}, xs.Pairwise (fun a b => (compare (key a) (key b)).isLE = true) →
      ys.Pairwise (fun a b => (compare (key a) (key b)).isLE = true) →
      (∀ k, part key k xs = part key k ys) → xs = ys := by
  intro xs
  induction xs with
  | nil =>
    intro ys _ _ hparts
    cases ys with
    | nil => rfl
    | cons y ys =>
      have hy : y ∈ part key (key y) (y :: ys) := mem_part.mpr ⟨mem_cons_self, rfl⟩
      rw [← hparts] at hy
      cases hy
  | cons x xs ih =>
    intro ys hxs hys hparts
    cases ys with
    | nil =>
      have hx : x ∈ part key (key x) (x :: xs) := mem_part.mpr ⟨mem_cons_self, rfl⟩
      rw [hparts] at hx
      cases hx
    | cons y ys =>
      -- each head is below the other, so they have one key
      have hbelow : ∀ {a : α} {as : List α} {b : α},
          (a :: as).Pairwise (fun a b => (compare (key a) (key b)).isLE = true) → b ∈ a :: as →
          (compare (key a) (key b)).isLE = true := by
        intro a as b hpairwise hb
        rcases mem_cons.mp hb with hb | hb
        · rw [hb, Std.ReflOrd.compare_self]
          rfl
        · exact (pairwise_cons.mp hpairwise).1 b hb
      have hx : x ∈ part key (key x) (y :: ys) := by
        rw [← hparts]
        exact mem_part.mpr ⟨mem_cons_self, rfl⟩
      have hy : y ∈ part key (key y) (x :: xs) := by
        rw [hparts]
        exact mem_part.mpr ⟨mem_cons_self, rfl⟩
      have hkey : key x = key y := Std.LawfulEqCmp.eq_of_compare
        (Std.OrientedCmp.isLE_antisymm (hbelow hxs (mem_part.mp hy).1)
          (hbelow hys (mem_part.mp hx).1))
      have hhead := hparts (key x)
      unfold part at hhead
      rw [filter_cons_of_pos (by simp), filter_cons_of_pos (by simp [hkey]), cons.injEq] at hhead
      obtain ⟨hxy, -⟩ := hhead
      have htails : ∀ k, part key k xs = part key k ys := by
        intro k
        have hk := hparts k
        unfold part at hk
        rw [← hxy, filter_cons, filter_cons] at hk
        by_cases hxk : decide (key x = k) = true
        · rw [if_pos hxk, if_pos hxk] at hk
          exact (cons.inj hk).2
        · rw [if_neg hxk, if_neg hxk] at hk
          exact hk
      rw [hxy, ih (pairwise_cons.mp hxs).2 (pairwise_cons.mp hys).2 htails]

lemma mergeSort_congr [Std.LawfulEqOrd κ] (key : α → κ) {xs ys : List α}
    (hparts : ∀ k, part key k xs = part key k ys) :
    xs.mergeSort (fun a b => (compare (key a) (key b)).isLE) =
      ys.mergeSort fun a b => (compare (key a) (key b)).isLE := by
  have hsorted : ∀ zs : List α, (zs.mergeSort fun a b => (compare (key a) (key b)).isLE).Pairwise
      (fun a b => (compare (key a) (key b)).isLE = true) := by
    intro zs
    apply pairwise_mergeSort
    · intro a b c hab hbc
      exact Std.TransCmp.isLE_trans hab hbc
    · intro a b
      exact isLE_total (key a) (key b)
  apply eq_of_parts (hsorted xs) (hsorted ys)
  intro k
  rw [filter_mergeSort, filter_mergeSort, hparts]

end Tidex.Lib
