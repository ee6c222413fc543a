/-
  Lib.SortedCount — sorted lists compared by counting.
-/
import Mathlib.Algebra.Order.BigOperators.Group.List
import Mathlib.Data.List.Sort

namespace Tidex.Lib

open List

variable {α : Type} [LinearOrder α]

/-- How many entries are at most a bound. -/
def countLe (v : α) (xs : List α) : Nat := xs.countP fun x => decide (x ≤ v)

lemma countLe_cons (v x : α) (xs : List α) :
    countLe v (x :: xs) = countLe v xs + if x ≤ v then 1 else 0 := by
  unfold countLe
  rw [countP_cons]
  simp only [decide_eq_true_eq]

variable {xs ys : List α}

lemma countLe_perm {v : α} (h : xs.Perm ys) : countLe v xs = countLe v ys :=
  h.countP_eq _

/-- More entries below every bound make smaller entries, place by place. -/
lemma forall₂_le_of_countP (hxs : xs.Pairwise (· ≤ ·)) (hys : ys.Pairwise (· ≤ ·))
    (hlength : xs.length = ys.length) (hcount : ∀ v ∈ ys, countLe v ys ≤ countLe v xs) :
    Forall₂ (· ≤ ·) xs ys := by
  induction xs generalizing ys with
  | nil =>
    rw [length_nil] at hlength
    rw [eq_nil_of_length_eq_zero hlength.symm]
    exact Forall₂.nil
  | cons x xs ih =>
    cases ys with
    | nil => cases hlength
    | cons y ys =>
      rw [pairwise_cons] at hxs hys
      have hhead : x ≤ y := by
        by_contra hlt
        -- nothing of the first list is below the least entry of the second
        have hnone : countLe y (x :: xs) = 0 := by
          unfold countLe
          rw [countP_eq_zero]
          intro z hz hle
          rw [decide_eq_true_eq] at hle
          rcases mem_cons.mp hz with rfl | hz
          · exact hlt hle
          · exact hlt (le_trans (hxs.1 z hz) hle)
        have hsome := hcount y mem_cons_self
        rw [hnone, countLe_cons, if_pos (le_refl y)] at hsome
        omega
      refine Forall₂.cons hhead (ih hxs.2 hys.2 (Nat.succ.inj hlength) ?_)
      intro v hv
      have hle := hys.1 v hv
      have hboth := hcount v (mem_cons_of_mem _ hv)
      rw [countLe_cons, countLe_cons, if_pos hle, if_pos (le_trans hhead hle)] at hboth
      omega

lemma eq_of_countP (hxs : xs.Pairwise (· ≤ ·)) (hys : ys.Pairwise (· ≤ ·))
    (hlength : xs.length = ys.length) (hcount : ∀ v, countLe v xs = countLe v ys) : xs = ys := by
  have hle := forall₂_le_of_countP hxs hys hlength fun v _ => (hcount v).ge
  have hge := forall₂_le_of_countP hys hxs hlength.symm fun v _ => (hcount v).le
  clear hxs hys hlength hcount
  induction hle with
  | nil => rfl
  | cons hxy _ ih =>
    rw [forall₂_cons] at hge
    rw [le_antisymm hxy hge.1, ih hge.2]

/-- More entries below every bound make a smaller sum. -/
lemma sum_le_of_countP [AddCommMonoid α] [IsOrderedAddMonoid α] (hlength : xs.length = ys.length)
    (hcount : ∀ v, countLe v ys ≤ countLe v xs) : xs.sum ≤ ys.sum := by
  have hsorted : ∀ zs : List α, (zs.mergeSort (· ≤ ·)).Pairwise (· ≤ ·) := by
    intro zs
    exact pairwise_mergeSort' (· ≤ ·) zs
  have hperm : ∀ zs : List α, (zs.mergeSort (· ≤ ·)).Perm zs :=
    fun zs => mergeSort_perm zs _
  have hle := forall₂_le_of_countP (hsorted xs) (hsorted ys)
    (by rw [length_mergeSort, length_mergeSort, hlength])
    (fun v _ => by rw [countLe_perm (hperm xs), countLe_perm (hperm ys)]; exact hcount v)
  rw [← (hperm xs).sum_eq, ← (hperm ys).sum_eq]
  exact Forall₂.sum_le_sum hle

lemma filter_append_filter_of_sorted {β : Type} {f : β → α} (v : α) {xs : List β}
    (h : (xs.map f).Pairwise (· ≤ ·)) :
    xs = (xs.filter fun x => decide (f x ≤ v)) ++ xs.filter fun x => !decide (f x ≤ v) := by
  induction xs with
  | nil => rfl
  | cons x xs ih =>
    rw [map_cons, pairwise_cons] at h
    by_cases hx : f x ≤ v
    · rw [filter_cons_of_pos (by simpa using hx), filter_cons_of_neg (by simpa using hx),
        cons_append, ← ih h.2]
    · have hnone : (xs.filter fun y => decide (f y ≤ v)) = [] := by
        rw [filter_eq_nil_iff]
        intro y hy hle
        rw [decide_eq_true_eq] at hle
        exact hx (le_trans (h.1 (f y) (mem_map_of_mem hy)) hle)
      have hrest := ih h.2
      rw [hnone, nil_append] at hrest
      rw [filter_cons_of_neg (by simpa using hx), filter_cons_of_pos (by simpa using hx),
        hnone, nil_append, ← hrest]

end Tidex.Lib
