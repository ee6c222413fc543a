/-
  Lib.FirstLeast — the first least element of a list.
-/
import Mathlib.Order.Lattice
import Mathlib.Data.List.Perm.Basic

namespace Tidex.Lib

open List Option

variable {α K : Type} [LinearOrder K]

def firstLeast (key : α → Option K) : List α → Option (α × Nat)
  | [] => none
  | x :: xs =>
    match key x, firstLeast key xs with
    | none, rest => rest.map fun found => (found.1, found.2 + 1)
    | some _, none => some (x, 0)
    | some k, some (y, i) =>
      if (key y).any fun other => decide (other < k) then some (y, i + 1) else some (x, 0)

/-- An element of the least key, with the place where that key comes first. -/
structure FirstLeast (key : α → Option K) (xs : List α) (x : α) (i : Nat) (k : K) : Prop where
  getElem : xs[i]? = some x
  key_eq : key x = some k
  least : ∀ y ∈ xs, ∀ other, key y = some other → k ≤ other
  first : ∀ j y, j < i → xs[j]? = some y → ∀ other, key y = some other → k < other

lemma firstLeast_cases (key : α → Option K) (xs : List α) :
    (firstLeast key xs = none ∧ ∀ x ∈ xs, key x = none) ∨
      ∃ x i k, firstLeast key xs = some (x, i) ∧ FirstLeast key xs x i k := by
  induction xs with
  | nil =>
    refine .inl ⟨rfl, ?_⟩
    intro x hx
    cases hx
  | cons x xs ih =>
    unfold firstLeast
    cases hkey : key x with
    | none =>
      rcases ih with ⟨hnone, hall⟩ | ⟨y, i, k, hsome, hy⟩
      · refine .inl ⟨by rw [hnone]; rfl, ?_⟩
        refine forall_mem_cons.mpr ⟨?_, hall⟩
        rw [hkey]
      · refine .inr ⟨y, i + 1, k, by rw [hsome]; rfl, hy.getElem, hy.key_eq, ?_, ?_⟩
        · intro z hz other hother
          rcases mem_cons.mp hz with hz | hz
          · rw [hz, hkey] at hother
            cases hother
          · exact hy.least z hz other hother
        · intro j z hj hz other hother
          cases j with
          | zero =>
            rw [getElem?_cons_zero, some.injEq] at hz
            rw [← hz, hkey] at hother
            cases hother
          | succ j => exact hy.first j z (by omega) hz other hother
    | some k =>
      rcases ih with ⟨hnone, hall⟩ | ⟨y, i, k', hsome, hy⟩
      · refine .inr ⟨x, 0, k, by rw [hnone], rfl, hkey, ?_, ?_⟩
        · intro z hz other hother
          rcases mem_cons.mp hz with hz | hz
          · rw [hz, hkey, some.injEq] at hother
            exact le_of_eq hother
          · rw [hall z hz] at hother
            cases hother
        · intro j z hj
          omega
      · have hany : ((key y).any fun other => decide (other < k)) = decide (k' < k) := by
          rw [hy.key_eq]
          rfl
        rw [hsome]
        simp only [hany, decide_eq_true_eq]
        by_cases hless : k' < k
        · rw [if_pos hless]
          refine .inr ⟨y, i + 1, k', rfl, hy.getElem, hy.key_eq, ?_, ?_⟩
          · intro z hz other hother
            rcases mem_cons.mp hz with hz | hz
            · rw [hz, hkey, some.injEq] at hother
              rw [← hother]
              exact le_of_lt hless
            · exact hy.least z hz other hother
          · intro j z hj hz other hother
            cases j with
            | zero =>
              rw [getElem?_cons_zero, some.injEq] at hz
              rw [← hz, hkey, some.injEq] at hother
              rw [← hother]
              exact hless
            | succ j => exact hy.first j z (by omega) hz other hother
        · rw [if_neg hless]
          refine .inr ⟨x, 0, k, rfl, rfl, hkey, ?_, ?_⟩
          · intro z hz other hother
            rcases mem_cons.mp hz with hz | hz
            · rw [hz, hkey, some.injEq] at hother
              exact le_of_eq hother
            · exact (not_lt.mp hless).trans (hy.least z hz other hother)
          · intro j z hj
            omega

variable {key : α → Option K} {xs : List α}

lemma firstLeast_eq_none : firstLeast key xs = none ↔ ∀ x ∈ xs, key x = none := by
  rcases firstLeast_cases key xs with ⟨hnone, hall⟩ | ⟨x, i, k, hsome, hx⟩
  · exact ⟨fun _ => hall, fun _ => hnone⟩
  · constructor
    · intro h
      rw [h] at hsome
      cases hsome
    · intro h
      have hkey := h x (mem_of_getElem? hx.getElem)
      rw [hx.key_eq] at hkey
      cases hkey

lemma firstLeast_spec {x : α} {i : Nat} (h : firstLeast key xs = some (x, i)) :
    ∃ k, FirstLeast key xs x i k := by
  rcases firstLeast_cases key xs with ⟨hnone, -⟩ | ⟨y, j, k, hsome, hy⟩
  · rw [hnone] at h
    cases h
  · rw [hsome, some.injEq, Prod.mk.injEq] at h
    rw [← h.1, ← h.2]
    exact ⟨k, hy⟩

lemma FirstLeast.key_congr {xs ys : List α} {x y : α} {i j : Nat} {k k' : K}
    (hx : FirstLeast key xs x i k) (hy : FirstLeast key ys y j k') (hmem : ∀ z, z ∈ xs ↔ z ∈ ys) :
    k = k' := by
  apply le_antisymm
  · exact hx.least y ((hmem y).mpr (mem_of_getElem? hy.getElem)) k' hy.key_eq
  · exact hy.least x ((hmem x).mp (mem_of_getElem? hx.getElem)) k hx.key_eq

lemma FirstLeast.eq {x y : α} {i j : Nat} {k k' : K} (hx : FirstLeast key xs x i k)
    (hy : FirstLeast key xs y j k') : x = y ∧ i = j := by
  have hk : k = k' := hx.key_congr hy fun _ => Iff.rfl
  have hij : i = j := by
    rcases Nat.lt_trichotomy i j with hlt | heq | hlt
    · have hless := hy.first i x hlt hx.getElem k hx.key_eq
      rw [hk] at hless
      exact absurd hless (lt_irrefl _)
    · exact heq
    · have hless := hx.first j y hlt hy.getElem k' hy.key_eq
      rw [hk] at hless
      exact absurd hless (lt_irrefl _)
  have hget := hx.getElem
  rw [hij, hy.getElem, some.injEq] at hget
  exact ⟨hget.symm, hij⟩

lemma firstLeast_of {x : α} {i : Nat} {k : K} (h : FirstLeast key xs x i k) :
    firstLeast key xs = some (x, i) := by
  rcases firstLeast_cases key xs with ⟨-, hall⟩ | ⟨y, j, k', hsome, hy⟩
  · have hkey := hall x (mem_of_getElem? h.getElem)
    rw [h.key_eq] at hkey
    cases hkey
  · obtain ⟨hxy, hij⟩ := h.eq hy
    rw [hsome, hxy, hij]

lemma firstLeast_place :
    ∀ found, firstLeast key xs = some found → xs[found.2]? = some found.1 := by
  intro found hfound
  obtain ⟨_, hspec⟩ := firstLeast_spec hfound
  exact hspec.getElem

lemma firstLeast_append {xs ys : List α}
    (h : ∀ y ∈ ys, ∀ k, key y = some k → ∃ x ∈ xs, ∃ least, key x = some least ∧ least ≤ k) :
    firstLeast key (xs ++ ys) = firstLeast key xs := by
  rcases firstLeast_cases key xs with ⟨hnone, hall⟩ | ⟨x, i, k, hsome, hx⟩
  · rw [hnone, firstLeast_eq_none]
    intro y hy
    rcases List.mem_append.mp hy with hy | hy
    · exact hall y hy
    · cases hkey : key y with
      | none => rfl
      | some k =>
        obtain ⟨x, hx, least, hleast, -⟩ := h y hy k hkey
        rw [hall x hx] at hleast
        cases hleast
  · rw [hsome]
    have hi := (List.getElem?_eq_some_iff.mp hx.getElem).1
    apply firstLeast_of
    refine ⟨?_, hx.key_eq, ?_, ?_⟩
    · rw [List.getElem?_append_left hi]
      exact hx.getElem
    · intro y hy other hother
      rcases List.mem_append.mp hy with hy | hy
      · exact hx.least y hy other hother
      · obtain ⟨z, hz, least, hleast, hle⟩ := h y hy other hother
        exact (hx.least z hz least hleast).trans hle
    · intro j y hj hy other hother
      rw [List.getElem?_append_left (by omega)] at hy
      exact hx.first j y hj hy other hother

end Tidex.Lib
