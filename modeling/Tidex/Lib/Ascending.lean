/-
  Lib.Ascending — lists in the strict order of a key.
-/
import Mathlib.Data.List.Sort
import Tidex.Lib.OrdMap
import Tidex.Lib.StableSort

namespace Tidex.Lib

open List

variable {ε σ α K : Type} [Ord K] [Std.TransOrd K] {key : α → K} {xs ys : List α}

/-- Each key is above the ones before it. -/
def Ascending (key : α → K) (xs : List α) : Prop :=
  xs.Pairwise fun a b => compare (key a) (key b) = .lt

/-- A list that ascends is given by its elements. -/
lemma eq_of_ascending (hxs : Ascending key xs) (hys : Ascending key ys)
    (h : ∀ a, a ∈ xs ↔ a ∈ ys) : xs = ys := by
  have hirrefl : Std.Irrefl fun a b : α => compare (key a) (key b) = .lt := by
    constructor
    intro a hlt
    rw [@Std.ReflCmp.compare_self K compare _ (key a)] at hlt
    cases hlt
  have hantisymm : Std.Antisymm fun a b : α => compare (key a) (key b) = .lt := by
    constructor
    intro a b hlt hgt
    have hself := Std.TransCmp.lt_trans hlt hgt
    rw [@Std.ReflCmp.compare_self K compare _ (key a)] at hself
    cases hself
  exact Pairwise.eq_of_mem_iff hxs hys h

omit [Std.TransOrd K] in
lemma ascending_of_le [Std.LawfulEqOrd K]
    (h : xs.Pairwise fun a b => (compare (key a) (key b)).isLE = true)
    (hnodup : (xs.map key).Nodup) : Ascending key xs := by
  have hne : xs.Pairwise fun a b => key a ≠ key b := pairwise_map.mp hnodup
  apply (h.and hne).imp
  intro a b hboth
  obtain ⟨hle, hdistinct⟩ := hboth
  cases hcompare : compare (key a) (key b) with
  | lt => rfl
  | eq => exact absurd (Std.LawfulEqCmp.compare_eq_iff_eq.mp hcompare) hdistinct
  | gt =>
    rw [hcompare] at hle
    cases hle

lemma ascending_insertionSort [Std.LawfulEqOrd K] (h : (xs.map key).Nodup) :
    Ascending key (xs.insertionSort fun a b => (compare (key a) (key b)).isLE = true) := by
  have htrans : IsTrans α fun a b => (compare (key a) (key b)).isLE = true := by
    constructor
    intro a b c hab hbc
    exact Std.TransCmp.isLE_trans hab hbc
  have htotal : Std.Total fun a b : α => (compare (key a) (key b)).isLE = true := by
    constructor
    intro a b
    exact Bool.or_eq_true_iff.mp (isLE_total (key a) (key b))
  apply ascending_of_le
  · exact pairwise_insertionSort _ xs
  · exact ((perm_insertionSort _ xs).map key).nodup_iff.mpr h

lemma nodup_of_ascending (h : Ascending key xs) : (xs.map key).Nodup := by
  unfold Nodup
  rw [pairwise_map]
  apply h.imp
  intro a b hlt hsame
  rw [hsame, @Std.ReflCmp.compare_self K compare _ (key b)] at hlt
  cases hlt

omit [Ord K] [Std.TransOrd K] in
lemma find?_key [DecidableEq K] (hnodup : (xs.map key).Nodup) {x : α} (hx : x ∈ xs) :
    (xs.find? fun y => key y = key x) = some x := by
  induction xs with
  | nil => cases hx
  | cons y ys ih =>
    rw [map_cons, nodup_cons] at hnodup
    rcases mem_cons.mp hx with rfl | hx
    · rw [find?_cons, decide_eq_true rfl]
    · have hne : ¬key y = key x := by
        intro hsame
        exact hnodup.1 (hsame ▸ mem_map_of_mem hx)
      rw [find?_cons, decide_eq_false hne]
      exact ih hnodup.2 hx

omit [Std.TransOrd K] in
lemma ascending_filter {p : α → Bool} (h : Ascending key xs) : Ascending key (xs.filter p) :=
  Pairwise.filter p h

lemma ascending_concat {a : α} : Ascending key (xs ++ [a]) ↔ Ascending key xs ∧
      ∀ b, xs.getLast? = some b → compare (key b) (key a) = .lt := by
  unfold Ascending
  rw [pairwise_append]
  constructor
  · intro h
    obtain ⟨hxs, -, hlast⟩ := h
    refine ⟨hxs, ?_⟩
    intro b hb
    exact hlast b (mem_of_getLast? hb) a (mem_singleton.mpr rfl)
  · intro h
    obtain ⟨hxs, hlast⟩ := h
    refine ⟨hxs, pairwise_singleton _ _, ?_⟩
    intro b hb c hc
    rw [mem_singleton.mp hc]
    rcases eq_nil_or_concat xs with rfl | ⟨cut, last, rfl⟩
    · cases hb
    · have hend := hlast last (by rw [concat_eq_append, getLast?_concat])
      rw [concat_eq_append] at hb hxs
      rcases mem_append.mp hb with hb | hb
      · have hbelow := (pairwise_append.mp hxs).2.2 b hb last (mem_singleton.mpr rfl)
        exact Std.TransCmp.lt_trans hbelow hend
      · rw [mem_singleton.mp hb]
        exact hend

lemma foldlM_ascending_ok {f : σ → α → Except ε σ} {view : List α → σ} {Q : α → Prop}
    (hstep : ∀ seen a t, Ascending key seen → (f (view seen) a = .ok t ↔
      t = view (seen ++ [a]) ∧ (∀ b, seen.getLast? = some b → compare (key b) (key a) = .lt) ∧ Q a))
    {t : σ} : xs.foldlM f (view []) = .ok t ↔ t = view xs ∧ Ascending key xs ∧ ∀ a ∈ xs, Q a := by
  induction xs using reverseRecOn generalizing t with
  | nil =>
    rw [foldlM_nil, pure_ok]
    constructor
    · intro h
      exact ⟨h.symm, Pairwise.nil, forall_mem_nil _⟩
    · intro h
      exact h.1.symm
  | append_singleton xs a ih =>
    rw [foldlM_append, bind_ok, ascending_concat]
    simp only [foldlM_cons, foldlM_nil, bind_ok, pure_ok, exists_eq_right, ih]
    constructor
    · intro h
      obtain ⟨s, ⟨rfl, hxs, hall⟩, hlast⟩ := h
      obtain ⟨rfl, habove, ha⟩ := (hstep xs a t hxs).mp hlast
      refine ⟨rfl, ⟨hxs, habove⟩, ?_⟩
      exact forall_mem_concat hall ha
    · intro h
      obtain ⟨rfl, ⟨hxs, habove⟩, hall⟩ := h
      refine ⟨view xs, ⟨rfl, hxs, ?_⟩, ?_⟩
      · exact fun b hb => hall b (mem_append_left _ hb)
      · exact (hstep xs a _ hxs).mpr ⟨rfl, habove, hall a (by simp)⟩

end Tidex.Lib
