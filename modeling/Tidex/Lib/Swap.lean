/-
  Lib.Swap — what an exchange of partners does to a matching.
-/
import Mathlib.Tactic.Ring
import Tidex.Lib.Assignment

namespace Tidex.Lib

open Function Option Finset

/-! ## New partners -/

section

variable {rows cols : Nat} {partner : Nat → Option Nat}

lemma Matching.assign (h : Matching rows cols partner) (i : Nat) {j : Nat} (hj : j < cols)
    (hfree : ∀ k, k < rows → partner k ≠ some j) :
    Matching rows cols (update partner i (some j)) where
  range := by
    intro k hk l hl
    rw [update_apply] at hl
    by_cases hki : k = i
    · rw [if_pos hki, some.injEq] at hl
      omega
    · rw [if_neg hki] at hl
      exact h.range k hk l hl
  inj := by
    intro a b ha hb l hal hbl
    rw [update_apply] at hal hbl
    by_cases hai : a = i
    · by_cases hbi : b = i
      · rw [hai, hbi]
      · rw [if_pos hai] at hal
        rw [if_neg hbi, ← hal] at hbl
        exact absurd hbl (hfree b hb)
    · rw [if_neg hai] at hal
      by_cases hbi : b = i
      · rw [if_pos hbi] at hbl
        rw [← hbl] at hal
        exact absurd hal (hfree a ha)
      · rw [if_neg hbi] at hbl
        exact h.inj a b ha hb l hal hbl

lemma Matching.swap (h : Matching rows cols partner) {i k j : Nat} (hi : i < rows)
    (hk : k < rows) (hkj : partner k = some j) :
    Matching rows cols (update (update partner i (some j)) k (partner i)) := by
  have hvalue : ∀ a, update (update partner i (some j)) k (partner i) a =
      partner (Equiv.swap i k a) := by
    intro a
    by_cases hak : a = k
    · rw [hak, update_self, Equiv.swap_apply_right]
    · rw [update_of_ne hak]
      by_cases hai : a = i
      · rw [hai, update_self, Equiv.swap_apply_left, hkj]
      · rw [update_of_ne hai, Equiv.swap_apply_of_ne_of_ne hai hak]
  have hrows : ∀ a, a < rows → Equiv.swap i k a < rows := by
    intro a ha
    rw [Equiv.swap_apply_def]
    split
    · exact hk
    · split
      · exact hi
      · exact ha
  refine ⟨?_, ?_⟩
  · intro a ha l hl
    rw [hvalue] at hl
    exact h.range _ (hrows a ha) l hl
  · intro a b ha hb l hal hbl
    rw [hvalue] at hal hbl
    exact (Equiv.swap i k).injective (h.inj _ _ (hrows a ha) (hrows b hb) l hal hbl)

lemma Matching.exists_of_free (h : Matching rows cols partner)
    (hcard : (matchedRows rows partner).card = min rows cols) {i : Nat} (hi : i < rows)
    (hfree : partner i = none) {j : Nat} (hj : j < cols) : ∃ k, k < rows ∧ partner k = some j := by
  have hrows : (matchedRows rows partner).card < rows := by
    have hsub : matchedRows rows partner ⊆ (Finset.range rows).erase i := by
      intro k hk
      obtain ⟨hk, hsome⟩ := Finset.mem_filter.mp hk
      refine Finset.mem_erase.mpr ⟨?_, hk⟩
      intro heq
      rw [heq, hfree] at hsome
      cases hsome
    have hle := Finset.card_le_card hsub
    rw [Finset.card_erase_of_mem (Finset.mem_range.mpr hi), Finset.card_range] at hle
    omega
  -- the columns taken are as many as there are
  have hinj : Set.InjOn (fun k => (partner k).getD 0) (matchedRows rows partner) := by
    intro a ha b hb heq
    obtain ⟨ha, hasome⟩ := Finset.mem_filter.mp ha
    obtain ⟨hb, hbsome⟩ := Finset.mem_filter.mp hb
    obtain ⟨l, hl⟩ := isSome_iff_exists.mp hasome
    obtain ⟨m, hm⟩ := isSome_iff_exists.mp hbsome
    have hlm : l = m := by
      simpa [hl, hm] using heq
    rw [← hlm] at hm
    exact h.inj a b (Finset.mem_range.mp ha) (Finset.mem_range.mp hb) l hl hm
  have himage : (matchedRows rows partner).image (fun k => (partner k).getD 0) =
      Finset.range cols := by
    apply Finset.eq_of_subset_of_card_le
    · intro l hl
      obtain ⟨k, hk, hkl⟩ := Finset.mem_image.mp hl
      obtain ⟨hk, hsome⟩ := Finset.mem_filter.mp hk
      obtain ⟨m, hm⟩ := isSome_iff_exists.mp hsome
      have hrange := h.range k (Finset.mem_range.mp hk) m hm
      rw [hm, getD_some] at hkl
      exact Finset.mem_range.mpr (by omega)
    · rw [Finset.card_image_of_injOn hinj, Finset.card_range, hcard]
      omega
  obtain ⟨k, hk, hkj⟩ := Finset.mem_image.mp (himage.symm ▸ Finset.mem_range.mpr hj :
    j ∈ (matchedRows rows partner).image fun k => (partner k).getD 0)
  obtain ⟨hk, hsome⟩ := Finset.mem_filter.mp hk
  obtain ⟨m, hm⟩ := isSome_iff_exists.mp hsome
  rw [hm, getD_some] at hkj
  rw [hkj] at hm
  exact ⟨k, Finset.mem_range.mp hk, hm⟩

end

/-! ## The total after an exchange -/

section

variable {K : Type} [Field K] [LinearOrder K] [IsStrictOrderedRing K]
variable {rows cols : Nat} {partner : Nat → Option Nat} {gain : Nat → Nat → K}

omit [LinearOrder K] [IsStrictOrderedRing K] in
lemma total_update (gain : Nat → Nat → K) (partner : Nat → Option Nat) {i : Nat} (hi : i < rows)
    (choice : Option Nat) :
    total rows gain (update partner i choice) + (partner i).elim 0 (gain i) =
      total rows gain partner + choice.elim 0 (gain i) := by
  have hmem := mem_range.mpr hi
  have hrest : ∑ k ∈ (range rows).erase i,
      (update partner i choice k).elim 0 (gain k) =
        ∑ k ∈ (range rows).erase i, (partner k).elim 0 (gain k) := by
    apply sum_congr rfl
    intro k hk
    rw [update_of_ne (mem_erase.mp hk).1]
  unfold total
  rw [← add_sum_erase _ _ hmem, ← add_sum_erase _ _ hmem, hrest, update_self]
  ring

/-- What the best matching says about a pair it does not have. -/
lemma exchange_le (h : Matching rows cols partner)
    (hcard : (matchedRows rows partner).card = min rows cols)
    (hbest : ∀ other, Matching rows cols other → total rows gain other ≤ total rows gain partner)
    {i j : Nat} (hi : i < rows) (hj : j < cols) (hpair : partner i ≠ some j)
    (hrow : ∀ l, partner i = some l → gain i l < gain i j)
    (hcolumn : ∀ k, k < rows → partner k = some j → gain k j < gain i j) :
    ∃ k l, k < rows ∧ partner k = some j ∧ partner i = some l ∧
      gain i j + gain k l ≤ gain i l + gain k j := by
  by_cases htaken : ∃ k, k < rows ∧ partner k = some j
  · obtain ⟨k, hk, hkj⟩ := htaken
    have hki : k ≠ i := by
      intro heq
      rw [heq] at hkj
      exact hpair hkj
    have hswapped := hbest _ (h.swap hi hk hkj)
    have hfirst := total_update gain partner hi (some j)
    have hsecond := total_update gain (update partner i (some j)) hk (partner i)
    rw [update_of_ne hki, hkj] at hsecond
    simp only [elim_some] at hfirst hsecond
    cases hpartner : partner i with
    | none =>
      rw [hpartner] at hswapped hfirst hsecond
      simp only [elim_none] at hfirst hsecond
      have hless := hcolumn k hk hkj
      linarith
    | some l =>
      rw [hpartner] at hswapped hfirst hsecond
      simp only [elim_some] at hfirst hsecond
      exact ⟨k, l, hk, hkj, rfl, by linarith⟩
  · have hfree : ∀ k, k < rows → partner k ≠ some j := by
      intro k hk hkj
      exact htaken ⟨k, hk, hkj⟩
    cases hpartner : partner i with
    | none => exact absurd (h.exists_of_free hcard hi hpartner hj) htaken
    | some l =>
      have hassigned := hbest _ (h.assign i hj hfree)
      have hupdate := total_update gain partner hi (some j)
      rw [hpartner] at hupdate
      simp only [elim_some] at hupdate
      have hless := hrow l hpartner
      linarith

end

end Tidex.Lib
