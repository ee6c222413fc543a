/-
  Lib.Assignment — assignments of rows to columns, and when one is cheapest.
-/
import Mathlib.Algebra.Order.BigOperators.Group.Finset
import Mathlib.Algebra.Order.Field.Basic
import Mathlib.Data.Fintype.Sum
import Mathlib.Order.Interval.Finset.Nat
import Mathlib.Tactic.Linarith

namespace Tidex.Lib

open Function Option Finset

/-! ## Seatings with one open column -/

/-- Rows one to `i` sit in distinct columns up to `n`, none of them in the open one. -/
structure Seating (n i : Nat) (p : Nat → Nat) (hole : Nat) : Prop where
  hole_le : hole ≤ n
  inj : ∀ j k, j ≤ n → k ≤ n → j ≠ hole → k ≠ hole → p j ≠ 0 → p j = p k → j = k
  range : ∀ j, j ≤ n → j ≠ hole → p j ≤ i
  onto : ∀ r, 1 ≤ r → r ≤ i → ∃ j, j ≤ n ∧ j ≠ hole ∧ p j = r

namespace Seating

variable {n i hole : Nat} {p : Nat → Nat}

/-- A row moves into the open column, and the column it leaves is open. -/
lemma move (h : Seating n i p hole) {next : Nat} (hnext : next ≤ n) (hne : next ≠ hole) :
    Seating n i (update p hole (p next)) next where
  hole_le := hnext
  inj := by
    intro j k hj hk hjn hkn hpos heq
    rw [update_apply, update_apply] at heq
    rw [update_apply] at hpos
    by_cases hjh : j = hole
    · by_cases hkh : k = hole
      · rw [hjh, hkh]
      · rw [if_pos hjh] at heq hpos
        rw [if_neg hkh] at heq
        exact absurd (h.inj next k hnext hk hne hkh hpos heq).symm hkn
    · rw [if_neg hjh] at heq hpos
      by_cases hkh : k = hole
      · rw [if_pos hkh] at heq
        exact absurd (h.inj j next hj hnext hjh hne hpos heq) hjn
      · rw [if_neg hkh] at heq
        exact h.inj j k hj hk hjh hkh hpos heq
  range := by
    intro j hj hjn
    rw [update_apply]
    by_cases hjh : j = hole
    · rw [if_pos hjh]
      exact h.range next hnext hne
    · rw [if_neg hjh]
      exact h.range j hj hjh
  onto := by
    intro r hr hri
    obtain ⟨j, hj, hjh, hjr⟩ := h.onto r hr hri
    by_cases hjn : j = next
    · refine ⟨hole, h.hole_le, Ne.symm hne, ?_⟩
      rw [update_self, ← hjn]
      exact hjr
    · refine ⟨j, hj, hjn, ?_⟩
      rw [update_of_ne hjh]
      exact hjr

lemma pos_of_full (h : Seating n n p 0) {j : Nat} (hj : 1 ≤ j) (hjn : j ≤ n) : 1 ≤ p j := by
  -- the rows are as many as the columns, so a column without one would leave a row without one
  by_contra hzero
  have hmaps : ∀ r ∈ Icc 1 n, ∃ k ∈ (Icc 1 n).erase j, p k = r := by
    intro r hr
    rw [mem_Icc] at hr
    obtain ⟨k, hk, hk0, hkr⟩ := h.onto r hr.1 hr.2
    refine ⟨k, ?_, hkr⟩
    rw [mem_erase, mem_Icc]
    refine ⟨?_, by omega, hk⟩
    intro hkj
    rw [hkj] at hkr
    omega
  have hsub : Icc 1 n ⊆ ((Icc 1 n).erase j).image p := by
    intro r hr
    obtain ⟨k, hk, hkr⟩ := hmaps r hr
    exact mem_image.mpr ⟨k, hk, hkr⟩
  have hcard := (card_le_card hsub).trans card_image_le
  rw [card_erase_of_mem (mem_Icc.mpr ⟨hj, hjn⟩), Nat.card_Icc] at hcard
  omega

lemma injOn_of_full (h : Seating n n p 0) : Set.InjOn p (Icc 1 n : Finset Nat) := by
  intro j hj k hk heq
  rw [mem_coe, mem_Icc] at hj hk
  have hpos := h.pos_of_full hj.1 hj.2
  exact h.inj j k hj.2 hk.2 (by omega) (by omega) (by omega) heq

lemma mapsTo_of_full (h : Seating n n p 0) : ∀ j ∈ Icc 1 n, p j ∈ Icc 1 n := by
  intro j hj
  rw [mem_Icc] at hj ⊢
  exact ⟨h.pos_of_full hj.1 hj.2, h.range j hj.2 (by omega)⟩

end Seating

/-! ## Potentials -/

section

variable {K : Type} [Field K] [LinearOrder K] [IsStrictOrderedRing K]

omit [LinearOrder K] [IsStrictOrderedRing K] in
lemma sum_rows {n : Nat} {g : Nat → Nat} (u : Nat → K) (hinj : Set.InjOn g (Icc 1 n : Finset Nat))
    (hmaps : ∀ j ∈ Icc 1 n, g j ∈ Icc 1 n) : ∑ j ∈ Icc 1 n, u (g j) = ∑ r ∈ Icc 1 n, u r := by
  have himage : (Icc 1 n).image g = Icc 1 n := by
    apply eq_of_subset_of_card_le
    · intro r hr
      obtain ⟨j, hj, rfl⟩ := mem_image.mp hr
      exact hmaps j hj
    · rw [card_image_of_injOn hinj]
  rw [← sum_image hinj, himage]

/-- An assignment on which feasible potentials are tight is cheapest. -/
lemma sum_le_of_potentials {n : Nat} {c : Nat → Nat → K} {u v : Nat → K} {p g : Nat → Nat}
    (hfeasible : ∀ r, 1 ≤ r → r ≤ n → ∀ j, 1 ≤ j → j ≤ n → u r + v j ≤ c r j)
    (htight : ∀ j, 1 ≤ j → j ≤ n → u (p j) + v j = c (p j) j)
    (hp : Set.InjOn p (Icc 1 n : Finset Nat)) (hpmaps : ∀ j ∈ Icc 1 n, p j ∈ Icc 1 n)
    (hg : Set.InjOn g (Icc 1 n : Finset Nat)) (hgmaps : ∀ j ∈ Icc 1 n, g j ∈ Icc 1 n) :
    ∑ j ∈ Icc 1 n, c (p j) j ≤ ∑ j ∈ Icc 1 n, c (g j) j := by
  calc ∑ j ∈ Icc 1 n, c (p j) j
      = ∑ j ∈ Icc 1 n, (u (p j) + v j) := by
        apply sum_congr rfl
        intro j hj
        rw [mem_Icc] at hj
        exact (htight j hj.1 hj.2).symm
    _ = ∑ j ∈ Icc 1 n, (u (g j) + v j) := by
        rw [sum_add_distrib, sum_add_distrib, sum_rows u hp hpmaps, sum_rows u hg hgmaps]
    _ ≤ ∑ j ∈ Icc 1 n, c (g j) j := by
        apply sum_le_sum
        intro j hj
        have hr := mem_Icc.mp (hgmaps j hj)
        rw [mem_Icc] at hj
        exact hfeasible (g j) hr.1 hr.2 j hj.1 hj.2

end

/-! ## Partial assignments -/

/-- A partial assignment is part of a full one. -/
lemma exists_extension {n : Nat} {s : Finset Nat} {f : Nat → Nat}
    (hs : s ⊆ Icc 1 n) (hmaps : ∀ j ∈ s, f j ∈ Icc 1 n) (hinj : Set.InjOn f s) :
    ∃ g : Nat → Nat, (∀ j ∈ s, g j = f j) ∧ Set.InjOn g (Icc 1 n : Finset Nat) ∧
      ∀ j ∈ Icc 1 n, g j ∈ Icc 1 n := by
  have hcard : Fintype.card (Icc 1 n) = (Icc 1 n).card := Fintype.card_coe _
  have hsub : (univ.filter fun j : Icc 1 n => (j : Nat) ∈ s).image
      (fun j : Icc 1 n => f (j : Nat)) ⊆ Icc 1 n := by
    intro r hr
    obtain ⟨j, hj, rfl⟩ := mem_image.mp hr
    exact hmaps j (mem_filter.mp hj).2
  have hinj' : Set.InjOn (fun j : Icc 1 n => f (j : Nat))
      (univ.filter fun j : Icc 1 n => (j : Nat) ∈ s : Finset (Icc 1 n)) := by
    intro j hj k hk heq
    rw [mem_coe, mem_filter] at hj hk
    exact Subtype.ext (hinj hj.2 hk.2 heq)
  obtain ⟨g, hg⟩ := exists_equiv_extend_of_card_eq hcard hsub hinj'
  have hvalue : ∀ j (h : j ∈ Icc 1 n),
      (if h : j ∈ Icc 1 n then (g ⟨j, h⟩ : Nat) else 0) = g ⟨j, h⟩ := by
    intro j h
    rw [dif_pos h]
  refine ⟨fun j => if h : j ∈ Icc 1 n then (g ⟨j, h⟩ : Nat) else 0, ?_, ?_, ?_⟩
  · intro j hj
    exact (hvalue j (hs hj)).trans
      (hg ⟨j, hs hj⟩ (mem_filter.mpr ⟨mem_univ _, hj⟩))
  · intro j hj k hk heq
    rw [mem_coe] at hj hk
    have hsame : (g ⟨j, hj⟩ : Nat) = g ⟨k, hk⟩ :=
      (hvalue j hj).symm.trans (heq.trans (hvalue k hk))
    exact congrArg Subtype.val (g.injective (Subtype.ext hsame))
  · intro j hj
    show (if h : j ∈ Icc 1 n then (g ⟨j, h⟩ : Nat) else 0) ∈ Icc 1 n
    rw [hvalue j hj]
    exact (g ⟨j, hj⟩).2

/-! ## Matchings of unequal sides -/

/-- Each of the first `rows` numbers has at most one partner under `cols`, and no two the same. -/
structure Matching (rows cols : Nat) (partner : Nat → Option Nat) : Prop where
  range : ∀ i, i < rows → ∀ j, partner i = some j → j < cols
  inj : ∀ i k, i < rows → k < rows → ∀ j, partner i = some j → partner k = some j → i = k

def ReadsOff (rows cols : Nat) (f : Nat → Nat) (partner : Nat → Option Nat) : Prop :=
  ∀ i, i < rows → ∀ j, partner i = some j ↔ j < cols ∧ f (j + 1) = i + 1

section

variable {K : Type} [Field K] [LinearOrder K] [IsStrictOrderedRing K]
variable {rows cols : Nat} {partner : Nat → Option Nat}

/-- What the matched pairs bring together. -/
def total (rows : Nat) (gain : Nat → Nat → K) (partner : Nat → Option Nat) : K :=
  ∑ i ∈ Finset.range rows, (partner i).elim 0 (gain i)

def matchedRows (rows : Nat) (partner : Nat → Option Nat) : Finset Nat :=
  (Finset.range rows).filter fun i => (partner i).isSome

/-- Gains between rows and columns counted from one, none beyond the sides. -/
def padded (rows cols : Nat) (gain : Nat → Nat → K) (r j : Nat) : K :=
  if 1 ≤ r ∧ r ≤ rows ∧ 1 ≤ j ∧ j ≤ cols then gain (r - 1) (j - 1) else 0

section

omit [LinearOrder K] [IsStrictOrderedRing K]

/-- The total is a sum over the columns. -/
lemma ReadsOff.total_eq {f : Nat → Nat} (h : ReadsOff rows cols f partner)
    (gain : Nat → Nat → K) :
    total rows gain partner = ∑ j ∈ range cols, padded rows cols gain (f (j + 1)) (j + 1) := by
  have hrow : ∀ i ∈ range rows, (partner i).elim 0 (gain i) =
      ∑ j ∈ range cols, if f (j + 1) = i + 1 then gain i j else 0 := by
    intro i hi
    rw [mem_range] at hi
    cases hpartner : partner i with
    | none =>
      symm
      apply sum_eq_zero
      intro j hj
      rw [if_neg]
      intro heq
      have hsome := (h i hi j).mpr ⟨mem_range.mp hj, heq⟩
      rw [hpartner] at hsome
      cases hsome
    | some k =>
      obtain ⟨hk, hfk⟩ := (h i hi k).mp hpartner
      symm
      show _ = gain i k
      rw [sum_eq_single k, if_pos hfk]
      · intro j hj hjk
        rw [if_neg]
        intro heq
        have hsome := (h i hi j).mpr ⟨mem_range.mp hj, heq⟩
        rw [hpartner, some.injEq] at hsome
        exact hjk hsome.symm
      · intro hk'
        exact absurd (mem_range.mpr hk) hk'
  have hcolumn : ∀ j ∈ range cols,
      (∑ i ∈ range rows, if f (j + 1) = i + 1 then gain i j else 0) =
        padded rows cols gain (f (j + 1)) (j + 1) := by
    intro j hj
    rw [mem_range] at hj
    unfold padded
    by_cases hin : 1 ≤ f (j + 1) ∧ f (j + 1) ≤ rows
    · rw [if_pos ⟨hin.1, hin.2, by omega, by omega⟩, sum_eq_single (f (j + 1) - 1), if_pos]
      · rw [Nat.add_sub_cancel]
      · omega
      · intro i _ hi
        rw [if_neg]
        omega
      · intro hnot
        rw [mem_range] at hnot
        omega
    · rw [if_neg fun hall => hin ⟨hall.1, hall.2.1⟩]
      apply sum_eq_zero
      intro i hi
      rw [mem_range] at hi
      rw [if_neg]
      omega
  calc total rows gain partner
      = ∑ i ∈ range rows, ∑ j ∈ range cols,
          (if f (j + 1) = i + 1 then gain i j else 0) := sum_congr rfl hrow
    _ = ∑ j ∈ range cols, ∑ i ∈ range rows,
          (if f (j + 1) = i + 1 then gain i j else 0) := sum_comm
    _ = ∑ j ∈ range cols, padded rows cols gain (f (j + 1)) (j + 1) :=
        sum_congr rfl hcolumn

lemma sum_padded {n : Nat} (hcols : cols ≤ n) (gain : Nat → Nat → K) (f : Nat → Nat) :
    ∑ j ∈ Icc 1 n, padded rows cols gain (f j) j =
      ∑ j ∈ range cols, padded rows cols gain (f (j + 1)) (j + 1) := by
  rw [sum_bij_ne_zero (fun j _ _ => j - 1)]
  · intro j hj hne
    rw [mem_Icc] at hj
    rw [mem_range]
    unfold padded at hne
    by_contra hout
    rw [if_neg (by omega)] at hne
    exact hne rfl
  · intro j hj _ k hk _ heq
    rw [mem_Icc] at hj hk
    omega
  · intro j hj hne
    rw [mem_range] at hj
    exact ⟨j + 1, mem_Icc.mpr ⟨by omega, by omega⟩, hne, by omega⟩
  · intro j hj _
    rw [mem_Icc] at hj
    rw [Nat.sub_add_cancel hj.1]

end

lemma Matching.exists_readsOff (h : Matching rows cols partner) :
    ∃ f, ReadsOff rows cols f partner ∧ (∀ j, 1 ≤ j → f j ≤ rows ∧ (f j ≠ 0 → j ≤ cols)) ∧
      ∀ j k, 1 ≤ j → 1 ≤ k → f j ≠ 0 → f j = f k → j = k := by
  classical
  have hchoose : ∀ j, ∃ r, (r ≠ 0 → r ≤ rows ∧ partner (r - 1) = some (j - 1)) ∧
      (r = 0 → ∀ i, i < rows → partner i ≠ some (j - 1)) := by
    intro j
    by_cases hex : ∃ i, i < rows ∧ partner i = some (j - 1)
    · obtain ⟨i, hi, hpartner⟩ := hex
      refine ⟨i + 1, fun _ => ⟨hi, hpartner⟩, fun hzero => ?_⟩
      omega
    · refine ⟨0, fun hne => absurd rfl hne, fun _ i hi hpartner => hex ⟨i, hi, hpartner⟩⟩
  choose f hf hnone using hchoose
  refine ⟨f, ?_, ?_, ?_⟩
  · intro i hi j
    constructor
    · intro hpartner
      have hne : f (j + 1) ≠ 0 := fun hzero => hnone (j + 1) hzero i hi hpartner
      obtain ⟨hle, hfj⟩ := hf (j + 1) hne
      have hsame := h.inj i (f (j + 1) - 1) hi (by omega) j hpartner hfj
      exact ⟨h.range i hi j hpartner, by omega⟩
    · intro hj
      have hfj := (hf (j + 1) (by omega)).2
      rw [hj.2] at hfj
      exact hfj
  · intro j hj
    by_cases hzero : f j = 0
    · rw [hzero]
      exact ⟨Nat.zero_le rows, fun hne => absurd rfl hne⟩
    · obtain ⟨hle, hfj⟩ := hf j hzero
      have hrange := h.range (f j - 1) (by omega) _ hfj
      exact ⟨hle, fun _ => by omega⟩
  · intro j k hj hk hne heq
    obtain ⟨-, hfj⟩ := hf j hne
    obtain ⟨-, hfk⟩ := hf k (by omega)
    rw [heq] at hfj
    have hsame : some (j - 1) = some (k - 1) := hfj.symm.trans hfk
    rw [some.injEq] at hsame
    omega

/-- What a full seating with tight potentials leaves, no matching exceeds. -/
lemma Matching.total_le {other : Nat → Option Nat} {n : Nat} {gain : Nat → Nat → K}
    {u v : Nat → K} {p : Nat → Nat} (hother : Matching rows cols other) (hrows : rows ≤ n)
    (hcols : cols ≤ n) (hgain : ∀ i j, i < rows → j < cols → 0 ≤ gain i j)
    (hseating : Seating n n p 0) (hpartner : ReadsOff rows cols p partner)
    (hfeasible : ∀ r, 1 ≤ r → r ≤ n → ∀ j, 1 ≤ j → j ≤ n →
      u r + v j ≤ 1 - padded rows cols gain r j)
    (htight : ∀ j, 1 ≤ j → j ≤ n → u (p j) + v j = 1 - padded rows cols gain (p j) j) :
    total rows gain other ≤ total rows gain partner := by
  obtain ⟨f, hf, hrange, hinj⟩ := hother.exists_readsOff
  have hpadded : ∀ r j, 0 ≤ padded rows cols gain r j := by
    intro r j
    unfold padded
    by_cases hin : 1 ≤ r ∧ r ≤ rows ∧ 1 ≤ j ∧ j ≤ cols
    · rw [if_pos hin]
      exact hgain _ _ (by omega) (by omega)
    · rw [if_neg hin]
  -- the other matching is part of a full assignment, which is not better
  obtain ⟨g, hg, hginj, hgmaps⟩ :=
    exists_extension (n := n) (s := (Icc 1 n).filter fun j => f j ≠ 0) (f := f)
      (filter_subset _ _) (by
        intro j hj
        obtain ⟨hj, hne⟩ := mem_filter.mp hj
        rw [mem_Icc] at hj ⊢
        have hle := (hrange j hj.1).1
        omega) (by
        intro j hj k hk heq
        rw [mem_coe, mem_filter, mem_Icc] at hj hk
        exact hinj j k hj.1.1 hk.1.1 hj.2 heq)
  have hcheapest := sum_le_of_potentials hfeasible htight hseating.injOn_of_full
    hseating.mapsTo_of_full hginj hgmaps
  rw [sum_sub_distrib, sum_sub_distrib] at hcheapest
  rw [hf.total_eq, hpartner.total_eq, ← sum_padded hcols, ← sum_padded hcols]
  calc ∑ j ∈ Icc 1 n, padded rows cols gain (f j) j
      ≤ ∑ j ∈ Icc 1 n, padded rows cols gain (g j) j := by
        apply sum_le_sum
        intro j hj
        by_cases hzero : f j = 0
        · have hnothing : padded rows cols gain (f j) j = 0 := by
            unfold padded
            rw [if_neg (by omega)]
          rw [hnothing]
          exact hpadded _ _
        · rw [hg j (mem_filter.mpr ⟨hj, hzero⟩)]
    _ ≤ ∑ j ∈ Icc 1 n, padded rows cols gain (p j) j := by linarith

end

lemma ReadsOff.matching {rows cols : Nat} {p : Nat → Nat} {partner : Nat → Option Nat}
    (h : ReadsOff rows cols p partner) : Matching rows cols partner where
  range := by
    intro i hi j hj
    exact ((h i hi j).mp hj).1
  inj := by
    intro i k hi hk j hij hkj
    have hpi := ((h i hi j).mp hij).2
    have hpk := ((h k hk j).mp hkj).2
    omega

lemma ReadsOff.card_matched {rows cols : Nat} {p : Nat → Nat} {partner : Nat → Option Nat}
    (h : ReadsOff rows cols p partner) (hseating : Seating (max rows cols) (max rows cols) p 0) :
    (matchedRows rows partner).card = min rows cols := by
  by_cases hside : rows ≤ cols
  · -- every row has a column, and none of the columns is padding
    rw [Nat.max_eq_right hside] at hseating
    rw [Nat.min_eq_left hside]
    have hall : matchedRows rows partner = Finset.range rows := by
      apply Finset.filter_true_of_mem
      intro i hi
      rw [Finset.mem_range] at hi
      obtain ⟨j, hj, hj0, hjr⟩ := hseating.onto (i + 1) (by omega) (by omega)
      have hsome : partner i = some (j - 1) := by
        apply (h i hi (j - 1)).mpr
        rw [Nat.sub_add_cancel (by omega)]
        exact ⟨by omega, hjr⟩
      rw [hsome]
      rfl
    rw [hall, Finset.card_range]
  · -- every column has a row, and none of the rows is padding
    rw [Nat.max_eq_left (by omega)] at hseating
    rw [Nat.min_eq_right (by omega)]
    have himage : matchedRows rows partner = (Finset.range cols).image fun j => p (j + 1) - 1 := by
      apply Finset.ext
      intro i
      unfold matchedRows
      rw [Finset.mem_filter, Finset.mem_image, Finset.mem_range, isSome_iff_exists]
      constructor
      · intro hi
        obtain ⟨j, hj⟩ := hi.2
        obtain ⟨hjc, hpj⟩ := (h i hi.1 j).mp hj
        exact ⟨j, Finset.mem_range.mpr hjc, by omega⟩
      · intro hi
        obtain ⟨j, hj, hji⟩ := hi
        rw [Finset.mem_range] at hj
        have hpos := hseating.pos_of_full (j := j + 1) (by omega) (by omega)
        have hle := hseating.range (j + 1) (by omega) (by omega)
        refine ⟨by omega, j, (h i (by omega) j).mpr ⟨hj, by omega⟩⟩
    rw [himage, Finset.card_image_of_injOn, Finset.card_range]
    intro j hj k hk heq
    rw [Finset.mem_coe, Finset.mem_range] at hj hk
    have hposj := hseating.pos_of_full (j := j + 1) (by omega) (by omega)
    have hposk := hseating.pos_of_full (j := k + 1) (by omega) (by omega)
    have heq' : p (j + 1) - 1 = p (k + 1) - 1 := heq
    have hsame := hseating.inj (j + 1) (k + 1) (by omega) (by omega) (by omega) (by omega)
      (by omega) (by omega)
    omega

end Tidex.Lib
