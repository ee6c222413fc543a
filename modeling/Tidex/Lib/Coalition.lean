/-
  Lib.Coalition — games over coalitions.

  A list's sublists are picked out by the bits of a number, and a game shares its value among
  its players by the weights of the coalitions they join.
-/
import Mathlib.Algebra.BigOperators.Field
import Mathlib.Algebra.BigOperators.Group.Finset.Powerset
import Mathlib.Data.Nat.Choose.Sum
import Mathlib.Tactic.FieldSimp

namespace Tidex.Lib

open List Finset

variable {α : Type} [DecidableEq α]

/-! ## Masks -/

/-- The elements whose bit a mask has. -/
def maskSubset (xs : List α) (mask : Nat) : Finset α :=
  ((xs.zipIdx.filter fun p => mask.testBit p.2).map (·.1)).toFinset

lemma maskSubset_subset (xs : List α) (mask : Nat) : maskSubset xs mask ⊆ xs.toFinset := by
  intro x hx
  unfold maskSubset at hx
  rw [mem_toFinset, List.mem_map] at hx
  obtain ⟨p, hp, rfl⟩ := hx
  rw [mem_toFinset]
  exact fst_mem_of_mem_zipIdx (mem_filter.mp hp).1

lemma maskSubset_cons (x : α) (xs : List α) (mask : Nat) : maskSubset (x :: xs) mask =
      if mask.testBit 0 then insert x (maskSubset xs (mask / 2)) else maskSubset xs (mask / 2) := by
  have htail : ((xs.zipIdx 1).filter fun p => mask.testBit p.2).map (·.1) =
      (xs.zipIdx.filter fun p => (mask / 2).testBit p.2).map (·.1) := by
    rw [zipIdx_succ, filter_map, List.map_map]
    congr 1
    refine filter_congr ?_
    intro p _
    show mask.testBit (p.2 + 1) = (mask / 2).testBit p.2
    rw [Nat.testBit_succ]
  unfold maskSubset
  rw [zipIdx_cons, List.filter_cons]
  split
  · rw [List.map_cons, toFinset_cons, htail]
  · rw [htail]

lemma card_maskSubset_le (xs : List α) {mask k : Nat} (h : mask < 2 ^ k) :
    (maskSubset xs mask).card ≤ k := by
  induction xs generalizing mask k with
  | nil => simp [maskSubset]
  | cons x xs ih =>
    rw [maskSubset_cons]
    cases k with
    | zero =>
      have hzero : mask = 0 := by omega
      rw [hzero, if_neg (by simp)]
      exact ih (by omega)
    | succ k =>
      have htail := ih (show mask / 2 < 2 ^ k by omega)
      split
      · have hinsert := card_insert_le x (maskSubset xs (mask / 2))
        omega
      · omega

lemma sum_range_double {M : Type} [AddCommMonoid M] (f : Nat → M) (k : Nat) :
    ∑ i ∈ Finset.range (2 * k), f i =
      ∑ i ∈ Finset.range k, f (2 * i) + ∑ i ∈ Finset.range k, f (2 * i + 1) := by
  induction k with
  | zero => simp
  | succ k ih =>
    rw [Nat.mul_succ, Finset.sum_range_succ, Finset.sum_range_succ, ih, Finset.sum_range_succ,
      Finset.sum_range_succ]
    rw [add_assoc, add_add_add_comm]

/-- The masks of a list pick out each of its subsets once. -/
lemma sum_masks {M : Type} [AddCommMonoid M] {xs : List α} (hnodup : xs.Nodup)
    (f : Finset α → M) : ∑ mask ∈ range (2 ^ xs.length), f (maskSubset xs mask) =
      ∑ subset ∈ xs.toFinset.powerset, f subset := by
  induction xs generalizing f with
  | nil =>
    simp [maskSubset, one_nsmul]
  | cons x xs ih =>
    rw [nodup_cons] at hnodup
    have hnot : x ∉ xs.toFinset := by
      rw [mem_toFinset]
      exact hnodup.1
    have heven : ∀ k, maskSubset (x :: xs) (2 * k) = maskSubset xs k := by
      intro k
      rw [maskSubset_cons, if_neg (by simp), Nat.mul_div_cancel_left k (by omega)]
    have hodd : ∀ k, maskSubset (x :: xs) (2 * k + 1) = insert x (maskSubset xs k) := by
      intro k
      have hhalf : (2 * k + 1) / 2 = k := by omega
      rw [maskSubset_cons, if_pos (by simp), hhalf]
    rw [length_cons, Nat.pow_succ, Nat.mul_comm, sum_range_double, toFinset_cons,
      sum_powerset_insert hnot]
    simp only [heven, hodd]
    rw [ih hnodup.2 f, ih hnodup.2 fun subset => f (insert x subset)]

/-! ## Weights -/

/-- How much of `n` players' orders find a given coalition of `k` before a given player. -/
def joinWeight (n k : Nat) : ℚ := (k.factorial * (n - 1 - k).factorial : ℕ) / n.factorial

omit [DecidableEq α] in
/-- The weights of the coalitions that a player may join sum to one. -/
lemma sum_joinWeight (others : Finset α) :
    ∑ subset ∈ others.powerset, joinWeight (others.card + 1) subset.card = 1 := by
  rw [Finset.sum_powerset_apply_card fun k => joinWeight (others.card + 1) k]
  have hterm : ∀ k ∈ Finset.range (others.card + 1),
      others.card.choose k • joinWeight (others.card + 1) k = 1 / (others.card + 1 : ℚ) := by
    intro k hk
    have hle : k ≤ others.card := by
      rw [Finset.mem_range] at hk
      omega
    have hchoose := Nat.choose_mul_factorial_mul_factorial hle
    have hcard : (others.card + 1 : ℚ) ≠ 0 := by positivity
    unfold joinWeight
    rw [nsmul_eq_mul, Nat.add_sub_cancel, ← mul_div_assoc, ← Nat.cast_mul, ← Nat.mul_assoc,
      hchoose, Nat.factorial_succ, Nat.cast_mul, Nat.cast_add, Nat.cast_one]
    field_simp
  rw [Finset.sum_congr rfl hterm, Finset.sum_const, Finset.card_range, nsmul_eq_mul]
  rw [Nat.cast_add, Nat.cast_one]
  field_simp

/-! ## Shares -/

def share (players : Finset α) (value : Finset α → ℚ) (player : α) : ℚ :=
  ∑ subset ∈ (players.erase player).powerset,
    joinWeight players.card subset.card * (value (insert player subset) - value subset)

def countsFor (n : Nat) (subset : Finset α) (player : α) : ℚ :=
  if player ∈ subset then joinWeight n (subset.card - 1) else -joinWeight n subset.card

lemma share_eq {players : Finset α} {player : α} (hplayer : player ∈ players)
    (value : Finset α → ℚ) : share players value player =
      ∑ subset ∈ players.powerset, countsFor players.card subset player * value subset := by
  have hinsert := insert_erase hplayer
  have hsum := sum_powerset_insert (notMem_erase player players)
    fun subset => countsFor players.card subset player * value subset
  rw [hinsert] at hsum
  rw [hsum, ← sum_add_distrib]
  unfold share
  refine sum_congr rfl ?_
  intro subset hsubset
  have hnot : player ∉ subset := by
    intro hmem
    exact notMem_erase player players (mem_powerset.mp hsubset hmem)
  unfold countsFor
  rw [if_neg hnot, if_pos (mem_insert_self _ _), card_insert_of_notMem hnot, Nat.add_sub_cancel]
  ring

lemma sum_countsFor {players subset : Finset α} (hpos : players.Nonempty)
    (hsubset : subset ⊆ players) : ∑ player ∈ players, countsFor players.card subset player =
      (if subset = players then 1 else 0) - if subset = ∅ then 1 else 0 := by
  have hcard := card_pos.mpr hpos
  have hle := card_le_card hsubset
  have hmembers : ∑ player ∈ players, countsFor players.card subset player =
      subset.card * joinWeight players.card (subset.card - 1) -
        (players.card - subset.card : ℕ) * joinWeight players.card subset.card := by
    unfold countsFor
    rw [sum_ite, sum_const, sum_const, filter_mem_eq_inter, inter_eq_right.mpr hsubset,
      filter_notMem_eq_sdiff, card_sdiff_of_subset hsubset, nsmul_eq_mul, nsmul_eq_mul]
    ring
  rw [hmembers]
  obtain ⟨n, hn⟩ : ∃ n, players.card = n + 1 := ⟨players.card - 1, by omega⟩
  have hfactorial : ((n + 1).factorial : ℚ) = (n + 1) * n.factorial := by
    rw [Nat.factorial_succ, Nat.cast_mul, Nat.cast_add, Nat.cast_one]
  by_cases hempty : subset = ∅
  · have hne : subset ≠ players := by
      rw [hempty]
      exact hpos.ne_empty.symm
    rw [if_neg hne, if_pos hempty, hempty, hn]
    unfold joinWeight
    rw [card_empty, Nat.add_sub_cancel, Nat.sub_zero, Nat.sub_zero, Nat.factorial_zero,
      Nat.one_mul, hfactorial, Nat.cast_add, Nat.cast_one]
    field_simp
    simp
  · rw [if_neg hempty]
    have hsome := card_pos.mpr (nonempty_iff_ne_empty.mpr hempty)
    obtain ⟨k, hk⟩ : ∃ k, subset.card = k + 1 := ⟨subset.card - 1, by omega⟩
    have hfactorial' : ((k + 1).factorial : ℚ) = (k + 1) * k.factorial := by
      rw [Nat.factorial_succ, Nat.cast_mul, Nat.cast_add, Nat.cast_one]
    by_cases hall : subset = players
    · rw [if_pos hall, hall, hn]
      unfold joinWeight
      rw [Nat.add_sub_cancel, Nat.sub_self, Nat.sub_self, Nat.factorial_zero, Nat.mul_one,
        hfactorial, Nat.cast_add, Nat.cast_one]
      field_simp
      simp
    · rw [if_neg hall]
      have hlt : subset.card < players.card := by
        refine lt_of_le_of_ne hle ?_
        intro heq
        exact hall (eq_of_subset_of_card_le hsubset heq.ge)
      obtain ⟨rest, hrest⟩ : ∃ rest, n = k + 1 + rest := ⟨n - (k + 1), by omega⟩
      rw [hn, hk]
      unfold joinWeight
      have hfirst : n + 1 - 1 - (k + 1 - 1) = rest + 1 := by omega
      have hsecond : n + 1 - 1 - (k + 1) = rest := by omega
      have hcount : n + 1 - (k + 1) = rest + 1 := by omega
      have hrestFactorial : ((rest + 1).factorial : ℚ) = (rest + 1) * rest.factorial := by
        rw [Nat.factorial_succ, Nat.cast_mul, Nat.cast_add, Nat.cast_one]
      rw [hfirst, hsecond, hcount, Nat.add_sub_cancel, Nat.cast_mul, Nat.cast_mul, hfactorial',
        hrestFactorial]
      push_cast
      ring

/-- The shares sum to what all players together add. -/
lemma sum_shares {players : Finset α} (hpos : players.Nonempty) (value : Finset α → ℚ) :
    ∑ player ∈ players, share players value player = value players - value ∅ := by
  have hshares : ∑ player ∈ players, share players value player =
      ∑ player ∈ players, ∑ subset ∈ players.powerset,
        countsFor players.card subset player * value subset :=
    sum_congr rfl fun player hplayer => share_eq hplayer value
  rw [hshares, sum_comm]
  have hcounts : ∀ subset ∈ players.powerset,
      ∑ player ∈ players, countsFor players.card subset player * value subset =
        (if subset = players then value subset else 0) - if subset = ∅ then value subset else 0 := by
    intro subset hsubset
    rw [← sum_mul, sum_countsFor hpos (mem_powerset.mp hsubset), sub_mul]
    simp only [ite_mul, one_mul, zero_mul]
  rw [sum_congr rfl hcounts, sum_sub_distrib, sum_ite_eq',
    sum_ite_eq', if_pos (mem_powerset_self _), if_pos (empty_mem_powerset _)]

end Tidex.Lib
