/-
  Lib.Pairing — assignments as lists of pairs.
-/
import Mathlib.Algebra.BigOperators.Fin
import Tidex.Lib.Assignment

namespace Tidex.Lib

open List Option

variable {α K : Type} [Field K] [LinearOrder K] [IsStrictOrderedRing K]

/-- The elements of a list, each with a row or none. -/
structure Pairing (rows : Nat) (xs : List α) (pairs : List (α × Option Nat)) : Prop where
  elements : (pairs.map Prod.fst).Perm xs
  range : ∀ pair ∈ pairs, ∀ i, pair.2 = some i → i < rows
  distinct : (pairs.filterMap Prod.snd).Nodup

def weight (gain : Nat → α → K) (pairs : List (α × Option Nat)) : K :=
  (pairs.map fun pair => pair.2.elim 0 fun i => gain i pair.1).sum

/-- No other pairing brings more. -/
structure BestPairing (rows : Nat) (gain : Nat → α → K) (xs : List α)
    (pairs : List (α × Option Nat)) : Prop extends Pairing rows xs pairs where
  best : ∀ other, Pairing rows xs other → weight gain other ≤ weight gain pairs

variable {pairs others : List (α × Option Nat)}

omit [LinearOrder K] [IsStrictOrderedRing K] in
lemma weight_perm (gain : Nat → α → K) (h : pairs.Perm others) :
    weight gain pairs = weight gain others :=
  (h.map _).sum_eq

variable {rows : Nat} {xs : List α}

lemma Pairing.perm (h : Pairing rows xs pairs) (hperm : pairs.Perm others) :
    Pairing rows xs others := by
  refine ⟨(hperm.map _).symm.trans h.elements, ?_, ?_⟩
  · intro pair hpair
    exact h.range pair (hperm.mem_iff.mpr hpair)
  · exact (hperm.filterMap _).nodup_iff.mp h.distinct

variable {pairs : List (α × Option Nat)}

lemma Pairing.reorder {xs ys : List α} (h : Pairing rows xs pairs) (hperm : xs.Perm ys) :
    Pairing rows ys pairs :=
  ⟨h.elements.trans hperm, h.range, h.distinct⟩

section

omit [IsStrictOrderedRing K]

lemma BestPairing.reorder {gain : Nat → α → K} {xs ys : List α}
    (h : BestPairing rows gain xs pairs) (hperm : xs.Perm ys) : BestPairing rows gain ys pairs := by
  refine ⟨h.toPairing.reorder hperm, ?_⟩
  intro other hother
  exact h.best other (hother.reorder hperm.symm)

lemma BestPairing.perm {gain : Nat → α → K} (h : BestPairing rows gain xs pairs)
    (hperm : pairs.Perm others) : BestPairing rows gain xs others := by
  refine ⟨h.toPairing.perm hperm, ?_⟩
  intro other hother
  rw [← weight_perm gain hperm]
  exact h.best other hother

end

def rowOf (rows : Nat) (partner : Nat → Option Nat) (j : Nat) : Option Nat :=
  (List.range rows).find? fun i => decide (partner i = some j)

variable {partner : Nat → Option Nat}

lemma rowOf_eq_some {rows cols : Nat} (h : Matching rows cols partner) {i j : Nat} :
    rowOf rows partner j = some i ↔ i < rows ∧ partner i = some j := by
  unfold rowOf
  constructor
  · intro hfound
    have hmem := mem_of_find?_eq_some hfound
    have hpartner := find?_some hfound
    rw [decide_eq_true_eq] at hpartner
    exact ⟨mem_range.mp hmem, hpartner⟩
  · intro h'
    obtain ⟨hi, hpartner⟩ := h'
    cases hfound : (range rows).find? fun i => decide (partner i = some j) with
    | none =>
      have hnot := find?_eq_none.mp hfound i (mem_range.mpr hi)
      simp [hpartner] at hnot
    | some k =>
      have hk := mem_range.mp (mem_of_find?_eq_some hfound)
      have hkpartner := find?_some hfound
      rw [decide_eq_true_eq] at hkpartner
      rw [h.inj k i hk hi j hkpartner hpartner]

section

omit [LinearOrder K] [IsStrictOrderedRing K]

lemma total_of_rows {rows cols : Nat} {partner back : Nat → Option Nat}
    (hback : ∀ i, i < rows → ∀ j, partner i = some j ↔ j < cols ∧ back j = some i)
    (hrange : ∀ j, j < cols → ∀ i, back j = some i → i < rows) (gain : Nat → Nat → K) :
    total rows gain partner = ∑ j ∈ Finset.range cols, (back j).elim 0 fun i => gain i j := by
  have hreads : ReadsOff rows cols (fun k => (back (k - 1)).elim 0 (· + 1)) partner := by
    intro i hi j
    rw [hback i hi j]
    show (j < cols ∧ back j = some i) ↔ j < cols ∧ (back j).elim 0 (· + 1) = i + 1
    constructor
    · intro h
      rw [h.2]
      exact ⟨h.1, rfl⟩
    · intro h
      obtain ⟨hj, heq⟩ := h
      refine ⟨hj, ?_⟩
      cases hsome : back j with
      | none =>
        rw [hsome] at heq
        cases heq
      | some k =>
        rw [hsome] at heq
        rw [Nat.succ.inj heq]
  rw [hreads.total_eq gain]
  apply Finset.sum_congr rfl
  intro j hj
  rw [Finset.mem_range] at hj
  unfold padded
  rw [Nat.add_sub_cancel]
  cases hsome : back j with
  | none =>
    rw [if_neg]
    · rfl
    · intro hall
      exact absurd hall.1 (by decide)
  | some i =>
    have hi := hrange j hj i hsome
    show (if 1 ≤ i + 1 ∧ i + 1 ≤ rows ∧ 1 ≤ j + 1 ∧ j + 1 ≤ cols then gain (i + 1 - 1) j else 0) =
      gain i j
    rw [if_pos ⟨by omega, by omega, by omega, by omega⟩, Nat.add_sub_cancel]

lemma weight_eq_sum (gain : Nat → α → K) (places : Nat → Nat → K) (back : Nat → Option Nat)
    (hback : ∀ j pair, pairs[j]? = some pair → pair.2 = back j)
    (hplaces : ∀ i j pair, pairs[j]? = some pair → places i j = gain i pair.1) : weight gain pairs =
      ∑ j ∈ Finset.range pairs.length, (back j).elim 0 fun i => places i j := by
  have hmap : pairs.map (fun pair => pair.2.elim 0 fun i => gain i pair.1) =
      (List.range pairs.length).map fun j => (back j).elim 0 fun i => places i j := by
    apply List.ext_getElem?
    intro j
    rw [List.getElem?_map, List.getElem?_map]
    cases hpair : pairs[j]? with
    | none =>
      have hj := List.getElem?_eq_none_iff.mp hpair
      rw [List.getElem?_eq_none_iff.mpr (by rw [List.length_range]; exact hj)]
      rfl
    | some pair =>
      have hj := (List.getElem?_eq_some_iff.mp hpair).1
      rw [List.getElem?_range hj, map_some, map_some, ← hback j pair hpair]
      congr 1
      cases pair.2 with
      | none => rfl
      | some i => exact (hplaces i j pair hpair).symm
  unfold weight
  rw [hmap]
  rfl

end

def pairsOf (rows : Nat) (partner : Nat → Option Nat) (xs : List α) : List (α × Option Nat) :=
  xs.zipIdx.map fun entry => (entry.1, rowOf rows partner entry.2)

lemma getElem_pairsOf (rows : Nat) (partner : Nat → Option Nat) (xs : List α) (j : Nat) :
    (pairsOf rows partner xs)[j]? = xs[j]?.map fun x => (x, rowOf rows partner j) := by
  unfold pairsOf
  rw [getElem?_map, getElem?_zipIdx, Option.map_map, Nat.zero_add]
  rfl

lemma map_fst_pairsOf (rows : Nat) (partner : Nat → Option Nat) (xs : List α) :
    (pairsOf rows partner xs).map Prod.fst = xs := by
  unfold pairsOf
  rw [List.map_map]
  exact zipIdx_map_fst 0 xs

lemma Pairing.of_matching (h : Matching rows xs.length partner) :
    Pairing rows xs (pairsOf rows partner xs) := by
  refine ⟨?_, ?_, ?_⟩
  · rw [map_fst_pairsOf]
  · intro pair hpair i hi
    unfold pairsOf at hpair
    obtain ⟨entry, -, hentry⟩ := mem_map.mp hpair
    rw [← hentry] at hi
    exact ((rowOf_eq_some h).mp hi).1
  · -- two places of one row would both be its partner
    unfold pairsOf
    rw [filterMap_map, Nodup, pairwise_filterMap, pairwise_iff_getElem]
    intro j k hj hk hlt i hi i' hi' heq
    rw [Function.comp_apply, getElem_zipIdx, Nat.zero_add] at hi hi'
    rw [← heq] at hi'
    have hleft := ((rowOf_eq_some h).mp hi).2
    have hright := ((rowOf_eq_some h).mp hi').2
    rw [hleft, some.injEq] at hright
    omega

variable {places : Nat → Nat → K}

omit [LinearOrder K] [IsStrictOrderedRing K] in
lemma weight_pairsOf (h : Matching rows xs.length partner) (gain : Nat → α → K)
    (hplaces : ∀ i j x, xs[j]? = some x → places i j = gain i x) :
    weight gain (pairsOf rows partner xs) = total rows places partner := by
  have hlength : (pairsOf rows partner xs).length = xs.length := by
    unfold pairsOf
    rw [length_map, length_zipIdx]
  have hpair : ∀ j pair, (pairsOf rows partner xs)[j]? = some pair →
      ∃ x, xs[j]? = some x ∧ pair = (x, rowOf rows partner j) := by
    intro j pair hpair
    rw [getElem_pairsOf] at hpair
    obtain ⟨x, hx, heq⟩ := map_eq_some_iff.mp hpair
    exact ⟨x, hx, heq.symm⟩
  have hrows : ∀ i, i < rows → ∀ j, partner i = some j ↔
      j < xs.length ∧ rowOf rows partner j = some i := by
    intro i hi j
    rw [rowOf_eq_some h]
    constructor
    · intro hpartner
      exact ⟨h.range i hi j hpartner, hi, hpartner⟩
    · intro hboth
      exact hboth.2.2
  rw [total_of_rows hrows (fun j _ i hi => ((rowOf_eq_some h).mp hi).1) places,
    weight_eq_sum gain places (rowOf rows partner), hlength]
  · intro j pair hj
    obtain ⟨x, -, heq⟩ := hpair j pair hj
    rw [heq]
  · intro i j pair hj
    obtain ⟨x, hx, heq⟩ := hpair j pair hj
    rw [heq]
    exact hplaces i j x hx

lemma Pairing.exists_ordered (h : Pairing rows xs pairs) :
    ∃ ordered, pairs.Perm ordered ∧ ordered.map Prod.fst = xs := by
  have hforall : Forall₂ (fun x (pair : α × Option Nat) => x = pair.1)
      (pairs.map Prod.fst) pairs := by
    rw [forall₂_map_left_iff, forall₂_same]
    intro pair _
    rfl
  obtain ⟨ordered, hordered, hperm⟩ := perm_comp_forall₂ h.elements.symm hforall
  refine ⟨ordered, hperm.symm, ?_⟩
  rw [← forall₂_eq_eq_eq, forall₂_map_left_iff]
  exact hordered.flip.imp fun _ _ heq => heq.symm

omit [LinearOrder K] [IsStrictOrderedRing K] in
lemma Pairing.exists_matching (h : Pairing rows xs pairs) (gain : Nat → α → K)
    (hplaces : ∀ i j x, xs[j]? = some x → places i j = gain i x) :
    ∃ partner, Matching rows xs.length partner ∧ total rows places partner = weight gain pairs := by
  obtain ⟨ordered, hperm, hfst⟩ := h.exists_ordered
  have hordered := h.perm hperm
  have hlength : ordered.length = xs.length := by
    rw [← hfst, List.length_map]
  -- the row of a place is the one of its pair
  have hrow : ∀ (j : Nat) (pair : α × Option Nat), ordered[j]? = some pair →
      pair.2 = ordered[j]?.bind Prod.snd := by
    intro j pair hj
    rw [hj]
    rfl
  have hrows : Matching xs.length rows fun j => ordered[j]?.bind Prod.snd := by
    refine ⟨?_, ?_⟩
    · intro j _ i hi
      obtain ⟨pair, hpair, hsnd⟩ := bind_eq_some_iff.mp hi
      exact hordered.range pair (List.mem_of_getElem? hpair) i hsnd
    · have hbefore : ∀ j k i : Nat, j < k → ordered[j]?.bind Prod.snd = some i →
          ordered[k]?.bind Prod.snd ≠ some i := by
        intro j k i hlt hj hk
        obtain ⟨left, hleft, hleftRow⟩ := bind_eq_some_iff.mp hj
        obtain ⟨right, hright, hrightRow⟩ := bind_eq_some_iff.mp hk
        have hdistinct := hordered.distinct
        rw [List.Nodup, List.pairwise_filterMap, List.pairwise_iff_getElem] at hdistinct
        obtain ⟨hjlt, hjget⟩ := List.getElem?_eq_some_iff.mp hleft
        obtain ⟨hklt, hkget⟩ := List.getElem?_eq_some_iff.mp hright
        exact hdistinct j k hjlt hklt hlt i (by rw [hjget]; exact hleftRow) i
          (by rw [hkget]; exact hrightRow) rfl
      intro j k _ _ i hj hk
      rcases Nat.lt_trichotomy j k with hlt | heq | hlt
      · exact absurd hk (hbefore j k i hlt hj)
      · exact heq
      · exact absurd hj (hbefore k j i hlt hk)
  have hpartner : ∀ i j : Nat, rowOf xs.length (fun j => ordered[j]?.bind Prod.snd) i = some j ↔
      j < xs.length ∧ ordered[j]?.bind Prod.snd = some i := by
    intro i j
    exact rowOf_eq_some hrows
  refine ⟨rowOf xs.length fun j => ordered[j]?.bind Prod.snd, ⟨?_, ?_⟩, ?_⟩
  · intro i _ j hj
    exact ((hpartner i j).mp hj).1
  · intro i k _ _ j hi hk
    have hleft := ((hpartner i j).mp hi).2
    rw [((hpartner k j).mp hk).2, some.injEq] at hleft
    exact hleft.symm
  · rw [total_of_rows (fun i _ j => hpartner i j) (fun j hj i hi => hrows.range j hj i hi) places,
      weight_perm gain hperm, weight_eq_sum gain places _ hrow, hlength]
    intro i j pair hj
    apply hplaces
    rw [← hfst, List.getElem?_map, hj]
    rfl

omit [IsStrictOrderedRing K] in
lemma BestPairing.of_matching {rows : Nat} {xs : List α} {partner : Nat → Option Nat}
    (h : Matching rows xs.length partner) (gain : Nat → α → K) {places : Nat → Nat → K}
    (hplaces : ∀ i j x, xs[j]? = some x → places i j = gain i x)
    (hbest : ∀ other, Matching rows xs.length other →
      total rows places other ≤ total rows places partner) :
    BestPairing rows gain xs (pairsOf rows partner xs) := by
  refine ⟨Pairing.of_matching h, ?_⟩
  intro other hother
  obtain ⟨found, hfound, htotal⟩ := hother.exists_matching gain hplaces
  rw [weight_pairsOf h gain hplaces, ← htotal]
  exact hbest found hfound

end Tidex.Lib
