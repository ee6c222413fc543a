/-
  Engine.ParametricProgram — the sign-consensus merge of operators.
-/
import Tidex.Foundation.Authority
import Mathlib.Algebra.Order.Archimedean.Real.Basic
import Mathlib.Data.List.GetD
import Mathlib.Data.Sign.Basic
import Mathlib.Tactic.NormNum

namespace Tidex.Engine

open Tidex.Lib List Function

/-! ## The merge -/

section

variable {K : Type} [Field K] [LinearOrder K] [FloorSemiring K]

/-- One at zero: neither a trimmed value nor a sum of them is a negative zero. -/
def signum (x : K) : K :=
  if x < 0 then -1 else 1

/-- The larger magnitude comes first, of equal ones the lower index. -/
def precedes (operator : List K) (a b : Nat) : Prop :=
  |operator.getD b 0| < |operator.getD a 0| ∨
    |operator.getD a 0| = |operator.getD b 0| ∧ a < b

instance (operator : List K) (a b : Nat) : Decidable (precedes operator a b) :=
  inferInstanceAs (Decidable (_ ∨ _))

def magnitudeOrder (dim : Nat) (operator : List K) : List Nat :=
  (range dim).mergeSort fun a b => !decide (precedes operator b a)

def keptCount (dim : Nat) (density : K) : Nat :=
  min ⌈(dim : K) * density⌉₊ dim

def trim (dim : Nat) (density : K) (operator : List K) : List K :=
  let kept := (magnitudeOrder dim operator).take (keptCount dim density)
  (range dim).map fun index =>
    let value := operator.getD index 0
    if index ∈ kept ∧ value ≠ 0 then value else 0

def mergeCoordinate (values : List K) : K :=
  let elected := signum values.sum
  if elected = 0 then 0
  else
    let agreeing := values.filter fun value => value ≠ 0 ∧ signum value = elected
    if agreeing.isEmpty then 0 else agreeing.sum / agreeing.length

def tiesMerge (operators : List (List K)) (density : K) : BrainResult (List K) := do
  let dim := (operators.headD []).length
  failIf (operators = [] ∨ dim = 0 ∨ ¬(0 ≤ density ∧ density ≤ 1)
      ∨ ∃ row ∈ operators, row.length ≠ dim)
    (invalid "parametric_program_ties_input")
  let trimmed := operators.map (trim dim density)
  return (range dim).map fun coordinate =>
    mergeCoordinate (trimmed.map fun row => row.getD coordinate 0)

/-! ## What the merge is for -/

/-- The value an operator contributes at a coordinate: its own if fewer than
    `ceil (dim * density)` coordinates come before it. -/
def trimmedValue (dim : Nat) (density : K) (coordinate : Nat) (operator : List K) : K :=
  if (range dim).countP (fun other => precedes operator other coordinate) < ⌈(dim : K) * density⌉₊
  then operator.getD coordinate 0 else 0

/-- The mean of the values whose sign is the sign of the sum. -/
def consensus (values : List K) : K :=
  let agreeing := values.filter fun value => SignType.sign value = SignType.sign values.sum
  if values.sum = 0 then 0 else agreeing.sum / agreeing.length

def opposite (operators : List (List K)) : List (List K) :=
  operators.map fun row => row.map (- ·)

/-- The order of the operators does not matter, opposite operators have opposite merges,
    and every coordinate is the consensus of the trimmed values. -/
structure SignConsensus (dim : Nat) (operators : List (List K)) (density : K) : Prop where
  order_free : ∀ other : List (List K), other.Perm operators →
    tiesMerge other density = tiesMerge operators density
  odd : tiesMerge (opposite operators) density =
    (tiesMerge operators density).map fun merged => merged.map (- ·)
  consensus_eq : ∃ merged, tiesMerge operators density = .ok merged ∧ merged.length = dim ∧
    ∀ c < dim, merged.getD c 0 = consensus (operators.map (trimmedValue dim density c))

end

/-! ## Trimming -/

/-- In a list sorted by a strict order, the first `k` entries are those with fewer than `k`
    entries before them. -/
lemma mem_take {α : Type} {r : α → α → Prop} [DecidableRel r] {l : List α}
    (hl : l.Pairwise r) (hasymm : ∀ a b, r a b → ¬r b a) {c : α} (hc : c ∈ l) (k : Nat) :
    c ∈ l.take k ↔ l.countP (fun x => r x c) < k := by
  induction l generalizing k with
  | nil => cases hc
  | cons x l ih =>
    obtain ⟨hx, hl⟩ := pairwise_cons.mp hl
    cases k with
    | zero => simp
    | succ k =>
      rw [take_succ_cons, mem_cons, countP_cons]
      rcases mem_cons.mp hc with rfl | hcl
      · have hnone : l.countP (fun y => r y c) = 0 := by
          rw [countP_eq_zero]
          intro y hy
          simpa using hasymm c y (hx y hy)
        have hself : ¬r c c := fun h => hasymm c c h h
        simp [hnone, hself]
      · have hne : c ≠ x := by
          rintro rfl
          exact hasymm c c (hx c hcl) (hx c hcl)
        rw [ih hl hcl]
        simp [hne, hx c hcl]

section

variable {K : Type} [Field K] [LinearOrder K]

lemma precedes_asymm (operator : List K) (a b : Nat) (h : precedes operator a b) :
    ¬precedes operator b a := by
  rintro (hlt | ⟨heq, hlt⟩)
  · rcases h with hlt' | ⟨heq', -⟩
    · exact lt_asymm hlt hlt'
    · exact absurd heq' hlt.ne
  · rcases h with hlt' | ⟨-, hlt'⟩
    · exact absurd heq hlt'.ne
    · omega

lemma precedes_trichotomy (operator : List K) {a b : Nat} (hne : a ≠ b)
    (h : ¬precedes operator b a) : precedes operator a b := by
  unfold precedes at h ⊢
  rcases lt_trichotomy |operator.getD a 0| |operator.getD b 0| with hlt | heq | hlt
  · exact absurd (.inl hlt) h
  · refine .inr ⟨heq, ?_⟩
    have hba : ¬b < a := fun hba => h (.inr ⟨heq.symm, hba⟩)
    omega
  · exact .inl hlt

lemma not_precedes_trans (operator : List K) {a b c : Nat} (hab : ¬precedes operator b a)
    (hbc : ¬precedes operator c b) : ¬precedes operator c a := by
  simp only [precedes, not_or, not_and, not_lt] at hab hbc ⊢
  refine ⟨le_trans hbc.1 hab.1, ?_⟩
  intro hca
  have hb : |operator.getD b 0| = |operator.getD a 0| := le_antisymm hab.1 (hca ▸ hbc.1)
  exact le_trans (hab.2 hb) (hbc.2 (hca.trans hb.symm))

lemma magnitudeOrder_sorted (dim : Nat) (operator : List K) :
    (magnitudeOrder dim operator).Pairwise (precedes operator) := by
  have hsorted : (magnitudeOrder dim operator).Pairwise fun a b => !precedes operator b a := by
    refine pairwise_mergeSort ?_ ?_ _
    · intro a b c hab hbc
      simp only [Bool.not_eq_true', decide_eq_false_iff_not] at hab hbc ⊢
      exact not_precedes_trans operator hab hbc
    · intro a b
      simp only [Bool.or_eq_true, Bool.not_eq_true', decide_eq_false_iff_not]
      by_cases hba : precedes operator b a
      · exact .inr (precedes_asymm operator b a hba)
      · exact .inl hba
  have hnodup : (magnitudeOrder dim operator).Nodup :=
    (mergeSort_perm _ _).nodup_iff.mpr nodup_range
  refine (hsorted.and hnodup).imp ?_
  intro a b hab
  exact precedes_trichotomy operator hab.2 (by simpa using hab.1)

variable [FloorSemiring K] {dim : Nat} {density : K}

lemma trimmedValue_neg (c : Nat) (operator : List K) :
    trimmedValue dim density c (operator.map (- ·)) = -trimmedValue dim density c operator := by
  have hget : ∀ i, (operator.map (- ·)).getD i 0 = -operator.getD i 0 := by
    intro i
    have hmap := getD_map (l := operator) (d := (0 : K)) (n := i) (- ·)
    rwa [neg_zero] at hmap
  have hprecedes : ∀ a b, precedes (operator.map (- ·)) a b ↔ precedes operator a b := by
    intro a b
    simp only [precedes, hget, abs_neg]
  simp only [trimmedValue, hprecedes, hget]
  split
  · rfl
  · rw [neg_zero]

variable [IsStrictOrderedRing K]

lemma trim_getD (hdensity : density ≤ 1) (operator : List K) {c : Nat} (hc : c < dim) :
    (trim dim density operator).getD c 0 = trimmedValue dim density c operator := by
  have hceil : ⌈(dim : K) * density⌉₊ ≤ dim :=
    Nat.ceil_le.mpr (mul_le_of_le_one_right dim.cast_nonneg hdensity)
  have hperm : (magnitudeOrder dim operator).Perm (range dim) := mergeSort_perm _ _
  have hkept := mem_take (magnitudeOrder_sorted dim operator) (precedes_asymm operator)
    (hperm.mem_iff.mpr (mem_range.mpr hc)) (keptCount dim density)
  rw [hperm.countP_eq, keptCount, min_eq_left hceil] at hkept
  have hget : (trim dim density operator).getD c 0 =
      if c ∈ (magnitudeOrder dim operator).take ⌈(dim : K) * density⌉₊ ∧ operator.getD c 0 ≠ 0
      then operator.getD c 0 else 0 := by
    simp [trim, keptCount, min_eq_left hceil, getD_eq_getElem?_getD, hc]
  simp only [hget, hkept, trimmedValue]
  by_cases hzero : operator.getD c 0 = 0
  · simp only [hzero, ne_eq, not_true_eq_false, and_false, ite_self]
  · simp only [hzero, ne_eq, not_false_eq_true, and_true]

end

/-! ## Merging one coordinate -/

section

variable {K : Type} [Field K]

lemma sum_map_neg (values : List K) : (values.map (- ·)).sum = -values.sum :=
  (List.sum_neg values).symm

variable [LinearOrder K]

lemma mergeCoordinate_perm {values other : List K} (h : values.Perm other) :
    mergeCoordinate values = mergeCoordinate other := by
  unfold mergeCoordinate
  simp only [h.sum_eq, isEmpty_iff_length_eq_zero, (h.filter _).length_eq, (h.filter _).sum_eq]

variable [IsStrictOrderedRing K] {values : List K}

lemma signum_ne_zero (x : K) : signum x ≠ 0 := by
  unfold signum
  split <;> simp

lemma agrees_iff {s : K} (hs : s ≠ 0) (v : K) :
    (v ≠ 0 ∧ signum v = signum s) ↔ SignType.sign v = SignType.sign s := by
  have htwo : (1 : K) ≠ -1 := (neg_lt_self zero_lt_one).ne'
  rcases lt_or_gt_of_ne hs with hs | hs <;> rcases lt_trichotomy v 0 with hv | rfl | hv
  · simp [signum, hs, hv, hv.ne]
  · simp [hs]
  · simp [signum, hs, hv, hv.ne', hv.le.not_gt, htwo]
  · simp [signum, hs, hv, hv.ne, hs.le.not_gt, htwo.symm]
  · simp [hs]
  · simp [signum, hs, hv, hv.ne', hv.le.not_gt, hs.le.not_gt]

lemma mergeCoordinate_eq (h : values.sum ≠ 0) : mergeCoordinate values = consensus values := by
  unfold mergeCoordinate consensus
  simp only [agrees_iff h, signum_ne_zero, if_false, if_neg h]
  split
  · next hempty => simp [isEmpty_iff.mp hempty]
  · rfl

/-- A sum of zero elects the positive values. -/
lemma mergeCoordinate_zero (h : values.sum = 0) :
    mergeCoordinate values = 0 ↔ ∀ v ∈ values, v = 0 := by
  have hagrees : ∀ v : K, (v ≠ 0 ∧ signum v = signum values.sum) ↔ 0 < v := by
    intro v
    have htwo : (-1 : K) ≠ 1 := (neg_lt_self zero_lt_one).ne
    rw [h]
    rcases lt_trichotomy v 0 with hv | rfl | hv
    · simp [signum, hv, hv.le, htwo]
    · simp
    · simp [signum, hv, hv.ne', hv.le]
  simp only [mergeCoordinate, hagrees, signum_ne_zero, if_false]
  constructor
  · intro hmerged
    by_contra hsome
    simp only [not_forall] at hsome
    obtain ⟨v, hv, hne : v ≠ 0⟩ := hsome
    have hpositive : values.filter (fun value => 0 < value) ≠ [] := by
      intro hnone
      have hle : ∀ x ∈ values, x ≤ 0 := by
        intro x hx
        simpa using filter_eq_nil_iff.mp hnone x hx
      have hlt : (values.map id).sum < (values.map fun _ => (0 : K)).sum :=
        sum_lt_sum _ _ hle ⟨v, hv, lt_of_le_of_ne (hle v hv) hne⟩
      simp [h] at hlt
    have hsum : 0 < (values.filter fun value => 0 < value).sum :=
      sum_pos _ (fun x hx => by simpa using (mem_filter.mp hx).2) hpositive
    rw [if_neg (by simpa using hpositive), div_eq_zero_iff] at hmerged
    rcases hmerged with hmerged | hmerged
    · exact hsum.ne' hmerged
    · exact hpositive (length_eq_zero_iff.mp (Nat.cast_eq_zero.mp hmerged))
  · intro hall
    have hnone : values.filter (fun value => 0 < value) = [] := by
      rw [filter_eq_nil_iff]
      intro v hv
      simp [hall v hv]
    rw [hnone]
    rfl

lemma mergeCoordinate_consensus (h : values.sum = 0 → ∀ v ∈ values, v = 0) :
    mergeCoordinate values = consensus values := by
  by_cases hsum : values.sum = 0
  · rw [consensus, if_pos hsum]
    exact (mergeCoordinate_zero hsum).mpr (h hsum)
  · exact mergeCoordinate_eq hsum

lemma consensus_neg (values : List K) : consensus (values.map (- ·)) = -consensus values := by
  unfold consensus
  simp only [sum_map_neg, neg_eq_zero]
  split
  · exact neg_zero.symm
  · rw [filter_map, ← neg_div]
    simp [comp_def, sum_map_neg, Left.sign_neg]

end

/-! ## The merge as a whole -/

section

variable {K : Type} [Field K] [LinearOrder K] [FloorSemiring K] [IsStrictOrderedRing K]
  {operators : List (List K)} {dim : Nat} {density : K}

lemma tiesMerge_eq (hne : operators ≠ []) (hdim : 0 < dim)
    (hlength : ∀ row ∈ operators, row.length = dim) (hzero : 0 ≤ density) (hone : density ≤ 1) :
    tiesMerge operators density =
      .ok ((range dim).map fun c => mergeCoordinate (operators.map (trimmedValue dim density c))) := by
  have hhead : (operators.headD []).length = dim := by
    cases operators with
    | nil => exact absurd rfl hne
    | cons row rest => exact hlength row mem_cons_self
  unfold tiesMerge
  simp only [hhead]
  rw [failIf, if_neg, ok_bind]
  · refine congrArg Except.ok (map_congr_left ?_)
    intro c hc
    rw [map_map]
    refine congrArg mergeCoordinate (map_congr_left ?_)
    intro row _
    exact trim_getD hone row (mem_range.mp hc)
  · rintro (h | h | h | ⟨row, hrow, h⟩)
    · exact hne h
    · omega
    · exact h ⟨hzero, hone⟩
    · exact h (hlength row hrow)

end

end Tidex.Engine
