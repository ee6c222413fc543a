/-
  Analysis.Contraction — what a contraction gives, over exact reals.
-/
import Tidex.Analysis.Posterior
import Tidex.Analysis.TrustRegion
import Tidex.Lib.QuadraticForm

namespace Tidex.Analysis

open Tidex.Lib List Function Option

/-! ## Costs over exact reals -/

section

variable {metric : DenseMatrix ℝ} {v : List ℝ} {n : Nat} {c : ℝ}

noncomputable def listForm (metric : DenseMatrix ℝ) (v : List ℝ) : ℝ :=
  quadraticForm (asMatrix v.length metric.rows) (asVector v.length v)

lemma listForm_eq (hv : v.length = n) :
    listForm metric v = quadraticForm (asMatrix n metric.rows) (asVector n v) := by
  subst hv
  rfl

lemma square_of_validate (h : validateQuadraticMetric metric = .ok ())
    (hrows : metric.rows.length = n) : metric.Square n := by
  unfold validateQuadraticMetric validateSymmetricPsd at h
  rw [bind_ok] at h
  obtain ⟨_, hshape, -⟩ := h
  rw [failIf_ok, not_or, not_ne_iff] at hshape
  exact ⟨hrows, hshape.1 ▸ hrows⟩

lemma quadraticCost_eq (hvalid : validateQuadraticMetric metric = .ok ())
    (hrows : metric.rows.length = v.length) (hne : v ≠ []) : quadraticCost metric v =
      if listForm metric v < -Scalar.sqrt (Scalar.epsilon : ℝ)
        then .error (.numerical "trust_region_negative_psd_cost")
        else .ok (max (listForm metric v) 0) := by
  obtain ⟨q, hq, hlength, hvector⟩ := DenseMatrix.matvec_exact (square_of_validate hvalid hrows) rfl
  have hshape : ¬(metric.rows.length ≠ v.length ∨ v.isEmpty = true ∨
      (v.any fun value => !Scalar.isFinite value) = true) := by
    simp [hrows, hne]
  unfold quadraticCost failIf
  rw [hvalid, ok_bind, if_neg hshape, ok_bind, hq, ok_bind, dot_asVector rfl hlength, ok_bind,
    hvector]
  simp only [exact_lt]
  show (if listForm metric v < _ then _ else _) >>= _ = _
  split
  · rfl
  · rfl

lemma quadraticCost_ok (h : quadraticCost metric v = .ok c) :
    validateQuadraticMetric metric = .ok () ∧ metric.rows.length = v.length ∧ v ≠ [] ∧
      -Scalar.sqrt (Scalar.epsilon : ℝ) ≤ listForm metric v ∧ c = max (listForm metric v) 0 := by
  have hchecks := h
  unfold quadraticCost at hchecks
  simp only [bind_ok, failIf_ok, not_or, not_not, ne_eq, List.isEmpty_iff] at hchecks
  obtain ⟨_, hvalid, _, hshape, -⟩ := hchecks
  rw [quadraticCost_eq hvalid hshape.1 hshape.2.1] at h
  by_cases hnegative : listForm metric v < -Scalar.sqrt (Scalar.epsilon : ℝ)
  · rw [if_pos hnegative] at h
    cases h
  · rw [if_neg hnegative] at h
    cases h
    exact ⟨hvalid, hshape.1, hshape.2.1, not_lt.mp hnegative, rfl⟩

end

/-! ## Lowering one magnitude -/

section

variable {metric : DenseMatrix ℝ} {magnitudes : List ℝ} {index : Nat} {decrement : ℝ}

@[simp] lemma length_contracted :
    (contracted magnitudes index decrement).length = magnitudes.length :=
  length_set

lemma asVector_contracted {n : Nat} (hlength : magnitudes.length = n) (hindex : index < n) :
    asVector n (contracted magnitudes index decrement) =
      update (asVector n magnitudes) ⟨index, hindex⟩
        (max (magnitudes.getD index 0 - decrement) 0) := by
  funext j
  unfold asVector contracted
  rw [getD_eq_getElem?_getD, getElem?_set]
  by_cases hj : index = j
  · have hfin : j = ⟨index, hindex⟩ := Fin.ext hj.symm
    rw [if_pos hj, if_pos (by omega), hfin, update_self]
    rfl
  · have hfin : j ≠ ⟨index, hindex⟩ := fun h => hj (congrArg Fin.val h).symm
    rw [if_neg hj, update_of_ne hfin, getD_eq_getElem?_getD]

/-- Magnitudes that are at most those before, and not negative. -/
def Shrunk (before after : List ℝ) : Prop := List.Forall₂ (fun x y => 0 ≤ y ∧ y ≤ x) before after

lemma Shrunk.refl (h : ∀ x ∈ magnitudes, 0 ≤ x) : Shrunk magnitudes magnitudes := by
  unfold Shrunk
  rw [forall₂_same]
  intro x hx
  exact ⟨h x hx, le_refl x⟩

lemma Shrunk.trans {a b c : List ℝ} (h : Shrunk a b) (h' : Shrunk b c) : Shrunk a c := by
  unfold Shrunk at *
  induction h generalizing c with
  | nil => exact h'
  | cons hxy _ ih =>
    cases h' with
    | cons hyz hrest => exact Forall₂.cons ⟨hyz.1, hyz.2.trans hxy.2⟩ (ih hrest)

lemma Shrunk.nonneg {a b : List ℝ} (h : Shrunk a b) : ∀ x ∈ b, 0 ≤ x := by
  unfold Shrunk at h
  induction h with
  | nil => simp
  | cons hxy _ ih =>
    rw [forall_mem_cons]
    exact ⟨hxy.1, ih⟩

lemma shrunk_contracted (h : ∀ x ∈ magnitudes, 0 ≤ x) (hdecrement : 0 ≤ decrement) :
    Shrunk magnitudes (contracted magnitudes index decrement) := by
  unfold Shrunk contracted
  rw [forall₂_iff_get]
  refine ⟨length_set.symm, ?_⟩
  intro i hi hi'
  have hx : 0 ≤ magnitudes[i] := h _ (getElem_mem hi)
  rw [get_eq_getElem, get_eq_getElem, getElem_set]
  by_cases hindex : index = i
  · subst hindex
    rw [if_pos rfl, getD_eq_getElem _ _ hi, exact_max]
    exact ⟨le_max_right _ _, max_le (by linarith) hx⟩
  · rw [if_neg hindex]
    exact ⟨hx, le_refl _⟩

end

/-! ## Bisection -/

section

variable {metric : DenseMatrix ℝ} {magnitudes : List ℝ} {index : Nat} {decrement budget : ℝ}

/-- Lowering a magnitude by so much brings the cost below a bound. -/
def Feasible (metric : DenseMatrix ℝ) (bound : ℝ) (magnitudes : List ℝ) (index : Nat)
    (decrement : ℝ) : Prop :=
  ∃ c, quadraticCost metric (contracted magnitudes index decrement) = .ok c ∧ c ≤ bound

/-- The upper end of the interval stays feasible. -/
structure Bracket (metric : DenseMatrix ℝ) (bound : ℝ) (magnitudes : List ℝ) (index : Nat)
    (bounds : ℝ × ℝ) : Prop where
  low_nonneg : 0 ≤ bounds.1
  high_nonneg : 0 ≤ bounds.2
  feasible : Feasible metric bound magnitudes index bounds.2

lemma Bracket.step {bound : ℝ} {bounds bounds' : ℝ × ℝ}
    (h : Bracket metric bound magnitudes index bounds) (hbudget : budget ≤ bound)
    (hstep : bisectStep metric budget magnitudes index bounds = .ok bounds') :
    Bracket metric bound magnitudes index bounds' := by
  unfold bisectStep at hstep
  rw [bind_ok] at hstep
  obtain ⟨c, hc, hnext⟩ := hstep
  rw [pure_ok] at hnext
  have hhalf : (Scalar.lit 5 1 : ℝ) = 1 / 2 := by
    rw [exact_lit]
    norm_num
  have hmiddle : 0 ≤ (bounds.1 + bounds.2) * (Scalar.lit 5 1 : ℝ) := by
    rw [hhalf]
    linarith [h.low_nonneg, h.high_nonneg]
  by_cases habove : Scalar.lt budget c = true
  · rw [if_pos habove] at hnext
    subst hnext
    exact ⟨hmiddle, h.high_nonneg, h.feasible⟩
  · rw [if_neg habove] at hnext
    subst hnext
    rw [exact_lt, not_lt] at habove
    exact ⟨h.low_nonneg, hmiddle, c, hc, habove.trans hbudget⟩

lemma bisect_feasible {bound high : ℝ} (hbudget : budget ≤ bound) (hdecrement : 0 ≤ decrement)
    (hfeasible : Feasible metric bound magnitudes index decrement)
    (h : bisect metric budget magnitudes index decrement = .ok high) :
    0 ≤ high ∧ Feasible metric bound magnitudes index high := by
  unfold bisect at h
  rw [bind_ok] at h
  obtain ⟨bounds, hbounds, hhigh⟩ := h
  rw [pure_ok] at hhigh
  subst hhigh
  have hbracket : Bracket metric bound magnitudes index bounds := by
    refine foldlM_ok_induction (Bracket metric bound magnitudes index)
      ⟨le_refl 0, hdecrement, hfeasible⟩ ?_ hbounds
    intro before _ after _ hbefore hstep
    exact hbefore.step hbudget hstep
  exact ⟨hbracket.high_nonneg, hbracket.feasible⟩

end

/-! ## Candidates -/

section

variable {metric : DenseMatrix ℝ} {magnitudes gradient priorities : List ℝ} {index : Nat}
  {tolerance : ℝ}

/-- A coordinate that can be lowered: its magnitude and its gradient are above a bound. -/
def Lowerable (magnitudes gradient : List ℝ) (tolerance : ℝ) (index : Nat) : Prop :=
  tolerance < magnitudes.getD index 0 ∧ tolerance < gradient.getD index 0

structure Searched (magnitudes gradient : List ℝ) (tolerance : ℝ) (seen : List Nat)
    (selected : Option (Nat × ℝ)) : Prop where
  found : ∀ best, selected = some best →
    best.1 ∈ seen ∧ Lowerable magnitudes gradient tolerance best.1
  missed : selected = none → ∀ index ∈ seen, ¬Lowerable magnitudes gradient tolerance index

lemma Searched.step {seen : List Nat} {selected selected' : Option (Nat × ℝ)}
    (h : Searched magnitudes gradient tolerance seen selected)
    (hstep : candidateStep magnitudes gradient priorities tolerance selected index =
      .ok selected') : Searched magnitudes gradient tolerance (seen ++ [index]) selected' := by
  have hkeep : ∀ best, selected = some best →
      best.1 ∈ seen ++ [index] ∧ Lowerable magnitudes gradient tolerance best.1 := by
    intro best hbest
    exact ⟨mem_append_left _ (h.found best hbest).1, (h.found best hbest).2⟩
  unfold candidateStep at hstep
  by_cases hskip : (Scalar.le (magnitudes.getD index 0) tolerance ||
      Scalar.le (gradient.getD index 0) tolerance) = true
  · rw [if_pos hskip, pure_ok] at hstep
    subst hstep
    rw [Bool.or_eq_true, exact_le, exact_le] at hskip
    refine ⟨hkeep, ?_⟩
    intro hnone i hi
    rw [mem_append, mem_singleton] at hi
    rcases hi with hi | rfl
    · exact h.missed hnone i hi
    · intro hlower
      rcases hskip with hle | hle
      · exact absurd hlower.1 (not_lt.mpr hle)
      · exact absurd hlower.2 (not_lt.mpr hle)
  · rw [if_neg hskip, bind_ok] at hstep
    obtain ⟨_, -, hnext⟩ := hstep
    rw [pure_ok] at hnext
    rw [Bool.or_eq_true, exact_le, exact_le, not_or, not_le, not_le] at hskip
    by_cases htake : (selected.all fun best => Scalar.lt (priorities.getD index 0 /
        (Scalar.lit 2 0 * gradient.getD index 0)) (best.2 - tolerance) ||
        (Scalar.le (Scalar.abs (priorities.getD index 0 /
          (Scalar.lit 2 0 * gradient.getD index 0) - best.2)) tolerance &&
            decide (index < best.1))) = true
    · rw [if_pos htake] at hnext
      subst hnext
      refine ⟨?_, fun hnone => by cases hnone⟩
      intro best hbest
      cases hbest
      exact ⟨mem_append_right _ (mem_singleton_self _), hskip⟩
    · rw [if_neg htake] at hnext
      subst hnext
      refine ⟨hkeep, ?_⟩
      intro hnone
      rw [hnone] at htake
      exact absurd rfl htake

/-- What a candidate is: a coordinate that can be lowered, where there is one. -/
lemma candidate_spec {selected : Option Nat} (hgradient : metric.matvec magnitudes = .ok gradient)
    (h : causalPriorityCandidate metric magnitudes priorities = .ok selected) :
    (∀ index, selected = some index → index < magnitudes.length ∧
      Lowerable magnitudes gradient (candidateTolerance magnitudes gradient) index) ∧
    (selected = none → ∀ index < magnitudes.length,
      ¬Lowerable magnitudes gradient (candidateTolerance magnitudes gradient) index) := by
  unfold causalPriorityCandidate at h
  rw [hgradient, ok_bind, bind_ok] at h
  obtain ⟨found, hfound, hselected⟩ := h
  rw [pure_ok] at hselected
  subst hselected
  have hsearched : Searched magnitudes gradient (candidateTolerance magnitudes gradient)
      (range magnitudes.length) found := by
    refine foldlM_ok_prefix_induction
      (Searched magnitudes gradient (candidateTolerance magnitudes gradient)) ?_ ?_ hfound
    · constructor
      · intro best hbest
        cases hbest
      · intro _ index hindex
        cases hindex
    · intro seen index before after hbefore hstep
      exact hbefore.step hstep
  constructor
  · intro index hindex
    rw [map_eq_some_iff] at hindex
    obtain ⟨best, hbest, rfl⟩ := hindex
    obtain ⟨hmem, hlower⟩ := hsearched.found best hbest
    exact ⟨mem_range.mp hmem, hlower⟩
  · intro hnone index hindex
    rw [map_eq_none_iff] at hnone
    exact hsearched.missed hnone index (mem_range.mpr hindex)

end

/-! ## One iteration -/

section

variable {metric : DenseMatrix ℝ} {budget tolerance : ℝ} {priorities before after : List ℝ}

/-- One iteration takes some magnitudes to others. -/
def Iterates (metric : DenseMatrix ℝ) (budget tolerance : ℝ) (priorities before after : List ℝ) :
    Prop :=
  contractOnce metric budget tolerance priorities before = .ok (.boundary after) ∨
    contractOnce metric budget tolerance priorities before = .ok (.minimum after)

/-- What an iteration does: it lowers the candidate, from a cost above the budget, and the cost
    does not rise by more than the tolerance; nor at all where the curvature is above it. -/
structure Lowers (metric : DenseMatrix ℝ) (budget tolerance : ℝ)
    (priorities before after : List ℝ) : Prop where
  lowered : ∃ index decrement,
    causalPriorityCandidate metric before priorities = .ok (some index) ∧ 0 ≤ decrement ∧
      after = contracted before index decrement
  costs : ∃ c c', quadraticCost metric before = .ok c ∧ quadraticCost metric after = .ok c' ∧
    budget + tolerance < c ∧ c' ≤ c + tolerance
  curved : ∀ {index c c'}, causalPriorityCandidate metric before priorities = .ok (some index) →
    quadraticCost metric before = .ok c → quadraticCost metric after = .ok c' →
    (∀ i j, metric.get i j = metric.get j i) → tolerance < metric.get index index → c' ≤ c

lemma decrementOf_flat {diagonal gradient magnitude : ℝ} (h : ¬tolerance < diagonal) :
    decrementOf tolerance diagonal gradient magnitude = magnitude := by
  unfold decrementOf
  rw [if_neg (by rwa [exact_lt])]

/-- Where the cost is curved, a magnitude goes down to the minimum and not below zero. -/
lemma decrementOf_curved {diagonal gradient magnitude : ℝ} (h : tolerance < diagonal)
    (hpos : 0 < decrementOf tolerance diagonal gradient magnitude) :
    decrementOf tolerance diagonal gradient magnitude ≤ gradient / diagonal ∧
      decrementOf tolerance diagonal gradient magnitude ≤ magnitude := by
  unfold decrementOf clamp at *
  rw [if_pos (by rwa [exact_lt])] at *
  simp only [exact_lt] at *
  by_cases hlow : gradient / diagonal < 0
  · rw [if_pos hlow] at hpos
    exact absurd hpos (lt_irrefl 0)
  · rw [if_neg hlow] at *
    by_cases hhigh : magnitude < gradient / diagonal
    · rw [if_pos hhigh]
      exact ⟨hhigh.le, le_refl _⟩
    · rw [if_neg hhigh]
      exact ⟨le_refl _, not_lt.mp hhigh⟩

/-- The coordinate that an iteration lowers from a cost above the budget, and how far. -/
structure Chosen (metric : DenseMatrix ℝ) (budget tolerance : ℝ) (priorities before : List ℝ)
    (index : Nat) (decrement c bestCost : ℝ) : Prop where
  cost : quadraticCost metric before = .ok c
  above : budget + tolerance < c
  candidate : causalPriorityCandidate metric before priorities = .ok (some index)
  decrement_eq : ∃ gradient, metric.matvec before = .ok gradient ∧
    decrement = decrementOf tolerance (metric.get index index) (gradient.getD index 0)
      (before.getD index 0)
  relief : tolerance < decrement
  best : quadraticCost metric (contracted before index decrement) = .ok bestCost
  convex : bestCost ≤ c + tolerance

lemma contractOnce_spec {r : Contraction ℝ}
    (h : contractOnce metric budget tolerance priorities before = .ok r) :
    (r = .reached ∧ ∃ c, quadraticCost metric before = .ok c ∧ c ≤ budget + tolerance) ∨
      ∃ index decrement c bestCost,
        Chosen metric budget tolerance priorities before index decrement c bestCost ∧
        ((bestCost ≤ budget + tolerance ∧ ∃ high,
            bisect metric budget before index decrement = .ok high ∧
              r = .boundary (contracted before index high)) ∨
          r = .minimum (contracted before index decrement)) := by
  unfold contractOnce at h
  rw [bind_ok] at h
  obtain ⟨c, hc, h⟩ := h
  by_cases hreached : Scalar.le c (budget + tolerance) = true
  · rw [if_pos hreached, pure_ok] at h
    rw [exact_le] at hreached
    exact .inl ⟨h.symm, c, hc, hreached⟩
  · rw [if_neg hreached] at h
    rw [exact_le, not_le] at hreached
    simp only [bind_ok, okOr_ok, failIf_ok, exact_le, exact_lt, not_le, not_lt] at h
    obtain ⟨candidate, hcandidate, index, rfl, gradient, hgradient, _, -, _, hdecrement, bestCost,
      hbest, _, hconvex, hresult⟩ := h
    have hchosen : Chosen metric budget tolerance priorities before index _ c bestCost :=
      ⟨hc, hreached, hcandidate, ⟨gradient, hgradient, rfl⟩, hdecrement, hbest, hconvex⟩
    refine .inr ⟨index, _, c, bestCost, hchosen, ?_⟩
    by_cases hwithin : bestCost ≤ budget + tolerance
    · rw [if_pos hwithin, bind_ok] at hresult
      obtain ⟨high, hhigh, hresult⟩ := hresult
      exact .inl ⟨hwithin, high, hhigh, (pure_ok.mp hresult).symm⟩
    · rw [if_neg hwithin] at hresult
      exact .inr (pure_ok.mp hresult).symm

variable {index : Nat} {decrement c bestCost : ℝ}

lemma Chosen.bestCost_le (h : Chosen metric budget tolerance priorities before index decrement c
      bestCost) (htolerance : 0 ≤ tolerance) (hsymm : ∀ i j, metric.get i j = metric.get j i)
    (hcurved : tolerance < metric.get index index) : bestCost ≤ c := by
  obtain ⟨hvalid, hrows, -, -, hcost⟩ := quadraticCost_ok h.cost
  obtain ⟨-, -, -, -, hbest⟩ := quadraticCost_ok h.best
  have hsquare := square_of_validate hvalid hrows
  obtain ⟨gradient, hgradient, hdecrement⟩ := h.decrement_eq
  have hindex : index < before.length := ((candidate_spec hgradient h.candidate).1 index rfl).1
  have hpos : 0 < decrement := lt_of_le_of_lt htolerance h.relief
  have hpos' := hpos
  rw [hdecrement] at hpos'
  obtain ⟨hle, hmagnitude⟩ := decrementOf_curved hcurved hpos'
  rw [← hdecrement] at hle hmagnitude
  obtain ⟨q, hq, -, hvector⟩ := DenseMatrix.matvec_exact hsquare rfl
  rw [hgradient] at hq
  cases hq
  have hhermitian : (asMatrix before.length metric.rows).IsHermitian := by
    ext i j
    rw [Matrix.conjTranspose_apply, star_trivial]
    exact hsymm j i
  have hvalue : ((asMatrix before.length metric.rows).mulVec (asVector before.length before))
      ⟨index, hindex⟩ = gradient.getD index 0 := by
    rw [← hvector]
    rfl
  have hcurvature : 0 < metric.get index index := lt_of_le_of_lt htolerance hcurved
  have hbound : decrement * metric.get index index ≤ gradient.getD index 0 :=
    (le_div_iff₀ hcurvature).mp hle
  have hmax : max (before.getD index 0 - decrement) 0 =
      asVector before.length before ⟨index, hindex⟩ - decrement :=
    max_eq_left (sub_nonneg.mpr hmagnitude)
  have hform : listForm metric (contracted before index decrement) ≤ listForm metric before := by
    rw [listForm_eq length_contracted, listForm_eq rfl, asVector_contracted rfl hindex, hmax]
    refine form_lower_le hhermitian hpos.le ?_ ?_
    · rw [hvalue]
      exact hbound
    · rw [hvalue]
      exact le_trans (mul_nonneg hpos.le hcurvature.le) hbound
  rw [hbest, hcost]
  exact max_le_max_right 0 hform

lemma Chosen.boundary_cost (h : Chosen metric budget tolerance priorities before index decrement c
      bestCost) (htolerance : 0 ≤ tolerance) (hwithin : bestCost ≤ budget + tolerance) {high : ℝ}
    (hhigh : bisect metric budget before index decrement = .ok high) :
    0 ≤ high ∧ Feasible metric (budget + tolerance) before index high :=
  bisect_feasible (by linarith) (htolerance.trans h.relief.le) ⟨bestCost, h.best, hwithin⟩ hhigh

/-- One iteration lowers one magnitude, and the cost does not rise by more than the
    tolerance. -/
lemma iterates_lowers (htolerance : 0 ≤ tolerance)
    (h : Iterates metric budget tolerance priorities before after) :
    Lowers metric budget tolerance priorities before after := by
  have hcases : ∃ index decrement c bestCost,
      Chosen metric budget tolerance priorities before index decrement c bestCost ∧
        ((bestCost ≤ budget + tolerance ∧ ∃ high,
            bisect metric budget before index decrement = .ok high ∧
              after = contracted before index high) ∨
          after = contracted before index decrement) := by
    rcases h with h | h
    · obtain ⟨hr, -⟩ | ⟨index, decrement, c, bestCost, hchosen, hr⟩ := contractOnce_spec h
      · cases hr
      · obtain ⟨hwithin, high, hhigh, hr⟩ | hr := hr
        · cases hr
          exact ⟨index, decrement, c, bestCost, hchosen, .inl ⟨hwithin, high, hhigh, rfl⟩⟩
        · cases hr
    · obtain ⟨hr, -⟩ | ⟨index, decrement, c, bestCost, hchosen, hr⟩ := contractOnce_spec h
      · cases hr
      · obtain ⟨-, high, -, hr⟩ | hr := hr
        · cases hr
        · cases hr
          exact ⟨index, decrement, c, bestCost, hchosen, .inr rfl⟩
  obtain ⟨index, decrement, c, bestCost, hchosen, hafter⟩ := hcases
  obtain ⟨hwithin, high, hhigh, rfl⟩ | rfl := hafter
  · -- at the boundary the cost is within the budget, where it was above
    obtain ⟨hpos, cost, hcost, hle⟩ := hchosen.boundary_cost htolerance hwithin hhigh
    have habove := hchosen.above
    refine ⟨⟨index, high, hchosen.candidate, hpos, rfl⟩,
      ⟨c, cost, hchosen.cost, hcost, habove, by linarith⟩, ?_⟩
    intro other a b _ ha hb _ _
    rw [hchosen.cost] at ha
    rw [hcost] at hb
    cases ha
    cases hb
    linarith
  · refine ⟨⟨index, decrement, hchosen.candidate, htolerance.trans hchosen.relief.le, rfl⟩,
      ⟨c, bestCost, hchosen.cost, hchosen.best, hchosen.above, hchosen.convex⟩, ?_⟩
    intro other a b hother ha hb hsymm hcurved
    rw [hchosen.candidate] at hother
    rw [hchosen.cost] at ha
    rw [hchosen.best] at hb
    cases hother
    cases ha
    cases hb
    exact hchosen.bestCost_le htolerance hsymm hcurved

end

/-! ## Runs -/

section

variable {metric : DenseMatrix ℝ} {budget tolerance : ℝ} {priorities start final : List ℝ}

/-- What the iterations are: a run of at most so many, from the start to the result. -/
lemma contractLoop_run {iterations : Nat}
    (h : contractLoop metric budget tolerance priorities iterations start = .ok final) :
    ∃ run : List (List ℝ), run.length ≤ iterations + 1 ∧ run.head? = some start ∧
      run.getLast? = some final ∧ run.IsChain (Iterates metric budget tolerance priorities) := by
  induction iterations generalizing start with
  | zero =>
    unfold contractLoop at h
    rw [pure_ok] at h
    subst h
    exact ⟨[start], by simp, rfl, rfl, isChain_singleton _⟩
  | succ iterations ih =>
    unfold contractLoop at h
    rw [bind_ok] at h
    obtain ⟨r, hr, h⟩ := h
    cases r with
    | reached =>
      rw [pure_ok] at h
      subst h
      exact ⟨[start], by simp, rfl, rfl, isChain_singleton _⟩
    | boundary lowered =>
      rw [pure_ok] at h
      subst h
      refine ⟨[start, lowered], by simp, rfl, rfl, ?_⟩
      rw [isChain_pair]
      exact .inl hr
    | minimum best =>
      obtain ⟨run, hlength, hhead, hlast, hchain⟩ := ih h
      cases run with
      | nil => cases hhead
      | cons first rest =>
        rw [head?_cons, some.injEq] at hhead
        subst hhead
        refine ⟨start :: first :: rest, ?_, rfl, ?_, ?_⟩
        · rw [length_cons]
          omega
        · rw [getLast?_cons_cons]
          exact hlast
        · rw [isChain_cons_cons]
          exact ⟨.inr hr, hchain⟩

lemma shrunk_run (htolerance : 0 ≤ tolerance) {run : List (List ℝ)}
    (hchain : run.IsChain (Iterates metric budget tolerance priorities))
    (hhead : run.head? = some start) (hlast : run.getLast? = some final)
    (hstart : ∀ x ∈ start, 0 ≤ x) : Shrunk start final := by
  induction run generalizing start with
  | nil => cases hhead
  | cons first rest ih =>
    rw [head?_cons, some.injEq] at hhead
    subst hhead
    cases rest with
    | nil =>
      rw [getLast?_singleton, some.injEq] at hlast
      subst hlast
      exact Shrunk.refl hstart
    | cons second rest =>
      rw [isChain_cons_cons] at hchain
      rw [getLast?_cons_cons] at hlast
      obtain ⟨index, decrement, -, hpos, hsecond⟩ := (iterates_lowers htolerance hchain.1).lowered
      have hstep : Shrunk first second := by
        rw [hsecond]
        exact shrunk_contracted hstart hpos
      exact hstep.trans (ih hchain.2 rfl hlast hstep.nonneg)

end

/-! ## Signs -/

section

variable {covariance signedMetric : DenseMatrix ℝ} {coefficients magnitudes : List ℝ}

lemma signum_cases (x : ℝ) : (x < 0 ∧ signum x = -1) ∨ (0 ≤ x ∧ signum x = 1) := by
  unfold signum
  by_cases h : x < 0
  · exact .inl ⟨h, if_pos ((exact_lt _ _).mpr h)⟩
  · exact .inr ⟨not_lt.mp h, if_neg (by rwa [exact_lt])⟩

lemma signum_mul_abs (x : ℝ) : signum x * |x| = x := by
  obtain ⟨h, hsign⟩ | ⟨h, hsign⟩ := signum_cases x
  · rw [hsign, abs_of_neg h]
    ring
  · rw [hsign, abs_of_nonneg h, one_mul]

lemma abs_signum_mul (x : ℝ) {y : ℝ} (hy : 0 ≤ y) : |signum x * y| = y := by
  obtain ⟨-, hsign⟩ | ⟨-, hsign⟩ := signum_cases x
  · rw [hsign, neg_one_mul, abs_neg, abs_of_nonneg hy]
  · rw [hsign, one_mul, abs_of_nonneg hy]

lemma mul_signum_nonneg (x : ℝ) {y : ℝ} (hy : 0 ≤ y) : 0 ≤ x * (signum x * y) := by
  obtain ⟨h, hsign⟩ | ⟨h, hsign⟩ := signum_cases x
  · rw [hsign, neg_one_mul]
    exact mul_nonneg_of_nonpos_of_nonpos h.le (neg_nonpos.mpr hy)
  · rw [hsign, one_mul]
    exact mul_nonneg h hy

lemma get_squareMatrix {n : Nat} (entry : Nat → Nat → ℝ) {i j : Nat} (hi : i < n) (hj : j < n) :
    (squareMatrix n entry).get i j = entry i j :=
  asMatrix_squareMatrix n entry ⟨i, hi⟩ ⟨j, hj⟩

lemma squareMatrix_congr {n : Nat} {f g : Nat → Nat → ℝ}
    (h : ∀ i < n, ∀ j < n, f i j = g i j) : squareMatrix n f = squareMatrix n g := by
  have hrows : (range n).map (fun r => (range n).map fun c => f r c) =
      (range n).map fun r => (range n).map fun c => g r c := by
    refine map_congr_left ?_
    intro i hi
    refine map_congr_left ?_
    intro j hj
    exact h i (mem_range.mp hi) j (mem_range.mp hj)
  unfold squareMatrix
  simp only [hrows]

lemma get_of_not_lt {metric : DenseMatrix ℝ} {n : Nat} (hm : metric.Square n) {i j : Nat}
    (h : ¬(i < n ∧ j < n)) : metric.get i j = 0 := by
  unfold DenseMatrix.get
  by_cases hi : i < metric.rows.length
  · rw [getD_eq_getElem _ _ hi]
    have hrow := metric.shape _ (getElem_mem hi)
    rw [hm.rows_length] at hi
    refine getD_eq_default _ _ ?_
    rw [hrow, hm.cols_eq]
    omega
  · rw [getD_eq_default metric.rows _ (not_lt.mp hi)]
    rfl

lemma signedMagnitudeMetric_ok
    (h : signedMagnitudeMetric covariance coefficients = .ok signedMetric) :
    covariance.Square coefficients.length ∧ signedMetric.Square coefficients.length ∧
      validateQuadraticMetric signedMetric = .ok () ∧
      ∀ i < coefficients.length, ∀ j < coefficients.length, signedMetric.get i j =
        covariance.get i j * signum (coefficients.getD i 0) * signum (coefficients.getD j 0) := by
  unfold signedMagnitudeMetric at h
  simp only [bind_ok, failIf_ok, not_or, ne_eq, not_not, pure_ok] at h
  obtain ⟨_, ⟨hrows, hcols, -⟩, _, hvalid, rfl⟩ := h
  exact ⟨⟨hrows, hcols⟩, squareMatrix_square _ _, hvalid,
    fun i hi j hj => get_squareMatrix _ hi hj⟩

/-- The metric on magnitudes gives the cost of the coefficients. -/
lemma listForm_signed (h : signedMagnitudeMetric covariance coefficients = .ok signedMetric)
    (hlength : magnitudes.length = coefficients.length) :
    listForm covariance (zipWith (fun coefficient magnitude => signum coefficient * magnitude)
      coefficients magnitudes) = listForm signedMetric magnitudes := by
  obtain ⟨-, -, -, hget⟩ := signedMagnitudeMetric_ok h
  have hsigned : asMatrix coefficients.length signedMetric.rows =
      withSigns (asMatrix coefficients.length covariance.rows)
        (fun i => signum (coefficients.getD i 0)) := by
    ext i j
    exact hget i i.isLt j j.isLt
  have hvector : asVector coefficients.length (zipWith
      (fun coefficient magnitude => signum coefficient * magnitude) coefficients magnitudes) =
        (fun i : Fin coefficients.length => signum (coefficients.getD i 0)) *
          asVector coefficients.length magnitudes := by
    funext i
    have hi : (i : Nat) < magnitudes.length := by
      rw [hlength]
      exact i.isLt
    unfold asVector
    rw [Pi.mul_apply, getD_eq_getElem _ _ (by rw [length_zipWith, hlength]; simp),
      getElem_zipWith, getD_eq_getElem _ _ i.isLt, getD_eq_getElem _ _ hi]
  rw [listForm_eq (by rw [length_zipWith, hlength, Nat.min_self]), listForm_eq hlength,
    hsigned, form_withSigns, hvector]

end

/-! ## Semidefinite metrics -/

/-- A semidefinite metric of some dimension. -/
structure Semidefinite (n : Nat) (metric : DenseMatrix ℝ) : Prop where
  pos : 0 < n
  square : metric.Square n
  psd : Matrix.PosSemidef (asMatrix n metric.rows)

section

variable {metric : DenseMatrix ℝ} {n : Nat} {v : List ℝ}

lemma Semidefinite.listForm_nonneg (h : Semidefinite n metric) (hv : v.length = n) :
    0 ≤ listForm metric v := by
  have hnonneg := h.psd.dotProduct_mulVec_nonneg (asVector n v)
  rw [star_trivial] at hnonneg
  rw [listForm_eq hv]
  exact hnonneg

lemma Semidefinite.validate (h : Semidefinite n metric) :
    validateQuadraticMetric metric = .ok () :=
  validateSymmetricPsd_exact h.pos h.square h.psd _

lemma Semidefinite.quadraticCost_eq (h : Semidefinite n metric) (hv : v.length = n) :
    quadraticCost metric v = .ok (listForm metric v) := by
  have hpos := h.pos
  have hnonneg := h.listForm_nonneg hv
  have hroot : (0 : ℝ) ≤ Real.sqrt (1 / 2 ^ 52) := Real.sqrt_nonneg _
  have hne : v ≠ [] := by
    intro hnil
    rw [hnil, length_nil] at hv
    omega
  have hbound : ¬listForm metric v < -Scalar.sqrt (Scalar.epsilon : ℝ) := by
    rw [exact_sqrt, exact_epsilon, not_lt]
    linarith
  rw [Analysis.quadraticCost_eq h.validate (h.square.rows_length.trans hv.symm) hne,
    if_neg hbound, max_eq_left hnonneg]

lemma Semidefinite.signed {coefficients : List ℝ} (h : Semidefinite n metric)
    (hlength : coefficients.length = n) : signedMagnitudeMetric metric coefficients =
        .ok (squareMatrix n fun row col => metric.get row col *
          signum (coefficients.getD row 0) * signum (coefficients.getD col 0)) ∧
      Semidefinite n (squareMatrix n fun row col => metric.get row col *
        signum (coefficients.getD row 0) * signum (coefficients.getD col 0)) := by
  subst hlength
  have hne : ¬(metric.rows.length ≠ coefficients.length ∨ metric.cols ≠ coefficients.length ∨
      coefficients.isEmpty = true) := by
    rw [not_or, not_or, not_ne_iff, not_ne_iff, List.isEmpty_iff, ← List.length_eq_zero_iff]
    exact ⟨h.square.rows_length, h.square.cols_eq, h.pos.ne'⟩
  have hsigned : Semidefinite coefficients.length (squareMatrix coefficients.length fun row col =>
      metric.get row col * signum (coefficients.getD row 0) *
        signum (coefficients.getD col 0)) := by
    refine ⟨h.pos, squareMatrix_square _ _, ?_⟩
    have hentries : asMatrix coefficients.length (squareMatrix coefficients.length fun row col =>
        metric.get row col * signum (coefficients.getD row 0) *
          signum (coefficients.getD col 0)).rows =
        withSigns (asMatrix coefficients.length metric.rows)
          (fun i => signum (coefficients.getD i 0)) := by
      ext i j
      rw [asMatrix_squareMatrix]
      rfl
    rw [hentries]
    exact posSemidef_withSigns h.psd _
  refine ⟨?_, hsigned⟩
  unfold signedMagnitudeMetric failIf
  rw [if_neg hne, ok_bind]
  dsimp only
  rw [hsigned.validate, ok_bind]
  rfl

variable {priorities : List ℝ}

lemma Semidefinite.candidate_exact (h : Semidefinite n metric) (hv : v.length = n)
    (hpriorities : priorities.length = n) (hpositive : ∀ p ∈ priorities, 0 < p) :
    ∃ gradient selected, metric.matvec v = .ok gradient ∧ gradient.length = n ∧
      asVector n gradient = (asMatrix n metric.rows).mulVec (asVector n v) ∧
      causalPriorityCandidate metric v priorities = .ok selected := by
  obtain ⟨gradient, hgradient, hlength, hvector⟩ := DenseMatrix.matvec_exact h.square hv
  have htolerance : (0 : ℝ) ≤ candidateTolerance v gradient := by
    have hroot : (0 : ℝ) ≤ Real.sqrt (1 / 2 ^ 52) := Real.sqrt_nonneg _
    have habs : ∀ l : List ℝ, 0 ≤ sumFrom 0 (l.map Scalar.abs) := by
      intro l
      rw [sumFrom_exact, zero_add]
      refine sum_nonneg ?_
      intro x hx
      obtain ⟨y, -, rfl⟩ := mem_map.mp hx
      exact abs_nonneg y
    refine mul_nonneg hroot ?_
    linarith [habs v, habs gradient]
  have hstep : ∀ (selected : Option (Nat × ℝ)) (index : Nat), index ∈ range v.length → True →
      ∃ selected', candidateStep v gradient priorities (candidateTolerance v gradient) selected
        index = .ok selected' ∧ True := by
    intro selected index hindex _
    rw [mem_range, hv, ← hpriorities] at hindex
    unfold candidateStep
    by_cases hskip : (Scalar.le (v.getD index 0) (candidateTolerance v gradient) ||
        Scalar.le (gradient.getD index 0) (candidateTolerance v gradient)) = true
    · rw [if_pos hskip]
      exact ⟨_, rfl, trivial⟩
    · rw [if_neg hskip]
      rw [Bool.or_eq_true, exact_le, exact_le, not_or, not_le, not_le] at hskip
      have hpriority : 0 < priorities.getD index 0 := by
        rw [getD_eq_getElem _ _ hindex]
        exact hpositive _ (getElem_mem hindex)
      have htwo : (0 : ℝ) < Scalar.lit 2 0 := by
        rw [exact_lit]
        norm_num
      have hratio : 0 < priorities.getD index 0 / (Scalar.lit 2 0 * gradient.getD index 0) :=
        div_pos hpriority (mul_pos htwo (htolerance.trans_lt hskip.2))
      have hvalid : ¬(¬Scalar.isFinite (priorities.getD index 0 /
          (Scalar.lit 2 0 * gradient.getD index 0)) = true ∨
          Scalar.le (priorities.getD index 0 / (Scalar.lit 2 0 * gradient.getD index 0)) 0 =
            true) := by
        rw [exact_le, exact_isFinite, not_or, not_not, not_le]
        exact ⟨rfl, hratio⟩
      unfold failIf
      dsimp only
      rw [if_neg hvalid, ok_bind]
      exact ⟨_, rfl, trivial⟩
  have hsearch : ∃ found, (range v.length).foldlM
      (candidateStep v gradient priorities (candidateTolerance v gradient)) none = .ok found ∧
        True := foldlM_ok_of_step (fun _ => True) trivial hstep
  obtain ⟨found, hfound, -⟩ := hsearch
  refine ⟨gradient, found.map Prod.fst, hgradient, hlength, hvector, ?_⟩
  unfold causalPriorityCandidate
  rw [hgradient, ok_bind]
  dsimp only
  rw [hfound, ok_bind]
  rfl

lemma Semidefinite.bisect_exact (h : Semidefinite n metric) (hv : v.length = n) (budget : ℝ)
    (index : Nat) (decrement : ℝ) : ∃ high, bisect metric budget v index decrement = .ok high := by
  have hstep : ∀ (bounds : ℝ × ℝ) (i : Nat), i ∈ range 96 → True →
      ∃ bounds', bisectStep metric budget v index bounds = .ok bounds' ∧ True := by
    intro bounds _ _ _
    unfold bisectStep
    dsimp only
    rw [h.quadraticCost_eq (length_contracted.trans hv), ok_bind]
    exact ⟨_, rfl, trivial⟩
  have hsteps : ∃ bounds, (range 96).foldlM
      (fun bounds _ => bisectStep metric budget v index bounds) (0, decrement) = .ok bounds ∧
        True := foldlM_ok_of_step (fun _ => True) trivial hstep
  obtain ⟨bounds, hbounds, -⟩ := hsteps
  refine ⟨bounds.2, ?_⟩
  unfold bisect
  rw [hbounds, ok_bind]
  rfl

variable {budget tolerance : ℝ}

lemma Semidefinite.contractOnce_reached (h : Semidefinite n metric) (hv : v.length = n)
    (hwithin : listForm metric v ≤ budget + tolerance) :
    contractOnce metric budget tolerance priorities v = .ok .reached := by
  unfold contractOnce
  rw [h.quadraticCost_eq hv, ok_bind, if_pos ((exact_le _ _).mpr hwithin)]
  rfl

lemma Semidefinite.contractOnce_none (h : Semidefinite n metric) (hv : v.length = n)
    (habove : budget + tolerance < listForm metric v)
    (hcandidate : causalPriorityCandidate metric v priorities = .ok none) :
    contractOnce metric budget tolerance priorities v = .error noLawfulContraction := by
  unfold contractOnce
  rw [h.quadraticCost_eq hv, ok_bind, if_neg (by rw [exact_le, not_le]; exact habove), hcandidate]
  rfl

/-- With a candidate an iteration finds too little relief, or a cost that rises, or goes on
    with the candidate lowered. -/
lemma Semidefinite.contractOnce_some (h : Semidefinite n metric) (hv : v.length = n)
    (habove : budget + tolerance < listForm metric v) {index : Nat} {gradient : List ℝ}
    (hcandidate : causalPriorityCandidate metric v priorities = .ok (some index))
    (hgradient : metric.matvec v = .ok gradient) {decrement : ℝ}
    (hdecrement : decrement = decrementOf tolerance (metric.get index index)
      (gradient.getD index 0) (v.getD index 0)) :
    contractOnce metric budget tolerance priorities v =
      if decrement ≤ tolerance then .error zeroRelief
      else if listForm metric v + tolerance < listForm metric (contracted v index decrement) then
        .error nonconvexCoordinate
      else if listForm metric (contracted v index decrement) ≤ budget + tolerance then
        bisect metric budget v index decrement >>= fun high =>
          .ok (.boundary (contracted v index high))
      else .ok (.minimum (contracted v index decrement)) := by
  have hdiagonal : 0 ≤ metric.get index index := by
    by_cases hindex : index < n
    · exact h.psd.diag_nonneg (i := ⟨index, hindex⟩)
    · rw [get_of_not_lt h.square fun hlt => hindex hlt.1]
  have hcurvature : ¬(¬Scalar.isFinite (metric.get index index) = true ∨
      Scalar.lt (metric.get index index) 0 = true ∨
      ¬Scalar.isFinite (gradient.getD index 0) = true) := by
    rw [exact_lt, exact_isFinite, exact_isFinite, not_or, not_or, not_not, not_lt]
    exact ⟨rfl, hdiagonal, rfl⟩
  unfold contractOnce failIf
  rw [h.quadraticCost_eq hv, ok_bind, if_neg (by rw [exact_le, not_le]; exact habove), hcandidate,
    ok_bind]
  show (metric.matvec v >>= _) = _
  rw [hgradient, ok_bind]
  dsimp only
  rw [if_neg hcurvature, ok_bind, ← hdecrement, h.quadraticCost_eq (length_contracted.trans hv)]
  simp only [exact_le, exact_lt]
  by_cases hrelief : decrement ≤ tolerance
  · rw [if_pos hrelief, if_pos hrelief]
    rfl
  · rw [if_neg hrelief, if_neg hrelief, ok_bind, ok_bind]
    by_cases hconvex :
        listForm metric v + tolerance < listForm metric (contracted v index decrement)
    · rw [if_pos hconvex, if_pos hconvex]
      rfl
    · rw [if_neg hconvex, if_neg hconvex, ok_bind]
      rfl

/-- Inputs of a contraction under a semidefinite metric. -/
structure Proposes (n : Nat) (covariance : DenseMatrix ℝ) (coefficients : List ℝ) (budget : ℝ)
    (priorities : List ℝ) : Prop where
  metric : Semidefinite n covariance
  length_coefficients : coefficients.length = n
  length_priorities : priorities.length = n
  priorities_pos : ∀ p ∈ priorities, 0 < p
  budget_nonneg : 0 ≤ budget

variable {covariance : DenseMatrix ℝ} {coefficients : List ℝ}

lemma Proposes.contract (h : Proposes n covariance coefficients budget priorities) :
    ¬(¬Scalar.isFinite budget = true ∨ Scalar.lt budget 0 = true ∨ coefficients.isEmpty = true ∨
      (coefficients.any fun value => !Scalar.isFinite value) = true ∨
      priorities.length ≠ coefficients.length ∨
      (priorities.any fun value => !Scalar.isFinite value || Scalar.le value 0) = true) := by
  have hne : coefficients ≠ [] := by
    intro hnil
    have hlength := h.length_coefficients
    have hpos := h.metric.pos
    rw [hnil, List.length_nil] at hlength
    omega
  have hpriorities : (priorities.any fun value => !Scalar.isFinite value || Scalar.le value 0) =
      false := by
    rw [List.any_eq_false]
    intro p hp
    have hle : ¬p ≤ 0 := not_le.mpr (h.priorities_pos p hp)
    rw [exact_isFinite, Bool.not_true, Bool.false_or, exact_le]
    exact hle
  rw [hpriorities, exact_any_infinite, exact_lt, exact_isFinite, List.isEmpty_iff,
    h.length_priorities, h.length_coefficients]
  simp [hne, h.budget_nonneg]

/-- A contraction that fails makes the whole call fail. -/
lemma Proposes.apply_error (h : Proposes n covariance coefficients budget priorities)
    {signedMetric : DenseMatrix ℝ}
    (hsigned : signedMagnitudeMetric covariance coefficients = .ok signedMetric) {e : BrainError}
    (hcontract : contractMagnitudes signedMetric budget
      (costTolerance (listForm covariance coefficients) budget) priorities
      (listForm covariance coefficients) (coefficients.map abs) = .error e) :
    applyCausalPriorityTrustRegion covariance coefficients budget priorities = .error e := by
  unfold applyCausalPriorityTrustRegion failIf
  rw [if_neg h.contract, ok_bind, h.metric.validate, ok_bind,
    h.metric.quadraticCost_eq h.length_coefficients, ok_bind]
  dsimp only
  rw [hsigned, ok_bind]
  show contractMagnitudes signedMetric budget _ priorities _ (coefficients.map abs) >>= _ = _
  rw [hcontract]
  rfl

/-- A contraction that ends within the budget makes the call return, and one that does not
    makes it fail. -/
lemma Proposes.apply_ok (h : Proposes n covariance coefficients budget priorities)
    {signedMetric : DenseMatrix ℝ}
    (hsigned : signedMagnitudeMetric covariance coefficients = .ok signedMetric)
    (hmetric : Semidefinite n signedMetric) {magnitudes : List ℝ} (hlength : magnitudes.length = n)
    (hcontract : contractMagnitudes signedMetric budget
      (costTolerance (listForm covariance coefficients) budget) priorities
      (listForm covariance coefficients) (coefficients.map abs) = .ok magnitudes) :
    (listForm signedMetric magnitudes ≤
        budget + costTolerance (listForm covariance coefficients) budget →
      ∃ result, applyCausalPriorityTrustRegion covariance coefficients budget priorities =
          .ok result ∧ result.proposedQuadraticCost = listForm covariance coefficients) ∧
    (budget + costTolerance (listForm covariance coefficients) budget <
        listForm signedMetric magnitudes →
      applyCausalPriorityTrustRegion covariance coefficients budget priorities =
        .error budgetNotReached) := by
  unfold applyCausalPriorityTrustRegion failIf
  rw [if_neg h.contract, ok_bind, h.metric.validate, ok_bind,
    h.metric.quadraticCost_eq h.length_coefficients, ok_bind]
  dsimp only
  rw [hsigned, ok_bind]
  have hcontract' : contractMagnitudes signedMetric budget
      (costTolerance (listForm covariance coefficients) budget) priorities
      (listForm covariance coefficients) (coefficients.map Scalar.abs) = .ok magnitudes := hcontract
  rw [hcontract', ok_bind, hmetric.quadraticCost_eq hlength, ok_bind]
  constructor
  · intro hwithin
    rw [if_neg (by rw [exact_lt, not_lt]; exact hwithin), ok_bind]
    exact ⟨_, rfl, rfl⟩
  · intro habove
    rw [if_pos ((exact_lt _ _).mpr habove)]
    rfl

end

end Tidex.Analysis
