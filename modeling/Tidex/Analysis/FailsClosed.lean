/-
  Analysis.FailsClosed — when a contraction returns.
-/
import Tidex.Analysis.Accepted

namespace Tidex.Analysis

open Tidex.Lib List Function Finset

/-! ## Outcomes -/

section

variable {metric : DenseMatrix ℝ} {n : Nat} {v priorities : List ℝ} {budget tolerance : ℝ}

/-- A result that is there, or is refused for one of the reasons of the contraction. -/
def ReturnsOrFails {α : Type} (x : BrainResult α) (P : α → Prop) : Prop :=
  (∃ a, x = .ok a ∧ P a) ∨
    ∃ e ∈ [noLawfulContraction, zeroRelief, nonconvexCoordinate, budgetNotReached], x = .error e

/-- The magnitudes that an iteration goes on with. -/
def Contraction.Keeps (n : Nat) : Contraction ℝ → Prop
  | .reached => True
  | .boundary magnitudes => magnitudes.length = n
  | .minimum magnitudes => magnitudes.length = n

lemma Semidefinite.contractOnce_outcome (h : Semidefinite n metric) (hv : v.length = n)
    (hpriorities : priorities.length = n) (hpositive : ∀ p ∈ priorities, 0 < p) :
    ReturnsOrFails (contractOnce metric budget tolerance priorities v) (Contraction.Keeps n) := by
  obtain ⟨gradient, selected, hgradient, -, -, hselected⟩ :=
    h.candidate_exact hv hpriorities hpositive
  by_cases hwithin : listForm metric v ≤ budget + tolerance
  · exact .inl ⟨_, h.contractOnce_reached hv hwithin, trivial⟩
  · rw [not_le] at hwithin
    cases selected with
    | none =>
      exact .inr ⟨_, by simp, h.contractOnce_none hv hwithin hselected⟩
    | some index =>
      obtain ⟨decrement, hdecrement⟩ : ∃ decrement, decrement = decrementOf tolerance
          (metric.get index index) (gradient.getD index 0) (v.getD index 0) := ⟨_, rfl⟩
      obtain ⟨high, hhigh⟩ := h.bisect_exact hv budget index decrement
      have hlength : ∀ x, (contracted v index x).length = n := fun _ => length_contracted.trans hv
      rw [h.contractOnce_some hv hwithin hselected hgradient hdecrement, hhigh, ok_bind]
      by_cases hrelief : decrement ≤ tolerance
      · rw [if_pos hrelief]
        exact .inr ⟨_, by simp, rfl⟩
      · rw [if_neg hrelief]
        by_cases hconvex :
            listForm metric v + tolerance < listForm metric (contracted v index decrement)
        · rw [if_pos hconvex]
          exact .inr ⟨_, by simp, rfl⟩
        · rw [if_neg hconvex]
          by_cases hreached :
              listForm metric (contracted v index decrement) ≤ budget + tolerance
          · rw [if_pos hreached]
            exact .inl ⟨_, rfl, hlength high⟩
          · rw [if_neg hreached]
            exact .inl ⟨_, rfl, hlength decrement⟩

lemma Semidefinite.contractLoop_outcome (h : Semidefinite n metric)
    (hpriorities : priorities.length = n) (hpositive : ∀ p ∈ priorities, 0 < p) (iterations : Nat)
    (hv : v.length = n) :
    ReturnsOrFails (contractLoop metric budget tolerance priorities iterations v)
      (fun magnitudes => magnitudes.length = n) := by
  induction iterations generalizing v with
  | zero => exact .inl ⟨v, rfl, hv⟩
  | succ iterations ih =>
    have hstep : ReturnsOrFails (contractOnce metric budget tolerance priorities v)
        (Contraction.Keeps n) := h.contractOnce_outcome hv hpriorities hpositive
    unfold contractLoop
    obtain ⟨r, hr, hkeeps⟩ | ⟨e, he, hr⟩ := hstep
    · rw [hr, ok_bind]
      cases r with
      | reached => exact .inl ⟨v, rfl, hv⟩
      | boundary lowered => exact .inl ⟨lowered, rfl, hkeeps⟩
      | minimum best => exact ih hkeeps
    · rw [hr]
      exact .inr ⟨e, he, rfl⟩

end

/-! ## Coefficients that do not pull against each other -/

section

variable {metric : DenseMatrix ℝ} {n : Nat} {start v priorities : List ℝ} {budget tolerance : ℝ}

/-- Magnitudes of which some were lowered to zero. -/
structure Zeroed (n : Nat) (start v : List ℝ) : Prop where
  length_eq : v.length = n
  same_or_zero : ∀ i < n, v.getD i 0 = start.getD i 0 ∨ v.getD i 0 = 0

/-- The coordinates that are not zero. -/
noncomputable def support (n : Nat) (v : List ℝ) : Finset (Fin n) :=
  Finset.univ.filter fun i => asVector n v i ≠ 0

lemma sum_map_asVector (hv : v.length = n) (f : ℝ → ℝ) :
    (v.map f).sum = ∑ i, f (asVector n v i) := by
  subst hv
  have hlist : v.map f = List.ofFn fun i : Fin v.length => f (asVector v.length v i) := by
    refine List.ext_getElem (by rw [List.length_map, List.length_ofFn]) ?_
    intro i hi hi'
    rw [List.length_map] at hi
    rw [List.getElem_map, List.getElem_ofFn]
    unfold asVector
    rw [List.getD_eq_getElem _ _ hi]
  rw [hlist, List.sum_ofFn]

lemma candidateTolerance_eq {gradient : List ℝ} (hv : v.length = n)
    (hgradient : gradient.length = n) : candidateTolerance v gradient =
      1 / 2 ^ 26 * (1 + ∑ i, |asVector n v i| + ∑ i, |asVector n gradient i|) := by
  unfold candidateTolerance
  rw [sqrt_epsilon, sumFrom_exact, sumFrom_exact, zero_add, zero_add, ← sum_map_asVector hv abs,
    ← sum_map_asVector hgradient abs]
  rfl

/-- What the descent needs: a metric without negative entries, magnitudes above the tolerance,
    and a budget above the bound of the search. -/
structure Reachable (n : Nat) (metric : DenseMatrix ℝ) (start : List ℝ)
    (budget tolerance : ℝ) : Prop where
  semidefinite : Semidefinite n metric
  length_eq : start.length = n
  nonneg : ∀ x ∈ start, 0 ≤ x
  entries : ∀ i j : Fin n, 0 ≤ asMatrix n metric.rows i j
  tolerance_nonneg : 0 ≤ tolerance
  large : ∀ x ∈ start, x ≠ 0 → tolerance < x
  within : 1 / 2 ^ 26 * (1 + ∑ i, asVector n start i +
      ∑ i, (asMatrix n metric.rows).mulVec (asVector n start) i) *
      (∑ i, asVector n start i + ∑ i, (asMatrix n metric.rows).mulVec (asVector n start) i) ≤
        budget + tolerance

lemma Reachable.start_nonneg (h : Reachable n metric start budget tolerance) (i : Fin n) :
    0 ≤ asVector n start i := by
  unfold asVector
  rw [getD_eq_getElem _ _ (by rw [h.length_eq]; exact i.isLt)]
  exact h.nonneg _ (getElem_mem _)

lemma Zeroed.bounds (hz : Zeroed n start v) (h : Reachable n metric start budget tolerance)
    (i : Fin n) : 0 ≤ asVector n v i ∧ asVector n v i ≤ asVector n start i := by
  have hstart := h.start_nonneg i
  rcases hz.same_or_zero i i.isLt with hsame | hzero
  · have hvalue : asVector n v i = asVector n start i := hsame
    rw [hvalue]
    exact ⟨hstart, le_refl _⟩
  · have hvalue : asVector n v i = 0 := hzero
    rw [hvalue]
    exact ⟨le_refl 0, hstart⟩

lemma Zeroed.lowerable (hz : Zeroed n start v) (h : Reachable n metric start budget tolerance)
    (habove : budget + tolerance < listForm metric v) {gradient : List ℝ}
    (hlength : gradient.length = n)
    (hgradient : asVector n gradient = (asMatrix n metric.rows).mulVec (asVector n v)) :
    ∃ index < n, Lowerable v gradient (candidateTolerance v gradient) index := by
  have hv : ∀ i, 0 ≤ asVector n v i := fun i => (hz.bounds h i).1
  have hgrad : ∀ i, 0 ≤ (asMatrix n metric.rows).mulVec (asVector n v) i :=
    mulVec_nonneg h.entries hv
  -- the sums are at most those of the start
  have hsum : ∑ i, asVector n v i ≤ ∑ i, asVector n start i :=
    Finset.sum_le_sum fun i _ => (hz.bounds h i).2
  have hgradients : ∑ i, (asMatrix n metric.rows).mulVec (asVector n v) i ≤
      ∑ i, (asMatrix n metric.rows).mulVec (asVector n start) i :=
    Finset.sum_le_sum fun i _ => mulVec_mono h.entries (fun j => (hz.bounds h j).2) i
  have hsum_nonneg : 0 ≤ ∑ i, asVector n v i := sum_nonneg fun i _ => hv i
  have hgrad_nonneg : 0 ≤ ∑ i, (asMatrix n metric.rows).mulVec (asVector n v) i :=
    sum_nonneg fun i _ => hgrad i
  have htolerance : candidateTolerance v gradient = 1 / 2 ^ 26 * (1 + ∑ i, asVector n v i +
      ∑ i, (asMatrix n metric.rows).mulVec (asVector n v) i) := by
    rw [candidateTolerance_eq hz.length_eq hlength, hgradient]
    simp only [abs_of_nonneg (hv _), abs_of_nonneg (hgrad _)]
  by_contra hnone
  have hsmall : ∀ i : Fin n, asVector n v i ≤ candidateTolerance v gradient ∨
      (asMatrix n metric.rows).mulVec (asVector n v) i ≤ candidateTolerance v gradient := by
    intro i
    rw [← hgradient]
    by_contra hboth
    rw [not_or, not_le, not_le] at hboth
    exact hnone ⟨i, i.isLt, hboth⟩
  have hpos : 0 ≤ candidateTolerance v gradient := by
    rw [htolerance]
    positivity
  have hform := form_le_of_small h.entries hv hpos hsmall
  rw [← listForm_eq hz.length_eq] at hform
  have hmono : candidateTolerance v gradient * (∑ i, asVector n v i +
      ∑ i, (asMatrix n metric.rows).mulVec (asVector n v) i) ≤
      1 / 2 ^ 26 * (1 + ∑ i, asVector n start i +
        ∑ i, (asMatrix n metric.rows).mulVec (asVector n start) i) *
        (∑ i, asVector n start i +
          ∑ i, (asMatrix n metric.rows).mulVec (asVector n start) i) := by
    rw [htolerance]
    refine mul_le_mul ?_ (by linarith) (by linarith) ?_
    · exact mul_le_mul_of_nonneg_left (by linarith) (by positivity)
    · exact mul_nonneg (by positivity) (by linarith)
  linarith [h.within]

lemma decrementOf_full {diagonal gradient magnitude : ℝ} (hmagnitude : 0 ≤ magnitude)
    (htolerance : 0 ≤ tolerance) (hle : diagonal * magnitude ≤ gradient) :
    decrementOf tolerance diagonal gradient magnitude = magnitude := by
  by_cases hcurved : tolerance < diagonal
  · have hdiagonal : 0 < diagonal := htolerance.trans_lt hcurved
    have hratio : magnitude ≤ gradient / diagonal := by
      rw [le_div_iff₀ hdiagonal, mul_comm]
      exact hle
    unfold decrementOf clamp
    rw [if_pos ((exact_lt _ _).mpr hcurved), if_neg (by rw [exact_lt, not_lt]; linarith)]
    by_cases hhigh : magnitude < gradient / diagonal
    · rw [if_pos ((exact_lt _ _).mpr hhigh)]
    · rw [if_neg (by rwa [exact_lt])]
      exact le_antisymm (not_lt.mp hhigh) hratio
  · exact decrementOf_flat hcurved

lemma Zeroed.contracted (hz : Zeroed n start v) {index : Nat} :
    Zeroed n start (contracted v index (v.getD index 0)) := by
  refine ⟨length_contracted.trans hz.length_eq, ?_⟩
  intro i hi
  unfold Analysis.contracted
  rw [sub_self, exact_max, max_self, getD_eq_getElem?_getD, getElem?_set]
  by_cases hindex : index = i
  · rw [if_pos hindex, if_pos (by rw [hz.length_eq]; omega)]
    exact .inr rfl
  · rw [if_neg hindex, ← getD_eq_getElem?_getD]
    exact hz.same_or_zero i hi

lemma card_support_contracted (hv : v.length = n) {index : Nat} (hindex : index < n)
    (hne : v.getD index 0 ≠ 0) :
    (support n (contracted v index (v.getD index 0))).card < (support n v).card := by
  have hupdate : asVector n (contracted v index (v.getD index 0)) =
      update (asVector n v) ⟨index, hindex⟩ 0 := by
    rw [asVector_contracted hv hindex, sub_self, max_self]
  refine Finset.card_lt_card ?_
  rw [Finset.ssubset_iff_of_subset]
  · refine ⟨⟨index, hindex⟩, ?_, ?_⟩
    · unfold support
      rw [Finset.mem_filter]
      exact ⟨Finset.mem_univ _, hne⟩
    · unfold support
      rw [Finset.mem_filter, hupdate, update_self, not_and, not_not]
      exact fun _ => rfl
  · intro i hi
    unfold support at *
    rw [Finset.mem_filter, hupdate] at hi
    rw [Finset.mem_filter]
    refine ⟨Finset.mem_univ i, ?_⟩
    by_cases heq : i = ⟨index, hindex⟩
    · rw [heq]
      exact hne
    · rw [update_of_ne heq] at hi
      exact hi.2

/-- One iteration of the descent is within the budget, or reaches it, or lowers a coordinate
    to zero. -/
lemma Zeroed.step (hz : Zeroed n start v) (h : Reachable n metric start budget tolerance)
    (hpriorities : priorities.length = n) (hpositive : ∀ p ∈ priorities, 0 < p) :
    (contractOnce metric budget tolerance priorities v = .ok .reached ∧
        listForm metric v ≤ budget + tolerance) ∨
      (∃ lowered, contractOnce metric budget tolerance priorities v = .ok (.boundary lowered) ∧
        lowered.length = n ∧ listForm metric lowered ≤ budget + tolerance) ∨
      ∃ best, contractOnce metric budget tolerance priorities v = .ok (.minimum best) ∧
        Zeroed n start best ∧ (support n best).card < (support n v).card := by
  have hmetric := h.semidefinite
  by_cases hwithin : listForm metric v ≤ budget + tolerance
  · exact .inl ⟨hmetric.contractOnce_reached hz.length_eq hwithin, hwithin⟩
  · rw [not_le] at hwithin
    obtain ⟨gradient, selected, hgradient, hlength, hvector, hselected⟩ :=
      hmetric.candidate_exact hz.length_eq hpriorities hpositive
    obtain ⟨hfound, hmissed⟩ := candidate_spec hgradient hselected
    obtain ⟨some_index, hsome, hlower⟩ := hz.lowerable h hwithin hlength hvector
    cases selected with
    | none =>
      exact absurd hlower (hmissed rfl some_index (by rw [hz.length_eq]; exact hsome))
    | some index =>
      obtain ⟨hindex, hmagnitude, -⟩ := hfound index rfl
      rw [hz.length_eq] at hindex
      -- the coordinate is that of the start, and goes to zero
      have hpos : 0 < v.getD index 0 := by
        have htolerance : 0 ≤ candidateTolerance v gradient := by
          rw [candidateTolerance_eq hz.length_eq hlength]
          positivity
        exact htolerance.trans_lt hmagnitude
      have hrelief : tolerance < v.getD index 0 := by
        rcases hz.same_or_zero index hindex with hsame | hzero
        · rw [hsame] at hpos ⊢
          rw [getD_eq_getElem _ _ (by rw [h.length_eq]; exact hindex)] at hpos ⊢
          exact h.large _ (getElem_mem _) hpos.ne'
        · rw [hzero] at hpos
          exact absurd hpos (lt_irrefl 0)
      have hv : ∀ i, 0 ≤ asVector n v i := fun i => (hz.bounds h i).1
      have hdiagonal : metric.get index index * v.getD index 0 ≤ gradient.getD index 0 := by
        have hle := diagonal_mul_le h.entries hv ⟨index, hindex⟩
        rw [← hvector] at hle
        exact hle
      have hdecrement := decrementOf_full hpos.le h.tolerance_nonneg hdiagonal
      have hform : listForm metric (Analysis.contracted v index (v.getD index 0)) ≤
          listForm metric v := by
        rw [listForm_eq hz.contracted.length_eq, listForm_eq hz.length_eq]
        refine form_mono h.entries (fun i => (hz.contracted.bounds h i).1) ?_
        intro i
        rw [asVector_contracted hz.length_eq hindex, sub_self, max_self]
        by_cases heq : i = ⟨index, hindex⟩
        · rw [heq, update_self]
          exact hv _
        · rw [update_of_ne heq]
      obtain ⟨high, hbisect⟩ := hmetric.bisect_exact hz.length_eq budget index (v.getD index 0)
      have hstep := hmetric.contractOnce_some hz.length_eq hwithin hselected hgradient
        hdecrement.symm
      have htolerance := h.tolerance_nonneg
      rw [if_neg (not_le.mpr hrelief), if_neg (by linarith), hbisect, ok_bind] at hstep
      by_cases hreached :
          listForm metric (Analysis.contracted v index (v.getD index 0)) ≤ budget + tolerance
      · rw [if_pos hreached] at hstep
        have hfeasible : Feasible metric (budget + tolerance) v index (v.getD index 0) :=
          ⟨_, hmetric.quadraticCost_eq hz.contracted.length_eq, hreached⟩
        obtain ⟨-, c, hc, hle⟩ := bisect_feasible (by linarith) hpos.le hfeasible hbisect
        rw [hmetric.quadraticCost_eq (length_contracted.trans hz.length_eq)] at hc
        cases hc
        exact .inr (.inl ⟨_, hstep, length_contracted.trans hz.length_eq, hle⟩)
      · rw [if_neg hreached] at hstep
        exact .inr (.inr ⟨_, hstep, hz.contracted,
          card_support_contracted hz.length_eq hindex hpos.ne'⟩)

/-- The iterations of the descent reach the budget. -/
lemma Reachable.loop (h : Reachable n metric start budget tolerance)
    (hpriorities : priorities.length = n) (hpositive : ∀ p ∈ priorities, 0 < p)
    (hbudget : 0 ≤ budget) {iterations : Nat} (hz : Zeroed n start v)
    (hcard : (support n v).card ≤ iterations) :
    ∃ final, contractLoop metric budget tolerance priorities iterations v = .ok final ∧
      final.length = n ∧ listForm metric final ≤ budget + tolerance := by
  induction iterations generalizing v with
  | zero =>
    -- every coordinate is zero
    have hzero : asVector n v = 0 := by
      funext i
      have hempty : support n v = ∅ := Finset.card_eq_zero.mp (Nat.le_zero.mp hcard)
      by_contra hne
      have hmem : i ∈ support n v := by
        unfold support
        rw [Finset.mem_filter]
        exact ⟨Finset.mem_univ i, hne⟩
      rw [hempty] at hmem
      exact absurd hmem (Finset.notMem_empty i)
    refine ⟨v, rfl, hz.length_eq, ?_⟩
    rw [listForm_eq hz.length_eq, hzero]
    unfold quadraticForm
    rw [zero_dotProduct]
    linarith [h.tolerance_nonneg]
  | succ iterations ih =>
    unfold contractLoop
    obtain ⟨hstep, hle⟩ | ⟨lowered, hstep, hlength, hle⟩ | ⟨best, hstep, hbest, hless⟩ :=
      hz.step h hpriorities hpositive
    · rw [hstep, ok_bind]
      exact ⟨v, rfl, hz.length_eq, hle⟩
    · rw [hstep, ok_bind]
      exact ⟨lowered, rfl, hlength, hle⟩
    · rw [hstep, ok_bind]
      exact ih hbest (by omega)

end

/-! ## Whole calls -/

section

variable {covariance : DenseMatrix ℝ} {n : Nat} {coefficients priorities : List ℝ} {budget : ℝ}

/-- No two coefficients pull against each other: their product in the cost is not negative. -/
def PullsTogether (covariance : DenseMatrix ℝ) (coefficients : List ℝ) : Prop :=
  ∀ i < coefficients.length, ∀ j < coefficients.length,
    0 ≤ covariance.get i j * signum (coefficients.getD i 0) * signum (coefficients.getD j 0)

/-- The budget and the coefficients are above the bounds within which the search takes numbers
    for zero. -/
structure AboveBounds (coefficients gradient : List ℝ) (proposed budget : ℝ) : Prop where
  large : ∀ c ∈ coefficients, c ≠ 0 → costTolerance proposed budget < |c|
  within : candidateTolerance coefficients gradient *
    ((coefficients.map abs).sum + (gradient.map abs).sum) ≤ budget + costTolerance proposed budget

lemma Proposes.reachable (h : Proposes n covariance coefficients budget priorities)
    {gradient : List ℝ} (hgradient : covariance.matvec coefficients = .ok gradient)
    (haligned : PullsTogether covariance coefficients)
    (habove : AboveBounds coefficients gradient (listForm covariance coefficients) budget) :
    Reachable n (squareMatrix n fun row col => covariance.get row col *
        signum (coefficients.getD row 0) * signum (coefficients.getD col 0))
      (coefficients.map abs) budget (costTolerance (listForm covariance coefficients) budget) := by
  have hlength := h.length_coefficients
  have hsemidefinite := (h.metric.signed hlength).2
  set signedMetric := squareMatrix n fun row col => covariance.get row col *
    signum (coefficients.getD row 0) * signum (coefficients.getD col 0) with hsigned
  have hentry : ∀ i j : Fin n, asMatrix n signedMetric.rows i j =
      covariance.get i j * signum (coefficients.getD i 0) * signum (coefficients.getD j 0) := by
    intro i j
    rw [hsigned, asMatrix_squareMatrix]
  have hentries : ∀ i j : Fin n, 0 ≤ asMatrix n signedMetric.rows i j := by
    intro i j
    rw [hentry]
    exact haligned i (by rw [hlength]; exact i.isLt) j (by rw [hlength]; exact j.isLt)
  have habs : ∀ i : Fin n, asVector n (coefficients.map abs) i = |asVector n coefficients i| := by
    intro i
    unfold asVector
    rw [getD_eq_getElem _ _ (by rw [length_map, hlength]; exact i.isLt),
      getElem_map, getD_eq_getElem _ _ (by rw [hlength]; exact i.isLt)]
  obtain ⟨q, hq, hqlength, hqvector⟩ := DenseMatrix.matvec_exact h.metric.square hlength
  rw [hgradient] at hq
  cases hq
  -- the gradient of the magnitudes has the absolute values of that of the coefficients
  have hgradients : ∀ i : Fin n, (asMatrix n signedMetric.rows).mulVec
      (asVector n (coefficients.map abs)) i = |asVector n gradient i| := by
    intro i
    have hvalue : (asMatrix n signedMetric.rows).mulVec (asVector n (coefficients.map abs)) i =
        signum (coefficients.getD i 0) * asVector n gradient i := by
      rw [hqvector]
      unfold Matrix.mulVec dotProduct
      rw [mul_sum]
      refine sum_congr rfl ?_
      intro j _
      have hsign := signum_mul_abs (asVector n coefficients j)
      have hterm : covariance.get i j = asMatrix n covariance.rows i j := rfl
      have hcoefficient : coefficients.getD j 0 = asVector n coefficients j := rfl
      show asMatrix n signedMetric.rows i j * asVector n (coefficients.map abs) j =
        signum (coefficients.getD i 0) *
          (asMatrix n covariance.rows i j * asVector n coefficients j)
      rw [hentry, habs, hterm, hcoefficient]
      calc asMatrix n covariance.rows i j * signum (coefficients.getD i 0) *
            signum (asVector n coefficients j) * |asVector n coefficients j|
          = signum (coefficients.getD i 0) * (asMatrix n covariance.rows i j *
            (signum (asVector n coefficients j) * |asVector n coefficients j|)) := by ring
        _ = signum (coefficients.getD i 0) *
            (asMatrix n covariance.rows i j * asVector n coefficients j) := by rw [hsign]
    have hnonneg : 0 ≤ signum (coefficients.getD i 0) * asVector n gradient i := by
      rw [← hvalue]
      refine mulVec_nonneg hentries ?_ i
      intro j
      rw [habs]
      exact abs_nonneg _
    rw [hvalue, ← abs_of_nonneg hnonneg, abs_mul]
    obtain ⟨-, hsign⟩ | ⟨-, hsign⟩ := signum_cases (coefficients.getD i 0)
    · rw [hsign, abs_neg, abs_one, one_mul]
    · rw [hsign, abs_one, one_mul]
  have hsum : ∑ i, asVector n (coefficients.map abs) i = (coefficients.map abs).sum := by
    rw [sum_map_asVector hlength]
    exact sum_congr rfl fun i _ => habs i
  have hgradientSum : ∑ i, (asMatrix n signedMetric.rows).mulVec
      (asVector n (coefficients.map abs)) i = (gradient.map abs).sum := by
    rw [sum_map_asVector hqlength]
    exact sum_congr rfl fun i _ => hgradients i
  refine ⟨hsemidefinite, by rw [length_map, hlength], ?_, hentries,
    costTolerance_nonneg _ _, ?_, ?_⟩
  · intro x hx
    obtain ⟨c, -, rfl⟩ := mem_map.mp hx
    exact abs_nonneg c
  · intro x hx hne
    obtain ⟨c, hc, rfl⟩ := mem_map.mp hx
    exact habove.large c hc (abs_ne_zero.mp hne)
  · have hwithin := habove.within
    rw [candidateTolerance_eq hlength hqlength, ← sum_map_asVector hlength abs,
      ← sum_map_asVector hqlength abs] at hwithin
    rw [hsum, hgradientSum]
    exact hwithin

end

/-! ## One coordinate -/

namespace CurvatureSample

noncomputable def metric (curvature : Nat) : DenseMatrix ℝ :=
  squareMatrix 1 fun _ _ => Scalar.lit curvature 0

variable (curvature : Nat)

lemma entry_eq (i j : Fin 1) : asMatrix 1 (metric curvature).rows i j = curvature := by
  unfold metric
  rw [asMatrix_squareMatrix, exact_lit, pow_zero, div_one]

lemma form_eq (a : ℝ) : listForm (metric curvature) [a] = curvature * a * a := by
  have hlength : [a].length = 1 := rfl
  rw [listForm_eq hlength]
  unfold quadraticForm
  simp only [dotProduct, Matrix.mulVec, Fin.sum_univ_one, entry_eq]
  show a * (curvature * a) = _
  ring

lemma semidefinite : Semidefinite 1 (metric curvature) := by
  refine ⟨by decide, squareMatrix_square 1 _, ?_⟩
  refine Matrix.PosSemidef.of_dotProduct_mulVec_nonneg ?_ ?_
  · ext i j
    rw [Matrix.conjTranspose_apply, star_trivial, entry_eq, entry_eq]
  · intro x
    rw [star_trivial]
    simp only [dotProduct, Matrix.mulVec, Fin.sum_univ_one, entry_eq]
    have hsquare : x 0 * (curvature * x 0) = curvature * (x 0 * x 0) := by ring
    rw [hsquare]
    exact mul_nonneg (Nat.cast_nonneg _) (mul_self_nonneg _)

lemma gradient_eq (a : ℝ) : (metric curvature).matvec [a] = .ok [curvature * a] := by
  obtain ⟨q, hq, hlength, hvector⟩ :=
    DenseMatrix.matvec_exact (semidefinite curvature).square (v := [a]) rfl
  rw [hq]
  match q, hlength with
  | [x], _ =>
    have hx := congrFun hvector 0
    simp only [Matrix.mulVec, dotProduct, Fin.sum_univ_one, entry_eq] at hx
    exact congrArg (fun x => Except.ok [x]) hx

lemma signum_one : signum (1 : ℝ) = 1 := by
  obtain ⟨hneg, -⟩ | ⟨-, hsign⟩ := signum_cases (1 : ℝ)
  · linarith
  · exact hsign

lemma signed_one : signedMagnitudeMetric (metric curvature) [1] = .ok (metric curvature) := by
  have hlength : [(1 : ℝ)].length = 1 := rfl
  rw [((semidefinite curvature).signed hlength).1]
  refine congrArg Except.ok (squareMatrix_congr ?_)
  intro i hi j hj
  obtain rfl : i = 0 := by omega
  obtain rfl : j = 0 := by omega
  have hget : [(1 : ℝ)].getD 0 0 = 1 := rfl
  rw [hget, signum_one, mul_one, mul_one]
  exact get_squareMatrix _ hi hj

lemma proposes (c : ℝ) (tenths : Nat) :
    Proposes 1 (metric curvature) [c] (Scalar.lit tenths 1) [1] := by
  refine ⟨semidefinite curvature, rfl, rfl, ?_, ?_⟩
  · intro p hp
    rw [List.mem_singleton] at hp
    rw [hp]
    exact one_pos
  · rw [exact_lit]
    positivity

lemma tolerance_one (tenths : Nat) :
    costTolerance (listForm (metric curvature) [1]) (Scalar.lit tenths 1) =
      1 / 2 ^ 26 * (1 + curvature + tenths / 10) := by
  have htenths : (0 : ℝ) ≤ tenths / 10 ^ 1 := by positivity
  unfold costTolerance
  rw [sqrt_epsilon, form_eq, mul_one, mul_one, exact_abs, exact_abs, exact_lit,
    abs_of_nonneg (Nat.cast_nonneg curvature), abs_of_nonneg htenths, pow_one]

end CurvatureSample

end Tidex.Analysis
