/-
  Foundation.Solve — linear systems by elimination.
-/
import Tidex.Foundation.Exact
import Mathlib.LinearAlgebra.Matrix.NonsingularInverse

namespace Tidex

open Tidex.Lib List

/-! ## Elimination -/

/-- The matrix and the right-hand side while the elimination works on them. -/
@[ext]
structure Rows (K : Type) (n : Nat) where
  matrix : Fin n → Fin n → K
  rhs : Fin n → K

section

variable {K : Type} [Scalar K] {n : Nat}

def pivotStep (a : Fin n → Fin n → K) (k : Fin n) (found : Fin n × K) (r : Fin n) : Fin n × K :=
  let v := Scalar.abs (a r k)
  if Scalar.lt found.2 v then (r, v) else found

/-- The first row of largest entry in column `k`, from row `k` on, and that entry. -/
def findPivot (a : Fin n → Fin n → K) (k : Fin n) : Fin n × K :=
  ((finRange n).filter (k < ·)).foldl (pivotStep a k) (k, Scalar.abs (a k k))

namespace Rows

/-- The columns before `k` keep their places. -/
def swapRows (s : Rows K n) (k pivot : Fin n) : Rows K n where
  matrix r c := if k ≤ c then s.matrix (Equiv.swap k pivot r) c else s.matrix r c
  rhs r := s.rhs (Equiv.swap k pivot r)

def normalizeRow (s : Rows K n) (k : Fin n) : Rows K n where
  matrix r c := if r = k ∧ k ≤ c then s.matrix k c / s.matrix k k else s.matrix r c
  rhs r := if r = k then s.rhs k / s.matrix k k else s.rhs r

/-- A row whose factor is below a fixed bound is left as it is. -/
def skips (s : Rows K n) (k r : Fin n) : Bool :=
  Scalar.lt (Scalar.abs (s.matrix r k)) (Scalar.lit 1 18)

/-- Every row reads only itself and row `k`, which stays. -/
def eliminateRows (s : Rows K n) (k : Fin n) : Rows K n where
  matrix r c := if r = k ∨ s.skips k r ∨ c < k then s.matrix r c
    else s.matrix r c - s.matrix r k * s.matrix k c
  rhs r := if r = k ∨ s.skips k r then s.rhs r else s.rhs r - s.matrix r k * s.rhs k

def finite (s : Rows K n) : Bool :=
  (finRange n).all fun r =>
    Scalar.isFinite (s.rhs r) && (finRange n).all fun c => Scalar.isFinite (s.matrix r c)

def pivotRow (s : Rows K n) (k : Fin n) : Fin n :=
  (findPivot s.matrix k).1

/-- The system with the pivot row of column `k` in its place and divided by the pivot. -/
def pivoted (s : Rows K n) (k : Fin n) : Rows K n :=
  (s.swapRows k (s.pivotRow k)).normalizeRow k

def reduced (s : Rows K n) (k : Fin n) : Rows K n :=
  (s.pivoted k).eliminateRows k

def eliminateColumn (tolerance : K) (s : Rows K n) (k : Fin n) : BrainResult (Rows K n) := do
  let best := (findPivot s.matrix k).2
  failIf (Scalar.eq best 0 ∨ Scalar.le best tolerance) (.numerical "singular_system")
  let s := s.reduced k
  failIf (¬s.finite) (.numerical "linear_solve_non_finite_result")
  return s

def run (s : Rows K n) (tolerance : K) : BrainResult (Rows K n) :=
  (finRange n).foldlM (eliminateColumn tolerance) s

end Rows

def DenseMatrix.system (a : DenseMatrix K) (b : List K) (n : Nat) : Rows K n where
  matrix r c := a.get r c
  rhs r := b.getD r 0

def singularityTolerance (a : DenseMatrix K) : K :=
  Scalar.epsilon * maxAbs a.data * Scalar.lit a.rows.length 0

def solve (a : DenseMatrix K) (b : List K) : BrainResult (List K) := do
  a.validate "linear_solve_matrix"
  failIf (a.rows = [] ∨ a.rows.length ≠ a.cols ∨ a.rows.length ≠ b.length
      ∨ b.any fun value => !Scalar.isFinite value)
    (invalid "linear_solve_shape")
  let s ← (a.system b a.rows.length).run (singularityTolerance a)
  failIf ((List.ofFn s.rhs).any fun value => !Scalar.isFinite value)
    (.numerical "linear_solve_non_finite_result")
  return List.ofFn s.rhs

def ridgeMatrix (a : DenseMatrix K) (ridge : K) : DenseMatrix K :=
  squareMatrix a.rows.length fun r c => if r = c then a.get r c + ridge else a.get r c

def inverseWithRidge (a : DenseMatrix K) (ridge : K) : BrainResult (DenseMatrix K) := do
  a.validate "inverse_matrix"
  let n := a.rows.length
  failIf (n ≠ a.cols ∨ n = 0 ∨ ¬Scalar.isFinite ridge ∨ Scalar.lt ridge 0)
    (invalid "inverse_shape")
  let columns ← (List.range n).mapM fun c =>
    solve (ridgeMatrix a ridge) ((List.range n).map fun r => if r = c then 1 else 0)
  return squareMatrix n fun r c => (columns.getD c []).getD r 0

def overRows (x : DenseMatrix K) (term : Nat → K) : K :=
  sumFrom 0 ((List.range x.rows.length).map term)

def normalMatrix (x : DenseMatrix K) (weights : List K) (ridge : K) : DenseMatrix K :=
  squareMatrix x.cols fun i j =>
    let sum := overRows x fun r => weights.getD r 0 * x.get r i * x.get r j
    if i = j then sum + ridge else sum

def normalRhs (x : DenseMatrix K) (y weights : List K) : List K :=
  (List.range x.cols).map fun i =>
    overRows x fun r => weights.getD r 0 * x.get r i * y.getD r 0

def weightedNormalSolve (x : DenseMatrix K) (y weights : List K) (ridge : K) :
    BrainResult (List K) := do
  x.validate "weighted_ls_design"
  failIf (x.rows = [] ∨ x.cols = 0 ∨ x.rows.length ≠ y.length ∨ x.rows.length ≠ weights.length
      ∨ (y.any fun value => !Scalar.isFinite value)
      ∨ (weights.any fun weight => !Scalar.isFinite weight || Scalar.lt weight 0)
      ∨ ¬Scalar.isFinite ridge ∨ Scalar.lt ridge 0)
    (invalid "weighted_ls_shape")
  solve (normalMatrix x weights ridge) (normalRhs x y weights)

end

/-! ## One column -/

section

variable {n : Nat}

lemma findPivot_spec (a : Fin n → Fin n → ℝ) (k : Fin n) :
    k ≤ (findPivot a k).1 ∧ (findPivot a k).2 = |a (findPivot a k).1 k| := by
  refine foldlRecOn (motive := fun found : Fin n × ℝ => k ≤ found.1 ∧ found.2 = |a found.1 k|) _ _
    ⟨le_rfl, rfl⟩ ?_
  intro found hfound r hr
  unfold pivotStep
  dsimp only
  split
  · exact ⟨(by simpa using hr : k < r).le, rfl⟩
  · exact hfound

namespace Rows

variable {s t : Rows ℝ n} {k : Fin n}

lemma le_pivotRow : k ≤ s.pivotRow k :=
  (findPivot_spec s.matrix k).1

lemma pivot_ne_zero (h : (findPivot s.matrix k).2 ≠ 0) : s.matrix (s.pivotRow k) k ≠ 0 := by
  rw [(findPivot_spec s.matrix k).2] at h
  exact abs_ne_zero.mp h

def residual (s : Rows ℝ n) (x : Fin n → ℝ) (r : Fin n) : ℝ :=
  ∑ c, s.matrix r c * x c - s.rhs r

def Solution (s : Rows ℝ n) (x : Fin n → ℝ) : Prop :=
  ∀ r, s.residual x r = 0

/-- The columns before `k` are those of the identity. -/
def Cleared (s : Rows ℝ n) (k : Fin n) : Prop :=
  ∀ c < k, ∀ r, s.matrix r c = if r = c then 1 else 0

/-- Every factor of column `k` that is skipped is zero. -/
def ClearsColumn (s : Rows ℝ n) (k : Fin n) : Prop :=
  ∀ r ≠ k, (s.pivoted k).skips k r = true → (s.pivoted k).matrix r k = 0

lemma pivoted_matrix (hcleared : s.Cleared k) (r c : Fin n) :
    (s.pivoted k).matrix r c =
      if r = k then s.matrix (s.pivotRow k) c / s.matrix (s.pivotRow k) k
      else s.matrix (Equiv.swap k (s.pivotRow k) r) c := by
  have hle : k ≤ s.pivotRow k := le_pivotRow
  simp only [pivoted, normalizeRow, swapRows, le_refl, if_true, Equiv.swap_apply_left]
  by_cases hc : k ≤ c
  · simp only [hc, and_true, if_true]
  · have hck : c < k := not_le.mp hc
    have hzero : ∀ i, k ≤ i → s.matrix i c = 0 := by
      intro i hi
      rw [hcleared c hck, if_neg (hck.trans_le hi).ne']
    simp only [hc, and_false, if_false]
    by_cases hr : r = k
    · rw [if_pos hr, hr, hzero k le_rfl, hzero _ hle, zero_div]
    · rw [if_neg hr]
      by_cases hrp : r = (s.pivotRow k)
      · rw [hrp, Equiv.swap_apply_right, hzero _ hle, hzero k le_rfl]
      · rw [Equiv.swap_apply_of_ne_of_ne hr hrp]

lemma pivoted_rhs (r : Fin n) : (s.pivoted k).rhs r =
    if r = k then s.rhs (s.pivotRow k) / s.matrix (s.pivotRow k) k
    else s.rhs (Equiv.swap k (s.pivotRow k) r) := by
  simp only [pivoted, normalizeRow, swapRows, le_refl, if_true, Equiv.swap_apply_left]

lemma pivoted_residual (hcleared : s.Cleared k) (x : Fin n → ℝ) (r : Fin n) :
    (s.pivoted k).residual x r =
      if r = k then s.residual x (s.pivotRow k) / s.matrix (s.pivotRow k) k
      else s.residual x (Equiv.swap k (s.pivotRow k) r) := by
  unfold residual
  simp only [pivoted_matrix hcleared, pivoted_rhs]
  split
  · rw [sub_div, Finset.sum_div]
    refine congrArg (· - _) (Finset.sum_congr rfl ?_)
    intro c _
    exact div_mul_eq_mul_div _ _ _
  · rfl

lemma eliminateRows_right (hclears : s.ClearsColumn k) {r c : Fin n} (hr : r ≠ k)
    (hc : k ≤ c) : (s.reduced k).matrix r c =
      (s.pivoted k).matrix r c - (s.pivoted k).matrix r k * (s.pivoted k).matrix k c := by
  simp only [reduced, eliminateRows, hr, false_or, hc.not_gt, or_false]
  by_cases hskip : (s.pivoted k).skips k r = true
  · rw [if_pos hskip, hclears r hr hskip, zero_mul, sub_zero]
  · rw [if_neg hskip]

lemma eliminateRows_matrix (hclears : s.ClearsColumn k) (hcleared : s.Cleared k)
    {r : Fin n} (hr : r ≠ k) (c : Fin n) : (s.reduced k).matrix r c =
      (s.pivoted k).matrix r c - (s.pivoted k).matrix r k * (s.pivoted k).matrix k c := by
  rcases lt_or_ge c k with hc | hc
  · have hzero : (s.pivoted k).matrix k c = 0 := by
      rw [pivoted_matrix hcleared, if_pos rfl, hcleared c hc,
        if_neg (hc.trans_le le_pivotRow).ne', zero_div]
    rw [hzero, mul_zero, sub_zero]
    simp [reduced, eliminateRows, hc]
  · exact eliminateRows_right hclears hr hc

lemma eliminateRows_rhs (hclears : s.ClearsColumn k) {r : Fin n} (hr : r ≠ k) :
    (s.reduced k).rhs r =
      (s.pivoted k).rhs r - (s.pivoted k).matrix r k * (s.pivoted k).rhs k := by
  simp only [reduced, eliminateRows, hr, false_or]
  by_cases hskip : (s.pivoted k).skips k r = true
  · rw [if_pos hskip, hclears r hr hskip, zero_mul, sub_zero]
  · rw [if_neg hskip]

lemma eliminateRows_residual (hclears : s.ClearsColumn k) (hcleared : s.Cleared k)
    (x : Fin n → ℝ) {r : Fin n} (hr : r ≠ k) :
    (s.reduced k).residual x r = (s.pivoted k).residual x r -
      (s.pivoted k).matrix r k * (s.pivoted k).residual x k := by
  unfold residual
  simp only [eliminateRows_matrix hclears hcleared hr, eliminateRows_rhs hclears hr, sub_mul,
    Finset.sum_sub_distrib, mul_sub, Finset.mul_sum, mul_assoc]
  ring

lemma eliminateRows_self (x : Fin n → ℝ) :
    (s.reduced k).residual x k = (s.pivoted k).residual x k := by
  simp only [residual, reduced, eliminateRows, true_or, if_true]

/-- A step keeps the solutions when it skips no factor but zeros. -/
lemma solution_step (hclears : s.ClearsColumn k) (hcleared : s.Cleared k)
    (hpivot : (findPivot s.matrix k).2 ≠ 0) (x : Fin n → ℝ) :
    (s.reduced k).Solution x ↔ s.Solution x := by
  have hdiag := pivot_ne_zero hpivot
  constructor
  · intro h
    have hk : (s.pivoted k).residual x k = 0 := (eliminateRows_self x).symm.trans (h k)
    have hp : s.residual x (s.pivotRow k) = 0 := by
      rw [pivoted_residual hcleared, if_pos rfl, div_eq_zero_iff] at hk
      exact hk.resolve_right hdiag
    intro r
    by_cases hr : r = (s.pivotRow k)
    · rw [hr, hp]
    · have hne : Equiv.swap k (s.pivotRow k) r ≠ k := by
        intro heq
        have hback := congrArg (Equiv.swap k (s.pivotRow k)) heq
        rw [Equiv.swap_apply_self, Equiv.swap_apply_left] at hback
        exact hr hback
      have hrow := h (Equiv.swap k (s.pivotRow k) r)
      rw [eliminateRows_residual hclears hcleared x hne, hk, mul_zero, sub_zero,
        pivoted_residual hcleared, if_neg hne, Equiv.swap_apply_self] at hrow
      exact hrow
  · intro h
    have hall : ∀ r, (s.pivoted k).residual x r = 0 := by
      intro r
      rw [pivoted_residual hcleared, h, h, zero_div, ite_self]
    intro r
    by_cases hr : r = k
    · rw [hr, eliminateRows_self, hall]
    · rw [eliminateRows_residual hclears hcleared x hr, hall, hall, mul_zero, sub_zero]

lemma column_step (hclears : s.ClearsColumn k) (hcleared : s.Cleared k)
    (hpivot : (findPivot s.matrix k).2 ≠ 0) {c : Fin n} (hc : c ≤ k) (r : Fin n) :
    (s.reduced k).matrix r c = if r = c then 1 else 0 := by
  have hdiag := pivot_ne_zero hpivot
  have hone : (s.pivoted k).matrix k k = 1 := by
    rw [pivoted_matrix hcleared, if_pos rfl, div_self hdiag]
  rcases hc.lt_or_eq with hc | rfl
  · have hkept : (s.reduced k).matrix r c = s.matrix r c := by
      simp [reduced, eliminateRows, pivoted, normalizeRow, swapRows, hc, hc.not_ge]
    rw [hkept, hcleared c hc]
  · by_cases hr : r = c
    · rw [if_pos hr, hr]
      simpa [reduced, eliminateRows] using hone
    · rw [if_neg hr, eliminateRows_matrix hclears hcleared hr, hone, mul_one, sub_self]

/-! ## All columns -/

/-- No step over the columns skips a factor other than zero. -/
def Clears (s : Rows ℝ n) : List (Fin n) → Prop
  | [] => True
  | k :: ks => s.ClearsColumn k ∧ (s.reduced k).Clears ks

lemma finite_exact (s : Rows ℝ n) : s.finite = true := by
  simp [finite]

lemma eliminateColumn_exact (tolerance : ℝ) (s : Rows ℝ n) (k : Fin n) :
    s.eliminateColumn tolerance k =
      if (findPivot s.matrix k).2 = 0 ∨ (findPivot s.matrix k).2 ≤ tolerance
      then .error (.numerical "singular_system") else .ok (s.reduced k) := by
  unfold eliminateColumn
  simp only [exact_eq, exact_le, finite_exact, not_true_eq_false, failIf, if_false]
  split
  · rfl
  · rfl

/-- The elimination ends with the only solution. -/
lemma run_solution {tolerance : ℝ} {ks : List (Fin n)}
    (hrun : ks.foldlM (eliminateColumn tolerance) s = .ok t) (hsorted : ks.Pairwise (· < ·))
    (hdone : ∀ c, c ∉ ks → (∀ k ∈ ks, c < k) ∧ ∀ r, s.matrix r c = if r = c then 1 else 0)
    (hclears : s.Clears ks) (x : Fin n → ℝ) : s.Solution x ↔ x = t.rhs := by
  induction ks generalizing s with
  | nil =>
    cases hrun
    have hunit : ∀ r, ∑ c, t.matrix r c * x c = x r := by
      intro r
      simp [(hdone _ not_mem_nil).2]
    simp only [Solution, residual, hunit, sub_eq_zero, funext_iff]
  | cons k ks ih =>
    obtain ⟨hk, hsorted⟩ := pairwise_cons.mp hsorted
    have hcleared : s.Cleared k := by
      intro c hc
      refine (hdone c ?_).2
      rintro (_ | ⟨_, hmem⟩)
      · exact lt_irrefl _ hc
      · exact lt_asymm hc (hk c hmem)
    rw [foldlM_cons, eliminateColumn_exact] at hrun
    split at hrun
    · cases hrun
    · next hpivot =>
      rw [not_or] at hpivot
      rw [ok_bind] at hrun
      rw [← solution_step hclears.1 hcleared hpivot.1, ih hrun hsorted ?_ hclears.2]
      intro c hc
      by_cases hck : c = k
      · exact ⟨fun i hi => hck ▸ hk i hi, column_step hclears.1 hcleared hpivot.1 hck.le⟩
      · obtain ⟨hlt, -⟩ := hdone c (by simp [hck, hc])
        exact ⟨fun i hi => hlt i (mem_cons_of_mem _ hi),
          column_step hclears.1 hcleared hpivot.1 (hlt k mem_cons_self).le⟩

/-! ## Scaled systems -/

/-- The rows not yet reached are those of `s` times a factor. -/
def Scaled (γ : ℝ) (ks : List (Fin n)) (s t : Rows ℝ n) : Prop :=
  ∀ r, (∀ c ∈ ks, t.matrix r c = (if r ∈ ks then γ else 1) * s.matrix r c) ∧
    t.rhs r = (if r ∈ ks then γ else 1) * s.rhs r

lemma findPivot_scaled {γ : ℝ} (hγ : 0 < γ)
    (h : ∀ r, k ≤ r → t.matrix r k = γ * s.matrix r k) :
    findPivot t.matrix k = ((s.pivotRow k), γ * (findPivot s.matrix k).2) := by
  have hfold : ∀ (rows : List (Fin n)), (∀ r ∈ rows, k ≤ r) → ∀ (pivot : Fin n) (best : ℝ),
      rows.foldl (pivotStep t.matrix k) (pivot, γ * best) =
        Prod.map id (γ * ·) (rows.foldl (pivotStep s.matrix k) (pivot, best)) := by
    intro rows
    induction rows with
    | nil => intro _ _ _; rfl
    | cons r rows ih =>
      intro hrows pivot best
      have hstep : pivotStep t.matrix k (pivot, γ * best) r =
          Prod.map id (γ * ·) (pivotStep s.matrix k (pivot, best) r) := by
        simp only [pivotStep, exact_abs, exact_lt, h r (hrows r mem_cons_self), abs_mul,
          abs_of_pos hγ, mul_lt_mul_iff_right₀ hγ]
        split <;> rfl
      rw [foldl_cons, foldl_cons, hstep]
      exact ih (fun i hi => hrows i (mem_cons_of_mem _ hi)) _ _
  have hstart : |t.matrix k k| = γ * |s.matrix k k| := by
    rw [h k le_rfl, abs_mul, abs_of_pos hγ]
  unfold findPivot
  rw [exact_abs, hstart]
  exact hfold _ (fun r hr => (by simpa using hr : k < r).le) k |s.matrix k k|

lemma scaled_step {γ : ℝ} (hγ : 0 < γ) {ks : List (Fin n)} (hlt : ∀ c ∈ ks, k < c)
    (hrest : ∀ r, k ≤ r → r ∈ k :: ks) (hs : s.ClearsColumn k) (ht : t.ClearsColumn k)
    (h : Scaled γ (k :: ks) s t) :
    Scaled γ ks (s.reduced k) (t.reduced k) := by
  have hnot : k ∉ ks := fun hmem => lt_irrefl k (hlt k hmem)
  have hpivot := findPivot_scaled hγ (k := k) (s := s) (t := t) fun r hr => by
    rw [(h r).1 k mem_cons_self, if_pos (hrest r hr)]
  have hrow : t.pivotRow k = s.pivotRow k := by
    rw [pivotRow, hpivot]
  have hp := hrest _ (le_pivotRow (s := s))
  have hfactor : ∀ r, r ≠ k → (if Equiv.swap k (s.pivotRow k) r ∈ k :: ks then γ else 1) =
      if r ∈ ks then γ else (1 : ℝ) := by
    intro r hr
    by_cases hrp : r = (s.pivotRow k)
    · have hmem : r ∈ ks := (mem_cons.mp (hrp ▸ hp)).resolve_left hr
      rw [hrp, Equiv.swap_apply_right, if_pos mem_cons_self, if_pos (hrp ▸ hmem)]
    · rw [Equiv.swap_apply_of_ne_of_ne hr hrp]
      simp [hr]
  have hmatrix : ∀ r, ∀ c ∈ k :: ks, (t.pivoted k).matrix r c =
      (if r ∈ ks then γ else 1) * (s.pivoted k).matrix r c := by
    intro r c hc
    have hkc : k ≤ c := by
      rcases mem_cons.mp hc with rfl | hc
      · exact le_rfl
      · exact (hlt c hc).le
    simp only [pivoted, normalizeRow, swapRows, hrow, hkc, le_refl, and_true, if_true,
      Equiv.swap_apply_left]
    by_cases hr : r = k
    · rw [if_pos hr, if_pos hr, hr, if_neg hnot, one_mul, (h _).1 c hc, (h _).1 k mem_cons_self,
        if_pos hp, mul_div_mul_left _ _ hγ.ne']
    · rw [if_neg hr, if_neg hr, (h _).1 c hc, hfactor r hr]
  have hrhs : ∀ r, (t.pivoted k).rhs r = (if r ∈ ks then γ else 1) * (s.pivoted k).rhs r := by
    intro r
    rw [pivoted_rhs, pivoted_rhs, hrow]
    by_cases hr : r = k
    · rw [if_pos hr, if_pos hr, hr, if_neg hnot, one_mul, (h _).2, (h _).1 k mem_cons_self,
        if_pos hp, mul_div_mul_left _ _ hγ.ne']
    · rw [if_neg hr, if_neg hr, (h _).2, hfactor r hr]
  intro r
  by_cases hr : r = k
  · subst hr
    constructor
    · intro c hc
      simpa [reduced, eliminateRows] using hmatrix r c (mem_cons_of_mem _ hc)
    · simpa [reduced, eliminateRows] using hrhs r
  · constructor
    · intro c hc
      rw [eliminateRows_right ht hr (hlt c hc).le, eliminateRows_right hs hr (hlt c hc).le,
        hmatrix r c (mem_cons_of_mem _ hc), hmatrix r k mem_cons_self,
        hmatrix k c (mem_cons_of_mem _ hc), if_neg hnot]
      ring
    · rw [eliminateRows_rhs ht hr, eliminateRows_rhs hs hr, hrhs r, hmatrix r k mem_cons_self,
        hrhs k, if_neg hnot]
      ring

lemma run_scaled {γ : ℝ} (hγ : 0 < γ) {tolerance : ℝ} {ks : List (Fin n)}
    (hsorted : ks.Pairwise (· < ·)) (hdone : ∀ c, c ∉ ks → ∀ k ∈ ks, c < k)
    (hs : s.Clears ks) (ht : t.Clears ks) (h : Scaled γ ks s t) :
    (ks.foldlM (eliminateColumn (γ * tolerance)) t).map rhs =
      (ks.foldlM (eliminateColumn tolerance) s).map rhs := by
  induction ks generalizing s t with
  | nil =>
    have hrhs : t.rhs = s.rhs := by
      funext r
      simpa using (h r).2
    exact congrArg Except.ok hrhs
  | cons k ks ih =>
    obtain ⟨hk, hsorted⟩ := pairwise_cons.mp hsorted
    have hrest : ∀ r, k ≤ r → r ∈ k :: ks := by
      intro r hr
      by_contra hnot
      exact (hdone r hnot k mem_cons_self).not_ge hr
    have hpivot := findPivot_scaled hγ (k := k) (s := s) (t := t) fun r hr => by
      rw [(h r).1 k mem_cons_self, if_pos (hrest r hr)]
    simp only [foldlM_cons, eliminateColumn_exact, hpivot, mul_eq_zero, hγ.ne', false_or,
      mul_le_mul_iff_right₀ hγ]
    split
    · rfl
    · refine ih hsorted ?_ hs.2 ht.2 (scaled_step hγ hk hrest hs.1 ht.1 h)
      intro c hc i hi
      by_cases hck : c = k
      · exact hck ▸ hk i hi
      · exact hdone c (by simp [hck, hc]) i (mem_cons_of_mem _ hi)

end Rows

/-! ## The solver -/

open Matrix

variable {a : DenseMatrix ℝ} {b x : List ℝ}

/-- The elimination of the matrix, with whatever right-hand side, skips no factor other than
    zero. -/
def DenseMatrix.Clears (a : DenseMatrix ℝ) : Prop :=
  ∀ b, (a.system b a.rows.length).Clears (finRange a.rows.length)

lemma asVector_ofFn (f : Fin n → ℝ) : asVector n (List.ofFn f) = f := by
  funext i
  simp [asVector, getD_eq_getElem?_getD]

lemma solve_eq (a : DenseMatrix ℝ) (b : List ℝ) : solve a b =
    if a.rows = [] ∨ a.rows.length ≠ a.cols ∨ a.rows.length ≠ b.length
    then .error (invalid "linear_solve_shape")
    else (((a.system b a.rows.length).run (singularityTolerance a)).map Rows.rhs).map
      List.ofFn := by
  unfold solve DenseMatrix.validate
  simp only [DenseMatrix.finite_exact, not_true_eq_false, failIf, if_false, exact_any_infinite,
    Bool.false_eq_true, or_false]
  split
  · rfl
  · cases (a.system b a.rows.length).run (singularityTolerance a) <;> rfl

lemma system_solution (y : Fin n → ℝ) : (a.system b n).Solution y ↔
    asMatrix n a.rows *ᵥ y = asVector n b := by
  simp only [Rows.Solution, Rows.residual, sub_eq_zero, funext_iff]
  rfl

lemma solve_solution (hn : a.rows.length = n) (hclears : a.Clears) (h : solve a b = .ok x) :
    x.length = n ∧ ∀ y, asMatrix n a.rows *ᵥ y = asVector n b ↔ y = asVector n x := by
  subst hn
  rw [solve_eq] at h
  split at h
  · cases h
  · cases hrun : (a.system b a.rows.length).run (singularityTolerance a) with
    | error e =>
      rw [hrun] at h
      cases h
    | ok t =>
      rw [hrun] at h
      cases h
      refine ⟨length_ofFn, ?_⟩
      intro y
      rw [← system_solution, asVector_ofFn]
      exact Rows.run_solution hrun (pairwise_lt_finRange _)
        (fun c hc => absurd (mem_finRange c) hc) (hclears b) y

def DenseMatrix.scale (a : DenseMatrix ℝ) (γ : ℝ) : DenseMatrix ℝ where
  rows := a.rows.map fun row => row.map (γ * ·)
  cols := a.cols
  shape := by
    intro row hrow
    obtain ⟨row, hmem, rfl⟩ := mem_map.mp hrow
    rw [length_map, a.shape row hmem]

lemma maxAbs_scale {γ : ℝ} (hγ : 0 ≤ γ) (values : List ℝ) :
    maxAbs (values.map (γ * ·)) = γ * maxAbs values := by
  have hfold : ∀ (values : List ℝ) (best : ℝ),
      (values.map (γ * ·)).foldl (fun best value => Scalar.max best (Scalar.abs value)) (γ * best) =
        γ * values.foldl (fun best value => Scalar.max best (Scalar.abs value)) best := by
    intro values
    induction values with
    | nil => intro _; rfl
    | cons v values ih =>
      intro best
      simp only [map_cons, foldl_cons, exact_max, exact_abs, abs_mul, abs_of_nonneg hγ,
        ← mul_max_of_nonneg _ _ hγ]
      exact ih _
  have h := hfold values 0
  rwa [mul_zero] at h

lemma get_scale (γ : ℝ) (r c : Nat) : (a.scale γ).get r c = γ * a.get r c := by
  simp only [DenseMatrix.get, DenseMatrix.scale, getD_eq_getElem?_getD, getElem?_map]
  cases a.rows[r]? with
  | none => simp
  | some row => cases hc : row[c]? <;> simp [hc]

lemma solve_scale {γ : ℝ} (hγ : 0 < γ) (hclears : a.Clears) (hscaled : (a.scale γ).Clears) :
    solve (a.scale γ) (b.map (γ * ·)) = solve a b := by
  have hlength : (a.scale γ).rows.length = a.rows.length := length_map _
  have htolerance : singularityTolerance (a.scale γ) = γ * singularityTolerance a := by
    have hdata : (a.scale γ).data = a.data.map (γ * ·) := by
      simp [DenseMatrix.data, DenseMatrix.scale, map_flatten]
    simp only [singularityTolerance, hdata, maxAbs_scale hγ.le, hlength]
    ring
  have hempty : (a.scale γ).rows = [] ↔ a.rows = [] := map_eq_nil_iff
  have hclears' := hscaled (b.map (γ * ·))
  rw [solve_eq, solve_eq, htolerance]
  rw [hlength] at hclears' ⊢
  simp only [hempty, length_map]
  refine ite_congr rfl (fun _ => rfl) fun _ => congrArg (Except.map List.ofFn) ?_
  refine Rows.run_scaled hγ (pairwise_lt_finRange _) (fun c hc => absurd (mem_finRange c) hc)
    (hclears b) hclears' ?_
  intro r
  simp only [mem_finRange, if_true]
  refine ⟨fun c _ => get_scale γ r c, ?_⟩
  show (b.map (γ * ·)).getD r 0 = γ * b.getD r 0
  simp only [getD_eq_getElem?_getD, getElem?_map]
  cases b[(r : Nat)]? <;> simp

/-! ## Ridges -/

lemma asMatrix_ridge (hn : a.rows.length = n) (ridge : ℝ) :
    asMatrix n (ridgeMatrix a ridge).rows = asMatrix n a.rows + ridge • 1 := by
  subst hn
  ext i j
  rw [ridgeMatrix, asMatrix_squareMatrix]
  by_cases hij : i = j
  · subst hij
    simp [asMatrix, DenseMatrix.get]
  · simp [asMatrix, DenseMatrix.get, hij, Fin.val_ne_of_ne hij]

lemma ridgeMatrix_length (ridge : ℝ) : (ridgeMatrix a ridge).rows.length = a.rows.length :=
  (squareMatrix_square _ _).rows_length

lemma inverse_exact (hn : a.rows.length = n) {ridge : ℝ} {m : DenseMatrix ℝ}
    (hclears : (ridgeMatrix a ridge).Clears) (h : inverseWithRidge a ridge = .ok m) :
    (asMatrix n a.rows + ridge • 1) * asMatrix n m.rows = 1 := by
  simp only [inverseWithRidge, bind_ok, failIf_ok, pure_ok, mapM_ok] at h
  obtain ⟨-, -, -, -, columns, hcolumns, rfl⟩ := h
  subst hn
  rw [← asMatrix_ridge rfl]
  ext i j
  have hlength := hcolumns.length_eq
  rw [List.length_range] at hlength
  have hcolumn : solve (ridgeMatrix a ridge)
      ((List.range a.rows.length).map fun r : Nat => if r = (j : Nat) then 1 else 0) =
        .ok (columns.getD j []) := by
    have hj : (j : Nat) < columns.length := hlength ▸ j.isLt
    have hget := (forall₂_iff_get.mp hcolumns).2 j (by simp) hj
    rw [getD_eq_getElem _ _ hj]
    simpa using hget
  have hsolved := ((solve_solution (ridgeMatrix_length ridge) hclears hcolumn).2 _).mpr rfl
  rw [Matrix.one_apply, Matrix.mul_apply]
  refine Eq.trans ?_ ((congrFun hsolved i).trans ?_)
  · refine Finset.sum_congr rfl fun k _ => ?_
    rw [asMatrix_squareMatrix]
    rfl
  · simp [asVector, getD_eq_getElem?_getD, Fin.ext_iff]

noncomputable def designMatrix (x : DenseMatrix ℝ) : Matrix (Fin x.rows.length) (Fin x.cols) ℝ :=
  Matrix.of fun r c => x.get r c

lemma overRows_exact (x : DenseMatrix ℝ) (term : Nat → ℝ) :
    overRows x term = ∑ r : Fin x.rows.length, term r := by
  rw [overRows, sumFrom_exact, zero_add, ← Finset.sum_range]
  rfl

lemma normalMatrix_length (x : DenseMatrix ℝ) (weights : List ℝ) (ridge : ℝ) :
    (normalMatrix x weights ridge).rows.length = x.cols :=
  (squareMatrix_square _ _).rows_length

lemma weighted_exact {x : DenseMatrix ℝ} {y weights v : List ℝ} {ridge : ℝ}
    (hclears : (normalMatrix x weights ridge).Clears)
    (h : weightedNormalSolve x y weights ridge = .ok v) (u : Fin x.cols → ℝ) :
    ((designMatrix x)ᵀ * diagonal (asVector x.rows.length weights) * designMatrix x + ridge • 1) *ᵥ u
        = (designMatrix x)ᵀ *ᵥ (diagonal (asVector x.rows.length weights) *ᵥ
          asVector x.rows.length y) ↔ u = asVector x.cols v := by
  simp only [weightedNormalSolve, bind_ok, failIf_ok] at h
  obtain ⟨-, -, -, -, h⟩ := h
  rw [← (solve_solution (normalMatrix_length x weights ridge) hclears h).2 u]
  have hmatrix : asMatrix x.cols (normalMatrix x weights ridge).rows =
      (designMatrix x)ᵀ * diagonal (asVector x.rows.length weights) * designMatrix x +
        ridge • 1 := by
    ext i j
    rw [normalMatrix, asMatrix_squareMatrix, overRows_exact]
    have hentry : ((designMatrix x)ᵀ * diagonal (asVector x.rows.length weights) *
        designMatrix x) i j =
          ∑ r : Fin x.rows.length, weights.getD r 0 * x.get r i * x.get r j := by
      rw [Matrix.mul_apply]
      refine Finset.sum_congr rfl fun r _ => ?_
      rw [mul_diagonal, mul_comm (_ᵀ i r)]
      rfl
    rw [Matrix.add_apply, hentry, Matrix.smul_apply, Matrix.one_apply]
    by_cases hij : i = j
    · simp [hij]
    · simp [hij, Fin.val_ne_of_ne hij]
  have hrhs : asVector x.cols (normalRhs x y weights) = (designMatrix x)ᵀ *ᵥ
      (diagonal (asVector x.rows.length weights) *ᵥ asVector x.rows.length y) := by
    funext i
    have hentry : asVector x.cols (normalRhs x y weights) i =
        ∑ r : Fin x.rows.length, weights.getD r 0 * x.get r i * y.getD r 0 := by
      simp [asVector, normalRhs, overRows_exact, getD_eq_getElem?_getD]
    rw [hentry]
    refine Finset.sum_congr rfl fun r _ => ?_
    rw [mulVec_diagonal, mul_comm _ (x.get r i), mul_assoc]
    rfl
  rw [hmatrix, hrhs]

/-- **Solving is exact** while the elimination skips no factor but zeros: the result is the
    only solution, scaling the system does not change the outcome, and the order of the
    equations not the solution. So are the inverse and the weighted solution. -/
theorem solving_exact (a : DenseMatrix ℝ) (b : List ℝ) :
    (∀ x, a.Clears → solve a b = .ok x → x.length = a.rows.length ∧
      ∀ y, asMatrix a.rows.length a.rows *ᵥ y = asVector a.rows.length b ↔
        y = asVector a.rows.length x) ∧
    (∀ γ > 0, a.Clears → (a.scale γ).Clears → solve (a.scale γ) (b.map (γ * ·)) = solve a b) ∧
    (∀ (order : Equiv.Perm (Fin a.rows.length)) (a' : DenseMatrix ℝ) (b' x x' : List ℝ),
      a'.rows.length = a.rows.length →
      asMatrix a.rows.length a'.rows = (asMatrix a.rows.length a.rows).submatrix order id →
      asVector a.rows.length b' = asVector a.rows.length b ∘ order →
      a.Clears → a'.Clears → solve a b = .ok x → solve a' b' = .ok x' → x' = x) ∧
    (∀ ridge m, (ridgeMatrix a ridge).Clears → inverseWithRidge a ridge = .ok m →
      (asMatrix a.rows.length a.rows + ridge • 1) * asMatrix a.rows.length m.rows = 1) ∧
    ∀ y weights ridge v, (normalMatrix a weights ridge).Clears →
      weightedNormalSolve a y weights ridge = .ok v → ∀ u,
        ((designMatrix a)ᵀ * diagonal (asVector a.rows.length weights) * designMatrix a +
          ridge • 1) *ᵥ u = (designMatrix a)ᵀ *ᵥ (diagonal (asVector a.rows.length weights) *ᵥ
            asVector a.rows.length y) ↔ u = asVector a.cols v := by
  refine ⟨fun x hclears h => solve_solution rfl hclears h,
    fun γ hγ hclears hscaled => solve_scale hγ hclears hscaled, ?_,
    fun ridge m hclears h => inverse_exact rfl hclears h,
    fun y weights ridge v hclears h u => weighted_exact hclears h u⟩
  intro order a' b' x x' hn hmatrix hrhs hclears hclears' h h'
  obtain ⟨hlength, hx⟩ := solve_solution rfl hclears h
  obtain ⟨hlength', hx'⟩ := solve_solution hn hclears' h'
  have hsolved := (hx (asVector _ x)).mpr rfl
  have heq : asVector a.rows.length x = asVector a.rows.length x' := by
    rw [← hx', hmatrix, hrhs, ← hsolved]
    rfl
  refine List.ext_getElem (hlength'.trans hlength.symm) ?_
  intro i hi' hi
  have hentry := congrFun heq ⟨i, hlength ▸ hi⟩
  simpa [asVector, getD_eq_getElem?_getD, hi, hi'] using hentry.symm

/-- The identity but for one entry. -/
noncomputable def nearIdentity (ε : ℝ) : DenseMatrix ℝ :=
  squareMatrix 2 fun r c => if r = c then 1 else if r = 1 then ε else 0

section

variable {ε : ℝ} (b : List ℝ)

lemma nearIdentity_matrix (r c : Fin 2) : ((nearIdentity ε).system b 2).matrix r c =
    if r = c then 1 else if r = 1 then ε else 0 := by
  fin_cases r <;> fin_cases c <;>
    simp [DenseMatrix.system, DenseMatrix.get, nearIdentity, squareMatrix]

variable (hzero : 0 ≤ ε) (hsmall : ε < 1 / 10 ^ 18)
include hzero hsmall

lemma nearIdentity_pivot (k : Fin 2) :
    findPivot ((nearIdentity ε).system b 2).matrix k = (k, 1) := by
  have hone : |ε| ≤ 1 := by
    rw [abs_of_nonneg hzero]
    exact hsmall.le.trans (by norm_num)
  fin_cases k <;> simp [findPivot, pivotStep, nearIdentity_matrix, finRange_succ, hone]

lemma nearIdentity_pivoted (k : Fin 2) :
    ((nearIdentity ε).system b 2).pivoted k = (nearIdentity ε).system b 2 := by
  have hdiag : ((nearIdentity ε).system b 2).matrix k k = 1 := by
    rw [nearIdentity_matrix, if_pos rfl]
  simp only [Rows.pivoted, Rows.pivotRow, nearIdentity_pivot b hzero hsmall,
    Rows.swapRows, Equiv.swap_self, Equiv.refl_apply, ite_self, Rows.normalizeRow, hdiag, div_one]
  refine Rows.ext ?_ ?_
  · funext r c
    exact ite_eq_right_iff.mpr fun h => by rw [h.1]
  · funext r
    exact ite_eq_right_iff.mpr fun h => by rw [h]

lemma nearIdentity_step (k : Fin 2) :
    ((nearIdentity ε).system b 2).reduced k = (nearIdentity ε).system b 2 := by
  have hskips : ∀ r, r = k ∨ ((nearIdentity ε).system b 2).skips k r = true := by
    intro r
    by_cases hr : r = k
    · exact .inl hr
    · refine .inr ?_
      rw [Rows.skips, exact_lt, exact_abs, nearIdentity_matrix, if_neg hr, exact_lit]
      split
      · simpa [abs_of_nonneg hzero] using hsmall
      · norm_num
  rw [Rows.reduced, nearIdentity_pivoted b hzero hsmall]
  refine Rows.ext ?_ ?_
  · funext r c
    exact if_pos ((hskips r).imp_right .inl)
  · funext r
    exact if_pos (hskips r)

/-- The elimination skips the small entry. -/
lemma solve_nearIdentity : solve (nearIdentity ε) [1, 1] = .ok [1, 1] := by
  have htolerance : singularityTolerance (nearIdentity ε) < 1 := by
    have hone : |ε| ≤ 1 := by
      rw [abs_of_nonneg hzero]
      exact hsmall.le.trans (by norm_num)
    simp [singularityTolerance, DenseMatrix.data, nearIdentity, squareMatrix, maxAbs, range_succ,
      hone]
    norm_num
  have hcolumn : ∀ k, ((nearIdentity ε).system [1, 1] 2).eliminateColumn
      (singularityTolerance (nearIdentity ε)) k = .ok ((nearIdentity ε).system [1, 1] 2) := by
    intro k
    rw [Rows.eliminateColumn_exact, nearIdentity_pivot _ hzero hsmall,
      if_neg (by simp [htolerance]), nearIdentity_step _ hzero hsmall]
  rw [solve_eq, if_neg (by simp [nearIdentity, squareMatrix, range_succ])]
  have hrun : ((nearIdentity ε).system [1, 1] 2).run (singularityTolerance (nearIdentity ε)) =
      .ok ((nearIdentity ε).system [1, 1] 2) := by
    simp [Rows.run, finRange_succ, hcolumn]
  exact congrArg (fun run => (run.map Rows.rhs).map List.ofFn) hrun

end

theorem solving_exact_identity :
    asMatrix 2 (nearIdentity 0).rows *ᵥ asVector 2 [1, 1] = asVector 2 [1, 1] := by
  have hclears : (nearIdentity 0).Clears := by
    intro b
    have hall : ∀ ks, ((nearIdentity 0).system b 2).Clears ks := by
      intro ks
      induction ks with
      | nil => trivial
      | cons k ks ih =>
        refine ⟨fun r hr _ => ?_, (nearIdentity_step b le_rfl (by norm_num) k).symm ▸ ih⟩
        rw [nearIdentity_pivoted b le_rfl (by norm_num), nearIdentity_matrix, if_neg hr, ite_self]
    exact hall _
  exact (((solving_exact (nearIdentity 0) [1, 1]).1 [1, 1] hclears
    (solve_nearIdentity le_rfl (by norm_num))).2 _).mpr rfl

/-- The rows tie for the first pivot. -/
noncomputable def tied (t p q : ℝ) : DenseMatrix ℝ :=
  ⟨[[1, p, 0], [1, q, 0], [1, t + t, 1]], 3, by simp⟩

section

lemma run_columns (s : Rows ℝ 3) (tolerance : ℝ) :
    s.run tolerance = [0, 1, 2].foldlM (Rows.eliminateColumn tolerance) s := by
  rw [Rows.run, show finRange 3 = [0, 1, 2] by decide]

lemma run_cons {s : Rows ℝ 3} {k : Fin 3} {ks : List (Fin 3)} {tolerance pivot : ℝ}
    (hpivot : (findPivot s.matrix k).2 = pivot) (hpos : 0 < tolerance) (h : tolerance < pivot) :
    (k :: ks).foldlM (Rows.eliminateColumn tolerance) s =
      ks.foldlM (Rows.eliminateColumn tolerance) (s.reduced k) := by
  rw [foldlM_cons, Rows.eliminateColumn_exact, hpivot, if_neg]
  · rfl
  · exact not_or.mpr ⟨(hpos.trans h).ne', h.not_ge⟩

variable {t : ℝ} (p q : ℝ)

lemma tied_matrix : ((tied t p q).system [0, 0, 0] 3).matrix =
    ![![1, p, 0], ![1, q, 0], ![1, t + t, 1]] := by
  funext r c
  fin_cases r <;> fin_cases c <;> rfl

lemma tied_pivot : findPivot ((tied t p q).system [0, 0, 0] 3).matrix 0 = (0, 1) := by
  have hrows : (finRange 3).filter ((0 : Fin 3) < ·) = [1, 2] := by decide
  simp [findPivot, hrows, pivotStep, tied_matrix]

lemma tied_reduced : (((tied t p q).system [0, 0, 0] 3).reduced 0).matrix =
    ![![1, p, 0], ![0, q - p, 0], ![0, t + t - p, 1]] := by
  have hrow : ((tied t p q).system [0, 0, 0] 3).pivotRow 0 = 0 :=
    congrArg Prod.fst (tied_pivot p q)
  funext r c
  fin_cases r <;> fin_cases c <;>
    norm_num [Rows.reduced, Rows.eliminateRows, Rows.pivoted, hrow, Rows.normalizeRow,
      Rows.swapRows, Rows.skips, tied_matrix]

variable (ht : t = 3 / 2 ^ 52)

include ht

lemma tied_tolerance (hp : |p| ≤ 1) (hq : |q| ≤ 1) : singularityTolerance (tied t p q) = t := by
  have hsmall : |t + t| ≤ 1 := by norm_num [ht]
  simp only [singularityTolerance, DenseMatrix.data, tied, maxAbs]
  norm_num [hp, hq, hsmall]
  norm_num [ht]

lemma tied_refused : solve (tied t t 0) [0, 0, 0] = .error (.numerical "singular_system") := by
  have hpos : 0 < t := by norm_num [ht]
  have habs : |t| = t := abs_of_pos hpos
  have hone : t < 1 := by norm_num [ht]
  have hpivot : (findPivot (((tied t t 0).system [0, 0, 0] 3).reduced 0).matrix 1).2 = t := by
    have hrows : (finRange 3).filter ((1 : Fin 3) < ·) = [2] := by decide
    simp [findPivot, hrows, pivotStep, tied_reduced, habs]
  rw [solve_eq, if_neg (by simp [tied]), tied_tolerance t 0 ht (habs.trans_le hone.le) (by simp)]
  have hrun : ((tied t t 0).system [0, 0, 0] 3).run t = .error (.numerical "singular_system") := by
    rw [run_columns, run_cons (congrArg Prod.snd (tied_pivot t 0)) hpos hone, foldlM_cons,
      Rows.eliminateColumn_exact, hpivot, if_pos (.inr le_rfl)]
    rfl
  exact congrArg (fun run => (run.map Rows.rhs).map List.ofFn) hrun

lemma tied_solved : ∃ x, solve (tied t 0 t) [0, 0, 0] = .ok x := by
  have hpos : 0 < t := by norm_num [ht]
  have habs : |t| = t := abs_of_pos hpos
  have hone : t < 1 / 2 := by norm_num [ht]
  have hskip : 1 ≤ t * 10 ^ 18 := by norm_num [ht]
  obtain ⟨s, hs⟩ : ∃ s, s = ((tied t 0 t).system [0, 0, 0] 3).reduced 0 := ⟨_, rfl⟩
  have hmatrix : s.matrix = ![![1, 0, 0], ![0, t, 0], ![0, t + t, 1]] := by
    simpa [hs] using tied_reduced 0 t
  have hpivot : findPivot s.matrix 1 = (2, t + t) := by
    have hlast : |t + t| = t + t := abs_of_pos (add_pos hpos hpos)
    have hrows : (finRange 3).filter ((1 : Fin 3) < ·) = [2] := by decide
    simp [findPivot, hrows, pivotStep, hmatrix, habs, hlast, hpos]
  have hlast : (s.reduced 1).matrix 2 2 = -1 / 2 := by
    have hrow : s.pivotRow 1 = 2 := congrArg Prod.fst hpivot
    simp [Rows.reduced, Rows.eliminateRows, Rows.pivoted, hrow, Rows.normalizeRow,
      Rows.swapRows, Rows.skips, hmatrix, Equiv.swap_apply_def, habs]
    field_simp
    rw [if_neg hskip.not_gt]
    norm_num
  have hthird : (findPivot (s.reduced 1).matrix 2).2 = 1 / 2 := by
    have hrows : (finRange 3).filter ((2 : Fin 3) < ·) = [] := by decide
    norm_num [findPivot, hrows, hlast]
  refine ⟨List.ofFn ((s.reduced 1).reduced 2).rhs, ?_⟩
  rw [solve_eq, if_neg (by simp [tied]), tied_tolerance 0 t ht (by simp) (by linarith)]
  have hrun : ((tied t 0 t).system [0, 0, 0] 3).run t = .ok ((s.reduced 1).reduced 2) := by
    rw [run_columns, run_cons (congrArg Prod.snd (tied_pivot 0 t)) hpos (by linarith), ← hs,
      run_cons (congrArg Prod.snd hpivot) hpos (by linarith), run_cons hthird hpos hone]
    rfl
  exact congrArg (fun run => (run.map Rows.rhs).map List.ofFn) hrun

end

/-- A skipped factor leaves a wrong result, and the order of two equations can decide whether
    there is a result. -/
theorem solving_inexact : (solve (nearIdentity (1 / 10 ^ 19)) [1, 1] = .ok [1, 1] ∧
      asMatrix 2 (nearIdentity (1 / 10 ^ 19)).rows *ᵥ asVector 2 [1, 1] ≠ asVector 2 [1, 1]) ∧
    solve (tied (3 / 2 ^ 52) (3 / 2 ^ 52) 0) [0, 0, 0] = .error (.numerical "singular_system") ∧
    ∃ x, solve (tied (3 / 2 ^ 52) 0 (3 / 2 ^ 52)) [0, 0, 0] = .ok x := by
  refine ⟨⟨solve_nearIdentity (by norm_num) (by norm_num), ?_⟩, tied_refused rfl, tied_solved rfl⟩
  intro h
  have hrow := congrFun h 1
  simp [mulVec, dotProduct, asMatrix, asVector, nearIdentity, squareMatrix, range_succ] at hrow

end

end Tidex
