/-
  Foundation.Exact — the numerical code over exact reals.
-/
import Tidex.Foundation.Linalg
import Tidex.Lib.Downdate
import Mathlib.Analysis.Matrix.PosDef
import Mathlib.Data.List.GetD

namespace Tidex

open Tidex.Lib List

/-! ## The arithmetic -/

def asMatrix {K : Type} [Zero K] (n : Nat) (rows : List (List K)) : Matrix (Fin n) (Fin n) K :=
  Matrix.of fun i j => (rows.getD i []).getD j 0

open Classical in
/-- The spectral decomposition of a symmetric real matrix. -/
noncomputable def spectralPairs (n : Nat) (rows : List (List ℝ)) : Option (List (ℝ × List ℝ)) :=
  if h : (asMatrix n rows).IsHermitian then
    some (List.ofFn fun i => (h.eigenvalues i, List.ofFn fun j => h.eigenvectorBasis i j))
  else none

open Classical in
noncomputable instance exactReals : Spectral ℝ where
  lit m e := m / 10 ^ e
  epsilon := 1 / 2 ^ 52
  abs x := |x|
  sqrt := Real.sqrt
  ln := Real.log
  max := max
  min := min
  lt a b := decide (a < b)
  eq a b := decide (a = b)
  isFinite _ := true
  selfAdjointEigen m := spectralPairs m.rows.length m.rows

section

variable (a b : ℝ)

@[simp] lemma exact_lit (m e : Nat) : (Scalar.lit m e : ℝ) = m / 10 ^ e := rfl
@[simp] lemma exact_epsilon : (Scalar.epsilon : ℝ) = 1 / 2 ^ 52 := rfl
@[simp] lemma exact_abs : Scalar.abs a = |a| := rfl
@[simp] lemma exact_sqrt : Scalar.sqrt a = Real.sqrt a := rfl
@[simp] lemma exact_max : Scalar.max a b = max a b := rfl
@[simp] lemma exact_min : Scalar.min a b = min a b := rfl
@[simp] lemma exact_isFinite : Scalar.isFinite a = true := rfl

@[simp] lemma exact_lt : Scalar.lt a b = true ↔ a < b := by
  show decide (a < b) = true ↔ a < b
  rw [decide_eq_true_iff]

@[simp] lemma exact_eq : Scalar.eq a b = true ↔ a = b := by
  show decide (a = b) = true ↔ a = b
  rw [decide_eq_true_iff]

@[simp] lemma exact_le : Scalar.le a b = true ↔ a ≤ b := by
  unfold Scalar.le
  rw [Bool.or_eq_true, exact_lt, exact_eq, le_iff_lt_or_eq]

end

@[simp] lemma exact_any_infinite (a : List ℝ) :
    (a.any fun value => !Scalar.isFinite value) = false := by
  rw [any_eq_false]
  intro x _
  simp

/-! ## Vectors -/

lemma sumFrom_exact (start : ℝ) (a : List ℝ) : sumFrom start a = start + a.sum := by
  unfold sumFrom
  induction a generalizing start with
  | nil => simp
  | cons x a ih =>
    rw [foldl_cons, ih, sum_cons]
    exact add_assoc _ _ _

lemma maxAbs_spec (a : List ℝ) : 0 ≤ maxAbs a ∧ ∀ x ∈ a, |x| ≤ maxAbs a := by
  have hgeneral : ∀ (rest : List ℝ) (best : ℝ),
      best ≤ rest.foldl (fun best value => Scalar.max best (Scalar.abs value)) best ∧
        ∀ x ∈ rest, |x| ≤ rest.foldl (fun best value => Scalar.max best (Scalar.abs value)) best := by
    intro rest
    induction rest with
    | nil => intro best; simp
    | cons y rest ih =>
      intro best
      rw [foldl_cons]
      obtain ⟨hbest, hrest⟩ := ih (Scalar.max best (Scalar.abs y))
      refine ⟨le_trans (le_max_left best |y|) hbest, ?_⟩
      intro x hx
      rcases mem_cons.mp hx with rfl | hx
      · exact le_trans (le_max_right best |x|) hbest
      · exact hrest x hx
  exact hgeneral a 0

variable {a : List ℝ}

lemma eq_zero_of_maxAbs (h : maxAbs a = 0) : ∀ x ∈ a, x = 0 := by
  intro x hx
  have hle := (maxAbs_spec a).2 x hx
  rw [h] at hle
  exact abs_nonpos_iff.mp hle

lemma compensatedSum_exact (a : List ℝ) : compensatedSum a = .ok a.sum := by
  -- the correction stays zero, since nothing is lost
  have hsteps : ∀ (rest : List ℝ) (sum : ℝ),
      rest.foldlM compensatedStep (sum, 0) = .ok (sum + rest.sum, (0 : ℝ)) := by
    intro rest
    induction rest with
    | nil => intro sum; simp [pure, Except.pure]
    | cons x rest ih =>
      intro sum
      have hstep : compensatedStep (sum, (0 : ℝ)) x = .ok (sum + x, 0) := by
        unfold compensatedStep
        simp only [exact_isFinite, not_true_eq_false, failIf, if_false, ok_bind]
        split <;> simp [pure, Except.pure]
      rw [foldlM_cons, hstep, ok_bind, ih, sum_cons, add_assoc]
  unfold compensatedSum
  rw [hsteps, ok_bind]
  simp [failIf, pure, Except.pure]

variable {a b : List ℝ}

lemma dot_exact (h : a.length = b.length) : dot a b = .ok (zipWith (· * ·) a b).sum := by
  have hzero : ∀ (a b : List ℝ), ((∀ x ∈ a, x = 0) ∨ ∀ x ∈ b, x = 0) →
      (zipWith (· * ·) a b).sum = 0 := by
    intro a
    induction a with
    | nil => intro b _; simp
    | cons x a ih =>
      intro b hb
      cases b with
      | nil => simp
      | cons y b =>
        rw [zipWith_cons_cons, sum_cons]
        rcases hb with hb | hb
        · rw [hb x mem_cons_self, ih b (.inl fun z hz => hb z (mem_cons_of_mem _ hz))]
          ring
        · rw [hb y mem_cons_self, ih b (.inr fun z hz => hb z (mem_cons_of_mem _ hz))]
          ring
  have hscaled : ∀ (s t : ℝ), s ≠ 0 → t ≠ 0 → ∀ a b : List ℝ,
      (zipWith (fun left right => left / s * (right / t)) a b).sum * s * t =
        (zipWith (· * ·) a b).sum := by
    intro s t hs ht a
    induction a with
    | nil => intro b; simp
    | cons x a ih =>
      intro b
      cases b with
      | nil => simp
      | cons y b =>
        rw [zipWith_cons_cons, zipWith_cons_cons, sum_cons, sum_cons, ← ih b]
        field_simp
  unfold dot
  simp only [h, ne_eq, not_true_eq_false, exact_any_infinite, Bool.false_eq_true, or_self, failIf,
    if_false, ok_bind]
  by_cases hscale : (Scalar.eq (maxAbs a) 0 || Scalar.eq (maxAbs b) 0) = true
  · rw [if_pos hscale]
    rw [Bool.or_eq_true, exact_eq, exact_eq] at hscale
    rw [hzero a b (hscale.imp eq_zero_of_maxAbs eq_zero_of_maxAbs)]
    rfl
  · rw [if_neg hscale, compensatedSum_exact, ok_bind]
    rw [Bool.or_eq_true, exact_eq, exact_eq, not_or] at hscale
    simp only [exact_isFinite, not_true_eq_false, if_false, ok_bind]
    rw [hscaled _ _ hscale.1 hscale.2]
    rfl

lemma norm_exact (h : a ≠ []) : norm a = .ok (Real.sqrt (a.map fun x => x * x).sum) := by
  unfold norm
  have hempty : a.isEmpty = false := by
    rw [isEmpty_eq_false_iff]
    exact h
  simp only [hempty, exact_any_infinite, Bool.false_eq_true, or_self, failIf, if_false, ok_bind]
  by_cases hscale : Scalar.eq (maxAbs a) 0 = true
  · rw [if_pos hscale]
    rw [exact_eq] at hscale
    have hsum : (a.map fun x => x * x).sum = 0 := by
      rw [sum_eq_zero]
      intro y hy
      obtain ⟨x, hx, rfl⟩ := mem_map.mp hy
      rw [eq_zero_of_maxAbs hscale x hx, mul_zero]
    rw [hsum, Real.sqrt_zero]
    rfl
  · rw [if_neg hscale]
    rw [exact_eq] at hscale
    simp only [exact_isFinite, not_true_eq_false, if_false, ok_bind]
    have hpos : 0 < maxAbs a := lt_of_le_of_ne (maxAbs_spec a).1 (Ne.symm hscale)
    have hsum : (a.map fun value => value / maxAbs a * (value / maxAbs a)).sum =
        (a.map fun x => x * x).sum / (maxAbs a * maxAbs a) := by
      rw [div_eq_mul_inv, ← sum_map_mul_right]
      congr 1
      refine map_congr_left ?_
      intro x _
      rw [div_mul_div_comm, div_eq_mul_inv]
    rw [sumFrom_exact, hsum, exact_sqrt, zero_add, Real.sqrt_div' _ (by positivity),
      Real.sqrt_mul_self hpos.le, mul_div_cancel₀ _ hpos.ne']
    rfl

lemma normalize_exact (h : 0 < (a.map fun x => x * x).sum) :
    normalize a = .ok (a.map (· / Real.sqrt (a.map fun x => x * x).sum)) := by
  have hne : a ≠ [] := by
    intro hnil
    rw [hnil] at h
    simp at h
  unfold normalize
  rw [norm_exact hne, ok_bind]
  have hroot : Real.sqrt (a.map fun x => x * x).sum ≠ 0 := (Real.sqrt_pos.mpr h).ne'
  simp only [exact_eq, hroot, exact_any_infinite, failIf, Bool.false_eq_true, if_false, ok_bind]
  rfl

/-! ## Matrices -/

def asVector {K : Type} [Zero K] (n : Nat) (a : List K) : Fin n → K :=
  fun i => a.getD i 0

variable {n : Nat}

lemma sum_zipWith_eq (ha : a.length = n) (hb : b.length = n) :
    (zipWith (· * ·) a b).sum = asVector n a ⬝ᵥ asVector n b := by
  induction n generalizing a b with
  | zero =>
    rw [length_eq_zero_iff] at ha
    subst ha
    simp [dotProduct]
  | succ n ih =>
    obtain ⟨x, a, rfl⟩ := exists_cons_of_length_eq_add_one ha
    obtain ⟨y, b, rfl⟩ := exists_cons_of_length_eq_add_one hb
    rw [zipWith_cons_cons, sum_cons, ih (by simpa using ha) (by simpa using hb)]
    unfold dotProduct
    rw [Fin.sum_univ_succ]
    rfl

lemma dot_asVector (ha : a.length = n) (hb : b.length = n) :
    dot a b = .ok (asVector n a ⬝ᵥ asVector n b) := by
  rw [dot_exact (ha.trans hb.symm), sum_zipWith_eq ha hb]

namespace DenseMatrix

@[simp] lemma finite_exact (m : DenseMatrix ℝ) : m.finite = true := by
  unfold finite
  rw [all_eq_true]
  intro row _
  rw [all_eq_true]
  intro x _
  rfl

/-- A square matrix of a given dimension. -/
structure Square {K : Type} (n : Nat) (m : DenseMatrix K) : Prop where
  rows_length : m.rows.length = n
  cols_eq : m.cols = n

lemma matvec_exact {n : Nat} {m : DenseMatrix ℝ} (hm : m.Square n) {v : List ℝ}
    (hv : v.length = n) :
    ∃ q, m.matvec v = .ok q ∧ q.length = n ∧ asVector n q = (asMatrix n m.rows).mulVec (asVector n v) := by
  have hrows : ∀ rows : List (List ℝ), (∀ row ∈ rows, row.length = n) →
      rows.mapM (fun row => dot row v) =
        .ok (rows.map fun row => asVector n row ⬝ᵥ asVector n v) := by
    intro rows
    induction rows with
    | nil => intro _; rfl
    | cons row rows ih =>
      intro hshape
      rw [mapM_cons, dot_asVector (hshape row mem_cons_self) hv, ok_bind,
        ih fun r hr => hshape r (mem_cons_of_mem _ hr), ok_bind]
      rfl
  have hshape : ∀ row ∈ m.rows, row.length = n := by
    intro row hrow
    rw [m.shape row hrow, hm.cols_eq]
  refine ⟨m.rows.map fun row => asVector n row ⬝ᵥ asVector n v, ?_, ?_, ?_⟩
  · unfold matvec validate
    rw [hrows m.rows hshape]
    simp [failIf, hm.cols_eq, hv]
  · rw [length_map, hm.rows_length]
  · funext i
    have hi : (i : Nat) < m.rows.length := by
      rw [hm.rows_length]
      exact i.isLt
    show (m.rows.map fun row => asVector n row ⬝ᵥ asVector n v).getD i 0 = _
    rw [getD_eq_getElem _ _ (by rwa [length_map]), getElem_map]
    show _ = (fun j : Fin n => (m.rows.getD i []).getD j 0) ⬝ᵥ asVector n v
    rw [getD_eq_getElem _ _ hi]
    rfl

lemma fromRows_exact {rows : List (List ℝ)} {n : Nat} (hpos : 0 < n)
    (hrows : rows.length = n) (hshape : ∀ row ∈ rows, row.length = n) :
    ∃ m : DenseMatrix ℝ, fromRows rows = .ok m ∧ m.rows = rows ∧ m.Square n := by
  cases rows with
  | nil =>
    rw [length_nil] at hrows
    omega
  | cons first rest =>
    have hfirst := hshape first mem_cons_self
    have hall : first.length ≠ 0 ∧ ∀ row ∈ first :: rest,
        row.length = first.length ∧ row.all Scalar.isFinite = true := by
      refine ⟨by omega, ?_⟩
      intro row hrow
      refine ⟨by rw [hshape row hrow, hfirst], ?_⟩
      rw [all_eq_true]
      intro x _
      rfl
    exact ⟨⟨first :: rest, first.length, fun row hrow => (hall.2 row hrow).1⟩,
      by exact dif_pos hall, rfl, hrows, hfirst⟩

end DenseMatrix

lemma squareMatrix_square {K : Type} (n : Nat) (entry : Nat → Nat → K) :
    (squareMatrix n entry).Square n := by
  refine ⟨?_, rfl⟩
  unfold squareMatrix
  rw [length_map, length_range]

lemma asMatrix_squareMatrix (n : Nat) (entry : Nat → Nat → ℝ) (i j : Fin n) :
    asMatrix n (squareMatrix n entry).rows i j = entry i j := by
  have hget : ∀ {α : Type} (f : Nat → α) (d : α) (k : Fin n),
      ((range n).map f).getD k d = f k := by
    intro α f d k
    have hk : (k : Nat) < ((range n).map f).length := by
      rw [length_map, length_range]
      exact k.isLt
    rw [getD_eq_getElem _ _ hk, getElem_map, getElem_range]
  show (((range n).map fun r => (range n).map fun c => entry r c).getD i []).getD j 0 = _
  rw [hget, hget]

/-! ## Spectra -/

open DenseMatrix

lemma spectralTolerance_nonneg (m : DenseMatrix ℝ) : 0 ≤ spectralTolerance m := by
  unfold spectralTolerance
  have hscale : (0 : ℝ) ≤ max (maxAbs m.data) 1 := le_trans zero_le_one (le_max_right _ _)
  have hroot : (0 : ℝ) ≤ Real.sqrt (1 / 2 ^ 52) := Real.sqrt_nonneg _
  have hrows : (0 : ℝ) ≤ (m.rows.length : ℝ) / 10 ^ 0 := by positivity
  exact mul_nonneg (mul_nonneg hroot hscale) hrows

lemma asymmetric_exact {m : DenseMatrix ℝ} (hm : m.Square n)
    (hsymm : (asMatrix n m.rows).IsHermitian) : asymmetric m = false := by
  unfold asymmetric
  rw [any_eq_false]
  intro i hi
  rw [mem_range, hm.rows_length] at hi
  rw [Bool.not_eq_true, any_eq_false]
  intro j hj
  rw [mem_range] at hj
  have hentry : m.get i j = m.get j i := by
    have happly := hsymm.apply ⟨i, hi⟩ ⟨j, by omega⟩
    rw [star_trivial] at happly
    exact happly.symm
  rw [exact_lt, hentry, exact_abs]
  have hdiff : m.get j i - m.get j i = 0 := sub_self _
  rw [hdiff, abs_zero, not_lt]
  exact spectralTolerance_nonneg m

lemma eigenpair_exact (value : ℝ) {v : List ℝ} (h : (v.map fun x => x * x).sum = 1) :
    ∃ w, eigenpair (value, v) = .ok (value, w) := by
  refine ⟨v.map (· / Real.sqrt (v.map fun x => x * x).sum), ?_⟩
  unfold eigenpair
  rw [normalize_exact (by rw [h]; exact zero_lt_one)]
  simp [failIf, pure, Except.pure]

lemma eigenpairs_exact (pairs : List (ℝ × List ℝ))
    (h : ∀ pair ∈ pairs, (pair.2.map fun x => x * x).sum = 1) :
    ∃ out, pairs.mapM eigenpair = .ok out ∧ out.map Prod.fst = pairs.map Prod.fst := by
  induction pairs with
  | nil => exact ⟨[], rfl, rfl⟩
  | cons pair pairs ih =>
    obtain ⟨out, hout, hfst⟩ := ih fun p hp => h p (mem_cons_of_mem _ hp)
    obtain ⟨w, hw⟩ := eigenpair_exact pair.1 (h pair mem_cons_self)
    refine ⟨(pair.1, w) :: out, ?_, ?_⟩
    · rw [mapM_cons, hw, ok_bind, hout]
      rfl
    · rw [map_cons, map_cons, hfst]

lemma unit_eigenvector {a : Matrix (Fin n) (Fin n) ℝ} (h : a.IsHermitian) (i : Fin n) :
    ((ofFn fun j => h.eigenvectorBasis i j).map fun x => x * x).sum = 1 := by
  have hunit := h.eigenvectorBasis.norm_eq_one i
  have hsq := EuclideanSpace.real_norm_sq_eq (h.eigenvectorBasis i)
  rw [hunit] at hsq
  rw [map_ofFn, sum_ofFn]
  calc ∑ j, h.eigenvectorBasis i j * h.eigenvectorBasis i j
      = ∑ j, h.eigenvectorBasis i j ^ 2 := by simp only [sq]
    _ = 1 ^ 2 := hsq.symm
    _ = 1 := one_pow 2

lemma validateSymmetricPsd_exact (hpos : 0 < n) {m : DenseMatrix ℝ} (hm : m.Square n)
    (hpsd : Matrix.PosSemidef (asMatrix n m.rows)) (label : String) :
    validateSymmetricPsd m label = .ok () := by
  have hsymm := asymmetric_exact hm hpsd.1
  have hempty : m.rows.isEmpty = false := by
    rw [isEmpty_eq_false_iff]
    intro hnil
    have hlength := hm.rows_length
    rw [hnil, length_nil] at hlength
    omega
  have hdecomposition : Spectral.selfAdjointEigen m =
      some (ofFn fun i => (hpsd.1.eigenvalues i,
        ofFn fun j => hpsd.1.eigenvectorBasis i j)) := by
    show spectralPairs m.rows.length m.rows = _
    rw [hm.rows_length]
    exact dif_pos hpsd.1
  obtain ⟨out, hout, hfst⟩ := eigenpairs_exact (ofFn fun i => (hpsd.1.eigenvalues i,
      ofFn fun j => hpsd.1.eigenvectorBasis i j)) (by
    intro pair hpair
    obtain ⟨i, rfl⟩ := mem_ofFn.mp hpair
    exact unit_eigenvector hpsd.1 i)
  have heigen : symmetricEigenSigned m (Scalar.lit 1 12) = .ok out := by
    unfold symmetricEigenSigned
    have htolerance : ¬(10 : ℝ) ^ 12 ≤ 0 := by norm_num
    rw [hsymm, hempty, hdecomposition]
    simp [failIf, validate, hm.rows_length, hm.cols_eq, okOr, hout, htolerance]
  have hnegative : (out.any fun pair => Scalar.lt pair.1 (-spectralTolerance m)) = false := by
    rw [any_eq_false]
    intro pair hpair
    have hvalue : pair.1 ∈ (ofFn fun i => (hpsd.1.eigenvalues i,
        ofFn fun j => hpsd.1.eigenvectorBasis i j)).map Prod.fst := by
      rw [← hfst]
      exact mem_map_of_mem hpair
    rw [map_ofFn, mem_ofFn] at hvalue
    obtain ⟨i, hi⟩ := hvalue
    have hnonneg := hpsd.eigenvalues_nonneg i
    have hbound := spectralTolerance_nonneg m
    rw [exact_lt, ← hi, not_lt]
    exact le_trans (neg_nonpos.mpr hbound) hnonneg
  unfold validateSymmetricPsd
  rw [hsymm, hempty, heigen, ok_bind, hnegative]
  simp [failIf, hm.rows_length, hm.cols_eq]

end Tidex
