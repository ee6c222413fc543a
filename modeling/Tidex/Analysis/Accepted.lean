/-
  Analysis.Accepted — what is known of a proposal that was accepted.
-/
import Tidex.Analysis.Contraction

namespace Tidex.Analysis

open Tidex.Lib List

/-! ## Accepted proposals -/

section

variable {covariance : DenseMatrix ℝ} {coefficients priorities : List ℝ} {budget : ℝ}
  {result : TrustRegionResult ℝ}

lemma costTolerance_nonneg (proposed budget : ℝ) : 0 ≤ costTolerance proposed budget := by
  have hroot : (0 : ℝ) ≤ Real.sqrt (1 / 2 ^ 52) := Real.sqrt_nonneg _
  have hsum : (0 : ℝ) ≤ 1 + |proposed| + |budget| := by positivity
  exact mul_nonneg hroot hsum

structure Accepts (covariance : DenseMatrix ℝ) (coefficients priorities : List ℝ) (budget : ℝ)
    (result : TrustRegionResult ℝ) (signedMetric : DenseMatrix ℝ) (magnitudes : List ℝ) : Prop where
  valid : validateQuadraticMetric covariance = .ok ()
  proposed : quadraticCost covariance coefficients = .ok result.proposedQuadraticCost
  signed : signedMagnitudeMetric covariance coefficients = .ok signedMetric
  unchanged : result.proposedQuadraticCost ≤
    budget + costTolerance result.proposedQuadraticCost budget → magnitudes = coefficients.map abs
  looped : budget + costTolerance result.proposedQuadraticCost budget <
      result.proposedQuadraticCost →
    contractLoop signedMetric budget (costTolerance result.proposedQuadraticCost budget) priorities
      (maxIterations coefficients.length) (coefficients.map abs) = .ok magnitudes
  accepted : quadraticCost signedMetric magnitudes = .ok result.acceptedQuadraticCost
  within : result.acceptedQuadraticCost ≤
    budget + costTolerance result.proposedQuadraticCost budget
  coefficients_eq : result.acceptedCoefficients = List.zipWith
    (fun coefficient magnitude => signum coefficient * magnitude) coefficients magnitudes
  retention_eq : result.componentRetention =
    List.zipWith retention (coefficients.map abs) magnitudes
  scale_eq : result.scale = result.componentRetention.foldl min 1

lemma accepts_of_ok
    (h : applyCausalPriorityTrustRegion covariance coefficients budget priorities = .ok result) :
    ∃ signedMetric magnitudes,
      Accepts covariance coefficients priorities budget result signedMetric magnitudes := by
  unfold applyCausalPriorityTrustRegion at h
  simp only [bind_ok, failIf_ok, pure_ok, exact_lt, not_lt] at h
  obtain ⟨_, -, _, hvalid, proposed, hproposed, signedMetric, hsigned, magnitudes, hmagnitudes,
    accepted, haccepted, _, hwithin, rfl⟩ := h
  refine ⟨signedMetric, magnitudes, hvalid, hproposed, hsigned, ?_, ?_, haccepted, hwithin, rfl,
    rfl, rfl⟩
  · intro hle
    unfold contractMagnitudes at hmagnitudes
    rw [if_neg (by rw [exact_lt, not_lt]; exact hle), pure_ok] at hmagnitudes
    exact hmagnitudes.symm
  · intro hlt
    unfold contractMagnitudes at hmagnitudes
    rw [if_pos ((exact_lt _ _).mpr hlt), length_map] at hmagnitudes
    exact hmagnitudes

variable {signedMetric : DenseMatrix ℝ} {magnitudes : List ℝ}

section

variable (h : Accepts covariance coefficients priorities budget result signedMetric magnitudes)
include h

lemma Accepts.run : ∃ run : List (List ℝ), run.length ≤ maxIterations coefficients.length + 1 ∧
      run.head? = some (coefficients.map abs) ∧ run.getLast? = some magnitudes ∧
      run.IsChain (Iterates signedMetric budget
        (costTolerance result.proposedQuadraticCost budget) priorities) := by
  by_cases hwithin : result.proposedQuadraticCost ≤
      budget + costTolerance result.proposedQuadraticCost budget
  · refine ⟨[coefficients.map abs], by simp, rfl, ?_, isChain_singleton _⟩
    rw [h.unchanged hwithin]
    rfl
  · exact contractLoop_run (h.looped (not_le.mp hwithin))

lemma Accepts.shrunk : Shrunk (coefficients.map abs) magnitudes := by
  obtain ⟨run, -, hhead, hlast, hchain⟩ := h.run
  refine shrunk_run (costTolerance_nonneg _ _) hchain hhead hlast ?_
  intro x hx
  obtain ⟨c, -, rfl⟩ := mem_map.mp hx
  exact abs_nonneg c

lemma Accepts.length_eq : magnitudes.length = coefficients.length := by
  rw [← h.shrunk.length_eq, length_map]

lemma Accepts.cost :
    quadraticCost covariance result.acceptedCoefficients = .ok result.acceptedQuadraticCost := by
  obtain ⟨-, hrows, hne, -, -⟩ := quadraticCost_ok h.proposed
  obtain ⟨-, -, -, hnegative, hcost⟩ := quadraticCost_ok h.accepted
  have hlength : result.acceptedCoefficients.length = coefficients.length := by
    rw [h.coefficients_eq, length_zipWith, h.length_eq, Nat.min_self]
  have hform := listForm_signed h.signed h.length_eq
  rw [← h.coefficients_eq] at hform
  have haccepted : result.acceptedCoefficients ≠ [] := by
    intro hnil
    rw [hnil, length_nil] at hlength
    exact hne (length_eq_zero_iff.mp hlength.symm)
  rw [quadraticCost_eq h.valid (hrows.trans hlength.symm) haccepted, hform,
    if_neg (not_lt.mpr hnegative), hcost]

end

lemma signs_of_shrunk (h : Shrunk (coefficients.map abs) magnitudes) :
    Forall₂ (fun c a => |a| ≤ |c| ∧ 0 ≤ c * a) coefficients
      (zipWith (fun coefficient magnitude => signum coefficient * magnitude)
        coefficients magnitudes) := by
  unfold Shrunk at h
  rw [forall₂_map_left_iff] at h
  induction h with
  | nil => exact Forall₂.nil
  | cons hxy _ ih =>
    refine Forall₂.cons ⟨?_, mul_signum_nonneg _ hxy.1⟩ ih
    rw [abs_signum_mul _ hxy.1]
    exact hxy.2

lemma abs_of_shrunk (h : Shrunk (coefficients.map abs) magnitudes) :
    (zipWith (fun coefficient magnitude => signum coefficient * magnitude)
      coefficients magnitudes).map abs = magnitudes := by
  unfold Shrunk at h
  rw [forall₂_map_left_iff] at h
  induction h with
  | nil => rfl
  | cons hxy _ ih => rw [zipWith_cons_cons, map_cons, abs_signum_mul _ hxy.1, ih]

lemma signum_zipWith_abs (coefficients : List ℝ) :
    zipWith (fun coefficient magnitude => signum coefficient * magnitude) coefficients
      (coefficients.map abs) = coefficients := by
  induction coefficients with
  | nil => rfl
  | cons c coefficients ih =>
    rw [map_cons, zipWith_cons_cons, signum_mul_abs, ih]

lemma retention_of_shrunk {original accepted : ℝ} (h : 0 ≤ accepted) (hle : accepted ≤ original) :
    retention original accepted =
      (if original ≤ (Scalar.epsilon : ℝ) then 1 else accepted / original) ∧
    retention original accepted ≤ 1 := by
  have hepsilon : (0 : ℝ) < Scalar.epsilon := by
    rw [exact_epsilon]
    positivity
  unfold retention
  simp only [exact_le]
  by_cases hsmall : original ≤ (Scalar.epsilon : ℝ)
  · rw [if_pos hsmall, if_pos hsmall]
    exact ⟨rfl, le_refl 1⟩
  · rw [not_le] at hsmall
    have hpos : 0 < original := hepsilon.trans hsmall
    have hlow : 0 ≤ accepted / original := div_nonneg h hpos.le
    have hhigh : accepted / original ≤ 1 := (div_le_one hpos).mpr hle
    rw [if_neg (not_le.mpr hsmall), if_neg (not_le.mpr hsmall), clamp_of_mem hlow hhigh]
    exact ⟨rfl, hhigh⟩

lemma retentions_of_shrunk (h : Shrunk (coefficients.map abs) magnitudes) :
    zipWith retention (coefficients.map abs) magnitudes = zipWith
        (fun c a => if |c| ≤ (Scalar.epsilon : ℝ) then 1 else |a| / |c|) coefficients
        (zipWith (fun coefficient magnitude => signum coefficient * magnitude)
          coefficients magnitudes) ∧
      ∀ x ∈ zipWith retention (coefficients.map abs) magnitudes, x ≤ 1 := by
  unfold Shrunk at h
  rw [forall₂_map_left_iff] at h
  induction h with
  | nil => exact ⟨rfl, by simp⟩
  | cons hxy _ ih =>
    obtain ⟨heq, hle⟩ := retention_of_shrunk hxy.1 hxy.2
    refine ⟨?_, ?_⟩
    · rw [map_cons, zipWith_cons_cons, zipWith_cons_cons, zipWith_cons_cons,
        ih.1, heq, abs_signum_mul _ hxy.1]
    · rw [map_cons, zipWith_cons_cons, forall_mem_cons]
      exact ⟨hle, ih.2⟩

lemma foldl_min_spec {values : List ℝ} (hne : values ≠ []) (hle : ∀ x ∈ values, x ≤ 1) :
    values.foldl min 1 ∈ values ∧ ∀ x ∈ values, values.foldl min 1 ≤ x := by
  have hgeneral : ∀ (rest : List ℝ) (best : ℝ),
      (rest.foldl min best = best ∨ rest.foldl min best ∈ rest) ∧
        rest.foldl min best ≤ best ∧ ∀ x ∈ rest, rest.foldl min best ≤ x := by
    intro rest
    induction rest with
    | nil => intro best; simp
    | cons y rest ih =>
      intro best
      rw [foldl_cons]
      obtain ⟨hmem, hbest, hrest⟩ := ih (min best y)
      refine ⟨?_, hbest.trans (min_le_left _ _), ?_⟩
      · rcases hmem with hmem | hmem
        · rw [hmem]
          rcases min_choice best y with hmin | hmin
          · exact .inl hmin
          · exact .inr (by rw [hmin]; exact mem_cons_self)
        · exact .inr (mem_cons_of_mem _ hmem)
      · exact forall_mem_cons.mpr ⟨hbest.trans (min_le_right _ _), hrest⟩
  cases values with
  | nil => exact absurd rfl hne
  | cons y rest =>
    rw [forall_mem_cons] at hle
    rw [foldl_cons, min_eq_right hle.1]
    obtain ⟨hmem, hbest, hrest⟩ := hgeneral rest y
    refine ⟨?_, ?_⟩
    · rcases hmem with hmem | hmem
      · rw [hmem]
        exact mem_cons_self
      · exact mem_cons_of_mem _ hmem
    · rw [forall_mem_cons]
      exact ⟨hbest, hrest⟩

def RisesAtMost (metric : DenseMatrix ℝ) (slack : ℝ) (before after : List ℝ) : Prop :=
  ∃ c c', quadraticCost metric before = .ok c ∧ quadraticCost metric after = .ok c' ∧
    c' ≤ c + slack

structure KeepsCost (covariance signedMetric : DenseMatrix ℝ) (tolerance : ℝ)
    (priorities before after : List ℝ) : Prop where
  within_tolerance : RisesAtMost signedMetric tolerance before after
  curved : ∀ index, causalPriorityCandidate signedMetric before priorities = .ok (some index) →
    (∀ i j, covariance.get i j = covariance.get j i) → tolerance < covariance.get index index →
      RisesAtMost signedMetric 0 before after

/-- The costs of an iteration, whose coordinate has the same curvature under both metrics. -/
lemma Accepts.keepsCost {before after : List ℝ}
    (h : Accepts covariance coefficients priorities budget result signedMetric magnitudes)
    (hstep : Iterates signedMetric budget (costTolerance result.proposedQuadraticCost budget)
      priorities before after) :
    KeepsCost covariance signedMetric (costTolerance result.proposedQuadraticCost budget)
      priorities before after := by
  obtain ⟨-, ⟨c, c', hc, hc', -, hle⟩, hcurved⟩ :=
    iterates_lowers (costTolerance_nonneg _ _) hstep
  refine ⟨⟨c, c', hc, hc', hle⟩, ?_⟩
  intro index hindex hsymm hdiagonal
  refine ⟨c, c', hc, hc', ?_⟩
  rw [add_zero]
  obtain ⟨-, hsquare, -, hget⟩ := signedMagnitudeMetric_ok h.signed
  obtain ⟨hvalid, hrows, -⟩ := quadraticCost_ok hc
  have hlength : before.length = coefficients.length := hrows.symm.trans hsquare.rows_length
  obtain ⟨gradient, hgradient, -, -⟩ :=
    DenseMatrix.matvec_exact (square_of_validate hvalid hrows) rfl
  have hlt : index < coefficients.length := by
    rw [← hlength]
    exact ((candidate_spec hgradient hindex).1 index rfl).1
  have hsign : ∀ x : ℝ, signum x * signum x = 1 := by
    intro x
    obtain ⟨-, hx⟩ | ⟨-, hx⟩ := signum_cases x
    · rw [hx, neg_one_mul, neg_neg]
    · rw [hx, one_mul]
  refine hcurved hindex hc hc' ?_ ?_
  · intro i j
    -- outside of the metric both entries are zero
    by_cases hij : i < coefficients.length ∧ j < coefficients.length
    · rw [hget i hij.1 j hij.2, hget j hij.2 i hij.1, hsymm i j, mul_right_comm]
    · rw [get_of_not_lt hsquare hij, get_of_not_lt hsquare fun hji => hij ⟨hji.2, hji.1⟩]
  · rw [hget index hlt index hlt, mul_assoc, hsign, mul_one]
    exact hdiagonal

/-- **What is known of an accepted proposal.** -/
theorem contraction_sound
    (h : applyCausalPriorityTrustRegion covariance coefficients budget priorities = .ok result) :
    quadraticCost covariance coefficients = .ok result.proposedQuadraticCost ∧
    quadraticCost covariance result.acceptedCoefficients = .ok result.acceptedQuadraticCost ∧
    result.acceptedQuadraticCost ≤
      budget + costTolerance result.proposedQuadraticCost budget ∧
    List.Forall₂ (fun c a => |a| ≤ |c| ∧ 0 ≤ c * a) coefficients result.acceptedCoefficients ∧
    (result.proposedQuadraticCost ≤ budget → result.acceptedCoefficients = coefficients) ∧
    result.componentRetention = List.zipWith
      (fun c a => if |c| ≤ (Scalar.epsilon : ℝ) then 1 else |a| / |c|)
      coefficients result.acceptedCoefficients ∧
    result.scale ∈ result.componentRetention ∧
    (∀ fraction ∈ result.componentRetention, result.scale ≤ fraction) ∧
    ∃ (signedMetric : DenseMatrix ℝ) (run : List (List ℝ)),
      signedMagnitudeMetric covariance coefficients = .ok signedMetric ∧
      run.length ≤ maxIterations coefficients.length + 1 ∧
      run.head? = some (coefficients.map abs) ∧
      run.getLast? = some (result.acceptedCoefficients.map abs) ∧
      run.IsChain (Iterates signedMetric budget
        (costTolerance result.proposedQuadraticCost budget) priorities) ∧
      run.IsChain (KeepsCost covariance signedMetric
        (costTolerance result.proposedQuadraticCost budget) priorities) := by
  obtain ⟨signedMetric, magnitudes, haccepts⟩ := accepts_of_ok h
  have hshrunk := haccepts.shrunk
  have hmagnitudes := abs_of_shrunk hshrunk
  rw [← haccepts.coefficients_eq] at hmagnitudes
  obtain ⟨run, hlength, hhead, hlast, hchain⟩ := haccepts.run
  have hretention : result.componentRetention = zipWith
      (fun c a => if |c| ≤ (Scalar.epsilon : ℝ) then 1 else |a| / |c|)
      coefficients result.acceptedCoefficients ∧ ∀ x ∈ result.componentRetention, x ≤ 1 := by
    rw [haccepts.retention_eq, haccepts.coefficients_eq]
    exact retentions_of_shrunk hshrunk
  have hne : result.componentRetention ≠ [] := by
    obtain ⟨-, -, hne, -⟩ := quadraticCost_ok haccepts.proposed
    rw [haccepts.retention_eq, Ne, zipWith_eq_nil_iff, map_eq_nil_iff, not_or]
    refine ⟨hne, ?_⟩
    intro hnil
    have hlength := haccepts.length_eq
    rw [hnil, length_nil] at hlength
    exact hne (length_eq_zero_iff.mp hlength.symm)
  obtain ⟨hmem, hleast⟩ := foldl_min_spec hne hretention.2
  rw [← haccepts.scale_eq] at hmem hleast
  refine ⟨haccepts.proposed, haccepts.cost, haccepts.within, ?_, ?_, hretention.1, hmem, hleast,
    signedMetric, run, haccepts.signed, hlength, hhead, ?_, hchain, ?_⟩
  · rw [haccepts.coefficients_eq]
    exact signs_of_shrunk hshrunk
  · intro hwithin
    have htolerance := costTolerance_nonneg result.proposedQuadraticCost budget
    rw [haccepts.coefficients_eq, haccepts.unchanged (by linarith)]
    exact signum_zipWith_abs coefficients
  · rw [hmagnitudes]
    exact hlast
  · exact hchain.imp fun before after hstep => haccepts.keepsCost hstep

end

/-! ## Two correlated coefficients -/

lemma sqrt_epsilon : Scalar.sqrt (Scalar.epsilon : ℝ) = 1 / 2 ^ 26 := by
  have hsquare : (1 : ℝ) / 2 ^ 52 = (1 / 2 ^ 26) * (1 / 2 ^ 26) := by norm_num
  rw [exact_sqrt, exact_epsilon, hsquare, Real.sqrt_mul_self (by positivity)]

section

variable (entry : Nat → Nat → ℝ) (a b : ℝ)

lemma listForm_two : listForm (squareMatrix 2 entry) [a, b] =
    a * (entry 0 0 * a + entry 0 1 * b) + b * (entry 1 0 * a + entry 1 1 * b) := by
  have hlength : [a, b].length = 2 := rfl
  rw [listForm_eq hlength]
  unfold quadraticForm
  simp only [dotProduct, Matrix.mulVec, Fin.sum_univ_two, asMatrix_squareMatrix]
  rfl

lemma matvec_two : (squareMatrix 2 entry).matvec [a, b] =
    .ok [entry 0 0 * a + entry 0 1 * b, entry 1 0 * a + entry 1 1 * b] := by
  obtain ⟨q, hq, hlength, hvector⟩ :=
    DenseMatrix.matvec_exact (squareMatrix_square 2 entry) (v := [a, b]) rfl
  rw [hq]
  match q, hlength with
  | [x, y], _ =>
    have hx := congrFun hvector 0
    have hy := congrFun hvector 1
    simp only [Matrix.mulVec, dotProduct, Fin.sum_univ_two, asMatrix_squareMatrix] at hx hy
    exact congrArg Except.ok (congrArg₂ (fun x y => [x, y]) hx hy)

lemma candidateTolerance_two (x y : ℝ) : candidateTolerance [a, b] [x, y] =
    1 / 2 ^ 26 * (1 + (|a| + |b|) + (|x| + |y|)) := by
  unfold candidateTolerance
  rw [sqrt_epsilon, sumFrom_exact, sumFrom_exact]
  simp

section

variable {magnitudes gradient priorities : List ℝ} {tolerance : ℝ} {selected : Option (Nat × ℝ)}
  {index : Nat}

lemma candidateStep_lowerable (h : Lowerable magnitudes gradient tolerance index) {ratio : ℝ}
    (hratio : ratio = priorities.getD index 0 / (2 * gradient.getD index 0)) (hpos : 0 < ratio) :
    candidateStep magnitudes gradient priorities tolerance selected index =
      .ok (if selected.all fun best => Scalar.lt ratio (best.2 - tolerance) ||
          (Scalar.le (Scalar.abs (ratio - best.2)) tolerance && decide (index < best.1))
        then some (index, ratio) else selected) := by
  have htwo : (Scalar.lit 2 0 : ℝ) = 2 := by
    rw [exact_lit]
    norm_num
  have hvalid : ¬(¬Scalar.isFinite ratio = true ∨ Scalar.le ratio 0 = true) := by
    rw [exact_le, exact_isFinite, not_or, not_not, not_le]
    exact ⟨rfl, hpos⟩
  unfold candidateStep failIf
  rw [if_neg (by rw [Bool.or_eq_true, exact_le, exact_le, not_or, not_le, not_le]; exact h), htwo,
    ← hratio]
  dsimp only
  rw [if_neg hvalid]
  rfl

end

lemma contracted_first (δ : ℝ) : contracted [a, b] 0 δ = [max (a - δ) 0, b] := rfl

lemma contracted_second (δ : ℝ) : contracted [a, b] 1 δ = [a, max (b - δ) 0] := rfl

end

namespace CorrelatedSample

/-- Two coordinates with a small negative correlation. -/
noncomputable def entry (i j : Nat) : ℝ := if i = j then 1 else -Scalar.lit 15 5

noncomputable def correlated : DenseMatrix ℝ := squareMatrix 2 entry

noncomputable def proposal : List ℝ := [Scalar.lit 2 0, Scalar.lit 8192 0]

noncomputable def priorities : List ℝ := [Scalar.lit 1 9, 1]

noncomputable def budget : ℝ := Scalar.lit 33554432 0

lemma entry_eq : entry 0 0 = 1 ∧ entry 1 1 = 1 ∧ entry 0 1 = -(15 / 10 ^ 5) ∧
    entry 1 0 = -(15 / 10 ^ 5) := by
  refine ⟨rfl, rfl, ?_, ?_⟩
  · show -(Scalar.lit 15 5 : ℝ) = _
    rw [exact_lit]
    norm_num
  · show -(Scalar.lit 15 5 : ℝ) = _
    rw [exact_lit]
    norm_num

lemma proposal_eq : proposal = [2, 8192] := by
  unfold proposal
  rw [exact_lit, exact_lit]
  norm_num

lemma form_eq (a b : ℝ) : listForm correlated [a, b] = a * a + b * b - 3 / 10 ^ 4 * (a * b) := by
  obtain ⟨h00, h11, h01, h10⟩ := entry_eq
  unfold correlated
  rw [listForm_two, h00, h11, h01, h10]
  ring

lemma gradient_eq (a b : ℝ) : correlated.matvec [a, b] =
    .ok [a - 15 / 10 ^ 5 * b, b - 15 / 10 ^ 5 * a] := by
  obtain ⟨h00, h11, h01, h10⟩ := entry_eq
  unfold correlated
  rw [matvec_two, h00, h11, h01, h10]
  congr 2
  · ring
  · congr 1
    ring

lemma semidefinite : Semidefinite 2 correlated := by
  refine ⟨by decide, squareMatrix_square 2 entry, ?_⟩
  obtain ⟨-, -, h01, h10⟩ := entry_eq
  refine Matrix.PosSemidef.of_dotProduct_mulVec_nonneg ?_ ?_
  · ext i j
    rw [Matrix.conjTranspose_apply, star_trivial]
    unfold correlated
    rw [asMatrix_squareMatrix, asMatrix_squareMatrix]
    unfold entry
    by_cases hij : (i : Nat) = j
    · rw [if_pos hij, if_pos hij.symm]
    · rw [if_neg hij, if_neg fun h => hij h.symm]
  · intro x
    rw [star_trivial]
    have hform := form_eq (x 0) (x 1)
    have hlength : [x 0, x 1].length = 2 := rfl
    rw [listForm_eq hlength] at hform
    have hvector : asVector 2 [x 0, x 1] = x := by
      funext i
      match i with
      | 0 => rfl
      | 1 => rfl
    rw [hvector] at hform
    unfold quadraticForm at hform
    rw [hform]
    nlinarith [sq_nonneg (x 0 - x 1), sq_nonneg (x 0 + x 1), sq_nonneg (x 0), sq_nonneg (x 1)]

lemma proposes : Proposes 2 correlated proposal budget priorities := by
  refine ⟨semidefinite, rfl, rfl, ?_, ?_⟩
  · intro p hp
    unfold priorities at hp
    rw [mem_pair] at hp
    rcases hp with rfl | rfl
    · rw [exact_lit]
      norm_num
    · exact one_pos
  · unfold budget
    rw [exact_lit]
    norm_num

lemma signed_eq : signedMagnitudeMetric correlated proposal = .ok correlated := by
  have hlength : proposal.length = 2 := rfl
  have hsign : ∀ i < 2, signum (proposal.getD i 0) = 1 := by
    intro i hi
    have hnonneg : ∀ x ∈ proposal, 0 ≤ x := by
      rw [proposal_eq]
      intro x hx
      rw [mem_pair] at hx
      rcases hx with rfl | rfl
      · norm_num
      · norm_num
    obtain ⟨hneg, -⟩ | ⟨-, hsign⟩ := signum_cases (proposal.getD i 0)
    · rw [getD_eq_getElem _ _ (by omega)] at hneg
      exact absurd (hnonneg _ (getElem_mem _)) (not_le.mpr hneg)
    · exact hsign
  rw [(semidefinite.signed hlength).1]
  refine congrArg Except.ok (squareMatrix_congr ?_)
  intro i hi j hj
  rw [hsign i hi, hsign j hj, mul_one, mul_one]
  exact get_squareMatrix entry hi hj

lemma cost_eq : listForm correlated proposal = 671088630848 / 10 ^ 4 := by
  rw [proposal_eq, form_eq]
  norm_num

lemma tolerance_eq : costTolerance (listForm correlated proposal) budget =
    1006632960848 / 10 ^ 4 / 2 ^ 26 := by
  unfold costTolerance
  rw [sqrt_epsilon, cost_eq, exact_abs, exact_abs]
  unfold budget
  rw [exact_lit, abs_of_nonneg (by norm_num), abs_of_nonneg (by norm_num)]
  norm_num

lemma candidate_first :
    causalPriorityCandidate correlated [2, 8192] priorities = .ok (some 0) := by
  have hgradient : correlated.matvec [2, 8192] = .ok [7712 / 10 ^ 4, 81919997 / 10 ^ 4] := by
    rw [gradient_eq]
    norm_num
  have htolerance : candidateTolerance [(2 : ℝ), 8192] [7712 / 10 ^ 4, 81919997 / 10 ^ 4] =
      163877709 / 10 ^ 4 / 2 ^ 26 := by
    rw [candidateTolerance_two]
    norm_num [abs_of_pos]
  have hpriorities : priorities = [1 / 10 ^ 9, 1] := by
    unfold priorities
    rw [exact_lit, Nat.cast_one]
  have hrange : range [(2 : ℝ), 8192].length = [0, 1] := rfl
  have hzero : Lowerable [2, 8192] [7712 / 10 ^ 4, 81919997 / 10 ^ 4]
      (163877709 / 10 ^ 4 / 2 ^ 26) 0 := by
    constructor
    · show (163877709 / 10 ^ 4 / 2 ^ 26 : ℝ) < 2
      norm_num
    · show (163877709 / 10 ^ 4 / 2 ^ 26 : ℝ) < 7712 / 10 ^ 4
      norm_num
  have hone : Lowerable [2, 8192] [7712 / 10 ^ 4, 81919997 / 10 ^ 4]
      (163877709 / 10 ^ 4 / 2 ^ 26) 1 := by
    constructor
    · show (163877709 / 10 ^ 4 / 2 ^ 26 : ℝ) < 8192
      norm_num
    · show (163877709 / 10 ^ 4 / 2 ^ 26 : ℝ) < 81919997 / 10 ^ 4
      norm_num
  have hratio : (1 / 10 ^ 9 / (2 * (7712 / 10 ^ 4)) : ℝ) =
      [1 / 10 ^ 9, (1 : ℝ)].getD 0 0 / (2 * [7712 / 10 ^ 4, (81919997 / 10 ^ 4 : ℝ)].getD 0 0) :=
    rfl
  have hratio' : (1 / (2 * (81919997 / 10 ^ 4)) : ℝ) =
      [1 / 10 ^ 9, (1 : ℝ)].getD 1 0 / (2 * [7712 / 10 ^ 4, (81919997 / 10 ^ 4 : ℝ)].getD 1 0) :=
    rfl
  unfold causalPriorityCandidate
  rw [hgradient, ok_bind]
  dsimp only
  rw [htolerance, hpriorities, hrange, foldlM_cons,
    candidateStep_lowerable hzero hratio (by norm_num), ok_bind, foldlM_cons,
    candidateStep_lowerable hone hratio' (by norm_num), ok_bind, foldlM_nil]
  have hkeep : (Scalar.lt (1 / (2 * (81919997 / 10 ^ 4)) : ℝ)
      (1 / 10 ^ 9 / (2 * (7712 / 10 ^ 4)) - 163877709 / 10 ^ 4 / 2 ^ 26)) = false := by
    rw [← Bool.not_eq_true, exact_lt]
    norm_num
  simp only [Option.all_none, if_true, Option.all_some, hkeep, Bool.false_or, Nat.not_lt_zero,
    decide_false, Bool.and_false, Bool.false_eq_true, if_false]
  rfl

lemma candidate_second :
    causalPriorityCandidate correlated [0, 8192] priorities = .ok (some 1) := by
  have hvector : [(0 : ℝ), 8192].length = 2 := rfl
  have hpriorities : priorities.length = 2 := rfl
  obtain ⟨gradient, selected, hgradient, -, -, hselected⟩ :=
    semidefinite.candidate_exact hvector hpriorities proposes.priorities_pos
  obtain ⟨hfound, hmissed⟩ := candidate_spec hgradient hselected
  rw [gradient_eq] at hgradient
  cases hgradient
  have htolerance : candidateTolerance [(0 : ℝ), 8192]
      [0 - 15 / 10 ^ 5 * 8192, 8192 - 15 / 10 ^ 5 * 0] = 163862288 / 10 ^ 4 / 2 ^ 26 := by
    rw [candidateTolerance_two]
    norm_num [abs_of_pos, abs_of_neg]
  rw [htolerance] at hfound hmissed
  cases selected with
  | none =>
    refine absurd ⟨?_, ?_⟩ (hmissed rfl 1 (by decide))
    · show (163862288 / 10 ^ 4 / 2 ^ 26 : ℝ) < 8192
      norm_num
    · show (163862288 / 10 ^ 4 / 2 ^ 26 : ℝ) < 8192 - 15 / 10 ^ 5 * 0
      norm_num
  | some index =>
    obtain ⟨hindex, hlower⟩ := hfound index rfl
    have hlength : [(0 : ℝ), 8192].length = 2 := rfl
    rw [hlength] at hindex
    interval_cases index
    · have hzero : (163862288 / 10 ^ 4 / 2 ^ 26 : ℝ) < 0 := hlower.1
      norm_num at hzero
    · exact hselected

lemma tolerance_bounds : (1 : ℝ) < costTolerance (listForm correlated proposal) budget ∧
      costTolerance (listForm correlated proposal) budget < 2 := by
  rw [tolerance_eq]
  norm_num

lemma budget_eq : budget = 33554432 := by
  unfold budget
  rw [exact_lit]
  norm_num

/-- The first iteration raises the cost: along a coordinate that counts as flat it goes to
    zero, beyond the minimum. -/
lemma first_iteration :
    contractOnce correlated budget (costTolerance (listForm correlated proposal) budget) priorities
      [2, 8192] = .ok (.minimum [0, 8192]) := by
  obtain ⟨hlow, hhigh⟩ := tolerance_bounds
  have hbudget := budget_eq
  have hvector : [(2 : ℝ), 8192].length = 2 := rfl
  have hflat : (2 : ℝ) = decrementOf (costTolerance (listForm correlated proposal) budget)
      (correlated.get 0 0) ([2 - 15 / 10 ^ 5 * 8192, 8192 - 15 / 10 ^ 5 * (2 : ℝ)].getD 0 0)
      ([(2 : ℝ), 8192].getD 0 0) := by
    have hdiagonal : correlated.get 0 0 = 1 :=
      (get_squareMatrix entry (by decide) (by decide)).trans entry_eq.1
    rw [decrementOf_flat]
    · rfl
    · rw [hdiagonal]
      exact not_lt.mpr hlow.le
  have hlowered : contracted [(2 : ℝ), 8192] 0 2 = [0, 8192] := by
    rw [contracted_first, sub_self, max_self]
  rw [semidefinite.contractOnce_some hvector ?_ candidate_first (gradient_eq 2 8192) hflat,
    hlowered, form_eq, form_eq, if_neg (by linarith), if_neg (by linarith), if_neg (by linarith)]
  rw [form_eq]
  linarith

lemma second_iteration :
    ∃ high, contractOnce correlated budget (costTolerance (listForm correlated proposal) budget)
        priorities [0, 8192] = .ok (.boundary (contracted [0, 8192] 1 high)) ∧
      listForm correlated (contracted [0, 8192] 1 high) ≤
        budget + costTolerance (listForm correlated proposal) budget := by
  obtain ⟨hlow, hhigh⟩ := tolerance_bounds
  have hbudget := budget_eq
  have hvector : [(0 : ℝ), 8192].length = 2 := rfl
  have hflat : (8192 : ℝ) = decrementOf (costTolerance (listForm correlated proposal) budget)
      (correlated.get 1 1) ([0 - 15 / 10 ^ 5 * 8192, 8192 - 15 / 10 ^ 5 * (0 : ℝ)].getD 1 0)
      ([(0 : ℝ), 8192].getD 1 0) := by
    have hdiagonal : correlated.get 1 1 = 1 :=
      (get_squareMatrix entry (by decide) (by decide)).trans entry_eq.2.1
    rw [decrementOf_flat]
    · rfl
    · rw [hdiagonal]
      exact not_lt.mpr hlow.le
  have hlowered : contracted [(0 : ℝ), 8192] 1 8192 = [0, 0] := by
    rw [contracted_second, sub_self, max_self]
  obtain ⟨high, hbisect⟩ := semidefinite.bisect_exact hvector budget 1 8192
  have hfeasible : Feasible correlated
      (budget + costTolerance (listForm correlated proposal) budget) [0, 8192] 1 8192 := by
    refine ⟨listForm correlated (contracted [0, 8192] 1 8192),
      semidefinite.quadraticCost_eq rfl, ?_⟩
    rw [hlowered, form_eq]
    linarith
  obtain ⟨-, c, hc, hle⟩ := bisect_feasible (by linarith) (by norm_num) hfeasible hbisect
  refine ⟨high, ?_, ?_⟩
  · rw [semidefinite.contractOnce_some hvector ?_ candidate_second (gradient_eq 0 8192) hflat,
      hbisect, hlowered, form_eq, form_eq, if_neg (by linarith), if_neg (by linarith),
      if_pos (by linarith)]
    · rfl
    · rw [form_eq]
      linarith
  · rw [semidefinite.quadraticCost_eq rfl] at hc
    cases hc
    exact hle

lemma accepted_run :
    ∃ result, applyCausalPriorityTrustRegion correlated proposal budget priorities = .ok result ∧
      result.proposedQuadraticCost = listForm correlated proposal := by
  obtain ⟨hlow, hhigh⟩ := tolerance_bounds
  have hbudget := budget_eq
  obtain ⟨high, hsecond, hwithin⟩ := second_iteration
  have habs : proposal.map abs = [2, 8192] := by
    rw [proposal_eq]
    norm_num
  have hiterations : maxIterations (proposal.map abs).length = 254 + 1 + 1 := rfl
  have hcontract : contractMagnitudes correlated budget
      (costTolerance (listForm correlated proposal) budget) priorities
      (listForm correlated proposal) (proposal.map abs) =
        .ok (contracted [0, 8192] 1 high) := by
    have habove : Scalar.lt (budget + costTolerance (listForm correlated proposal) budget)
        (listForm correlated proposal) = true := by
      rw [exact_lt]
      have hcost := cost_eq
      norm_num at hcost
      linarith
    unfold contractMagnitudes
    rw [if_pos habove, hiterations, habs]
    unfold contractLoop
    rw [first_iteration, ok_bind]
    dsimp only
    unfold contractLoop
    rw [hsecond, ok_bind]
    rfl
  have hlength : (contracted [(0 : ℝ), 8192] 1 high).length = 2 := rfl
  exact (proposes.apply_ok signed_eq semidefinite hlength hcontract).1 hwithin

/-- **A cost can rise** from one iteration to the next, in a run that returns. -/
theorem cost_can_rise : ∃ (result : TrustRegionResult ℝ) (before after : List ℝ) (c c' : ℝ),
      applyCausalPriorityTrustRegion correlated proposal budget priorities = .ok result ∧
      signedMagnitudeMetric correlated proposal = .ok correlated ∧ before = proposal.map abs ∧
      budget + costTolerance result.proposedQuadraticCost budget < result.proposedQuadraticCost ∧
      Iterates correlated budget (costTolerance result.proposedQuadraticCost budget) priorities
        before after ∧
      quadraticCost correlated before = .ok c ∧ quadraticCost correlated after = .ok c' ∧
      c < c' := by
  obtain ⟨result, hresult, hproposed⟩ := accepted_run
  obtain ⟨hlow, hhigh⟩ := tolerance_bounds
  have hbudget := budget_eq
  have hcost := cost_eq
  norm_num at hcost
  refine ⟨result, [2, 8192], [0, 8192], listForm correlated [2, 8192],
    listForm correlated [0, 8192], hresult, signed_eq, ?_, ?_, ?_,
    semidefinite.quadraticCost_eq rfl, semidefinite.quadraticCost_eq rfl, ?_⟩
  · rw [proposal_eq]
    norm_num
  · rw [hproposed]
    linarith
  · rw [hproposed]
    exact .inr first_iteration
  · rw [form_eq, form_eq]
    norm_num

/-- What is known of that run. -/
theorem correlated_sound :
    ∃ result, applyCausalPriorityTrustRegion correlated proposal budget priorities = .ok result ∧
      result.acceptedQuadraticCost ≤
        budget + costTolerance result.proposedQuadraticCost budget ∧
      List.Forall₂ (fun c a => |a| ≤ |c| ∧ 0 ≤ c * a) proposal result.acceptedCoefficients := by
  obtain ⟨result, hresult, -⟩ := accepted_run
  obtain ⟨-, -, hwithin, hsigns, -⟩ := contraction_sound hresult
  exact ⟨result, hresult, hwithin, hsigns⟩

end CorrelatedSample

end Tidex.Analysis
