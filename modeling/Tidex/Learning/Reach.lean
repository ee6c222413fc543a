/-
  Learning.Reach — how far a session gets.
-/
import Tidex.Analysis.Assimilation
import Tidex.Foundation.Reference
import Tidex.Learning.Draws
import Tidex.Learning.Session

namespace Tidex.Learning

open Tidex.Lib Tidex.Analysis List Sha256Digest

/-! ## Candidates -/

instance : MarksOne ℝ where
  zero_noise := by
    rw [← Bool.not_eq_true, exact_lt, exact_abs]
    show ¬(Scalar.lit 1 12 : ℝ) < |(0 : ℝ)|
    rw [exact_lit, abs_zero]
    norm_num
  one_marked := by
    rw [exact_lt, exact_abs]
    show (Scalar.lit 1 12 : ℝ) < |(1 : ℝ)|
    rw [exact_lit, abs_one]
    norm_num

lemma length_directionOf (dimension : Nat) (indices : List Nat) :
    (directionOf dimension indices : List ℝ).length = dimension := by
  unfold directionOf
  rw [foldl_set_length, length_replicate]

lemma one_le_sum_sq {dimension : Nat} {indices : List Nat}
    (hmark : ∃ i ∈ indices, i < dimension) :
    1 ≤ ((directionOf dimension indices : List ℝ).map fun x => x * x).sum := by
  obtain ⟨i, hi, hlt⟩ := hmark
  have hone : (1 : ℝ) ∈ (directionOf dimension indices : List ℝ) := by
    have hget := getElem?_foldl_set (1 : ℝ) indices (replicate dimension 0) i
      (by rwa [length_replicate])
    rw [if_pos hi] at hget
    exact mem_of_getElem? hget
  have hsquare : (1 : ℝ) ∈ (directionOf dimension indices : List ℝ).map fun x => x * x := by
    rw [mem_map]
    exact ⟨1, hone, mul_one 1⟩
  refine single_le_sum ?_ 1 hsquare
  intro y hy
  obtain ⟨x, -, rfl⟩ := mem_map.mp hy
  exact mul_self_nonneg x

lemma normalized_exact {a : List ℝ} (h : 1 ≤ (a.map fun x => x * x).sum) :
    ∃ v, normalized a = .ok v ∧ v.length = a.length ∧ (v.map fun x => x * x).sum = 1 := by
  have hne : a ≠ [] := by
    intro hnil
    rw [hnil, map_nil, sum_nil] at h
    linarith
  have hroot : (1 : ℝ) ≤ Real.sqrt (a.map fun x => x * x).sum := Real.one_le_sqrt.mpr h
  have hlarge : ¬Real.sqrt (a.map fun x => x * x).sum ≤ 1 / 10 ^ 15 := by
    rw [not_le]
    refine lt_of_lt_of_le ?_ hroot
    norm_num
  refine ⟨a.map (· / Real.sqrt (a.map fun x => x * x).sum), ?_, length_map _, ?_⟩
  · unfold normalized
    rw [norm_exact hne, ok_bind]
    simp only [exact_isFinite, not_true_eq_false, exact_le, exact_lit, Nat.cast_one, false_or,
      failIf, if_neg hlarge, ok_bind]
    rfl
  · rw [map_map]
    have hscaled : (fun x : ℝ => x * x) ∘ (· / Real.sqrt (a.map fun x => x * x).sum) =
        fun x => x * x * ((a.map fun x => x * x).sum)⁻¹ := by
      funext x
      show x / _ * (x / _) = _
      rw [div_mul_div_comm, Real.mul_self_sqrt (le_trans zero_le_one h), div_eq_mul_inv]
    rw [hscaled, sum_map_mul_right]
    exact mul_inv_cancel₀ (by linarith)

lemma priced_bounds {cost risk : ℝ} (h : Priced cost risk) : 0 ≤ cost ∧ 0 ≤ risk ∧ risk ≤ 1 := by
  rcases h with ⟨rfl, rfl⟩ | ⟨rfl, rfl⟩ | ⟨desired, rfl, rfl⟩
  · simp only [exact_lit]
    norm_num
  · simp only [exact_lit]
    norm_num
  · simp only [exact_lit, exact_min]
    refine ⟨by positivity, le_min (by positivity) (by positivity), ?_⟩
    refine le_trans (min_le_right _ _) ?_
    norm_num

section

variable {target : LearningTarget ℝ}

lemma validateTarget_numbers (h : validateTarget target = .ok ()) :
    0 < target.noiseVariance ∧ 0 ≤ target.costWeight ∧ 0 ≤ target.riskWeight := by
  unfold validateTarget at h
  rw [seq_ok, failIf_ok] at h
  obtain ⟨hnumbers, -⟩ := h
  simp only [not_or, exact_le, exact_lt, not_le, not_lt] at hnumbers
  exact ⟨hnumbers.2.2.2.2.2.2.1, hnumbers.2.2.2.2.2.2.2.2.1,
    hnumbers.2.2.2.2.2.2.2.2.2.2⟩

lemma toCandidate_usable (hvalid : validateTarget target = .ok ()) {row : CandidateRow ℝ}
    (h : Directed target.capabilityIds.length row) :
    ∃ candidate, toCandidate target row = .ok candidate ∧ candidate.apertureId = row.apertureId ∧
      Usable target.capabilityIds.length candidate := by
  obtain ⟨indices, hdirection, hmark⟩ := h.marked
  obtain ⟨v, hv, hlength, hunit⟩ := normalized_exact (one_le_sum_sq hmark)
  obtain ⟨hcost, hrisk, hriskLe⟩ := priced_bounds h.priced
  rw [length_directionOf] at hlength
  refine ⟨⟨row.apertureId, v, target.noiseVariance, row.cost, row.risk⟩, ?_, rfl,
    hlength, hunit, (validateTarget_numbers hvalid).1, hcost, hrisk, hriskLe⟩
  unfold toCandidate
  rw [hdirection, hv, ok_bind]
  rfl

/-- Every candidate can be scored and assimilated. -/
lemma candidates_usable (hvalid : validateTarget target = .ok ()) (rows : List (CandidateRow ℝ))
    (h : ∀ row ∈ rows, Directed target.capabilityIds.length row) :
    ∃ candidates, rows.mapM (toCandidate target) = .ok candidates ∧
      candidates.map (·.apertureId) = rows.map (·.apertureId) ∧
      ∀ candidate ∈ candidates, Usable target.capabilityIds.length candidate := by
  induction rows with
  | nil => exact ⟨[], rfl, rfl, fun _ hmem => by cases hmem⟩
  | cons row rows ih =>
    obtain ⟨candidate, hcandidate, hid, husable⟩ := toCandidate_usable hvalid
      (h row mem_cons_self)
    obtain ⟨candidates, hrest, hids, hall⟩ := ih fun r hr => h r (mem_cons_of_mem _ hr)
    refine ⟨candidate :: candidates, ?_, ?_, ?_⟩
    · rw [mapM_cons, hcandidate, ok_bind, hrest]
      rfl
    · rw [map_cons, map_cons, hid, hids]
    · exact forall_mem_cons.mpr ⟨husable, hall⟩

end

/-! ## Sessions -/

section

variable [LearningDigests ℝ] {target : LearningTarget ℝ}
  {generate : LearningTarget ℝ → BrainResult (List (ApertureCandidate ℝ))}
  {candidates : List (ApertureCandidate ℝ)} {session : AdaptiveLearningSession ℝ}

/-- The candidates of a target: usable, and each with a name of its own. -/
structure Supply (target : LearningTarget ℝ) (candidates : List (ApertureCandidate ℝ)) : Prop where
  usable : ∀ candidate ∈ candidates, Usable target.capabilityIds.length candidate
  names_nodup : (candidates.map (·.apertureId)).Nodup

/-- A session under way: valid, with a sound posterior, and its apertures are candidates. -/
structure Underway (target : LearningTarget ℝ) (candidates : List (ApertureCandidate ℝ))
    (session : AdaptiveLearningSession ℝ) : Prop where
  valid : validateAdaptiveSession target session = .ok ()
  posterior : Covers target.capabilityIds.length session.posterior
  completed : ∀ id ∈ session.completedApertureIds, id ∈ candidates.map (·.apertureId)

lemma Underway.target_valid (h : Underway target candidates session) :
    validateTarget target = .ok () := by
  have hvalid := h.valid
  unfold validateAdaptiveSession at hvalid
  rw [seq_ok] at hvalid
  exact hvalid.1

lemma Underway.completed_nodup (h : Underway target candidates session) :
    session.completedApertureIds.Nodup := by
  have hvalid := h.valid
  unfold validateAdaptiveSession at hvalid
  rw [seq_ok, seq_ok, seq_ok, failIf_ok, failIf_ok, not_not] at hvalid
  exact hvalid.2.2.2

lemma remaining_ne_nil (hsupply : Supply target candidates)
    (h : Underway target candidates session) : remainingCandidates session candidates ≠ [] ↔
      session.completedApertureIds.length < candidates.length := by
  constructor
  · intro hne
    obtain ⟨candidate, hmem⟩ := exists_mem_of_ne_nil _ hne
    unfold remainingCandidates at hmem
    rw [mem_filter, decide_eq_true_iff] at hmem
    have hsub : (candidate.apertureId :: session.completedApertureIds) ⊆
        candidates.map (·.apertureId) := by
      exact forall_mem_cons.mpr ⟨mem_map_of_mem hmem.1, h.completed⟩
    have hle := (subperm_of_subset
      (nodup_cons.mpr ⟨hmem.2, h.completed_nodup⟩) hsub).length_le
    rw [length_cons, length_map] at hle
    omega
  · intro hlt hnil
    have hsub : candidates.map (·.apertureId) ⊆ session.completedApertureIds := by
      intro id hid
      obtain ⟨candidate, hcandidate, rfl⟩ := mem_map.mp hid
      by_contra hnot
      have hmem : candidate ∈ remainingCandidates session candidates := by
        unfold remainingCandidates
        rw [mem_filter, decide_eq_true_iff]
        exact ⟨hcandidate, hnot⟩
      rw [hnil] at hmem
      cases hmem
    have hle := (subperm_of_subset hsupply.names_nodup hsub).length_le
    rw [length_map] at hle
    omega

section

omit [LearningDigests ℝ]

lemma selectStep_ok (hvalid : validateTarget target = .ok ()) {covariance : DenseMatrix ℝ}
    (hsquare : covariance.Square target.capabilityIds.length)
    (hpsd : Matrix.PosSemidef (asMatrix target.capabilityIds.length covariance.rows))
    (hmean : session.posterior.mean.length = target.capabilityIds.length)
    {candidate : ApertureCandidate ℝ} (h : Usable target.capabilityIds.length candidate)
    (selected : Option (Selection ℝ)) :
    ∃ selection, selectStep target session covariance selected candidate = .ok (some selection) ∧
      (selection.candidate = candidate ∨ selected = some selection) := by
  obtain ⟨-, hcost, hrisk⟩ := validateTarget_numbers hvalid
  have hpos := (validateTarget_counts hvalid).1
  obtain ⟨score, hscore⟩ := chooseActiveAperture_exact (by omega) hsquare hpsd h hcost hrisk
  unfold selectStep
  simp only []
  generalize (if session.policy.maximizeObservedValue = true then (1 : ℝ) else -1) = direction
  rw [hscore, ok_bind, dot_asVector h.vector_length hmean, ok_bind]
  simp only [exact_isFinite, not_true_eq_false, or_self, failIf, if_false, ok_bind]
  cases selected with
  | none => exact ⟨_, rfl, .inl rfl⟩
  | some current =>
    split
    · exact ⟨_, rfl, .inl rfl⟩
    · exact ⟨current, rfl, .inr rfl⟩

lemma select_ok (hvalid : validateTarget target = .ok ()) {covariance : DenseMatrix ℝ}
    (hsquare : covariance.Square target.capabilityIds.length)
    (hpsd : Matrix.PosSemidef (asMatrix target.capabilityIds.length covariance.rows))
    (hmean : session.posterior.mean.length = target.capabilityIds.length)
    {remaining : List (ApertureCandidate ℝ)}
    (h : ∀ candidate ∈ remaining, Usable target.capabilityIds.length candidate)
    (hne : remaining ≠ []) :
    ∃ selection, remaining.foldlM (selectStep target session covariance) none =
      .ok (some selection) ∧ selection.candidate ∈ remaining := by
  obtain ⟨first, rest, rfl⟩ := exists_cons_of_ne_nil hne
  obtain ⟨start, hstart, hcandidate⟩ := selectStep_ok hvalid hsquare hpsd hmean
    (h first mem_cons_self) none
  have hloop : ∃ result, rest.foldlM (selectStep target session covariance) (some start) =
      .ok result ∧ ∃ selection, result = some selection ∧ selection.candidate ∈ first :: rest := by
    refine foldlM_ok_of_step
      (fun result => ∃ selection, result = some selection ∧ selection.candidate ∈ first :: rest)
      ⟨start, rfl, ?_⟩ ?_
    · rcases hcandidate with hcandidate | hnone
      · rw [hcandidate]
        exact mem_cons_self
      · cases hnone
    · intro result candidate hmem hinv
      obtain ⟨current, rfl, hcurrent⟩ := hinv
      obtain ⟨next, hnext, hwhich⟩ := selectStep_ok hvalid hsquare hpsd hmean
        (h candidate (mem_cons_of_mem _ hmem)) (some current)
      refine ⟨some next, hnext, next, rfl, ?_⟩
      rcases hwhich with hwhich | hwhich
      · rw [hwhich]
        exact mem_cons_of_mem _ hmem
      · cases hwhich
        exact hcurrent
  obtain ⟨result, hrun, selection, rfl, hmem⟩ := hloop
  refine ⟨selection, ?_, hmem⟩
  rw [foldlM_cons, hstart, ok_bind]
  exact hrun

end

/-- The next aperture exists while steps and candidates are left, and not otherwise. -/
lemma nextLearningAperture_ok (hgenerate : generate target = .ok candidates)
    (hsupply : Supply target candidates) (h : Underway target candidates session)
    (hplan : session.completedApertureIds.length < target.planSteps)
    (hleft : session.completedApertureIds.length < candidates.length) :
    ∃ step, nextLearningAperture generate target session = .ok step ∧
      step.schema = "tidex.adaptive_learning_step/v1" ∧
      step.apertureId ∈ candidates.map (·.apertureId) ∧
      step.apertureId ∉ session.completedApertureIds := by
  have hpos := (validateTarget_counts h.target_valid).1
  have hremaining := (remaining_ne_nil hsupply h).mpr hleft
  have hempty : (remainingCandidates session candidates).isEmpty = false := by
    rw [isEmpty_eq_false_iff]
    exact hremaining
  obtain ⟨covariance, hcovariance, hrows, hsquare⟩ := DenseMatrix.fromRows_exact (by omega)
    h.posterior.rows_length h.posterior.row_length
  have hpsd : Matrix.PosSemidef (asMatrix target.capabilityIds.length covariance.rows) := by
    rw [hrows]
    exact h.posterior.psd
  have husable : ∀ candidate ∈ remainingCandidates session candidates,
      Usable target.capabilityIds.length candidate := by
    intro candidate hcandidate
    exact hsupply.usable candidate (mem_filter.mp hcandidate).1
  obtain ⟨selection, hselect, hmem⟩ := select_ok h.target_valid hsquare hpsd h.posterior.mean_length
    husable hremaining
  obtain ⟨hcandidate, hnew⟩ := mem_filter.mp hmem
  rw [decide_eq_true_iff] at hnew
  refine ⟨selection.step target, ?_, rfl, mem_map_of_mem hcandidate, hnew⟩
  unfold nextLearningAperture
  rw [h.valid, ok_bind, hgenerate, ok_bind]
  dsimp only
  rw [hempty, hcovariance, ok_bind, hselect, ok_bind]
  simp only [ge_iff_le, not_le.mpr hplan, Bool.false_eq_true, failIf, if_false, ok_bind, okOr]
  rfl

variable {step : AdaptiveLearningStep ℝ}

lemma nextLearningAperture_error (hgenerate : generate target = .ok candidates)
    (hsupply : Supply target candidates) (h : Underway target candidates session)
    (hleft : candidates.length ≤ session.completedApertureIds.length) :
    nextLearningAperture generate target session ≠ .ok step := by
  have hremaining : (remainingCandidates session candidates).isEmpty = true := by
    rw [List.isEmpty_iff]
    by_contra hne
    have hlt := (remaining_ne_nil hsupply h).mp hne
    omega
  unfold nextLearningAperture
  rw [h.valid, ok_bind, hgenerate, ok_bind]
  dsimp only
  intro hok
  rw [seq_ok, seq_ok, failIf_ok, failIf_ok] at hok
  exact hok.2.1 hremaining

/-! ## Results -/

section

omit [LearningDigests ℝ]

lemma sameF64_self (x : ℝ) : sameF64 x x = true := by
  unfold sameF64
  rw [Bool.and_eq_true, Bool.and_eq_true, exact_le]
  refine ⟨⟨rfl, rfl⟩, ?_⟩
  have hbound : (0 : ℝ) ≤ 1 + max |x| |x| := by
    have := abs_nonneg x
    rw [max_self]
    linarith
  have hscale : (0 : ℝ) ≤ Real.sqrt (1 / 2 ^ 52) * ((64 : Nat) / 10 ^ 0) := by positivity
  rw [sub_self, exact_abs, abs_zero]
  exact mul_nonneg hscale hbound

lemma sameStep_self (step : AdaptiveLearningStep ℝ) : sameStep step step = true := by
  have hvector : sameF64Vector step.capabilityWeights step.capabilityWeights = true := by
    unfold sameF64Vector
    rw [Bool.and_eq_true, all_eq_true]
    refine ⟨beq_self_eq_true _, ?_⟩
    intro pair hpair
    rw [zip, zipWith_self, mem_map] at hpair
    obtain ⟨x, -, rfl⟩ := hpair
    exact sameF64_self x
  unfold sameStep
  simp [sameF64_self, hvector]

end

lemma assimilateLearningResult_ok (hgenerate : generate target = .ok candidates)
    (hsupply : Supply target candidates) (h : Underway target candidates session)
    (hstep : nextLearningAperture generate target session = .ok step)
    (hschema : step.schema = "tidex.adaptive_learning_step/v1")
    (hmem : step.apertureId ∈ candidates.map (·.apertureId))
    (hnew : step.apertureId ∉ session.completedApertureIds) (observedValue : ℝ) :
    ∃ session', assimilateLearningResult generate target session step observedValue = .ok session' ∧
      Underway target candidates session' ∧
      session'.completedApertureIds = session.completedApertureIds ++ [step.apertureId] := by
  have hpos := (validateTarget_counts h.target_valid).1
  obtain ⟨canonical, hcanonical, hid⟩ := mem_map.mp hmem
  have hfind : ∃ found, (candidates.find? fun candidate =>
      candidate.apertureId = step.apertureId) = some found := by
    rw [← Option.isSome_iff_exists, find?_isSome]
    exact ⟨canonical, hcanonical, decide_eq_true hid⟩
  obtain ⟨found, hfound⟩ := hfind
  obtain ⟨posterior, hposterior, hcovers⟩ := assimilateApertureResult_exact (by omega) h.posterior
    (hsupply.usable found (mem_of_find?_eq_some hfound)) observedValue
  have hrun : assimilateLearningResult generate target session step observedValue = .ok
      { session with
        posterior := posterior
        completedApertureIds := session.completedApertureIds ++ [step.apertureId] } := by
    unfold assimilateLearningResult
    rw [h.valid, ok_bind, hstep, ok_bind, hgenerate, ok_bind, hfound]
    simp only [hschema, ne_eq, not_true_eq_false, hnew, or_self, sameStep_self, failIf, if_false,
      ok_bind, okOr]
    rw [hposterior]
    rfl
  refine ⟨_, hrun, ⟨?_, hcovers, ?_⟩, rfl⟩
  · have hnodup := h.completed_nodup
    have hvalid := h.valid
    unfold validateAdaptiveSession at hvalid ⊢
    rw [seq_ok, seq_ok, seq_ok, failIf_ok, failIf_ok] at hvalid ⊢
    obtain ⟨htarget, hcontract, hpolicy, -⟩ := hvalid
    simp only [not_or, not_not] at hcontract
    refine ⟨htarget, ?_, hpolicy, ?_⟩
    · simp only [not_or, not_not]
      refine ⟨hcontract.1, hcontract.2.1, hcontract.2.2.1, hcontract.2.2.2.1, hcovers.mean_length,
        hcovers.rows_length, ?_⟩
      rw [Bool.not_eq_true, any_eq_false]
      intro row hrow
      simp [hcovers.row_length row hrow]
    · rw [not_not]
      exact nodup_snoc hnodup hnew
  · exact forall_mem_concat h.completed hmem

/-- One aperture and its result succeed while steps and candidates are left. -/
lemma completeStep_ok (hgenerate : generate target = .ok candidates)
    (hsupply : Supply target candidates) (h : Underway target candidates session)
    (hplan : session.completedApertureIds.length < target.planSteps)
    (hleft : session.completedApertureIds.length < candidates.length) (observedValue : ℝ) :
    ∃ session', completeStep generate target session observedValue = .ok session' ∧
      Underway target candidates session' ∧
      session'.completedApertureIds.length = session.completedApertureIds.length + 1 := by
  obtain ⟨step, hstep, hschema, hmem, hnew⟩ :=
    nextLearningAperture_ok hgenerate hsupply h hplan hleft
  obtain ⟨session', hrun, hunderway, hcompleted⟩ :=
    assimilateLearningResult_ok hgenerate hsupply h hstep hschema hmem hnew observedValue
  refine ⟨session', ?_, hunderway, ?_⟩
  · unfold completeStep
    rw [hstep, ok_bind]
    exact hrun
  · rw [hcompleted, length_append]
    rfl

/-! ## Runs -/

/-- A started session can be completed: whatever values are observed, its run succeeds up to
    the last step of the plan, and completes one aperture for each value. -/
def Completable (generate : LearningTarget ℝ → BrainResult (List (ApertureCandidate ℝ)))
    (target : LearningTarget ℝ) (start : AdaptiveLearningSession ℝ) : Prop :=
  ∀ observedValues : List ℝ, observedValues.length ≤ target.planSteps →
    ∃ session, observedValues.foldlM (completeStep generate target) start = .ok session ∧
      session.completedApertureIds.length = observedValues.length

omit [LearningDigests ℝ] in
lemma priorPosterior_covers (dimension : Nat) :
    Covers dimension (priorPosterior dimension : GaussianAperturePosterior ℝ) := by
  refine ⟨length_replicate, ?_, ?_, ?_⟩
  · show ((range dimension).map _).length = dimension
    rw [length_map, length_range]
  · intro row hrow
    obtain ⟨r, -, rfl⟩ := mem_map.mp hrow
    rw [length_map, length_range]
  · have hidentity : asMatrix dimension (priorPosterior dimension :
        GaussianAperturePosterior ℝ).covariance = 1 := by
      ext i j
      have hentry := asMatrix_squareMatrix dimension
        (fun row col => if row = col then (1 : ℝ) else 0) i j
      rw [Matrix.one_apply]
      simp only [Fin.ext_iff]
      exact hentry
    rw [hidentity]
    exact Matrix.PosSemidef.one

variable {policy : AdaptiveLearningPolicy ℝ}

lemma start_target_valid (hstart : startAdaptiveLearning target policy = .ok session) :
    validateTarget target = .ok () := by
  unfold startAdaptiveLearning at hstart
  rw [seq_ok] at hstart
  exact hstart.1

lemma start_underway (hstart : startAdaptiveLearning target policy = .ok session) :
    Underway target candidates session ∧ session.completedApertureIds = [] := by
  unfold startAdaptiveLearning at hstart
  rw [seq_ok, seq_ok, pure_ok] at hstart
  obtain ⟨htarget, hpolicy, rfl⟩ := hstart
  have hcovers := priorPosterior_covers target.capabilityIds.length
  refine ⟨⟨?_, hcovers, ?_⟩, rfl⟩
  · unfold validateAdaptiveSession
    rw [seq_ok, seq_ok, seq_ok, failIf_ok, failIf_ok]
    refine ⟨htarget, ?_, hpolicy, ?_⟩
    · simp only [not_or, not_not]
      refine ⟨trivial, trivial, trivial, trivial, hcovers.mean_length, hcovers.rows_length, ?_⟩
      rw [Bool.not_eq_true, any_eq_false]
      intro row hrow
      simp [hcovers.row_length row hrow]
    · rw [not_not]
      exact nodup_nil
  · intro id hid
    cases hid

/-- A run succeeds while steps and candidates are left. -/
lemma run_ok (hgenerate : generate target = .ok candidates)
    (hsupply : Supply target candidates) (observedValues : List ℝ)
    (h : Underway target candidates session)
    (hplan : session.completedApertureIds.length + observedValues.length ≤ target.planSteps)
    (hleft : session.completedApertureIds.length + observedValues.length ≤ candidates.length) :
    ∃ session', observedValues.foldlM (completeStep generate target) session = .ok session' ∧
      Underway target candidates session' ∧ session'.completedApertureIds.length =
        session.completedApertureIds.length + observedValues.length := by
  induction observedValues generalizing session with
  | nil => exact ⟨session, rfl, h, rfl⟩
  | cons value observedValues ih =>
    rw [length_cons] at hplan hleft
    obtain ⟨next, hnext, hunderway, hlength⟩ :=
      completeStep_ok hgenerate hsupply h (by omega) (by omega) value
    obtain ⟨last, hlast, hunderway', hlength'⟩ := ih hunderway (by omega) (by omega)
    refine ⟨last, ?_, hunderway', ?_⟩
    · rw [foldlM_cons, hnext, ok_bind]
      exact hlast
    · rw [length_cons]
      omega

/-- A started session can be completed exactly when there is a candidate for every step. -/
lemma completable_iff_candidates (hgenerate : generate target = .ok candidates)
    (hsupply : Supply target candidates)
    (hstart : startAdaptiveLearning target policy = .ok session) :
    Completable generate target session ↔ target.planSteps ≤ candidates.length := by
  obtain ⟨hunderway, hcompleted⟩ := start_underway hstart
  constructor
  · intro hcompletable
    by_contra hshort
    -- a run over all candidates succeeds, and the step after it has none left
    obtain ⟨last, hlast, hunderway', hlength⟩ := run_ok hgenerate hsupply
      (replicate candidates.length 0) hunderway
      (by rw [hcompleted, length_replicate, length_nil]; omega)
      (by rw [hcompleted, length_replicate, length_nil]; omega)
    obtain ⟨further, hfurther, -⟩ := hcompletable (replicate candidates.length 0 ++ [0]) (by
      rw [length_append, length_replicate, length_singleton]
      omega)
    rw [foldlM_append, hlast, ok_bind, foldlM_cons, bind_ok] at hfurther
    obtain ⟨next, hnext, -⟩ := hfurther
    unfold completeStep at hnext
    rw [bind_ok] at hnext
    obtain ⟨step, hstep, -⟩ := hnext
    rw [hcompleted, length_nil, length_replicate, Nat.zero_add] at hlength
    exact nextLearningAperture_error hgenerate hsupply hunderway' (by omega) hstep
  · intro hplan observedValues hlength
    obtain ⟨last, hlast, -, hcount⟩ := run_ok hgenerate hsupply observedValues hunderway
      (by rw [hcompleted, length_nil]; omega) (by rw [hcompleted, length_nil]; omega)
    refine ⟨last, hlast, ?_⟩
    rw [hcount, hcompleted, length_nil, Nat.zero_add]

omit [LearningDigests ℝ] in
lemma generated_supply [Platform] (hvalid : validateTarget target = .ok ()) {fuel : Nat}
    (hgenerate : generateCandidates fuel target = some (generate target)) :
    ∃ candidates, generate target = .ok candidates ∧ Supply target candidates ∧
      (target.planSteps ≤ candidates.length ↔ Sustained target) ∧
      (target.capabilityIds.length ≤ 20 →
        (Sustained target ↔ target.planSteps ≤ 2 ^ target.capabilityIds.length - 1)) := by
  obtain ⟨g, c, hrows, hdrawn, hplanned, hsmall⟩ := generateCandidates_supply hvalid hgenerate
  obtain ⟨candidates, hcandidates, hids, husable⟩ := candidates_usable hvalid g.rows
    hdrawn.supplied.directed
  have hlength : candidates.length = g.rows.length := by
    have := congrArg length hids
    rwa [length_map, length_map] at this
  refine ⟨candidates, hrows.trans hcandidates, ⟨husable, ?_⟩, ?_, hsmall⟩
  · rw [hids]
    exact hdrawn.supplied.names_nodup
  · rw [hlength]
    exact hplanned

/-- **A started session can be completed** exactly when no repeated draw ends the generation
    of its candidates early; with at most twenty capabilities, exactly when the plan has no
    more steps than there are subsets. -/
theorem session_completable_iff [Platform] {policy : AdaptiveLearningPolicy ℝ}
    (hstart : startAdaptiveLearning target policy = .ok session) {fuel : Nat}
    (hgenerate : generateCandidates fuel target = some (generate target)) :
    (Completable generate target session ↔ Sustained target) ∧
      (target.capabilityIds.length ≤ 20 → (Completable generate target session ↔
        target.planSteps ≤ 2 ^ target.capabilityIds.length - 1)) := by
  have hvalid := start_target_valid hstart
  obtain ⟨candidates, hcandidates, hsupply, hplanned, hsmall⟩ := generated_supply hvalid hgenerate
  have hcompletable := completable_iff_candidates hcandidates hsupply hstart
  rw [hplanned] at hcompletable
  refine ⟨hcompletable, ?_⟩
  intro hfew
  rw [hcompletable]
  exact hsmall hfew

/-! ## The posterior of a run -/

variable {values : List ℝ} {last : AdaptiveLearningSession ℝ}

lemma completeStep_takes {value : ℝ} (hgenerate : generate target = .ok candidates)
    (hstep : completeStep generate target session value = .ok last) :
    ∃ candidate ∈ candidates, candidate.apertureId ∉ session.completedApertureIds ∧
      last.completedApertureIds = session.completedApertureIds ++ [candidate.apertureId] ∧
      assimilateApertureResult session.posterior candidate value = .ok last.posterior := by
  unfold completeStep assimilateLearningResult at hstep
  simp only [bind_ok, failIf_ok, okOr_ok, pure_ok, not_or] at hstep
  obtain ⟨step, -, _, -, _, ⟨-, hnew⟩, _, -, _, -, found, hfound, candidate, hfind, posterior,
    hposterior, rfl⟩ := hstep
  rw [hgenerate] at hfound
  cases hfound
  have hid : candidate.apertureId = step.apertureId := by simpa using find?_some hfind
  rw [← hid] at hnew ⊢
  exact ⟨candidate, mem_of_find?_eq_some hfind, hnew, rfl, hposterior⟩

/-- The results that lead from one session to another: each observed value, taken up at another
    candidate. -/
structure Takes (candidates : List (ApertureCandidate ℝ)) (session last : AdaptiveLearningSession ℝ)
    (values : List ℝ) (results : List (ApertureCandidate ℝ × ℝ)) : Prop where
  values : results.map Prod.snd = values
  candidates : ∀ result ∈ results, result.1 ∈ candidates
  completed : last.completedApertureIds =
    session.completedApertureIds ++ results.map (·.1.apertureId)
  nodup : last.completedApertureIds.Nodup
  posterior : assimilateResults session.posterior results = .ok last.posterior

lemma run_takes (hgenerate : generate target = .ok candidates)
    (hnodup : session.completedApertureIds.Nodup)
    (hrun : values.foldlM (completeStep generate target) session = .ok last) :
    ∃ results, Takes candidates session last values results := by
  induction values generalizing session with
  | nil =>
    cases hrun
    exact ⟨[], rfl, forall_mem_nil _, (append_nil _).symm, hnodup, rfl⟩
  | cons value values ih =>
    rw [foldlM_cons, bind_ok] at hrun
    obtain ⟨next, hnext, hrest⟩ := hrun
    obtain ⟨candidate, hmem, hnew, hcompleted, htaken⟩ := completeStep_takes hgenerate hnext
    have hnext_nodup : next.completedApertureIds.Nodup := by
      rw [hcompleted]
      rw [← concat_eq_append]
      exact hnodup.concat hnew
    obtain ⟨results, rfl, hresults, hids, hlast, hposterior⟩ := ih hnext_nodup hrest
    refine ⟨(candidate, value) :: results, rfl, forall_mem_cons.mpr ⟨hmem, hresults⟩, ?_, hlast,
      ?_⟩
    · rw [hids, hcompleted, append_assoc]
      rfl
    · unfold assimilateResults
      rw [foldlM_cons, htaken]
      exact hposterior

/-- **A run is the assimilation of its results**: each observed value is taken up at another
    candidate of the target, and in whatever order these results are assimilated, they lead
    from the prior to the posterior that the run has ended with. -/
theorem learning_run_posterior [Platform] {policy : AdaptiveLearningPolicy ℝ}
    (hstart : startAdaptiveLearning target policy = .ok session) {fuel : Nat}
    (hgenerate : generateCandidates fuel target = some (generate target))
    (hrun : values.foldlM (completeStep generate target) session = .ok last) :
    ∃ candidates results, generate target = .ok candidates ∧
      Takes candidates session last values results ∧ ∀ results', results.Perm results' →
        assimilateResults session.posterior results' = .ok last.posterior := by
  have hvalid := start_target_valid hstart
  have hcount := (validateTarget_counts hvalid).1
  obtain ⟨candidates, hcandidates, hsupply, -⟩ := generated_supply hvalid hgenerate
  have hunderway : Underway target candidates session := (start_underway hstart).1
  obtain ⟨results, htakes⟩ := run_takes hcandidates hunderway.completed_nodup hrun
  refine ⟨candidates, results, hcandidates, htakes, ?_⟩
  intro results' hperm
  rw [← assimilateResults_perm (by omega) hunderway.posterior _ hperm]
  · exact htakes.posterior
  · intro result hresult
    exact validateCandidate_exact (hsupply.usable _ (htakes.candidates _ hresult))

end

/-! ## Two capabilities -/

section

variable {K : Type} [Platform]

lemma drawKey_of_two {target : LearningTarget K} (h : target.capabilityIds.length = 2)
    (counter : Nat) : drawKey target counter = [true, true] := by
  unfold drawKey drawIndices
  dsimp only
  rw [h]
  generalize nextRandom (stableU64 target.targetId.asStr (counter % 2 ^ 64)) = state
  have hdesired : min (2 + state % max (2 - 1) 1) 2 = 2 := by omega
  have hshuffle : shuffle state 2 = swap [0, 1] 1 (nextRandom state % 2) := by
    unfold shuffle
    have hsteps : (range' 1 (2 - 1)).reverse = [1] := rfl
    rw [hsteps, foldl_cons, foldl_nil]
    have hrange : range 2 = [0, 1] := rfl
    unfold shuffleStep
    dsimp only
    rw [hrange]
  rw [hdesired, hshuffle]
  rcases Nat.mod_two_eq_zero_or_one (nextRandom state) with hparity | hparity
  · rw [hparity]
    decide
  · rw [hparity]
    decide

lemma stops_of_two {target : LearningTarget K} (h : target.capabilityIds.length = 2) :
    Stops target 0 := by
  have hkeys : keysBefore target 0 = [[true, false], [false, true], [true, true]] := by
    unfold keysBefore
    rw [h, range_zero, map_nil, append_nil]
    decide
  refine ⟨?_, ?_⟩
  · rw [drawKey_of_two h, hkeys]
    decide
  · unfold subsetsSeen
    rw [hkeys, h]
    decide

end

lemma generates_of_two [Platform] {target : LearningTarget ℝ}
    (h : target.capabilityIds.length = 2) (hvalid : validateTarget target = .ok ()) :
    ∃ r, generateCandidates 1 target = some r := by
  obtain ⟨g, hstart, hpaired⟩ := startRows_ok hvalid
  have hloop : ∃ r, mixedLoop target 1 0 g = some r := by
    unfold mixedLoop
    by_cases hroom : g.rows.length < target.candidateBudget
    · rcases mixedStep_ok (Drawn.of_paired hpaired) (by omega) hroom with ⟨-, hstep⟩ | ⟨hgoes, -⟩
      · rw [Nat.zero_mod] at hstep
        rw [if_pos hroom, hstep]
        exact ⟨_, rfl⟩
      · exact absurd (stops_of_two h) hgoes
    · rw [if_neg hroom]
      exact ⟨_, rfl⟩
  obtain ⟨r, hr⟩ := hloop
  unfold generateCandidates
  rw [hvalid, ok_bind, hstart]
  simp only []
  rw [hr]
  exact ⟨_, rfl⟩

/-! ## A target of two capabilities -/

namespace Sample

attribute [local instance] Platform.reference

/-- Digests by the name of the target and by the direction of the policy. -/
noncomputable local instance digests : LearningDigests ℝ where
  targetDigest target := digestBytes target.targetId.asStr.toByteArray
  policyDigest policy := digestBytes policy.schema.toByteArray

def alpha : CapabilityId := ⟨"alpha", by decide⟩

def beta : CapabilityId := ⟨"beta", by decide⟩

/-- Two capabilities, with a plan of so many steps and as large a budget. -/
noncomputable def target (steps : Nat) (h : steps < 2 ^ 64) : LearningTarget ℝ where
  targetId := ⟨"two-skills", by decide⟩
  capabilityIds := [alpha, beta]
  candidateBudget := steps
  planSteps := steps
  noiseVariance := 1
  costWeight := 0
  riskWeight := 0
  candidateBudget_lt := h
  planSteps_lt := h

noncomputable def policy : AdaptiveLearningPolicy ℝ where
  schema := "tidex.adaptive_learning_policy/v1"
  outcomeUtilityWeight := 1
  maximizeObservedValue := true

variable {steps : Nat}

lemma target_valid (h : steps < 2 ^ 64) (hmin : 2 ≤ steps) :
    validateTarget (target steps h) = .ok () := by
  unfold validateTarget
  rw [seq_ok, failIf_ok, failIf_ok, not_not]
  refine ⟨?_, ?_⟩
  · simp only [target, length_cons, length_nil, not_or, not_lt, exact_isFinite, exact_le,
      exact_lt, not_true_eq_false, not_false_eq_true, true_and, gt_iff_lt, not_le]
    refine ⟨by omega, by omega, hmin, hmin, le_refl steps, zero_lt_one, le_refl 0, le_refl 0⟩
  · show [alpha, beta].Nodup
    decide

lemma starts (h : steps < 2 ^ 64) (hmin : 2 ≤ steps) :
    ∃ session, startAdaptiveLearning (target steps h) policy = .ok session := by
  have hpolicy : validatePolicy policy = .ok () := by
    unfold validatePolicy
    rw [failIf_ok]
    simp only [policy, ne_eq, not_true_eq_false, exact_isFinite, exact_le, false_or, not_le]
    exact zero_lt_one
  unfold startAdaptiveLearning
  rw [target_valid h hmin, ok_bind, hpolicy, ok_bind]
  exact ⟨_, rfl⟩

/-- What the generation gives within one draw. -/
noncomputable def generate (target : LearningTarget ℝ) :
    BrainResult (List (ApertureCandidate ℝ)) :=
  (generateCandidates 1 target).getD (.error .json)

lemma generates (h : steps < 2 ^ 64) (hmin : 2 ≤ steps) :
    generateCandidates 1 (target steps h) = some (generate (target steps h)) := by
  obtain ⟨r, hr⟩ := generates_of_two rfl (target_valid h hmin)
  unfold generate
  rw [hr]
  rfl

/-- As many steps as there are subsets. -/
noncomputable def threeSteps : LearningTarget ℝ := target 3 (by decide)

/-- More steps than there are subsets. -/
noncomputable def fourSteps : LearningTarget ℝ := target 4 (by decide)

theorem three_steps_completable : ∃ session, startAdaptiveLearning threeSteps policy = .ok session ∧
      Completable generate threeSteps session := by
  have hwidth : 3 < 2 ^ 64 := by decide
  obtain ⟨session, hstart⟩ := starts hwidth (by decide)
  have hiff := (session_completable_iff hstart (generates hwidth (by decide))).2
    (show 2 ≤ 20 by decide)
  exact ⟨session, hstart, hiff.mpr (show 3 ≤ 2 ^ 2 - 1 by decide)⟩

theorem three_steps_posterior : ∃ session last,
    [1, 0].foldlM (completeStep generate threeSteps) session = .ok last ∧
      ∃ candidates results, generate threeSteps = .ok candidates ∧
        Takes candidates session last [1, 0] results ∧ ∀ results', results.Perm results' →
          assimilateResults session.posterior results' = .ok last.posterior := by
  have hwidth : 3 < 2 ^ 64 := by decide
  obtain ⟨session, hstart⟩ := starts hwidth (by decide)
  have hgenerates := generates hwidth (by decide)
  obtain ⟨candidates, hcandidates, hsupply, hplanned, hsmall⟩ := generated_supply
    (target_valid hwidth (by decide)) hgenerates
  have hplan := hplanned.mpr ((hsmall (show 2 ≤ 20 by decide)).mpr (show 3 ≤ 2 ^ 2 - 1 by decide))
  obtain ⟨last, hrun, -⟩ := (completable_iff_candidates hcandidates hsupply hstart).mpr hplan
    [1, 0] (show 2 ≤ 3 by decide)
  exact ⟨session, last, hrun, learning_run_posterior hstart hgenerates hrun⟩

/-- **Four steps are more than two capabilities have subsets**: the session is started, its
    candidates are generated, and it cannot be completed. -/
theorem four_steps_not_completable :
    ∃ session, startAdaptiveLearning fourSteps policy = .ok session ∧
      generateCandidates 1 fourSteps = some (generate fourSteps) ∧
      ¬Completable generate fourSteps session := by
  have hwidth : 4 < 2 ^ 64 := by decide
  obtain ⟨session, hstart⟩ := starts hwidth (by decide)
  have hgenerates := generates hwidth (by decide)
  refine ⟨session, hstart, hgenerates, ?_⟩
  obtain ⟨candidates, hcandidates, hsupply, hplanned, hsmall⟩ := generated_supply
    (target_valid hwidth (by decide)) hgenerates
  intro hcompletable
  have hplan := (completable_iff_candidates hcandidates hsupply hstart).mp hcompletable
  have hsubsets : 4 ≤ 2 ^ 2 - 1 := (hsmall (show 2 ≤ 20 by decide)).mp (hplanned.mp hplan)
  exact absurd hsubsets (by decide)

end Sample

end Tidex.Learning
