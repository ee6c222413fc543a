/-
  Learning.Draws — the drawn candidates of a target.
-/
import Tidex.Learning.Supply
import Mathlib.Data.List.Dedup
import Mathlib.Data.List.GetD

namespace Tidex.Learning

open Tidex.Lib Tidex.Analysis List Scalar

/-! ## The draws -/

section

variable {K : Type}

lemma mem_swap {indices : List Nat} {i j k : Nat} (h : k ∈ swap indices i j) :
    k ∈ indices ∨ k = 0 := by
  have hgetD : ∀ m, indices.getD m 0 ∈ indices ∨ indices.getD m 0 = 0 := by
    intro m
    by_cases hm : m < indices.length
    · refine .inl ?_
      rw [getD_eq_getElem _ _ hm]
      exact getElem_mem hm
    · exact .inr (getD_eq_default _ _ (not_lt.mp hm))
  unfold swap at h
  rcases mem_or_eq_of_mem_set h with h | rfl
  · rcases mem_or_eq_of_mem_set h with h | rfl
    · exact .inl h
    · exact hgetD j
  · exact hgetD i

lemma length_swap (indices : List Nat) (i j : Nat) :
    (swap indices i j).length = indices.length := by
  unfold swap
  rw [length_set, length_set]

lemma shuffle_positions (state : Nat) {dimension : Nat} (hpos : 0 < dimension) :
    (shuffle state dimension).length = dimension ∧
      ∀ i ∈ shuffle state dimension, i < dimension := by
  have hsteps : ∀ (steps : List Nat) (acc : Nat × List Nat),
      (acc.2.length = dimension ∧ ∀ i ∈ acc.2, i < dimension) →
      (steps.foldl shuffleStep acc).2.length = dimension ∧
        ∀ i ∈ (steps.foldl shuffleStep acc).2, i < dimension := by
    intro steps
    induction steps with
    | nil => intro acc h; exact h
    | cons index steps ih =>
      intro acc h
      rw [foldl_cons]
      refine ih (shuffleStep acc index) ⟨?_, ?_⟩
      · unfold shuffleStep
        rw [length_swap, h.1]
      · intro i hi
        unfold shuffleStep at hi
        rcases mem_swap hi with hi | rfl
        · exact h.2 i hi
        · exact hpos
  refine hsteps _ _ ⟨length_range, ?_⟩
  intro i hi
  exact mem_range.mp hi

lemma drawIndices_marks [Platform] (target : LearningTarget K) (counter : Nat)
    (hpos : 0 < target.capabilityIds.length) :
    ∃ i ∈ drawIndices target counter, i < target.capabilityIds.length := by
  unfold drawIndices
  dsimp only
  generalize hdesired : min (2 + nextRandom (stableU64 target.targetId.asStr counter) %
    max (target.capabilityIds.length - 1) 1) target.capabilityIds.length = desired
  have hdesiredPos : 0 < desired := by omega
  obtain ⟨hlength, hlt⟩ := shuffle_positions
    (nextRandom (stableU64 target.targetId.asStr counter)) hpos
  cases hcases : shuffle (nextRandom (stableU64 target.targetId.asStr counter))
      target.capabilityIds.length with
  | nil =>
    rw [hcases, length_nil] at hlength
    omega
  | cons i rest =>
    refine ⟨i, ?_, hlt i (by rw [hcases]; exact mem_cons_self)⟩
    obtain ⟨m, rfl⟩ := Nat.exists_eq_succ_of_ne_zero hdesiredPos.ne'
    rw [take_succ_cons]
    exact mem_cons_self

/-! ## The subsets seen -/

def drawKey [Platform] (target : LearningTarget K) (counter : Nat) : List Bool :=
  marks target.capabilityIds.length (drawIndices target (counter % 2 ^ 64))

/-- The subsets before a draw: those of one capability, of two, and of the draws before it. -/
def keysBefore [Platform] (target : LearningTarget K) (counter : Nat) : List (List Bool) :=
  pairKeys target.capabilityIds.length (pairs target.capabilityIds.length) ++
    (List.range counter).map (drawKey target)

/-- How many different subsets there are before a draw. -/
def subsetsSeen [Platform] (target : LearningTarget K) (counter : Nat) : Nat :=
  (keysBefore target counter).dedup.length

/-- A draw that repeats a subset when enough have been seen. -/
def Stops [Platform] (target : LearningTarget K) (counter : Nat) : Prop :=
  drawKey target counter ∈ keysBefore target counter ∧
    exhaustion target.capabilityIds.length ≤ subsetsSeen target counter

/-- No repeated draw ends the generation before there are as many subsets as steps. -/
def Sustained [Platform] (target : LearningTarget K) : Prop :=
  ∀ counter, Stops target counter → target.planSteps ≤ subsetsSeen target counter

variable [Platform]

lemma keysBefore_mono (target : LearningTarget K) {c c' : Nat} (h : c ≤ c') :
    keysBefore target c ⊆ keysBefore target c' := by
  intro key hkey
  rcases mem_append.mp hkey with hkey | hkey
  · exact mem_append_left _ hkey
  · obtain ⟨i, hi, rfl⟩ := mem_map.mp hkey
    refine mem_append_right _ (mem_map_of_mem ?_)
    rw [mem_range] at hi ⊢
    omega

lemma keysBefore_succ (target : LearningTarget K) (c : Nat) :
    keysBefore target (c + 1) = keysBefore target c ++ [drawKey target c] := by
  unfold keysBefore
  rw [range_succ, map_append, append_assoc]
  rfl

/-- Different keys among those before a draw are at most as many as the subsets seen. -/
lemma length_le_subsetsSeen {target : LearningTarget K} {c : Nat} {seen : List (List Bool)}
    (hnodup : seen.Nodup) (hsub : seen ⊆ keysBefore target c) :
    seen.length ≤ subsetsSeen target c := by
  have hdedup : seen ⊆ (keysBefore target c).dedup := by
    intro key hkey
    exact mem_dedup.mpr (hsub hkey)
  exact (subperm_of_subset hnodup hdedup).length_le

lemma subsetsSeen_le_length {target : LearningTarget K} {c : Nat} {seen : List (List Bool)}
    (hsub : keysBefore target c ⊆ seen) : subsetsSeen target c ≤ seen.length := by
  have hdedup : (keysBefore target c).dedup ⊆ seen := by
    intro key hkey
    exact hsub (mem_dedup.mp hkey)
  exact (subperm_of_subset (nodup_dedup _) hdedup).length_le

lemma subsetsSeen_mono (target : LearningTarget K) {c c' : Nat} (h : c ≤ c') :
    subsetsSeen target c ≤ subsetsSeen target c' := by
  refine length_le_subsetsSeen (nodup_dedup _) ?_
  intro key hkey
  exact keysBefore_mono target h (mem_dedup.mp hkey)

end

/-! ## The draws as a run -/

section

variable {K : Type} [Scalar K] [MarksOne K] [Platform] {target : LearningTarget K}
  {g : Generation K} {c : Nat}

/-- The names in use when the next drawn row is the `k`-th. -/
def MixedBefore (k : Nat) (label : Label) : Prop :=
  ∀ j, label = .mixed j → j < k

/-- A generation before a draw: at most the budget, and all subsets there are while the
    budget lasts. -/
structure Drawn (target : LearningTarget K) (c : Nat) (g : Generation K) : Prop where
  supplied : Supplied target.capabilityIds.length (MixedBefore g.rows.length) g
  budget : g.rows.length ≤ target.candidateBudget
  seen_sub : ∀ key ∈ g.seen, key ∈ keysBefore target c
  seen_all : g.rows.length < target.candidateBudget → ∀ key ∈ keysBefore target c, key ∈ g.seen

section

omit [MarksOne K]

lemma Drawn.of_paired (h : Paired target (pairs target.capabilityIds.length) g) :
    Drawn target 0 g := by
  have hkeys : keysBefore target 0 =
      pairKeys target.capabilityIds.length (pairs target.capabilityIds.length) := by
    unfold keysBefore
    rw [range_zero, map_nil, append_nil]
  refine ⟨h.supplied.mono ?_, h.budget, hkeys ▸ h.seen_sub, hkeys ▸ h.seen_all⟩
  intro label hlabel j hj
  subst hj
  rcases hlabel with ⟨i, heq⟩ | ⟨p, -, heq⟩
  · cases heq
  · cases heq

lemma Drawn.length_eq (h : Drawn target c g) (hroom : g.rows.length < target.candidateBudget) :
    g.rows.length = subsetsSeen target c := by
  have hle := length_le_subsetsSeen h.supplied.keys_nodup h.seen_sub
  have hge := subsetsSeen_le_length (h.seen_all hroom)
  have hcount := h.supplied.count
  omega

lemma Drawn.length_le (h : Drawn target c g) : g.rows.length ≤ subsetsSeen target c := by
  rw [h.supplied.count]
  exact length_le_subsetsSeen h.supplied.keys_nodup h.seen_sub

end

omit [Scalar K] [MarksOne K] in
lemma mem_keysBefore_succ {key : List Bool} (h : key ∈ keysBefore target c) :
    key ∈ keysBefore target (c + 1) := by
  rw [keysBefore_succ]
  exact mem_append_left _ h

/-- One draw ends the generation where it stops, and else keeps what holds of it. -/
lemma mixedStep_ok (h : Drawn target c g) (hpos : 0 < target.capabilityIds.length)
    (hroom : g.rows.length < target.candidateBudget) :
    (Stops target c ∧ mixedStep target (c % 2 ^ 64) g = .ok none) ∨
      (¬Stops target c ∧ ∃ g', mixedStep target (c % 2 ^ 64) g = .ok (some g') ∧
        Drawn target (c + 1) g') := by
  have hlength := h.length_eq hroom
  have hcount := h.supplied.count
  have hkey : candidateKey (directionOf target.capabilityIds.length
      (drawIndices target (c % 2 ^ 64)) : List K) = drawKey target c := by
    rw [candidateKey_directionOf]
    rfl
  by_cases hseen : drawKey target c ∈ g.seen
  · have hrepeat := h.seen_sub _ hseen
    by_cases henough : g.seen.length ≥ exhaustion target.capabilityIds.length
    · refine .inl ⟨⟨hrepeat, by omega⟩, ?_⟩
      unfold mixedStep
      simp only []
      rw [hkey, if_pos hseen, if_pos henough]
      rfl
    · -- a repeated draw that does not end the generation changes nothing
      refine .inr ⟨fun hstops => henough (by have := hstops.2; omega), g, ?_, ?_⟩
      · unfold mixedStep
        simp only []
        rw [hkey, if_pos hseen, if_neg henough]
        rfl
      · refine ⟨h.supplied, h.budget, fun key hmem => mem_keysBefore_succ (h.seen_sub key hmem), ?_⟩
        intro _ key hmem
        rw [keysBefore_succ, mem_append, mem_singleton] at hmem
        rcases hmem with hmem | heq
        · exact h.seen_all hroom key hmem
        · rw [heq]
          exact hseen
  · have hfresh : ¬MixedBefore g.rows.length (.mixed g.rows.length) := by
      intro hused
      exact absurd (hused _ rfl) (lt_irrefl _)
    have hsmall : Label.Small (.mixed g.rows.length) := by
      show g.rows.length < 10 ^ 20
      have hwidth := target.candidateBudget_lt
      omega
    obtain ⟨g', hpush, hsupplied', hcount', hseen'⟩ := h.supplied.push (.mixed g.rows.length)
      (drawIndices target (c % 2 ^ 64))
      (lit 65 2 + lit 4 2 * lit (drawIndices target (c % 2 ^ 64)).length 0)
      (min (lit 2 2 +
        lit 5 3 * lit (drawIndices target (c % 2 ^ 64)).length 0) (lit 25 2))
      hsmall hfresh (drawIndices_marks target _ hpos) (.inr (.inr ⟨_, rfl, rfl⟩)) hseen
    refine .inr ⟨fun hstops => hseen (h.seen_all hroom _ hstops.1), g', ?_, ?_⟩
    · unfold mixedStep
      simp only []
      rw [hkey, if_neg hseen]
      show (g.push (Label.mixed g.rows.length).text _ _ _ _ >>= fun g => pure (some g)) = _
      rw [hpush]
      rfl
    · refine ⟨hsupplied'.mono ?_, by omega, ?_, ?_⟩
      · intro label hlabel j hj
        rcases hlabel with hlabel | rfl
        · have := hlabel j hj
          omega
        · cases hj
          omega
      · intro key hmem
        rw [hseen'] at hmem
        rcases mem_cons.mp hmem with heq | hmem
        · rw [heq, keysBefore_succ]
          exact mem_append_right _ mem_cons_self
        · exact mem_keysBefore_succ (h.seen_sub key hmem)
      · intro _ key hmem
        rw [keysBefore_succ, mem_append, mem_singleton] at hmem
        rw [hseen']
        rcases hmem with hmem | heq
        · exact mem_cons_of_mem _ (h.seen_all hroom key hmem)
        · rw [heq]
          exact mem_cons_self

/-- The draws that end have used the budget up or stopped at their last draw, and at no
    draw before it. -/
lemma mixedLoop_supply (hpos : 0 < target.capabilityIds.length) {fuel : Nat}
    {r : BrainResult (Generation K)} (h : Drawn target c g)
    (hrun : mixedLoop target fuel (c % 2 ^ 64) g = some r) :
    ∃ g' c', r = .ok g' ∧ Drawn target c' g' ∧ (∀ i, c ≤ i → i < c' → ¬Stops target i) ∧
      (g'.rows.length = target.candidateBudget ∨
        Stops target c' ∧ g'.rows.length = subsetsSeen target c') := by
  induction fuel generalizing c g with
  | zero => cases hrun
  | succ fuel ih =>
    unfold mixedLoop at hrun
    by_cases hroom : g.rows.length < target.candidateBudget
    · rw [if_pos hroom] at hrun
      rcases mixedStep_ok h hpos hroom with ⟨hstops, hstep⟩ | ⟨hgoes, g', hstep, hdrawn⟩
      · rw [hstep] at hrun
        cases hrun
        refine ⟨g, c, rfl, h, ?_, .inr ⟨hstops, h.length_eq hroom⟩⟩
        intro i hi hlt
        omega
      · rw [hstep] at hrun
        have hnext : (c % 2 ^ 64 + 1) % 2 ^ 64 = (c + 1) % 2 ^ 64 := Nat.mod_add_mod _ _ _
        simp only [] at hrun
        rw [hnext] at hrun
        obtain ⟨g'', c', hr, hdrawn', hbefore, hend⟩ := ih hdrawn hrun
        refine ⟨g'', c', hr, hdrawn', ?_, hend⟩
        intro i hi hlt
        rcases Nat.eq_or_lt_of_le hi with rfl | hi
        · exact hgoes
        · exact hbefore i hi hlt
    · rw [if_neg hroom] at hrun
      cases hrun
      refine ⟨g, c, rfl, h, ?_, .inl ?_⟩
      · intro i hi hlt
        omega
      · have := h.budget
        omega

/-- There is a candidate for every step of the plan exactly when no draw ends the
    generation early; with at most twenty capabilities, exactly when there are as many
    subsets. -/
lemma generateCandidates_supply (hvalid : validateTarget target = .ok ()) {fuel : Nat}
    {r : BrainResult (List (ApertureCandidate K))}
    (hrun : generateCandidates fuel target = some r) :
    ∃ g : Generation K, ∃ c, r = g.rows.mapM (toCandidate target) ∧ Drawn target c g ∧
      (target.planSteps ≤ g.rows.length ↔ Sustained target) ∧ (target.capabilityIds.length ≤ 20 →
        (Sustained target ↔ target.planSteps ≤ 2 ^ target.capabilityIds.length - 1)) := by
  obtain ⟨hlower, -, -, hplan⟩ := validateTarget_counts hvalid
  obtain ⟨start, hstart, hpaired⟩ := startRows_ok hvalid
  unfold generateCandidates at hrun
  rw [hvalid, ok_bind, hstart] at hrun
  simp only [Option.map_eq_some_iff] at hrun
  obtain ⟨result, hloop, rfl⟩ := hrun
  obtain ⟨g, c, rfl, hdrawn, hbefore, hend⟩ := mixedLoop_supply (c := 0) (by omega)
    (Drawn.of_paired hpaired) hloop
  have hcount := hdrawn.supplied.count_lt
  have hplanned : target.planSteps ≤ g.rows.length ↔ Sustained target := by
    constructor
    · intro hle i hstops
      -- the generation went on at every draw before its last one
      have hlast : c ≤ i := by
        by_contra hlt
        exact hbefore i (Nat.zero_le i) (by omega) hstops
      have hseen := hdrawn.length_le
      have hmono := subsetsSeen_mono target hlast
      omega
    · intro hsustained
      rcases hend with hbudget | ⟨hstops, hlength⟩
      · omega
      · have hseen := hsustained c hstops
        omega
  refine ⟨g, c, rfl, hdrawn, hplanned, ?_⟩
  intro hsmall
  rw [← hplanned]
  constructor
  · intro hle
    omega
  · intro hle
    rw [hplanned]
    intro i hstops
    have henough := hstops.2
    unfold exhaustion at henough
    rw [Nat.min_eq_left hsmall] at henough
    omega

end

end Tidex.Learning
