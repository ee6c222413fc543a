/-
  Knowledge.Conflicts — what receipts make of a hypothesis, in any order.
-/
import Tidex.Knowledge.Run

namespace Tidex.Knowledge

open Tidex.Lib List Std.ExtTreeSet

/-! ## The assessment of two sets of receipts -/

def HypothesisAssessment.of (matching contradicting : Witnesses) : HypothesisAssessment :=
  if matching = ∅ then
    if contradicting = ∅ then .viable else .refuted contradicting
  else
    if contradicting = ∅ then .supported matching else .conflicted matching contradicting

/-- A receipt with what it says about a hypothesis. -/
abbrev Evaluated := ActionReceiptDigest × PredicateEvaluation

def receiptsSaying (evaluation : PredicateEvaluation) (receipts : List Evaluated) : Witnesses :=
  .ofList ((receipts.filter (·.2 = evaluation)).map Prod.fst)

def reduceEvidence (assessment : HypothesisAssessment) (receipts : List Evaluated) :
    BrainResult HypothesisAssessment :=
  receipts.foldlM (fun assessment receipt =>
    reduceHypothesisAssessment assessment receipt.2 receipt.1) assessment

lemma mem_receiptsSaying {evaluation : PredicateEvaluation} {receipts : List Evaluated}
    {r : ActionReceiptDigest} :
    r ∈ receiptsSaying evaluation receipts ↔ (r, evaluation) ∈ receipts := by
  unfold receiptsSaying
  rw [mem_ofList, List.contains_iff_mem, mem_map]
  constructor
  · intro h
    obtain ⟨p, hp, hr⟩ := h
    obtain ⟨hmem, hevaluation⟩ := mem_filter.mp hp
    rw [decide_eq_true_eq] at hevaluation
    have hpair : p = (r, evaluation) := Prod.ext hr hevaluation
    rw [← hpair]
    exact hmem
  · intro h
    refine ⟨(r, evaluation), mem_filter.mpr ⟨h, ?_⟩, rfl⟩
    show decide (evaluation = evaluation) = true
    exact decide_eq_true rfl

/-! ## One receipt -/

lemma ofList_singleton (r : ActionReceiptDigest) :
    (ofList [r] : Witnesses) = (∅ : Witnesses).insert r := by
  apply ext_mem
  intro b
  rw [mem_ofList_singleton, BTreeSet.mem_insert_iff]
  simp

lemma insert_ne_empty (s : Witnesses) (r : ActionReceiptDigest) : s.insert r ≠ ∅ := by
  intro hempty
  have hmem : r ∈ s.insert r := BTreeSet.mem_insert_iff.mpr (.inl rfl)
  rw [hempty] at hmem
  exact not_mem_empty hmem

/-- A matching receipt joins the supporting ones, a contradicting one the refuting ones. -/
lemma reduceHypothesisAssessment_of (S R : Witnesses) (r : ActionReceiptDigest) :
    reduceHypothesisAssessment (.of S R) .matches_ r = .ok (.of (S.insert r) R) ∧
      reduceHypothesisAssessment (.of S R) .contradicts r = .ok (.of S (R.insert r)) := by
  have hS := insert_ne_empty S r
  have hR := insert_ne_empty R r
  -- the reducer has one branch for each of the four assessments
  by_cases hs : S = ∅
  · by_cases hr : R = ∅
    · subst hs
      subst hr
      unfold HypothesisAssessment.of
      simp only [hS, if_true, if_false, reduceHypothesisAssessment, ofList_singleton, and_self]
    · subst hs
      unfold HypothesisAssessment.of
      simp only [hS, hR, hr, if_true, if_false, reduceHypothesisAssessment, ofList_singleton,
        and_self]
  · by_cases hr : R = ∅
    · subst hr
      unfold HypothesisAssessment.of
      simp only [hS, hR, hs, if_true, if_false, reduceHypothesisAssessment, ofList_singleton,
        and_self]
    · unfold HypothesisAssessment.of
      simp only [hS, hR, hs, hr, if_false, reduceHypothesisAssessment, and_self]

/-! ## Sequences -/

def AllDecided (receipts : List Evaluated) : Prop :=
  ∀ receipt ∈ receipts, receipt.2 = .matches_ ∨ receipt.2 = .contradicts

lemma receiptsSaying_concat (evaluation : PredicateEvaluation) (receipts : List Evaluated)
    (receipt : Evaluated) : receiptsSaying evaluation (receipts ++ [receipt]) =
      if receipt.2 = evaluation then (receiptsSaying evaluation receipts).insert receipt.1
      else receiptsSaying evaluation receipts := by
  apply ext_mem
  intro r
  by_cases hstated : receipt.2 = evaluation
  · rw [if_pos hstated, mem_receiptsSaying, BTreeSet.mem_insert_iff, mem_receiptsSaying,
      mem_append, mem_singleton]
    constructor
    · intro h
      rcases h with h | h
      · exact .inr h
      · exact .inl (congrArg Prod.fst h)
    · intro h
      rcases h with h | h
      · exact .inr (Prod.ext h hstated.symm)
      · exact .inl h
  · rw [if_neg hstated, mem_receiptsSaying, mem_receiptsSaying, mem_append, mem_singleton]
    constructor
    · intro h
      rcases h with h | h
      · exact h
      · exact absurd (congrArg Prod.snd h).symm hstated
    · intro h
      exact .inl h

/-- A sequence of decided receipts leaves the assessment of its two sets. -/
lemma reduceEvidence_of {receipts : List Evaluated} (h : AllDecided receipts) :
    reduceEvidence .viable receipts =
      .ok (.of (receiptsSaying .matches_ receipts) (receiptsSaying .contradicts receipts)) := by
  -- induction from the end of the sequence; the sets are those of what came before
  induction receipts using reverseRecOn with
  | nil =>
    show Except.ok HypothesisAssessment.viable = _
    unfold HypothesisAssessment.of receiptsSaying
    rfl
  | append_singleton receipts receipt ih =>
    have hbefore : AllDecided receipts := fun p hp => h p (mem_append_left _ hp)
    have hlast := h receipt (mem_append_right _ (mem_singleton_self receipt))
    obtain ⟨hmatches, hcontradicts⟩ := reduceHypothesisAssessment_of
      (receiptsSaying .matches_ receipts) (receiptsSaying .contradicts receipts) receipt.1
    have hrun : reduceEvidence .viable (receipts ++ [receipt]) =
        (reduceEvidence .viable receipts).bind fun assessment =>
          reduceHypothesisAssessment assessment receipt.2 receipt.1 := by
      unfold reduceEvidence
      rw [foldlM_append]
      simp only [foldlM_cons, foldlM_nil, bind_pure]
      rfl
    rw [hrun, ih hbefore, receiptsSaying_concat, receiptsSaying_concat]
    rcases hlast with hstated | hstated
    · rw [hstated, if_pos rfl, if_neg (by decide)]
      exact hmatches
    · rw [hstated, if_neg (by decide), if_pos rfl]
      exact hcontradicts

lemma receiptsSaying_perm {receipts receipts' : List Evaluated} (h : receipts.Perm receipts')
    (evaluation : PredicateEvaluation) :
    receiptsSaying evaluation receipts = receiptsSaying evaluation receipts' := by
  apply ext_mem
  intro r
  rw [mem_receiptsSaying, mem_receiptsSaying, h.mem_iff]

lemma mem_hypothesisWitnesses_of {S R : Witnesses} {r : ActionReceiptDigest} :
    r ∈ hypothesisWitnesses (.of S R) ↔ r ∈ S ∨ r ∈ R := by
  unfold HypothesisAssessment.of
  by_cases hs : S = ∅
  · by_cases hr : R = ∅
    · simp [hs, hr, hypothesisWitnesses]
    · simp [hs, hr, hypothesisWitnesses]
  · by_cases hr : R = ∅
    · simp [hs, hr, hypothesisWitnesses]
    · simp [hs, hr, hypothesisWitnesses]

/-- **The evidence for a hypothesis is unordered.** -/
theorem hypothesis_evidence_unordered {receipts : List Evaluated}
    (hdistinct : (receipts.map Prod.fst).Nodup) (hdecided : AllDecided receipts) :
    ∃ S R : Witnesses, ∃ assessment : HypothesisAssessment,
      (∀ r, r ∈ S ↔ (r, .matches_) ∈ receipts) ∧ (∀ r, r ∈ R ↔ (r, .contradicts) ∈ receipts) ∧
      (∀ r, ¬(r ∈ S ∧ r ∈ R)) ∧ (S = ∅ → R = ∅ → assessment = .viable) ∧
      (S ≠ ∅ → R = ∅ → assessment = .supported S) ∧ (S = ∅ → R ≠ ∅ → assessment = .refuted R) ∧
      (S ≠ ∅ → R ≠ ∅ → assessment = .conflicted S R) ∧
      (∀ receipts' : List Evaluated, receipts'.Perm receipts →
        reduceEvidence .viable receipts' = .ok assessment) ∧
      ∀ r, r ∈ hypothesisWitnesses assessment ↔ r ∈ receipts.map Prod.fst := by
  refine ⟨receiptsSaying .matches_ receipts, receiptsSaying .contradicts receipts,
    .of (receiptsSaying .matches_ receipts) (receiptsSaying .contradicts receipts),
    fun r => mem_receiptsSaying, fun r => mem_receiptsSaying, ?_, ?_, ?_, ?_, ?_, ?_, ?_⟩
  · intro r hboth
    rw [mem_receiptsSaying, mem_receiptsSaying] at hboth
    have hsame := inj_on_of_nodup_map hdistinct hboth.1 hboth.2 rfl
    cases hsame
  · intro hs hr
    unfold HypothesisAssessment.of
    rw [if_pos hs, if_pos hr]
  · intro hs hr
    unfold HypothesisAssessment.of
    rw [if_neg hs, if_pos hr]
  · intro hs hr
    unfold HypothesisAssessment.of
    rw [if_pos hs, if_neg hr]
  · intro hs hr
    unfold HypothesisAssessment.of
    rw [if_neg hs, if_neg hr]
  · intro receipts' hperm
    have hdecided' : AllDecided receipts' := fun p hp => hdecided p (hperm.mem_iff.mp hp)
    rw [reduceEvidence_of hdecided', receiptsSaying_perm hperm, receiptsSaying_perm hperm]
  · intro r
    rw [mem_hypothesisWitnesses_of, mem_receiptsSaying, mem_receiptsSaying, mem_map]
    constructor
    · intro h
      rcases h with h | h
      · exact ⟨_, h, rfl⟩
      · exact ⟨_, h, rfl⟩
    · intro h
      obtain ⟨⟨r', evaluation⟩, hp, rfl⟩ := h
      rcases hdecided _ hp with hstated | hstated
      · left
        rw [← hstated]
        exact hp
      · right
        rw [← hstated]
        exact hp

namespace Sample

lemma confirming_valid : Sha256Digest.isValidStr
    "1111111111111111111111111111111111111111111111111111111111111111" = true := by decide

lemma opposing_valid : Sha256Digest.isValidStr
    "2222222222222222222222222222222222222222222222222222222222222222" = true := by decide

def confirming : ActionReceiptDigest := ⟨⟨_, confirming_valid⟩⟩
def opposing : ActionReceiptDigest := ⟨⟨_, opposing_valid⟩⟩

/-- Two receipts that disagree leave a conflict in either order. -/
theorem disagreement_unordered : ∃ S R : Witnesses,
    (∀ r, r ∈ S ↔ (r, PredicateEvaluation.matches_) ∈
      [(confirming, PredicateEvaluation.matches_), (opposing, .contradicts)]) ∧
    reduceEvidence .viable [(confirming, .matches_), (opposing, .contradicts)] =
      .ok (.conflicted S R) ∧
    reduceEvidence .viable [(opposing, .contradicts), (confirming, .matches_)] =
      .ok (.conflicted S R) := by
  obtain ⟨S, R, assessment, hS, hR, -, -, -, -, hconflict, hperm, -⟩ :=
    @hypothesis_evidence_unordered [(confirming, .matches_), (opposing, .contradicts)] (by decide)
      (by
        intro p hp
        rcases mem_cons.mp hp with hp | hp
        · rw [hp]
          exact .inl rfl
        · rw [mem_singleton.mp hp]
          exact .inr rfl)
  have hsne : S ≠ ∅ := by
    intro hempty
    have hmem := (hS confirming).mpr mem_cons_self
    rw [hempty] at hmem
    exact not_mem_empty hmem
  have hrne : R ≠ ∅ := by
    intro hempty
    have hmem := (hR opposing).mpr (mem_cons_of_mem _ mem_cons_self)
    rw [hempty] at hmem
    exact not_mem_empty hmem
  rw [hconflict hsne hrne] at hperm
  exact ⟨S, R, hS, hperm _ (Perm.refl _), hperm _ (Perm.swap _ _ _)⟩

end Sample

end Tidex.Knowledge
