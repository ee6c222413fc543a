/-
  Governance.Pareto — the candidates that no other candidate dominates.
-/
import Mathlib.Order.Preorder.Finite
import Tidex.Foundation.Reference
import Tidex.Governance.Petfc
import Tidex.Lib.Binary64Exact
import Tidex.Lib.Keyed

namespace Tidex.Governance

open Tidex.Lib List Std.ExtTreeMap BTreeMap Sha256Digest

/-! ## Candidates -/

def maxCandidates : Nat := 4096
def maxParetoWorkUnits : Nat := 4000000

def paretoSelectionDomain : String := "TIDEX:PARETO-SELECTION:v1\x00"

/-- A candidate that passed both gates, with what it is worth at least. -/
structure ParetoCandidate where
  baselineId : VariantId
  candidateId : VariantId
  metricCatalogDigest : MetricCatalogDigest
  evaluationPolicyDigest : RobustEvaluationPolicyDigest
  independenceDesignDigest : IndependenceDesignDigest
  gatePolicyDigest : CandidateGatePolicyDigest
  petfcPolicyDigest : PetfcPolicyDigest
  gateDigest : CandidateGateDigest
  petfcAssessmentDigest : PetfcAssessmentDigest
  conservativeObjectives : BTreeMap MetricId FiniteF64

/-! ## Dominance -/

def comparesOver (right : BTreeMap MetricId FiniteF64) :
    List (MetricId × FiniteF64) → Bool → BrainResult Bool
  | [], strictlyBetter => .ok strictlyBetter
  | (metricId, leftValue) :: rest, strictlyBetter => do
    let rightValue ← okOr right[metricId]? (integrity "pareto_objective_missing")
    if leftValue.get.lt? rightValue.get then return false
    comparesOver right rest (strictlyBetter || rightValue.get.lt? leftValue.get)

def dominates (left right : ParetoCandidate) : BrainResult Bool := do
  failIf (left.conservativeObjectives.size ≠ right.conservativeObjectives.size ∨
      left.conservativeObjectives.keys.any (· ∉ right.conservativeObjectives))
    (integrity "pareto_objective_schema_mismatch")
  comparesOver right.conservativeObjectives left.conservativeObjectives.toList false

/-! ## The selection -/

structure ParetoSelectionDigest where
  raw : Sha256Digest
  deriving DecidableEq

/-- The two documents that a selected candidate rests on. -/
abbrev ParetoWitness := CandidateGateDigest × PetfcAssessmentDigest

structure ParetoSelection where
  selected : List VariantId
  witnesses : BTreeMap VariantId ParetoWitness
  selectionDigest : ParetoSelectionDigest

/-- What the candidates of one call share. -/
structure ParetoHeader where
  metrics : List MetricId
  baselineId : VariantId
  metricCatalogDigest : MetricCatalogDigest
  evaluationPolicyDigest : RobustEvaluationPolicyDigest
  independenceDesignDigest : IndependenceDesignDigest
  gatePolicyDigest : CandidateGatePolicyDigest
  petfcPolicyDigest : PetfcPolicyDigest
  deriving DecidableEq

def ParetoCandidate.header (c : ParetoCandidate) : ParetoHeader :=
  ⟨c.conservativeObjectives.keys, c.baselineId, c.metricCatalogDigest, c.evaluationPolicyDigest,
    c.independenceDesignDigest, c.gatePolicyDigest, c.petfcPolicyDigest⟩

def insertCandidate (expected : ParetoHeader) (byId : BTreeMap VariantId ParetoCandidate)
    (candidate : ParetoCandidate) : BrainResult (BTreeMap VariantId ParetoCandidate) := do
  failIf (candidate.header ≠ expected) (integrity "pareto_candidate_catalog_invalid")
  insertEach ParetoCandidate.candidateId id (integrity "pareto_candidate_catalog_invalid")
    byId candidate

def isDominated (candidate : ParetoCandidate) : List ParetoCandidate → BrainResult Bool
  | [] => .ok false
  | alternative :: rest => do
    if alternative.candidateId ≠ candidate.candidateId then
      if ← dominates alternative candidate then return true
    isDominated candidate rest

def selectUndominated (alternatives : List ParetoCandidate) (selected : List VariantId)
    (candidate : ParetoCandidate) : BrainResult (List VariantId) := do
  if ← isDominated candidate alternatives then return selected
  return selected ++ [candidate.candidateId]

def ParetoCandidate.witness (c : ParetoCandidate) : ParetoWitness :=
  (c.gateDigest, c.petfcAssessmentDigest)

def selectedWitness (byId : BTreeMap VariantId ParetoCandidate) (candidateId : VariantId) :
    BrainResult (VariantId × ParetoWitness) := do
  let candidate ← okOr byId[candidateId]? (integrity "pareto_selected_candidate_missing")
  return (candidateId, candidate.witness)

/-- A witness as it is written. -/
instance : Serialize ParetoWitness where
  toJson w := .arr [toJson w.1, toJson w.2]
  toJson_injective := by
    intro a b h
    obtain ⟨a, a'⟩ := a
    obtain ⟨b, b'⟩ := b
    simpa using h

/-- What the digest of a selection is taken of. -/
def paretoProjection (selected : List VariantId)
    (witnesses : BTreeMap VariantId ParetoWitness) : Json :=
  .obj [("selected", toJson selected), ("witnesses", toJson witnesses)]

def ParetoSelection.seal [Platform] (selected : List VariantId)
    (witnesses : BTreeMap VariantId ParetoWitness) : ParetoSelection :=
  ⟨selected, witnesses, ⟨digestDomain paretoSelectionDomain
    (paretoProjection selected witnesses).toBytes⟩⟩

def deterministicParetoFront [Platform] (candidates : List ParetoCandidate) :
    BrainResult ParetoSelection :=
  match candidates with
  | [] => .error (invalid "pareto_candidate_count_invalid")
  | first :: _ => do
    failIf (maxCandidates < candidates.length) (invalid "pareto_candidate_count_invalid")
    let metricCount := first.conservativeObjectives.size
    let pairs ← checkedMul u64Width candidates.length (candidates.length - 1)
      (invalid "pareto_work_estimate_overflow")
    let comparisons ← checkedMul u64Width pairs metricCount
      (invalid "pareto_work_estimate_overflow")
    failIf (maxParetoWorkUnits < comparisons) (invalid "pareto_work_limit_exceeded")
    failIf (first.header.metrics.isEmpty) (invalid "pareto_objectives_empty")
    let byId ← candidates.foldlM (insertCandidate first.header) ∅
    let alternatives := BTreeMap.values byId
    let selected ← alternatives.foldlM (selectUndominated alternatives) []
    let witnesses ← selected.mapM (selectedWitness byId)
    return ParetoSelection.seal selected
      (witnesses.foldl (fun m entry => m.insert entry.1 entry.2) ∅)

/-! ## What dominance means -/

def exactOf (objectives : BTreeMap MetricId FiniteF64) (metricId : MetricId) : ℚ :=
  match objectives[metricId]? with
  | some value => value.get.exact
  | none => 0

lemma exactOf_eq {objectives : BTreeMap MetricId FiniteF64} {metricId : MetricId}
    {value : FiniteF64} (h : objectives[metricId]? = some value) :
    exactOf objectives metricId = value.get.exact := by
  unfold exactOf
  rw [h]

namespace ParetoCandidate

def profile (c : ParetoCandidate) : MetricId → ℚ := exactOf c.conservativeObjectives

/-- At least as good in each metric, and better in one. -/
def Dominates (left right : ParetoCandidate) : Prop :=
  (∀ metricId, right.profile metricId ≤ left.profile metricId) ∧
    ∃ metricId, right.profile metricId < left.profile metricId

lemma dominates_iff_lt {left right : ParetoCandidate} :
    left.Dominates right ↔ right.profile < left.profile := by
  unfold Dominates
  rw [Pi.lt_def]
  rfl

end ParetoCandidate

lemma exists_undominated {candidates : List ParetoCandidate} {c : ParetoCandidate}
    (hc : c ∈ candidates) :
    ∃ a ∈ candidates, (a = c ∨ a.Dominates c) ∧ ∀ b ∈ candidates, ¬b.Dominates a := by
  have hfinite : (ParetoCandidate.profile '' {a | a ∈ candidates}).Finite :=
    (finite_toSet candidates).image _
  obtain ⟨top, hle, hmaximal⟩ := hfinite.exists_le_maximal ⟨c, hc, rfl⟩
  obtain ⟨⟨a, ha, rfl⟩, hmax⟩ := hmaximal
  have hundominated : ∀ d : ParetoCandidate, d.profile = a.profile →
      ∀ b ∈ candidates, ¬b.Dominates d := by
    intro d hd b hb hdominates
    rw [ParetoCandidate.dominates_iff_lt, hd] at hdominates
    exact absurd (hmax ⟨b, hb, rfl⟩ hdominates.le) hdominates.not_ge
  rcases hle.eq_or_lt with heq | hlt
  · exact ⟨c, hc, .inl rfl, hundominated c heq⟩
  · exact ⟨a, ha, .inr (ParetoCandidate.dominates_iff_lt.mpr hlt), hundominated a rfl⟩

/-! ## The comparison decides dominance -/

lemma comparesOver_spec {right : BTreeMap MetricId FiniteF64}
    {entries : List (MetricId × FiniteF64)} (hkeys : ∀ entry ∈ entries, entry.1 ∈ right)
    (better : Bool) : ∃ d, comparesOver right entries better = .ok d ∧
      (d = true ↔ (∀ entry ∈ entries, exactOf right entry.1 ≤ entry.2.get.exact) ∧
        (better = true ∨ ∃ entry ∈ entries, exactOf right entry.1 < entry.2.get.exact)) := by
  induction entries generalizing better with
  | nil => exact ⟨better, rfl, by simp⟩
  | cons entry entries ih =>
    obtain ⟨metricId, leftValue⟩ := entry
    obtain ⟨rightValue, hright⟩ := mem_iff_getElem?.mp (hkeys _ mem_cons_self)
    have hexact := exactOf_eq hright
    unfold comparesOver
    rw [hright]
    simp only [okOr, ok_bind]
    by_cases hworse : leftValue.get.lt? rightValue.get = true
    · rw [if_pos hworse]
      refine ⟨false, rfl, ?_⟩
      rw [F64.lt?_iff leftValue.finite rightValue.finite] at hworse
      constructor
      · intro hfalse
        cases hfalse
      · intro hall
        have hfirst := hall.1 _ mem_cons_self
        rw [hexact] at hfirst
        exact absurd hfirst hworse.not_ge
    · rw [if_neg hworse]
      obtain ⟨d, hd, hiff⟩ := ih (fun entry hentry => hkeys entry (mem_cons_of_mem _ hentry))
        (better || rightValue.get.lt? leftValue.get)
      refine ⟨d, hd, ?_⟩
      rw [F64.lt?_iff leftValue.finite rightValue.finite, not_lt] at hworse
      rw [hiff, forall_mem_cons, Bool.or_eq_true,
        F64.lt?_iff rightValue.finite leftValue.finite, exists_mem_cons_iff, hexact, or_assoc]
      simp only
      constructor
      · intro hall
        exact ⟨⟨hworse, hall.1⟩, hall.2⟩
      · intro hall
        exact ⟨hall.1.2, hall.2⟩

namespace ParetoCandidate

variable {left right : ParetoCandidate}

lemma mem_iff_of_metrics (h : left.header.metrics = right.header.metrics) (metricId : MetricId) :
    metricId ∈ left.conservativeObjectives ↔ metricId ∈ right.conservativeObjectives := by
  have hkeys : left.conservativeObjectives.keys = right.conservativeObjectives.keys := h
  rw [← Std.ExtTreeMap.mem_keys, hkeys, Std.ExtTreeMap.mem_keys]

lemma profile_of_not_mem {c : ParetoCandidate} {metricId : MetricId}
    (h : metricId ∉ c.conservativeObjectives) : c.profile metricId = 0 := by
  unfold profile exactOf
  rw [getElem?_eq_none h]

/-- The comparison decides dominance between candidates of the same metrics. -/
lemma dominates_iff (h : left.header.metrics = right.header.metrics) :
    ∃ d, dominates left right = .ok d ∧ (d = true ↔ left.Dominates right) := by
  have hmem := mem_iff_of_metrics h
  have hsize : left.conservativeObjectives.size = right.conservativeObjectives.size := by
    rw [← length_keys, ← length_keys]
    exact congrArg length h
  have hschema : ¬(left.conservativeObjectives.size ≠ right.conservativeObjectives.size ∨
      left.conservativeObjectives.keys.any (· ∉ right.conservativeObjectives) = true) := by
    rw [not_or, not_not, any_eq_true, not_exists]
    refine ⟨hsize, ?_⟩
    intro metricId hany
    obtain ⟨hkey, hnot⟩ := hany
    rw [decide_eq_true_eq] at hnot
    exact hnot ((hmem metricId).mp (mem_keys.mp hkey))
  have hkeys : ∀ entry ∈ left.conservativeObjectives.toList,
      entry.1 ∈ right.conservativeObjectives := by
    intro entry hentry
    have hleft := mem_toList_iff.mp hentry
    exact (hmem entry.1).mp (mem_iff_getElem?.mpr ⟨_, hleft⟩)
  obtain ⟨d, hd, hiff⟩ := comparesOver_spec hkeys false
  refine ⟨d, ?_, ?_⟩
  · unfold dominates failIf
    rw [if_neg hschema]
    exact hd
  · rw [hiff, Dominates]
    have hvalue : ∀ entry ∈ left.conservativeObjectives.toList,
        entry.2.get.exact = left.profile entry.1 := by
      intro entry hentry
      exact (exactOf_eq (mem_toList_iff.mp hentry)).symm
    constructor
    · intro hall
      obtain ⟨hle, hor⟩ := hall
      refine ⟨?_, ?_⟩
      · intro metricId
        by_cases hmetric : metricId ∈ left.conservativeObjectives
        · obtain ⟨value, hget⟩ := mem_iff_getElem?.mp hmetric
          have hentry : (metricId, value) ∈ left.conservativeObjectives.toList :=
            mem_toList_iff.mpr hget
          have hfirst := hle _ hentry
          rw [hvalue _ hentry] at hfirst
          exact hfirst
        · have hother := mt (hmem metricId).mpr hmetric
          rw [profile_of_not_mem hmetric, profile_of_not_mem hother]
      · rcases hor with hfalse | hbetter
        · cases hfalse
        · obtain ⟨entry, hentry, hlt⟩ := hbetter
          rw [hvalue entry hentry] at hlt
          exact ⟨entry.1, hlt⟩
    · intro hall
      obtain ⟨hle, metricId, hlt⟩ := hall
      refine ⟨?_, .inr ?_⟩
      · intro entry hentry
        rw [hvalue entry hentry]
        exact hle entry.1
      · by_cases hmetric : metricId ∈ left.conservativeObjectives
        · obtain ⟨value, hget⟩ := mem_iff_getElem?.mp hmetric
          have hentry : (metricId, value) ∈ left.conservativeObjectives.toList :=
            mem_toList_iff.mpr hget
          refine ⟨_, hentry, ?_⟩
          rw [hvalue _ hentry]
          exact hlt
        · have hother := mt (hmem metricId).mpr hmetric
          rw [profile_of_not_mem hmetric, profile_of_not_mem hother] at hlt
          exact absurd hlt (lt_irrefl _)

end ParetoCandidate

lemma isDominated_spec {candidate : ParetoCandidate} {alternatives : List ParetoCandidate}
    (hmetrics : ∀ a ∈ alternatives, a.header.metrics = candidate.header.metrics) :
    ∃ d, isDominated candidate alternatives = .ok d ∧
      (d = true ↔ ∃ a ∈ alternatives, a.candidateId ≠ candidate.candidateId ∧
        a.Dominates candidate) := by
  induction alternatives with
  | nil => exact ⟨false, rfl, by simp⟩
  | cons alternative rest ih =>
    obtain ⟨d, hd, hiff⟩ := ih fun a ha => hmetrics a (mem_cons_of_mem _ ha)
    obtain ⟨b, hb, hdominates⟩ :=
      ParetoCandidate.dominates_iff (hmetrics alternative mem_cons_self)
    unfold isDominated
    by_cases hid : alternative.candidateId ≠ candidate.candidateId
    · rw [if_pos hid, hb]
      cases b with
      | true =>
        refine ⟨true, rfl, ?_⟩
        simp only [true_iff, exists_mem_cons_iff]
        exact .inl ⟨hid, hdominates.mp rfl⟩
      | false =>
        refine ⟨d, hd, ?_⟩
        have hnot : ¬alternative.Dominates candidate := by
          intro h
          cases hdominates.mpr h
        rw [hiff, exists_mem_cons_iff]
        constructor
        · intro h
          exact .inr h
        · intro h
          rcases h with h | h
          · exact absurd h.2 hnot
          · exact h
    · rw [if_neg hid]
      refine ⟨d, hd, ?_⟩
      rw [hiff, exists_mem_cons_iff]
      constructor
      · intro h
        exact .inr h
      · intro h
        rcases h with h | h
        · exact absurd h.1 hid
        · exact h

/-- No alternative of another identifier dominates. -/
def Undominated (alternatives : List ParetoCandidate) (c : ParetoCandidate) : Prop :=
  ∀ a ∈ alternatives, a.candidateId ≠ c.candidateId → ¬a.Dominates c

/-- The loop selects, in order, the identifiers of the candidates that nothing dominates. -/
lemma foldlM_selectUndominated {alternatives candidates : List ParetoCandidate}
    (hmetrics : ∀ c ∈ candidates, ∀ a ∈ alternatives, a.header.metrics = c.header.metrics)
    (selected : List VariantId) :
    ∃ more, candidates.foldlM (selectUndominated alternatives) selected = .ok (selected ++ more) ∧
      more.Sublist (candidates.map ParetoCandidate.candidateId) ∧
      ∀ candidateId, candidateId ∈ more ↔
        ∃ c ∈ candidates, c.candidateId = candidateId ∧ Undominated alternatives c := by
  induction candidates generalizing selected with
  | nil => exact ⟨[], by simp; rfl, Sublist.refl _, by simp⟩
  | cons c candidates ih =>
    obtain ⟨d, hd, hiff⟩ := isDominated_spec (hmetrics c mem_cons_self)
    have hothers : ∀ c ∈ candidates, ∀ a ∈ alternatives, a.header.metrics = c.header.metrics :=
      fun c hc => hmetrics c (mem_cons_of_mem _ hc)
    rw [foldlM_cons]
    have hundominated : d = false ↔ Undominated alternatives c := by
      rw [← Bool.not_eq_true, hiff]
      unfold Undominated
      simp only [not_exists, not_and]
    cases d with
    | true =>
      have hstep : selectUndominated alternatives selected c = .ok selected := by
        unfold selectUndominated
        rw [hd]
        rfl
      obtain ⟨more, hmore, hsub, hmem⟩ := ih hothers selected
      refine ⟨more, ?_, hsub.cons _, ?_⟩
      · rw [hstep]
        exact hmore
      · intro candidateId
        have hnot : ¬Undominated alternatives c := by
          intro h
          cases hundominated.mpr h
        rw [hmem, exists_mem_cons_iff]
        constructor
        · intro h
          exact .inr h
        · intro h
          rcases h with h | h
          · exact absurd h.2 hnot
          · exact h
    | false =>
      have hstep : selectUndominated alternatives selected c =
          .ok (selected ++ [c.candidateId]) := by
        unfold selectUndominated
        rw [hd]
        rfl
      obtain ⟨more, hmore, hsub, hmem⟩ := ih hothers (selected ++ [c.candidateId])
      refine ⟨c.candidateId :: more, ?_, hsub.cons_cons _, ?_⟩
      · rw [hstep, ok_bind, hmore, append_assoc]
        rfl
      · intro candidateId
        have hyes := hundominated.mp rfl
        rw [mem_cons, hmem, exists_mem_cons_iff]
        constructor
        · intro h
          rcases h with rfl | h
          · exact .inl ⟨rfl, hyes⟩
          · exact .inr h
        · intro h
          rcases h with h | h
          · exact .inl h.1.symm
          · exact .inr h

/-! ## The front -/

/-- Candidates of one header under their identifiers. -/
structure Indexed (candidates : List ParetoCandidate) (header : ParetoHeader)
    (byId : BTreeMap VariantId ParetoCandidate) : Prop where
  headers : ∀ c ∈ candidates, c.header = header
  keyed : Keyed ParetoCandidate.candidateId candidates byId

variable {byId : BTreeMap VariantId ParetoCandidate}

lemma foldlM_insertCandidate {candidates : List ParetoCandidate} {header : ParetoHeader} :
    candidates.foldlM (insertCandidate header) ∅ = .ok byId ↔ Indexed candidates header byId := by
  have hloop : candidates.foldlM (insertCandidate header) ∅ = .ok byId ↔
      (∀ c ∈ candidates, failIf (c.header ≠ header)
        (integrity "pareto_candidate_catalog_invalid") = .ok ()) ∧
      candidates.foldlM (insertEach ParetoCandidate.candidateId id
        (integrity "pareto_candidate_catalog_invalid")) ∅ = .ok byId := foldlM_seq_ok
  rw [hloop, foldlM_insertEach_keyed]
  simp only [failIf_ok, not_not, ne_eq]
  constructor
  · intro h
    exact ⟨h.1, h.2⟩
  · intro h
    exact ⟨h.headers, h.keyed⟩

lemma Indexed.perm {candidates others : List ParetoCandidate} {header : ParetoHeader}
    (h : Indexed candidates header byId) (hperm : others.Perm candidates) :
    Indexed others header byId where
  headers := by
    intro c hc
    exact h.headers c (hperm.mem_iff.mp hc)
  keyed := h.keyed.perm hperm

/-- The selection is the front: the candidates that no other dominates, in the order of their
    identifiers, at least one, and above every other candidate. -/
structure IsFront (candidates : List ParetoCandidate) (selected : List VariantId) : Prop where
  mem_iff : ∀ candidateId, candidateId ∈ selected ↔
    ∃ c ∈ candidates, c.candidateId = candidateId ∧ Undominated candidates c
  ascending : selected.Pairwise fun a b => compare a b = .lt
  ne_nil : selected ≠ []
  covered : ∀ c ∈ candidates, c.candidateId ∉ selected →
    ∃ a ∈ candidates, a.candidateId ∈ selected ∧ a.Dominates c

lemma Undominated.of_forall {candidates : List ParetoCandidate} {c : ParetoCandidate}
    (h : ∀ a ∈ candidates, ¬a.Dominates c) : Undominated candidates c :=
  fun a ha _ => h a ha

section

variable [Platform]

lemma deterministicParetoFront_ok {candidates : List ParetoCandidate} {s : ParetoSelection} :
    deterministicParetoFront candidates = .ok s ↔
      ∃ header byId selected witnesses, candidates ≠ [] ∧ Indexed candidates header byId ∧
        candidates.length ≤ maxCandidates ∧ candidates.length * (candidates.length - 1) < u64Width ∧
        candidates.length * (candidates.length - 1) * header.metrics.length < u64Width ∧
        candidates.length * (candidates.length - 1) * header.metrics.length ≤ maxParetoWorkUnits ∧
        header.metrics ≠ [] ∧
        (BTreeMap.values byId).foldlM (selectUndominated (BTreeMap.values byId)) [] = .ok selected ∧
        selected.mapM (selectedWitness byId) = .ok witnesses ∧ s = ParetoSelection.seal selected
          (witnesses.foldl (fun m entry => m.insert entry.1 entry.2) ∅) := by
  cases candidates with
  | nil =>
    constructor
    · intro h
      cases h
    · intro h
      obtain ⟨_, _, _, _, hne, -⟩ := h
      exact absurd rfl hne
  | cons first rest =>
    have hsize : first.conservativeObjectives.size = first.header.metrics.length :=
      length_keys.symm
    unfold deterministicParetoFront
    simp only [bind_ok, failIf_ok, checkedMul_ok, pure_ok, not_lt,
      foldlM_insertCandidate, hsize, List.isEmpty_iff]
    constructor
    · intro h
      obtain ⟨-, hcount, pairs, ⟨hpairs, rfl⟩, comparisons, ⟨hwork, rfl⟩, -, hlimit, -, hmetrics,
        byId, hindexed, selected, hselected, witnesses, hwitnesses, rfl⟩ := h
      exact ⟨first.header, byId, selected, witnesses, List.cons_ne_nil _ _, hindexed, hcount,
        hpairs, hwork, hlimit, hmetrics, hselected, hwitnesses, rfl⟩
    · intro h
      obtain ⟨header, byId, selected, witnesses, -, hindexed, hcount, hpairs, hwork, hlimit,
        hmetrics, hselected, hwitnesses, rfl⟩ := h
      have hheader : first.header = header := hindexed.headers first List.mem_cons_self
      subst hheader
      exact ⟨(), hcount, _, ⟨hpairs, rfl⟩, _, ⟨hwork, rfl⟩, (), hlimit, (), hmetrics, byId,
        hindexed, selected, hselected, witnesses, hwitnesses, rfl⟩

/-- **The Pareto front.** -/
theorem pareto_front_correct {candidates : List ParetoCandidate} {s : ParetoSelection}
    (h : deterministicParetoFront candidates = .ok s) : IsFront candidates s.selected ∧
      ∀ others : List ParetoCandidate, others.Perm candidates →
        deterministicParetoFront others = .ok s := by
  obtain ⟨header, byId, selected, witnesses, hne, hindexed, hcount, hpairs, hwork, hlimit,
    hmetrics, hselected, hwitnesses, rfl⟩ := deterministicParetoFront_ok.mp h
  refine ⟨?_, ?_⟩
  · have hshared : ∀ c ∈ BTreeMap.values byId, ∀ a ∈ BTreeMap.values byId,
        a.header.metrics = c.header.metrics := by
      intro c hc a ha
      rw [hindexed.headers c (hindexed.keyed.mem_values.mp hc),
        hindexed.headers a (hindexed.keyed.mem_values.mp ha)]
    obtain ⟨more, hmore, hsub, hmem⟩ := foldlM_selectUndominated hshared []
    rw [hselected, nil_append] at hmore
    cases hmore
    have hfront : ∀ candidateId, candidateId ∈ selected ↔
        ∃ c ∈ candidates, c.candidateId = candidateId ∧ Undominated candidates c := by
      intro candidateId
      rw [hmem]
      unfold Undominated
      simp only [hindexed.keyed.mem_values]
    refine ⟨hfront, hindexed.keyed.ascending.sublist hsub, ?_, ?_⟩
    · obtain ⟨first, hfirst⟩ := exists_mem_of_ne_nil _ hne
      obtain ⟨a, ha, -, hundominated⟩ := exists_undominated hfirst
      exact ne_nil_of_mem
        ((hfront a.candidateId).mpr ⟨a, ha, rfl, Undominated.of_forall hundominated⟩)
    · intro c hc hout
      obtain ⟨a, ha, hor, hundominated⟩ := exists_undominated hc
      have hin : a.candidateId ∈ selected :=
        (hfront a.candidateId).mpr ⟨a, ha, rfl, Undominated.of_forall hundominated⟩
      rcases hor with rfl | hdominates
      · exact absurd hin hout
      · exact ⟨a, ha, hin, hdominates⟩
  · intro others hperm
    have hlength := hperm.length_eq
    have hne' : others ≠ [] := by
      intro hnil
      subst hnil
      exact hne hperm.symm.eq_nil
    rw [deterministicParetoFront_ok, hlength]
    exact ⟨header, byId, selected, witnesses, hne', hindexed.perm hperm, hcount, hpairs, hwork,
      hlimit, hmetrics, hselected, hwitnesses, rfl⟩

end

/-! ## Two candidates -/

namespace ParetoSample

def metricId : MetricId := ⟨"accuracy", by decide⟩

def three : FiniteF64 := ⟨F64.ofNat 3, by decide +kernel⟩
def four : FiniteF64 := ⟨F64.ofNat 4, by decide +kernel⟩

def candidate (candidateId : VariantId) (value : FiniteF64) : ParetoCandidate where
  baselineId := ⟨"incumbent", by decide⟩
  candidateId := candidateId
  metricCatalogDigest := ⟨zero⟩
  evaluationPolicyDigest := ⟨zero⟩
  independenceDesignDigest := ⟨zero⟩
  gatePolicyDigest := ⟨zero⟩
  petfcPolicyDigest := ⟨zero⟩
  gateDigest := ⟨zero⟩
  petfcAssessmentDigest := ⟨zero⟩
  conservativeObjectives := (∅ : BTreeMap _ _).insert metricId value

def better : VariantId := ⟨"better", by decide⟩

def candidates : List ParetoCandidate :=
  [candidate better four, candidate ⟨"worse", by decide⟩ three]

attribute [local instance] Platform.reference in
/-- The better candidate is the front, in either order. -/
theorem better_front : ∃ s, deterministicParetoFront candidates = .ok s ∧
    s.selected = [better] ∧ IsFront candidates s.selected ∧
      deterministicParetoFront candidates.reverse = .ok s := by
  have hreturns : returns (deterministicParetoFront candidates)
      (fun s => s.selected = [better]) = true := by decide +kernel
  obtain ⟨s, hs, hselected⟩ := returns_iff.mp hreturns
  have hfront := pareto_front_correct hs
  exact ⟨s, hs, of_decide_eq_true hselected, hfront.1, hfront.2 _ (reverse_perm _)⟩

end ParetoSample

end Tidex.Governance
