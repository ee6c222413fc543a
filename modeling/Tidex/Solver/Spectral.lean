/-
  Solver.Spectral — the ranks that the direct decomposition tries.
-/
import Mathlib.Data.Nat.Find
import Tidex.Solver.Evaluation

namespace Tidex.Solver

open Tidex.Lib List

/-! ## The energy rank -/

/-- The double of a fraction with a denominator of ten to a power. -/
def decimalTenth (e : Nat) : F64 := F64.round false F64.unit (10 ^ e)

/-- The sum of the positive parts of a spectrum. -/
def positiveTotal (eigenvalues : List F64) : F64 :=
  (eigenvalues.map fun value => value.max (F64.zero false)).foldl (· + ·) (F64.zero false)

/-- The number of values that are taken until their share of the total reaches the target. -/
def energyScan (total target : F64) : Nat → F64 → List F64 → Option Nat
  | _, _, [] => none
  | index, accumulated, value :: values =>
    let accumulated := accumulated + value.max (F64.zero false)
    if target.le? (accumulated / total) then some (index + 1)
    else energyScan total target (index + 1) accumulated values

def chooseEnergyRank (eigenvalues : List F64) (target : F64) (maxRank minimumRank : Nat) :
    BrainResult Nat := do
  failIf (eigenvalues.isEmpty ∨ (eigenvalues.any fun value => !value.isFinite) ∨
      ¬target.isFinite ∨ ¬((F64.zero false).le? target ∧ target.le? (F64.ofNat 1)) ∨
      maxRank = 0 ∨ maxRank < minimumRank) (invalid "energy_rank_input_invalid")
  let total := positiveTotal eigenvalues
  if total.le? (decimalTenth 18) then return min minimumRank eigenvalues.length
  let cap := min maxRank eigenvalues.length
  match energyScan total target 0 (F64.zero false) (eigenvalues.take cap) with
  | some index => return min (max index minimumRank) cap
  | none => return max cap (min minimumRank eigenvalues.length)

lemma chooseEnergyRank_le {eigenvalues : List F64} {target : F64} {maxRank minimumRank rank : Nat}
    (h : chooseEnergyRank eigenvalues target maxRank minimumRank = .ok rank) : rank ≤ maxRank := by
  unfold chooseEnergyRank at h
  simp only [bind_ok, failIf_ok, not_or, not_lt] at h
  obtain ⟨-, ⟨-, -, -, -, -, hminimum⟩, h⟩ := h
  by_cases htotal : (positiveTotal eigenvalues).le? (decimalTenth 18) = true
  · rw [if_pos htotal] at h
    have hrank := pure_ok.mp h
    omega
  rw [if_neg htotal] at h
  cases hscan : energyScan (positiveTotal eigenvalues) target 0 (F64.zero false)
      (eigenvalues.take (min maxRank eigenvalues.length)) with
  | some index =>
    rw [hscan] at h
    have hrank := pure_ok.mp h
    omega
  | none =>
    rw [hscan] at h
    have hrank := pure_ok.mp h
    omega

/-! ## The search -/

/-- The ranks of a diagnosed problem. -/
structure NumericalDiagnostics where
  numericalRank : Nat
  energyRank : Nat
  singularValueCutoff : F64
  energyRank_le : energyRank ≤ numericalRank

def diagnoseRanks (normalizedSpectrum : List F64) (numericalRank : Nat) (cutoff : F64)
    (policy : PortfolioPolicy) : BrainResult NumericalDiagnostics :=
  if numericalRank = 0 then .ok ⟨numericalRank, 0, cutoff, Nat.zero_le _⟩
  else
    match h : chooseEnergyRank normalizedSpectrum policy.targetExplainedEnergy numericalRank
        (min policy.minimumRank numericalRank) with
    | .ok energyRank => .ok ⟨numericalRank, energyRank, cutoff, chooseEnergyRank_le h⟩
    | .error e => .error e

abbrev RankEvaluation := Nat → BrainResult CandidateEvaluation

/-- How the loop over the ranks ends: with an accepted evaluation, or with the last one. -/
inductive RankSearch where
  | accepted (evaluation : CandidateEvaluation)
  | exhausted (last : Option CandidateEvaluation)
  deriving DecidableEq

def tryRanks (evaluate : RankEvaluation) : List Nat → Option CandidateEvaluation →
    BrainResult RankSearch
  | [], last => .ok (.exhausted last)
  | rank :: ranks, _ => do
    let evaluated ← evaluate rank
    if evaluated.status = .accepted then return .accepted evaluated
    tryRanks evaluate ranks (some evaluated)

def builtinDirectSvdName : String := "tidex.bounded_direct_jacobi_svd.v1"

def directSvdBackend : BackendDescriptor := ⟨.builtInDirectJacobiSvd, builtinDirectSvdName⟩

def rankRange (first last : Nat) : List Nat := List.range' first (last + 1 - first)

def runDirectSvd (zeroCandidate : CandidateEvaluation) (evaluate : RankEvaluation)
    (diagnostics : NumericalDiagnostics) (policy : PortfolioPolicy) :
    BrainResult CandidateEvaluation := do
  if diagnostics.numericalRank = 0 then return zeroCandidate
  let rankCap := min diagnostics.numericalRank policy.maximumRank
  if rankCap < diagnostics.energyRank ∨ rankCap < policy.minimumRank then
    return ⟨directSvdBackend, .boundedUnknown, .rankBudgetInsufficient, some rankCap, none, none⟩
  let ranks := rankRange (max diagnostics.energyRank policy.minimumRank) rankCap
  match ← tryRanks evaluate ranks none with
  | .accepted evaluated => return evaluated
  | .exhausted last =>
    let result ← okOr last (.numerical "solver_direct_svd_candidate_missing")
    if rankCap < diagnostics.numericalRank then
      return { result with status := .boundedUnknown, reason := .rankBudgetInsufficient }
    return result

/-! ## The evaluation of one rank -/

lemma length_lt_of_materializeDense {c : CandidateRepresentation} {dense : List F64}
    (h : c.materializeDense = .ok dense) : dense.length < 2 ^ 60 := by
  have hlength := (CandidateRepresentation.materializeDense_canonical h).length_eq
  unfold CandidateRepresentation.materializeDense at h
  simp only [bind_ok, failIf_ok, checkedMul_ok, not_lt] at h
  obtain ⟨places, ⟨-, rfl⟩, -, hplaces, -⟩ := h
  rw [hlength]
  exact hplaces.trans_lt (by decide)

/-- Factors, or the matrix in full where that is not larger. -/
def compactRepresentation (rows columns rank : Nat) (left right : F64Vec) :
    CandidateRepresentation :=
  let lowRank := CandidateRepresentation.lowRank rows columns rank left right
  let factorParameters := lowRank.storedParameterCount.getD (usizeValues - 1)
  if factorParameters < min (rows * columns) (usizeValues - 1) then lowRank
  else
    match h : lowRank.materializeDense with
    | .ok weights => .dense rows columns ⟨weights, length_lt_of_materializeDense h⟩
    | .error _ => lowRank

section

variable [SolverKernels]

def rankEvaluation (factors : Nat → BrainResult (F64Vec × F64Vec)) (problem : LeastSquaresProblem)
    (policy : PortfolioPolicy) : RankEvaluation := fun rank => do
  let (left, right) ← factors rank
  return evaluateCandidate directSvdBackend (some rank)
    (compactRepresentation problem.outputDimension problem.inputDimension rank left right)
    problem policy

def zeroEvaluation (zeros : F64Vec) (problem : LeastSquaresProblem) (policy : PortfolioPolicy) :
    CandidateEvaluation :=
  evaluateCandidate directSvdBackend (some 0)
    (.dense problem.outputDimension problem.inputDimension zeros) problem policy

/-- The verdict of the direct decomposition of a problem. -/
def spectralVerdict (factors : Nat → BrainResult (F64Vec × F64Vec)) (zeros : F64Vec)
    (problem : LeastSquaresProblem) (diagnostics : NumericalDiagnostics)
    (policy : PortfolioPolicy) : BrainResult CandidateEvaluation :=
  runDirectSvd (zeroEvaluation zeros problem policy) (rankEvaluation factors problem policy)
    diagnostics policy

end

/-! ## What the search finds -/

def isAccepted (f : Nat → CandidateEvaluation) (rank : Nat) : Bool :=
  decide ((f rank).status = .accepted)

lemma tryRanks_eq {evaluate : RankEvaluation} {f : Nat → CandidateEvaluation}
    (hf : ∀ rank, evaluate rank = .ok (f rank)) (ranks : List Nat)
    (last : Option CandidateEvaluation) :
    tryRanks evaluate ranks last =
      .ok (match ranks.find? (isAccepted f) with
        | some rank => .accepted (f rank)
        | none => .exhausted ((ranks.getLast?.map f).or last)) := by
  induction ranks generalizing last with
  | nil => rfl
  | cons rank ranks ih =>
    unfold tryRanks
    rw [hf rank, ok_bind]
    by_cases haccepted : (f rank).status = .accepted
    · rw [if_pos haccepted, find?_cons_of_pos (by simpa [isAccepted] using haccepted)]
      rfl
    · rw [if_neg haccepted, find?_cons_of_neg (by simpa [isAccepted] using haccepted), ih]
      cases ranks with
      | nil => rfl
      | cons next ranks =>
        rw [getLast?_cons_cons]
        have hlast : ((next :: ranks).getLast?.map f).or (some (f rank)) =
            ((next :: ranks).getLast?.map f).or last := by
          rw [getLast?_eq_some_getLast (cons_ne_nil _ _)]
          rfl
        rw [hlast]

lemma mem_rankRange {first last rank : Nat} :
    rank ∈ rankRange first last ↔ first ≤ rank ∧ rank ≤ last := by
  unfold rankRange
  rw [mem_range'_1]
  omega

lemma find?_rankRange {f : Nat → CandidateEvaluation} {first last rank : Nat} :
    (rankRange first last).find? (isAccepted f) = some rank ↔
      (f rank).status = .accepted ∧ (first ≤ rank ∧ rank ≤ last) ∧
        ∀ lower, first ≤ lower → lower < rank → (f lower).status ≠ .accepted := by
  have hmem : rank ∈ rankRange first last ↔ first ≤ rank ∧ rank ≤ last := mem_rankRange
  unfold rankRange at *
  rw [find?_range'_eq_some, hmem]
  simp [isAccepted]

section

variable {evaluate : RankEvaluation} {f : Nat → CandidateEvaluation}
  {zeroCandidate e : CandidateEvaluation} {diagnostics : NumericalDiagnostics}
  {policy : PortfolioPolicy}

def firstRank (diagnostics : NumericalDiagnostics) (policy : PortfolioPolicy) : Nat :=
  max diagnostics.energyRank policy.minimumRank

def lastRank (diagnostics : NumericalDiagnostics) (policy : PortfolioPolicy) : Nat :=
  min diagnostics.numericalRank policy.maximumRank

lemma runDirectSvd_of_lt (hrank : 0 < diagnostics.numericalRank)
    (h : lastRank diagnostics policy < firstRank diagnostics policy) :
    runDirectSvd zeroCandidate evaluate diagnostics policy =
      .ok ⟨directSvdBackend, .boundedUnknown, .rankBudgetInsufficient,
        some (lastRank diagnostics policy), none, none⟩ := by
  unfold lastRank firstRank at h
  unfold runDirectSvd
  simp only [if_neg (Nat.pos_iff_ne_zero.mp hrank)]
  rw [if_pos (by omega)]
  rfl

section

variable (hf : ∀ rank, evaluate rank = .ok (f rank)) (hrank : 0 < diagnostics.numericalRank)
include hf hrank

lemma runDirectSvd_of_le (h : firstRank diagnostics policy ≤ lastRank diagnostics policy) :
    runDirectSvd zeroCandidate evaluate diagnostics policy =
      .ok (match (rankRange (firstRank diagnostics policy)
          (lastRank diagnostics policy)).find? (isAccepted f) with
        | some rank => f rank
        | none =>
          if lastRank diagnostics policy < diagnostics.numericalRank then
            { f (lastRank diagnostics policy) with
              status := .boundedUnknown, reason := .rankBudgetInsufficient }
          else f (lastRank diagnostics policy)) := by
  have hlast : (rankRange (firstRank diagnostics policy) (lastRank diagnostics policy)).getLast? =
      some (lastRank diagnostics policy) := by
    unfold rankRange
    rw [getLast?_range', if_neg (by omega)]
    congr 1
    omega
  unfold firstRank lastRank at *
  unfold runDirectSvd
  simp only [if_neg (Nat.pos_iff_ne_zero.mp hrank)]
  rw [if_neg (by omega), tryRanks_eq hf, ok_bind, hlast]
  cases hfind : (rankRange (max diagnostics.energyRank policy.minimumRank)
      (min diagnostics.numericalRank policy.maximumRank)).find? (isAccepted f) with
  | some rank => rfl
  | none =>
    simp only [Option.map_some, Option.some_or, okOr, ok_bind]
    split
    · rfl
    · rfl

lemma runDirectSvd_accepted :
    (runDirectSvd zeroCandidate evaluate diagnostics policy = .ok e ∧ e.status = .accepted) ↔
      ∃ rank, firstRank diagnostics policy ≤ rank ∧ rank ≤ lastRank diagnostics policy ∧
        (f rank).status = .accepted ∧ e = f rank ∧
        ∀ lower, firstRank diagnostics policy ≤ lower → lower < rank →
          (f lower).status ≠ .accepted := by
  by_cases hrange : firstRank diagnostics policy ≤ lastRank diagnostics policy
  · rw [runDirectSvd_of_le hf hrank hrange]
    cases hfind : (rankRange (firstRank diagnostics policy)
        (lastRank diagnostics policy)).find? (isAccepted f) with
    | some rank =>
      obtain ⟨haccepted, ⟨hfirst, hlast⟩, hleast⟩ := find?_rankRange.mp hfind
      constructor
      · rintro ⟨heq, -⟩
        cases heq
        exact ⟨rank, hfirst, hlast, haccepted, rfl, hleast⟩
      · rintro ⟨rank', hfirst', hlast', haccepted', rfl, hleast'⟩
        have hother := find?_rankRange.mpr ⟨haccepted', ⟨hfirst', hlast'⟩, hleast'⟩
        rw [hfind] at hother
        cases hother
        exact ⟨rfl, haccepted⟩
    | none =>
      rw [find?_eq_none] at hfind
      constructor
      · rintro ⟨heq, hstatus⟩
        cases heq
        have hlast := hfind _ (mem_rankRange.mpr ⟨hrange, le_rfl⟩)
        simp only [isAccepted, decide_eq_true_eq] at hlast
        simp only at hstatus
        split at hstatus
        · cases hstatus
        · exact absurd hstatus hlast
      · rintro ⟨rank, hfirst, hlast, haccepted, -, -⟩
        have hnot := hfind _ (mem_rankRange.mpr ⟨hfirst, hlast⟩)
        simp only [isAccepted, decide_eq_true_eq] at hnot
        exact absurd haccepted hnot
  · rw [runDirectSvd_of_lt hrank (by omega)]
    constructor
    · rintro ⟨heq, hstatus⟩
      cases heq
      cases hstatus
    · rintro ⟨rank, hfirst, hlast, -⟩
      omega

lemma runDirectSvd_budget (hreasons : ∀ rank, (f rank).reason ≠ .rankBudgetInsufficient)
    (h : runDirectSvd zeroCandidate evaluate diagnostics policy = .ok e)
    (hreason : e.reason = .rankBudgetInsufficient) :
    lastRank diagnostics policy < firstRank diagnostics policy ∨
      policy.maximumRank < diagnostics.numericalRank := by
  by_cases hrange : firstRank diagnostics policy ≤ lastRank diagnostics policy
  · rw [runDirectSvd_of_le hf hrank hrange] at h
    cases hfind : (rankRange (firstRank diagnostics policy)
        (lastRank diagnostics policy)).find? (isAccepted f) with
    | some rank =>
      rw [hfind] at h
      cases h
      exact absurd hreason (hreasons rank)
    | none =>
      rw [hfind] at h
      by_cases hcut : lastRank diagnostics policy < diagnostics.numericalRank
      · right
        unfold lastRank at hcut
        omega
      · simp only [if_neg hcut] at h
        cases h
        exact absurd hreason (hreasons _)
  · left
    omega

end

end

/-! ## The verdict -/

def PortfolioPolicy.withMaximumRank (policy : PortfolioPolicy) (maximumRank : Nat)
    (h : policy.minimumRank ≤ maximumRank) : PortfolioPolicy :=
  { policy with maximumRank := maximumRank, minimumRank_le := h }

section

variable [SolverKernels]

/-- The verdict is exact: the least accepted rank of the range is returned, the budget is blamed
    only where a larger one adds a rank, and a larger budget keeps an accepted evaluation. -/
structure ExactVerdict (factors : Nat → BrainResult (F64Vec × F64Vec)) (zeros : F64Vec)
    (problem : LeastSquaresProblem) (diagnostics : NumericalDiagnostics)
    (policy : PortfolioPolicy) : Prop where
  /-- An accepted evaluation is returned where a rank of the range is accepted. -/
  accepted_iff : (∃ e, spectralVerdict factors zeros problem diagnostics policy = .ok e ∧
      e.status = .accepted) ↔
    ∃ rank e, max diagnostics.energyRank policy.minimumRank ≤ rank ∧
      rank ≤ min diagnostics.numericalRank policy.maximumRank ∧
      rankEvaluation factors problem policy rank = .ok e ∧ e.status = .accepted
  /-- It is the evaluation of the least such rank. -/
  least : ∀ e, spectralVerdict factors zeros problem diagnostics policy = .ok e →
    e.status = .accepted → ∃ rank, max diagnostics.energyRank policy.minimumRank ≤ rank ∧
      rank ≤ min diagnostics.numericalRank policy.maximumRank ∧
      rankEvaluation factors problem policy rank = .ok e ∧
      ∀ lower e', max diagnostics.energyRank policy.minimumRank ≤ lower → lower < rank →
        rankEvaluation factors problem policy lower = .ok e' → e'.status ≠ .accepted
  /-- The budget is blamed only where it is below the numerical rank. -/
  budget : ∀ e, spectralVerdict factors zeros problem diagnostics policy = .ok e →
    e.reason = .rankBudgetInsufficient → policy.maximumRank < diagnostics.numericalRank
  /-- A larger budget keeps an accepted evaluation. -/
  monotone : ∀ e maximumRank (h : policy.minimumRank ≤ maximumRank),
    policy.maximumRank ≤ maximumRank →
    spectralVerdict factors zeros problem diagnostics policy = .ok e → e.status = .accepted →
    spectralVerdict factors zeros problem diagnostics (policy.withMaximumRank maximumRank h) =
      .ok e

variable {factors : Nat → BrainResult (F64Vec × F64Vec)} {zeros : F64Vec}
  {problem : LeastSquaresProblem} {diagnostics : NumericalDiagnostics} {policy : PortfolioPolicy}

lemma exists_rankEvaluation (problem : LeastSquaresProblem) (policy : PortfolioPolicy)
    (hfactors : ∀ rank, ∃ pair, factors rank = .ok pair) : ∃ f : Nat → CandidateEvaluation,
      (∀ rank, rankEvaluation factors problem policy rank = .ok (f rank)) ∧
        ∀ rank, (f rank).reason ≠ .rankBudgetInsufficient := by
  choose pair hpair using hfactors
  refine ⟨fun rank => evaluateCandidate directSvdBackend (some rank)
    (compactRepresentation problem.outputDimension problem.inputDimension rank (pair rank).1
      (pair rank).2) problem policy, ?_, ?_⟩
  · intro rank
    unfold rankEvaluation
    rw [hpair rank]
    rfl
  · intro rank
    exact evaluateCandidate_reason_ne _ _ _ _ _

lemma spectralVerdict_monotone (hfactors : ∀ rank, ∃ pair, factors rank = .ok pair)
    (hrank : 0 < diagnostics.numericalRank) {e : CandidateEvaluation} {maximumRank : Nat}
    (hminimum : policy.minimumRank ≤ maximumRank) (hle : policy.maximumRank ≤ maximumRank)
    (h : spectralVerdict factors zeros problem diagnostics policy = .ok e)
    (haccepted : e.status = .accepted) : spectralVerdict factors zeros problem diagnostics
      (policy.withMaximumRank maximumRank hminimum) = .ok e := by
  obtain ⟨f, hf, -⟩ := exists_rankEvaluation problem policy hfactors
  obtain ⟨rank, hfirst, hlast, hstatus, rfl, hleast⟩ :=
    (runDirectSvd_accepted hf hrank).mp ⟨h, haccepted⟩
  -- the evaluation of a rank does not read the bound
  have hf' : ∀ rank, rankEvaluation factors problem
      (policy.withMaximumRank maximumRank hminimum) rank = .ok (f rank) := hf
  have hcap : lastRank diagnostics policy ≤
      lastRank diagnostics (policy.withMaximumRank maximumRank hminimum) := by
    show min _ _ ≤ min _ maximumRank
    omega
  have hraised : spectralVerdict factors zeros problem diagnostics
      (policy.withMaximumRank maximumRank hminimum) = .ok (f rank) ∧
        (f rank).status = .accepted :=
    (runDirectSvd_accepted hf' hrank).mpr
      ⟨rank, hfirst, hlast.trans hcap, hstatus, rfl, hleast⟩
  exact hraised.1

/-- **The verdict of the direct decomposition is exact** where, and only where, the least rank
    that the policy allows is at most the numerical rank. -/
theorem spectral_verdict_iff (hfactors : ∀ rank, ∃ pair, factors rank = .ok pair)
    (hrank : 0 < diagnostics.numericalRank) :
    ExactVerdict factors zeros problem diagnostics policy ↔
      policy.minimumRank ≤ diagnostics.numericalRank := by
  obtain ⟨f, hf, hreasons⟩ := exists_rankEvaluation problem policy hfactors
  have henergy := diagnostics.energyRank_le
  have hminimum := policy.minimumRank_le
  constructor
  · intro hexact
    by_contra hlarge
    have hrange : lastRank diagnostics policy < firstRank diagnostics policy := by
      unfold lastRank firstRank
      omega
    have hbudget := hexact.budget _ (runDirectSvd_of_lt hrank hrange) rfl
    omega
  · intro hle
    refine ⟨?_, ?_, ?_, ?_⟩
    · constructor
      · intro hreturned
        obtain ⟨e, hreturned⟩ := hreturned
        obtain ⟨rank, hfirst, hlast, hstatus, rfl, -⟩ :=
          (runDirectSvd_accepted hf hrank).mp hreturned
        exact ⟨rank, f rank, hfirst, hlast, hf rank, hstatus⟩
      · intro haccepted
        obtain ⟨rank, e, hfirst, hlast, he, hstatus⟩ := haccepted
        have hsome : ∃ rank, max diagnostics.energyRank policy.minimumRank ≤ rank ∧
            (f rank).status = .accepted := by
          rw [hf rank] at he
          cases he
          exact ⟨rank, hfirst, hstatus⟩
        -- the least accepted rank is in the range as well
        have hspec := Nat.find_spec hsome
        have hbelow : Nat.find hsome ≤ rank := by
          rw [hf rank] at he
          cases he
          exact Nat.find_min' hsome ⟨hfirst, hstatus⟩
        refine ⟨f (Nat.find hsome), (runDirectSvd_accepted hf hrank).mpr
          ⟨Nat.find hsome, hspec.1, hbelow.trans hlast, hspec.2, rfl, ?_⟩⟩
        intro lower hlower hlt hstatus'
        exact Nat.find_min hsome hlt ⟨hlower, hstatus'⟩
    · intro e hreturned hstatus
      obtain ⟨rank, hfirst, hlast, -, rfl, hleast⟩ :=
        (runDirectSvd_accepted hf hrank).mp ⟨hreturned, hstatus⟩
      refine ⟨rank, hfirst, hlast, hf rank, ?_⟩
      intro lower e' hlower hlt he'
      rw [hf lower] at he'
      cases he'
      exact hleast lower hlower hlt
    · intro e hreturned hreason
      rcases runDirectSvd_budget hf hrank hreasons hreturned hreason with hrange | hcut
      · unfold lastRank firstRank at hrange
        omega
      · exact hcut
    · intro e maximumRank hmaximum hraised hreturned hstatus
      exact spectralVerdict_monotone hfactors hrank hmaximum hraised hreturned hstatus

end

/-! ## A least rank above the numerical rank -/

namespace SpectralSample

@[reducible] def kernels : SolverKernels where
  measureCandidate _ _ := .error (.numerical "solver_candidate_metrics_nonfinite")

attribute [local instance] kernels

def one : F64Vec := ⟨[F64.ofNat 1], by decide⟩

def problem : LeastSquaresProblem := ⟨[[F64.ofNat 1]], [[F64.ofNat 1]], 1, 1⟩

def policy : PortfolioPolicy where
  targetExplainedEnergy := F64.ofNat 1
  minimumRank := 2
  maximumRank := 4
  relativeResidualTolerance := F64.zero false
  absoluteResidualTolerance := F64.ofNat 1
  limits := ⟨16, 4, 1000⟩
  minimumRank_pos := Nat.two_pos
  minimumRank_le := by decide

def diagnostics : NumericalDiagnostics := ⟨1, 1, F64.zero false, le_rfl⟩

def factors (_ : Nat) : BrainResult (F64Vec × F64Vec) := .ok (one, one)

/-- The budget is blamed although it is above the numerical rank. -/
theorem budget_blamed : ¬∀ (diagnostics : NumericalDiagnostics) (policy : PortfolioPolicy),
      0 < diagnostics.numericalRank → ExactVerdict factors one problem diagnostics policy := by
  intro hclaim
  have hexact := hclaim diagnostics policy (by decide)
  have hrange : lastRank diagnostics policy < firstRank diagnostics policy := by decide
  have hbudget := hexact.budget _ (runDirectSvd_of_lt (by decide) hrange) rfl
  revert hbudget
  decide

/-- With a rank less asked for, the verdict is exact. -/
theorem lower_minimum_exact :
    ExactVerdict factors one problem ⟨3, 1, F64.zero false, by decide⟩ policy :=
  (spectral_verdict_iff (fun _ => ⟨(one, one), rfl⟩) (by decide)).mpr (by decide)

end SpectralSample

end Tidex.Solver
