/-
  Governance.Budget — trials handed out under a budget.
-/
import Tidex.Foundation.Machine
import Tidex.Governance.Paired
import Tidex.Lib.Keyed

namespace Tidex.Governance

open Tidex.Lib List BTreeMap Sha256Digest

/-! ## Candidates and policies -/

def maxTrialCandidates : Nat := 4096
def maxGateHistoryPerCandidate : Nat := 4096
def maxTotalGateHistory : Nat := 65536
def maxAdaptiveWorkUnits : Nat := 4000000

def budgetPolicyDomain : String := "TIDEX:ADAPTIVE-BUDGET-POLICY:v1\x00"
def budgetPlanDomain : String := "TIDEX:ADAPTIVE-BUDGET-PLAN:v1\x00"

structure ComputeUnits where
  value : Nat
  pos : 0 < value
  lt : value < u64Width

instance : Serialize ComputeUnits where
  toJson u := toJson u.value

structure AdaptiveTrialCandidate where
  candidateId : VariantId
  gateHistory : List CandidateGateDecision
  trialCost : ComputeUnits
  maximumAdditionalTrials : Nat

structure AdaptiveBudgetPolicyDigest where
  raw : Sha256Digest
  deriving DecidableEq

structure AdaptiveBudgetPolicy where
  priorityMetricId : MetricId
  totalBudget : ComputeUnits
  holdoutReserve : ComputeUnits
  minimumTrialsPerCandidate : Nat
  maximumTotalTrials : Nat
  explorationStrength : FiniteF64
  costPenalty : FiniteF64
  policyDigest : AdaptiveBudgetPolicyDigest
  reserve_lt : holdoutReserve.value < totalBudget.value
  minimum_pos : 0 < minimumTrialsPerCandidate
  maximum_pos : 0 < maximumTotalTrials
  maximum_le : maximumTotalTrials ≤ maxObservations

section

variable [Platform]

/-- A candidate whose history is authentic, its own, of advances, and without repetition. -/
def AdaptiveTrialCandidate.fromGateHistory (candidateId : VariantId)
    (gateHistory : List CandidateGateDecision) (trialCost : ComputeUnits)
    (maximumAdditionalTrials : Nat) : BrainResult AdaptiveTrialCandidate := do
  failIf (maximumAdditionalTrials = 0 ∨ maxObservations < maximumAdditionalTrials ∨
      maxGateHistoryPerCandidate < gateHistory.length)
    (invalid "adaptive_budget_candidate_trial_limit_invalid")
  let _ ← gateHistory.foldlM (fun (digests : BTreeSet CandidateGateDigest) gate => do
    gate.authenticate
    failIf (gate.candidateId ≠ candidateId ∨ gate.disposition ≠ .advanceCandidate ∨
      gate.decisionDigest ∈ digests) (integrity "adaptive_budget_gate_history_invalid")
    return digests.insert gate.decisionDigest) ∅
  return ⟨candidateId, gateHistory, trialCost, maximumAdditionalTrials⟩

def AdaptiveBudgetPolicy.new (priorityMetricId : MetricId)
    (totalBudget holdoutReserve : ComputeUnits)
    (minimumTrialsPerCandidate maximumTotalTrials : Nat) (explorationStrength costPenalty : F64) :
    BrainResult AdaptiveBudgetPolicy := do
  let explorationStrength ← FiniteF64.new explorationStrength
  let costPenalty ← FiniteF64.new costPenalty
  if h : holdoutReserve.value < totalBudget.value ∧ 0 < minimumTrialsPerCandidate ∧
      0 < maximumTotalTrials ∧ maximumTotalTrials ≤ maxObservations then
    failIf (explorationStrength.get.le? f64Zero ∨ costPenalty.get.lt? f64Zero)
      (invalid "adaptive_budget_policy_invalid")
    let projection := Json.obj [("priority_metric_id", toJson priorityMetricId),
      ("total_budget", toJson totalBudget), ("holdout_reserve", toJson holdoutReserve),
      ("minimum_trials_per_candidate", toJson minimumTrialsPerCandidate),
      ("maximum_total_trials", toJson maximumTotalTrials),
      ("exploration_strength", toJson explorationStrength), ("cost_penalty", toJson costPenalty)]
    return ⟨priorityMetricId, totalBudget, holdoutReserve, minimumTrialsPerCandidate,
      maximumTotalTrials, explorationStrength, costPenalty,
      ⟨digestDomain budgetPolicyDomain projection.toBytes⟩, h.1, h.2.1, h.2.2.1,
      h.2.2.2⟩
  else .error (invalid "adaptive_budget_policy_invalid")

end

/-! ## Scores -/

def derivedPriorityHistory (candidate : AdaptiveTrialCandidate) (metricId : MetricId) :
    BrainResult (List F64) :=
  candidate.gateHistory.mapM fun gate => do
    let value ← okOr gate.conservativeImprovements[metricId]?
      (integrity "adaptive_budget_priority_metric_missing")
    return value.get

/-- A score of a candidate: from its history, its planned and all effective trials, its cost and
    the policy. -/
abbrev TrialScore :=
  List F64 → Nat → Nat → ComputeUnits → AdaptiveBudgetPolicy → BrainResult F64

def adaptiveScore [Logarithms] : TrialScore :=
  fun history plannedCount totalEffectiveTrials trialCost policy => do
    let count ← checkedAdd u64Width history.length plannedCount
      (invalid "adaptive_budget_count_overflow")
    let empirical ← if history.isEmpty then pure f64Zero else stableMean history
    let denominator := F64.ofNat (count + 1)
    let numerator := F64.ofNat (totalEffectiveTrials + 2)
    let exploration := policy.explorationStrength.get *
      F64.sqrt (Logarithms.ln numerator / denominator)
    let cost := F64.ofNat trialCost.value
    let score := empirical + exploration - policy.costPenalty.get * Logarithms.ln1p cost
    failIf (¬score.isFinite) (.numerical "adaptive_budget_score_nonfinite")
    return score

/-! ## The plan -/

inductive TrialAllocationReason where
  | mandatoryCoverage
  | derivedUpperConfidenceBound
  deriving DecidableEq

def TrialAllocationReason.wire : TrialAllocationReason → String
  | .mandatoryCoverage => "mandatory_coverage"
  | .derivedUpperConfidenceBound => "derived_upper_confidence_bound"

structure TrialAllocation where
  candidateId : VariantId
  candidateTrialOrdinal : Nat
  cost : ComputeUnits
  reason : TrialAllocationReason

def TrialAllocation.json (a : TrialAllocation) : Json :=
  .obj [("candidate_id", toJson a.candidateId),
    ("candidate_trial_ordinal", toJson a.candidateTrialOrdinal), ("cost", toJson a.cost),
    ("reason", .str a.reason.wire)]

inductive AdaptiveBudgetDisposition where
  | planned
  | boundedUnknownInsufficientMandatoryCoverage
  deriving DecidableEq

def AdaptiveBudgetDisposition.wire : AdaptiveBudgetDisposition → String
  | .planned => "planned"
  | .boundedUnknownInsufficientMandatoryCoverage =>
    "bounded_unknown_insufficient_mandatory_coverage"

structure AdaptiveBudgetPlanDigest where
  raw : Sha256Digest
  deriving DecidableEq

/-- What a plan says, before it is sealed. -/
structure AdaptiveBudgetPlanDraft where
  policyDigest : AdaptiveBudgetPolicyDigest
  candidateSetDigest : Sha256Digest
  disposition : AdaptiveBudgetDisposition
  allocations : List TrialAllocation
  consumedBudget : Nat
  holdoutReserve : ComputeUnits
  unspentBudget : Nat

structure AdaptiveBudgetPlan extends AdaptiveBudgetPlanDraft where
  planDigest : AdaptiveBudgetPlanDigest

def AdaptiveBudgetPlanDraft.projection (d : AdaptiveBudgetPlanDraft) : Json :=
  .obj [("policy_digest", toJson d.policyDigest.raw),
    ("candidate_set_digest", toJson d.candidateSetDigest),
    ("disposition", .str d.disposition.wire),
    ("allocations", .arr (d.allocations.map TrialAllocation.json)),
    ("consumed_budget", toJson d.consumedBudget), ("holdout_reserve", toJson d.holdoutReserve),
    ("unspent_budget", toJson d.unspentBudget)]

def AdaptiveBudgetPlan.seal [Platform] (draft : AdaptiveBudgetPlanDraft) : AdaptiveBudgetPlan :=
  ⟨draft, ⟨digestDomain budgetPlanDomain draft.projection.toBytes⟩⟩

/-! ### Registration. -/

def addHistory (total : Nat) (candidate : AdaptiveTrialCandidate) : BrainResult Nat := do
  let totalGateHistory ← checkedAdd u64Width total candidate.gateHistory.length
    (invalid "adaptive_budget_gate_history_overflow")
  failIf (maxTotalGateHistory < totalGateHistory)
    (invalid "adaptive_budget_gate_history_limit_exceeded")
  return totalGateHistory

/-- Register a candidate, with its authentic history, under a new identifier. -/
def registerCandidate [Platform] (minimumTrials : Nat)
    (acc : BTreeMap VariantId AdaptiveTrialCandidate × Nat) (candidate : AdaptiveTrialCandidate) :
    BrainResult (BTreeMap VariantId AdaptiveTrialCandidate × Nat) := do
  failIf (candidate.maximumAdditionalTrials < minimumTrials)
    (invalid "adaptive_budget_candidate_invalid")
  let byId ← insertEach AdaptiveTrialCandidate.candidateId id
    (invalid "adaptive_budget_candidate_invalid") acc.1 candidate
  let totalGateHistory ← addHistory acc.2 candidate
  forM candidate.gateHistory CandidateGateDecision.authenticate
  return (byId, totalGateHistory)

/-- What the identity of the candidate set is taken of. -/
def candidateProjection (candidates : List AdaptiveTrialCandidate) : Json :=
  .arr (candidates.map fun candidate => .arr [toJson candidate.candidateId,
    .arr (candidate.gateHistory.map fun gate => toJson gate.decisionDigest),
    toJson candidate.trialCost, toJson candidate.maximumAdditionalTrials])

def addMandatoryCost (minimumTrials total : Nat) (candidate : AdaptiveTrialCandidate) :
    BrainResult Nat := do
  let candidateCost ← checkedMul u64Width candidate.trialCost.value minimumTrials
    (invalid "adaptive_budget_cost_overflow")
  checkedAdd u64Width total candidateCost (invalid "adaptive_budget_cost_overflow")

/-! ### Trials. -/

/-- The trials so far, how many each candidate has, and what they cost. -/
structure TrialState where
  allocations : List TrialAllocation
  planned : BTreeMap VariantId Nat
  consumed : Nat

def TrialState.count (s : TrialState) (candidateId : VariantId) : Nat :=
  s.planned[candidateId]?.getD 0

def TrialState.allocate (s : TrialState) (candidate : AdaptiveTrialCandidate) (ordinal : Nat)
    (reason : TrialAllocationReason) : BrainResult TrialState := do
  let consumed ← checkedAdd u64Width s.consumed candidate.trialCost.value
    (invalid "adaptive_budget_cost_overflow")
  return ⟨s.allocations ++ [⟨candidate.candidateId, ordinal, candidate.trialCost, reason⟩],
    s.planned.insert candidate.candidateId (s.count candidate.candidateId + 1), consumed⟩

def mandatoryRound (candidates : List AdaptiveTrialCandidate) (s : TrialState) (ordinal : Nat) :
    BrainResult TrialState :=
  candidates.foldlM (fun s candidate => s.allocate candidate ordinal .mandatoryCoverage) s

/-- Keep the better of the best candidate so far and of one more that is viable. -/
def considerCandidate (score : TrialScore) (policy : AdaptiveBudgetPolicy) (s : TrialState)
    (remaining totalHistory : Nat) (best : Option (AdaptiveTrialCandidate × F64))
    (candidate : AdaptiveTrialCandidate) : BrainResult (Option (AdaptiveTrialCandidate × F64)) := do
  let count := s.count candidate.candidateId
  if candidate.maximumAdditionalTrials ≤ count ∨ remaining < candidate.trialCost.value then
    return best
  let history ← derivedPriorityHistory candidate policy.priorityMetricId
  let value ← score history count totalHistory candidate.trialCost policy
  match best with
  | none => return some (candidate, value)
  | some (current, currentScore) =>
    if currentScore.totalKey < value.totalKey ∨
        currentScore.totalKey = value.totalKey ∧
          compare candidate.candidateId current.candidateId = .lt then
      return some (candidate, value)
    return best

/-- Hand out up to a number of trials, each to the best viable candidate. -/
def planTrials (score : TrialScore) (policy : AdaptiveBudgetPolicy)
    (candidates : List AdaptiveTrialCandidate) (allocatable : Nat) :
    Nat → TrialState → BrainResult TrialState
  | 0, s => .ok s
  | trials + 1, s => do
    failIf (allocatable < s.consumed) (integrity "adaptive_budget_consumption_invalid")
    let remaining := allocatable - s.consumed
    let totalHistory ← candidates.foldlM (fun total candidate =>
      checkedAdd u64Width total candidate.gateHistory.length
        (invalid "adaptive_budget_count_overflow")) s.allocations.length
    match ← candidates.foldlM (considerCandidate score policy s remaining totalHistory) none with
    | none => return s
    | some (candidate, _) =>
      let next ← s.allocate candidate (s.count candidate.candidateId) .derivedUpperConfidenceBound
      planTrials score policy candidates allocatable trials next

def allocateRegistered [Platform] (score : TrialScore) (policy : AdaptiveBudgetPolicy)
    (byId : BTreeMap VariantId AdaptiveTrialCandidate) (totalGateHistory : Nat) :
    BrainResult AdaptiveBudgetPlanDraft := do
  let perIterationWork ← checkedAdd u64Width byId.size totalGateHistory
    (invalid "adaptive_budget_work_estimate_overflow")
  let scans ← checkedMul u64Width policy.maximumTotalTrials perIterationWork
    (invalid "adaptive_budget_work_estimate_overflow")
  let adaptiveWork ← checkedAdd u64Width scans totalGateHistory
    (invalid "adaptive_budget_work_estimate_overflow")
  failIf (maxAdaptiveWorkUnits < adaptiveWork) (invalid "adaptive_budget_work_limit_exceeded")
  let registered := values byId
  let candidateSetDigest :=
    digestDomain budgetPlanDomain (candidateProjection registered).toBytes
  failIf (policy.totalBudget.value < policy.holdoutReserve.value)
    (invalid "adaptive_budget_reserve_exceeds_total")
  let allocatable := policy.totalBudget.value - policy.holdoutReserve.value
  let mandatoryCost ←
    registered.foldlM (addMandatoryCost policy.minimumTrialsPerCandidate) 0
  if allocatable < mandatoryCost ∨ u64Width ≤ byId.size * policy.minimumTrialsPerCandidate ∨
      policy.maximumTotalTrials < byId.size * policy.minimumTrialsPerCandidate then
    return ⟨policy.policyDigest, candidateSetDigest,
      .boundedUnknownInsufficientMandatoryCoverage, [], 0, policy.holdoutReserve, allocatable⟩
  let covered ← (List.range policy.minimumTrialsPerCandidate).foldlM (mandatoryRound registered)
    ⟨[], ∅, 0⟩
  let planned ← planTrials score policy registered allocatable
    (policy.maximumTotalTrials - covered.allocations.length) covered
  failIf (allocatable < planned.consumed) (integrity "adaptive_budget_consumption_invalid")
  return ⟨policy.policyDigest, candidateSetDigest, .planned, planned.allocations,
    planned.consumed, policy.holdoutReserve, allocatable - planned.consumed⟩

def allocateWith [Platform] (score : TrialScore) (candidates : List AdaptiveTrialCandidate)
    (policy : AdaptiveBudgetPolicy) : BrainResult AdaptiveBudgetPlan := do
  failIf (candidates.isEmpty ∨ maxTrialCandidates < candidates.length)
    (invalid "adaptive_budget_candidate_count_invalid")
  let (byId, totalGateHistory) ←
    candidates.foldlM (registerCandidate policy.minimumTrialsPerCandidate) (∅, 0)
  let draft ← allocateRegistered score policy byId totalGateHistory
  return .seal draft

def allocateAdaptiveBudget [Platform] [Logarithms] (candidates : List AdaptiveTrialCandidate)
    (policy : AdaptiveBudgetPolicy) : BrainResult AdaptiveBudgetPlan :=
  allocateWith adaptiveScore candidates policy

/-! ## Registration takes candidates in no order -/

/-- Candidates of distinct identifiers that a policy of this minimum can register. -/
structure Registrable [Platform] (minimumTrials : Nat)
    (candidates : List AdaptiveTrialCandidate) : Prop where
  minimum : ∀ c ∈ candidates, minimumTrials ≤ c.maximumAdditionalTrials
  authentic : ∀ c ∈ candidates, ∀ gate ∈ c.gateHistory, gate.authenticate = .ok ()
  history : (candidates.map fun c => c.gateHistory.length).sum ≤ maxTotalGateHistory

lemma addHistory_ok {total total' : Nat} {candidate : AdaptiveTrialCandidate} :
    addHistory total candidate = .ok total' ↔
      total' = total + candidate.gateHistory.length ∧ total' ≤ maxTotalGateHistory := by
  have hwidth : maxTotalGateHistory < u64Width := by decide
  simp only [addHistory, bind_ok, checkedAdd_ok, failIf_ok, pure_ok, not_lt, exists_const]
  constructor
  · intro h
    obtain ⟨sum, ⟨-, rfl⟩, hle, rfl⟩ := h
    exact ⟨rfl, hle⟩
  · intro h
    obtain ⟨rfl, hle⟩ := h
    exact ⟨_, ⟨by omega, rfl⟩, hle, rfl⟩

lemma foldlM_addHistory_ok {candidates : List AdaptiveTrialCandidate} {start total : Nat}
    (hstart : start ≤ maxTotalGateHistory) : candidates.foldlM addHistory start = .ok total ↔
      total = start + (candidates.map fun c => c.gateHistory.length).sum ∧
        total ≤ maxTotalGateHistory := by
  induction candidates generalizing start with
  | nil =>
    rw [foldlM_nil, pure_ok, map_nil, sum_nil, Nat.add_zero]
    constructor
    · intro h
      subst h
      exact ⟨rfl, hstart⟩
    · intro h
      exact h.1.symm
  | cons c candidates ih =>
    rw [foldlM_cons, bind_ok, map_cons, sum_cons]
    constructor
    · intro h
      obtain ⟨next, hnext, hrest⟩ := h
      obtain ⟨rfl, hle⟩ := addHistory_ok.mp hnext
      obtain ⟨htotal, hlimit⟩ := (ih hle).mp hrest
      exact ⟨by omega, hlimit⟩
    · intro h
      obtain ⟨htotal, hlimit⟩ := h
      have hle : start + c.gateHistory.length ≤ maxTotalGateHistory := by omega
      exact ⟨_, addHistory_ok.mpr ⟨rfl, hle⟩, (ih hle).mpr ⟨by omega, hlimit⟩⟩

/-- Registration succeeds exactly on registrable candidates of distinct identifiers, which it
    keeps under these. -/
lemma registerCandidates_ok [Platform] {minimumTrials total : Nat}
    {candidates : List AdaptiveTrialCandidate} {byId : BTreeMap VariantId AdaptiveTrialCandidate} :
    candidates.foldlM (registerCandidate minimumTrials) (∅, 0) = .ok (byId, total) ↔
      Registrable minimumTrials candidates ∧
        Keyed AdaptiveTrialCandidate.candidateId candidates byId ∧
        total = (candidates.map fun c => c.gateHistory.length).sum := by
  have hstep : ∀ (m : BTreeMap VariantId AdaptiveTrialCandidate) (n : Nat)
      (c : AdaptiveTrialCandidate) (m' : BTreeMap VariantId AdaptiveTrialCandidate) (n' : Nat),
      registerCandidate minimumTrials (m, n) c = .ok (m', n') ↔
        (minimumTrials ≤ c.maximumAdditionalTrials ∧
          ∀ gate ∈ c.gateHistory, gate.authenticate = .ok ()) ∧
        insertEach AdaptiveTrialCandidate.candidateId id
          (invalid "adaptive_budget_candidate_invalid") m c = .ok m' ∧
        [c].foldlM addHistory n = .ok n' := by
    intro m n c m' n'
    simp only [registerCandidate, bind_ok, failIf_ok, not_lt, exists_const, pure_ok,
      forM_ok, Prod.mk.injEq, foldlM_cons, foldlM_nil]
    constructor
    · intro h
      obtain ⟨hmin, m₁, hm₁, n₁, hn₁, hgates, rfl, rfl⟩ := h
      exact ⟨⟨hmin, hgates⟩, hm₁, n₁, hn₁, rfl⟩
    · intro h
      obtain ⟨⟨hmin, hgates⟩, hm', n₁, hn₁, rfl⟩ := h
      exact ⟨hmin, m', hm', n₁, hn₁, hgates, rfl, rfl⟩
  rw [foldlM_pair_ok hstep, foldlM_insertEach_keyed, flatMap_singleton',
    foldlM_addHistory_ok (Nat.zero_le _), Nat.zero_add]
  constructor
  · intro h
    obtain ⟨hchecks, hkeyed, htotal, hlimit⟩ := h
    refine ⟨⟨?_, ?_, htotal ▸ hlimit⟩, hkeyed, htotal⟩
    · intro c hc
      exact (hchecks c hc).1
    · intro c hc
      exact (hchecks c hc).2
  · intro h
    obtain ⟨hregistrable, hkeyed, htotal⟩ := h
    refine ⟨?_, hkeyed, htotal, htotal ▸ hregistrable.history⟩
    intro c hc
    exact ⟨hregistrable.minimum c hc, hregistrable.authentic c hc⟩

lemma Registrable.perm [Platform] {minimumTrials : Nat}
    {candidates others : List AdaptiveTrialCandidate} (h : Registrable minimumTrials candidates)
    (hperm : others.Perm candidates) : Registrable minimumTrials others where
  minimum := by
    intro c hc
    exact h.minimum c (hperm.mem_iff.mp hc)
  authentic := by
    intro c hc
    exact h.authentic c (hperm.mem_iff.mp hc)
  history := by
    rw [(hperm.map _).sum_eq]
    exact h.history

lemma foldlM_addMandatoryCost {minimumTrials start total : Nat}
    {candidates : List AdaptiveTrialCandidate}
    (h : candidates.foldlM (addMandatoryCost minimumTrials) start = .ok total) :
    total = start + (candidates.map fun c => c.trialCost.value).sum * minimumTrials := by
  induction candidates generalizing start with
  | nil =>
    rw [foldlM_nil, pure_ok] at h
    subst h
    rw [map_nil, sum_nil, Nat.zero_mul, Nat.add_zero]
  | cons c candidates ih =>
    rw [foldlM_cons, bind_ok] at h
    obtain ⟨next, hnext, hrest⟩ := h
    simp only [addMandatoryCost, bind_ok, checkedMul_ok, checkedAdd_ok] at hnext
    obtain ⟨_, ⟨-, rfl⟩, -, rfl⟩ := hnext
    rw [ih hrest, map_cons, sum_cons, Nat.add_mul, Nat.add_assoc]

/-! ## What a trial changes -/

def ordinalsOf (allocations : List TrialAllocation) (candidateId : VariantId) : List Nat :=
  (allocations.filter fun a => a.candidateId = candidateId).map
    TrialAllocation.candidateTrialOrdinal

lemma ordinalsOf_append_singleton {allocations : List TrialAllocation} {a : TrialAllocation}
    {candidateId : VariantId} :
    ordinalsOf (allocations ++ [a]) candidateId = ordinalsOf allocations candidateId ++
      if a.candidateId = candidateId then [a.candidateTrialOrdinal] else [] := by
  unfold ordinalsOf
  rw [filter_append, map_append]
  by_cases ha : a.candidateId = candidateId
  · simp [ha]
  · simp [ha]

namespace TrialState

variable {s next : TrialState} {candidates : List AdaptiveTrialCandidate}
  {c : AdaptiveTrialCandidate} {ordinal : Nat} {reason : TrialAllocationReason}

lemma allocate_ok :
    s.allocate c ordinal reason = .ok next ↔ s.consumed + c.trialCost.value < u64Width ∧
      next = ⟨s.allocations ++ [⟨c.candidateId, ordinal, c.trialCost, reason⟩],
        s.planned.insert c.candidateId (s.count c.candidateId + 1),
        s.consumed + c.trialCost.value⟩ := by
  simp only [allocate, bind_ok, checkedAdd_ok, pure_ok]
  constructor
  · intro h
    obtain ⟨_, ⟨hlt, rfl⟩, rfl⟩ := h
    exact ⟨hlt, rfl⟩
  · intro h
    obtain ⟨hlt, rfl⟩ := h
    exact ⟨_, ⟨hlt, rfl⟩, rfl⟩

lemma count_of_allocate (h : s.allocate c ordinal reason = .ok next) (candidateId : VariantId) :
    next.count candidateId =
      s.count candidateId + if c.candidateId = candidateId then 1 else 0 := by
  obtain ⟨-, rfl⟩ := allocate_ok.mp h
  show ((s.planned.insert c.candidateId (s.count c.candidateId + 1))[candidateId]?).getD 0 = _
  by_cases hid : c.candidateId = candidateId
  · subst hid
    simp
  · rw [getElem?_insert_of_ne hid, if_neg hid]
    rfl

/-- The trials of every candidate are numbered from zero, of a registered candidate, and paid
    for. -/
structure Sound (candidates : List AdaptiveTrialCandidate) (s : TrialState) : Prop where
  ordinals : ∀ candidateId,
    ordinalsOf s.allocations candidateId = List.range (s.count candidateId)
  registered : ∀ a ∈ s.allocations,
    ∃ c ∈ candidates, c.candidateId = a.candidateId ∧ c.trialCost = a.cost
  consumed : (s.allocations.map fun a => a.cost.value).sum = s.consumed

lemma Sound.empty : Sound candidates ⟨[], ∅, 0⟩ where
  ordinals := by
    intro candidateId
    simp [ordinalsOf, count]
  registered := by simp
  consumed := rfl

/-- A trial under the next ordinal of a candidate keeps the trials sound. -/
lemma Sound.allocate (hs : Sound candidates s) (hc : c ∈ candidates)
    (h : s.allocate c (s.count c.candidateId) reason = .ok next) : Sound candidates next where
  ordinals := by
    intro candidateId
    rw [count_of_allocate h]
    obtain ⟨-, rfl⟩ := allocate_ok.mp h
    rw [ordinalsOf_append_singleton, hs.ordinals]
    by_cases hid : c.candidateId = candidateId
    · subst hid
      rw [if_pos rfl, if_pos rfl, range_succ]
    · rw [if_neg hid, if_neg hid, append_nil, Nat.add_zero]
  registered := by
    obtain ⟨-, rfl⟩ := allocate_ok.mp h
    exact forall_mem_concat hs.registered ⟨c, hc, rfl, rfl⟩
  consumed := by
    obtain ⟨-, rfl⟩ := allocate_ok.mp h
    rw [map_append, sum_append, hs.consumed]
    rfl

lemma length_of_allocate (h : s.allocate c ordinal reason = .ok next) :
    next.allocations.length = s.allocations.length + 1 := by
  obtain ⟨-, rfl⟩ := allocate_ok.mp h
  exact length_append

lemma consumed_of_allocate (h : s.allocate c ordinal reason = .ok next) :
    next.consumed = s.consumed + c.trialCost.value := by
  obtain ⟨-, rfl⟩ := allocate_ok.mp h
  rfl

end TrialState

/-! ## The mandatory phase -/

open TrialState (allocate_ok count_of_allocate length_of_allocate consumed_of_allocate)

lemma mandatoryRound_spec {candidates rest : List AdaptiveTrialCandidate} {s next : TrialState}
    {ordinal : Nat} (hsub : ∀ c ∈ rest, c ∈ candidates)
    (hdistinct : (rest.map AdaptiveTrialCandidate.candidateId).Nodup)
    (hs : s.Sound candidates) (hcount : ∀ c ∈ rest, s.count c.candidateId = ordinal)
    (h : mandatoryRound rest s ordinal = .ok next) : next.Sound candidates ∧
      (∀ candidateId, next.count candidateId = s.count candidateId +
        if candidateId ∈ rest.map AdaptiveTrialCandidate.candidateId then 1 else 0) ∧
      next.allocations.length = s.allocations.length + rest.length ∧
      next.consumed = s.consumed + (rest.map fun c => c.trialCost.value).sum := by
  induction rest generalizing s with
  | nil =>
    rw [mandatoryRound, foldlM_nil, pure_ok] at h
    subst h
    refine ⟨hs, ?_, rfl, rfl⟩
    intro candidateId
    simp
  | cons c rest ih =>
    rw [mandatoryRound, foldlM_cons, bind_ok] at h
    obtain ⟨mid, hmid, hrest⟩ := h
    rw [map_cons, nodup_cons] at hdistinct
    obtain ⟨hfresh, hdistinct⟩ := hdistinct
    have hc : s.count c.candidateId = ordinal := hcount c (by simp)
    have hmids : mid.Sound candidates := by
      rw [← hc] at hmid
      exact hs.allocate (hsub c (by simp)) hmid
    -- the identifiers are distinct, so the others still have as many trials as before
    have hmidcount : ∀ d ∈ rest, mid.count d.candidateId = ordinal := by
      intro d hd
      have hne : c.candidateId ≠ d.candidateId := by
        intro heq
        exact hfresh (mem_map.mpr ⟨d, hd, heq.symm⟩)
      rw [count_of_allocate hmid, if_neg hne, Nat.add_zero]
      exact hcount d (mem_cons_of_mem c hd)
    obtain ⟨hnext, hcounts, hlength, hconsumed⟩ :=
      ih (fun d hd => hsub d (mem_cons_of_mem c hd)) hdistinct hmids hmidcount hrest
    refine ⟨hnext, ?_, ?_, ?_⟩
    · intro candidateId
      rw [hcounts, count_of_allocate hmid, map_cons]
      by_cases hid : c.candidateId = candidateId
      · subst hid
        rw [if_pos rfl, if_neg hfresh, if_pos (mem_cons_self)]
      · have hid' : candidateId ≠ c.candidateId := Ne.symm hid
        rw [if_neg hid, Nat.add_zero]
        simp only [mem_cons, hid', false_or]
    · rw [hlength, length_of_allocate hmid, length_cons]
      omega
    · rw [hconsumed, consumed_of_allocate hmid, map_cons, sum_cons]
      omega

lemma mandatory_spec {candidates : List AdaptiveTrialCandidate} {covered : TrialState}
    {rounds : Nat} (hdistinct : (candidates.map AdaptiveTrialCandidate.candidateId).Nodup)
    (h : (range rounds).foldlM (mandatoryRound candidates) ⟨[], ∅, 0⟩ = .ok covered) :
    covered.Sound candidates ∧ (∀ c ∈ candidates, covered.count c.candidateId = rounds) ∧
      covered.allocations.length = candidates.length * rounds ∧
      covered.consumed = (candidates.map fun c => c.trialCost.value).sum * rounds := by
  induction rounds generalizing covered with
  | zero =>
    rw [range_zero, foldlM_nil, pure_ok] at h
    subst h
    refine ⟨TrialState.Sound.empty, ?_, by simp, by simp⟩
    intro c hc
    simp [TrialState.count]
  | succ rounds ih =>
    rw [range_succ, foldlM_append, bind_ok] at h
    obtain ⟨mid, hmid, hlast⟩ := h
    rw [foldlM_cons, bind_ok] at hlast
    obtain ⟨last, hlast, hend⟩ := hlast
    rw [foldlM_nil, pure_ok] at hend
    subst hend
    obtain ⟨hs, hcount, hlength, hconsumed⟩ := ih hmid
    obtain ⟨hs', hcount', hlength', hconsumed'⟩ :=
      mandatoryRound_spec (fun c hc => hc) hdistinct hs hcount hlast
    refine ⟨hs', ?_, ?_, ?_⟩
    · intro c hc
      rw [hcount', hcount c hc, if_pos (mem_map_of_mem hc)]
    · rw [hlength', hlength, Nat.mul_succ]
    · rw [hconsumed', hconsumed, Nat.mul_succ]

/-! ## The greedy phase -/

section

variable {score : TrialScore} {policy : AdaptiveBudgetPolicy}
  {candidates : List AdaptiveTrialCandidate} {s : TrialState} {allocatable : Nat}

def TrialState.Viable (s : TrialState) (remaining : Nat) (c : AdaptiveTrialCandidate) : Prop :=
  s.count c.candidateId < c.maximumAdditionalTrials ∧ c.trialCost.value ≤ remaining

/-- One more candidate is kept only if it is viable, and something is kept once one is. -/
lemma considerCandidate_spec {remaining totalHistory : Nat}
    {best next : Option (AdaptiveTrialCandidate × F64)} {c : AdaptiveTrialCandidate}
    (h : considerCandidate score policy s remaining totalHistory best c = .ok next) :
    (next = best ∨ s.Viable remaining c ∧ ∃ value, next = some (c, value)) ∧
      (next = none → best = none ∧ ¬s.Viable remaining c) := by
  unfold considerCandidate at h
  by_cases hskip : c.maximumAdditionalTrials ≤ s.count c.candidateId ∨
      remaining < c.trialCost.value
  · rw [if_pos hskip, pure_ok] at h
    subst h
    refine ⟨.inl rfl, ?_⟩
    intro hnone
    refine ⟨hnone, ?_⟩
    intro hviable
    have hcount := hviable.1
    have hcost := hviable.2
    omega
  · rw [if_neg hskip] at h
    have hviable : s.Viable remaining c := by
      unfold TrialState.Viable
      omega
    simp only [bind_ok] at h
    obtain ⟨history, -, value, -, h⟩ := h
    cases best with
    | none =>
      obtain rfl := pure_ok.mp h
      exact ⟨.inr ⟨hviable, value, rfl⟩, by simp⟩
    | some current =>
      simp only at h
      split at h
      · obtain rfl := pure_ok.mp h
        exact ⟨.inr ⟨hviable, value, rfl⟩, by simp⟩
      · obtain rfl := pure_ok.mp h
        exact ⟨.inl rfl, by simp⟩

lemma foldlM_considerCandidate {remaining totalHistory : Nat}
    {best result : Option (AdaptiveTrialCandidate × F64)}
    (h : candidates.foldlM (considerCandidate score policy s remaining totalHistory) best =
      .ok result) : (∀ c value, result = some (c, value) →
        best = some (c, value) ∨ c ∈ candidates ∧ s.Viable remaining c) ∧
      (result = none → best = none ∧ ∀ c ∈ candidates, ¬s.Viable remaining c) := by
  induction candidates generalizing best with
  | nil =>
    rw [foldlM_nil, pure_ok] at h
    subst h
    refine ⟨fun c value hbest => .inl hbest, ?_⟩
    intro hnone
    exact ⟨hnone, by simp⟩
  | cons c candidates ih =>
    rw [foldlM_cons, bind_ok] at h
    obtain ⟨next, hnext, hrest⟩ := h
    obtain ⟨hkept, hempty⟩ := considerCandidate_spec hnext
    obtain ⟨hsome, hnone⟩ := ih hrest
    constructor
    · intro d value hresult
      rcases hsome d value hresult with hd | ⟨hd, hviable⟩
      · rcases hkept with rfl | ⟨hviable, other, hother⟩
        · exact .inl hd
        · rw [hother, Option.some.injEq, Prod.mk.injEq] at hd
          obtain ⟨rfl, -⟩ := hd
          exact .inr ⟨mem_cons_self, hviable⟩
      · exact .inr ⟨mem_cons_of_mem c hd, hviable⟩
    · intro hresult
      obtain ⟨hnextNone, hothers⟩ := hnone hresult
      obtain ⟨hbest, hc⟩ := hempty hnextNone
      exact ⟨hbest, forall_mem_cons.mpr ⟨hc, hothers⟩⟩

/-- Trials that cover every candidate, each up to its own maximum, within the budget. -/
structure TrialState.Covers (candidates : List AdaptiveTrialCandidate)
    (minimumTrials allocatable : Nat) (s : TrialState) : Prop extends s.Sound candidates where
  least : ∀ c ∈ candidates, minimumTrials ≤ s.count c.candidateId
  most : ∀ c ∈ candidates, s.count c.candidateId ≤ c.maximumAdditionalTrials
  within : s.consumed ≤ allocatable

lemma TrialState.Covers.allocate {next : TrialState} {minimumTrials : Nat}
    {c : AdaptiveTrialCandidate} {reason : TrialAllocationReason}
    (hs : s.Covers candidates minimumTrials allocatable)
    (hdistinct : (candidates.map AdaptiveTrialCandidate.candidateId).Nodup)
    (hc : c ∈ candidates) (hviable : s.Viable (allocatable - s.consumed) c)
    (h : s.allocate c (s.count c.candidateId) reason = .ok next) :
    next.Covers candidates minimumTrials allocatable where
  toSound := hs.toSound.allocate hc h
  least := by
    intro d hd
    have hleast := hs.least d hd
    rw [count_of_allocate h]
    omega
  most := by
    intro d hd
    rw [count_of_allocate h]
    by_cases hid : c.candidateId = d.candidateId
    · have heq : c = d := inj_on_of_nodup_map hdistinct hc hd hid
      subst heq
      have hcount := hviable.1
      rw [if_pos rfl]
      omega
    · rw [if_neg hid, Nat.add_zero]
      exact hs.most d hd
  within := by
    have hwithin := hs.within
    have hcost := hviable.2
    rw [consumed_of_allocate h]
    omega

/-- The greedy phase, for any score. -/
lemma planTrials_spec {trials minimumTrials : Nat} {planned : TrialState}
    (hdistinct : (candidates.map AdaptiveTrialCandidate.candidateId).Nodup)
    (hs : s.Covers candidates minimumTrials allocatable)
    (h : planTrials score policy candidates allocatable trials s = .ok planned) :
    planned.Covers candidates minimumTrials allocatable ∧
      planned.allocations.length ≤ s.allocations.length + trials ∧
      (planned.allocations.length = s.allocations.length + trials ∨
        ∀ c ∈ candidates, ¬planned.Viable (allocatable - planned.consumed) c) := by
  induction trials generalizing s with
  | zero =>
    rw [planTrials, Except.ok.injEq] at h
    subst h
    exact ⟨hs, Nat.le_refl _, .inl rfl⟩
  | succ trials ih =>
    simp only [planTrials, bind_ok, failIf_ok, exists_const] at h
    obtain ⟨-, totalHistory, -, best, hbest, h⟩ := h
    obtain ⟨hsome, hnone⟩ := foldlM_considerCandidate hbest
    cases best with
    | none =>
      obtain rfl := pure_ok.mp h
      exact ⟨hs, Nat.le_add_right _ _, .inr (hnone rfl).2⟩
    | some chosen =>
      obtain ⟨c, value⟩ := chosen
      simp only [bind_ok] at h
      obtain ⟨next, hnext, hrest⟩ := h
      have hchosen : c ∈ candidates ∧ s.Viable (allocatable - s.consumed) c := by
        rcases hsome c value rfl with habsurd | hfound
        · cases habsurd
        · exact hfound
      have hcovers := hs.allocate hdistinct hchosen.1 hchosen.2 hnext
      obtain ⟨hplanned, hlimit, hstop⟩ := ih hcovers hrest
      have hlength := length_of_allocate hnext
      have hshift : next.allocations.length + trials = s.allocations.length + (trials + 1) := by
        omega
      rw [hshift] at hlimit hstop
      exact ⟨hplanned, hlimit, hstop⟩

end

/-! ## What a plan guarantees -/

/-- What is left for trials once the reserve is held out. -/
def AdaptiveBudgetPolicy.allocatable (policy : AdaptiveBudgetPolicy) : Nat :=
  policy.totalBudget.value - policy.holdoutReserve.value

def MandatoryFits (candidates : List AdaptiveTrialCandidate) (policy : AdaptiveBudgetPolicy) :
    Prop :=
  (candidates.map fun c => c.trialCost.value).sum * policy.minimumTrialsPerCandidate ≤
      policy.allocatable ∧
    candidates.length * policy.minimumTrialsPerCandidate ≤ policy.maximumTotalTrials

structure AdaptiveBudgetPlanDraft.Guarantees (d : AdaptiveBudgetPlanDraft)
    (candidates : List AdaptiveTrialCandidate) (policy : AdaptiveBudgetPolicy) : Prop where
  /-- Every candidate receives its minimum, and no more than its maximum. -/
  covered : ∀ c ∈ candidates,
    policy.minimumTrialsPerCandidate ≤ (ordinalsOf d.allocations c.candidateId).length ∧
      (ordinalsOf d.allocations c.candidateId).length ≤ c.maximumAdditionalTrials
  /-- The trials of a candidate are numbered in the order they are handed out. -/
  ordinals : ∀ candidateId, ordinalsOf d.allocations candidateId =
    List.range (ordinalsOf d.allocations candidateId).length
  /-- Every trial is of a candidate, at its cost. -/
  registered : ∀ a ∈ d.allocations,
    ∃ c ∈ candidates, c.candidateId = a.candidateId ∧ c.trialCost = a.cost
  limit : d.allocations.length ≤ policy.maximumTotalTrials
  consumed : (d.allocations.map fun a => a.cost.value).sum = d.consumedBudget
  conserved : d.consumedBudget + d.unspentBudget + d.holdoutReserve.value =
    policy.totalBudget.value
  /-- No further trial would have been possible. -/
  maximal : d.allocations.length = policy.maximumTotalTrials ∨
    ∀ c ∈ candidates, (ordinalsOf d.allocations c.candidateId).length = c.maximumAdditionalTrials ∨
      d.unspentBudget < c.trialCost.value

section

variable {score : TrialScore} {policy : AdaptiveBudgetPolicy}
  {candidates : List AdaptiveTrialCandidate} {byId : BTreeMap VariantId AdaptiveTrialCandidate}
  {totalGateHistory : Nat} {draft : AdaptiveBudgetPlanDraft}

lemma TrialState.Covers.guarantees {planned : TrialState} {digest : AdaptiveBudgetPolicyDigest}
    {candidateSetDigest : Sha256Digest} {disposition : AdaptiveBudgetDisposition}
    (hs : planned.Covers candidates policy.minimumTrialsPerCandidate policy.allocatable)
    (hlimit : planned.allocations.length ≤ policy.maximumTotalTrials)
    (hstop : planned.allocations.length = policy.maximumTotalTrials ∨
      ∀ c ∈ candidates, ¬planned.Viable (policy.allocatable - planned.consumed) c) :
    AdaptiveBudgetPlanDraft.Guarantees ⟨digest, candidateSetDigest, disposition,
      planned.allocations, planned.consumed, policy.holdoutReserve,
      policy.allocatable - planned.consumed⟩ candidates policy := by
  have hlength : ∀ candidateId,
      (ordinalsOf planned.allocations candidateId).length = planned.count candidateId := by
    intro candidateId
    rw [hs.ordinals, length_range]
  refine ⟨?_, ?_, hs.registered, hlimit, hs.consumed, ?_, ?_⟩
  · intro c hc
    show _ ≤ (ordinalsOf planned.allocations c.candidateId).length ∧
      (ordinalsOf planned.allocations c.candidateId).length ≤ _
    rw [hlength]
    exact ⟨hs.least c hc, hs.most c hc⟩
  · intro candidateId
    show ordinalsOf planned.allocations candidateId =
      range (ordinalsOf planned.allocations candidateId).length
    rw [hlength]
    exact hs.ordinals candidateId
  · show planned.consumed + (policy.allocatable - planned.consumed) +
      policy.holdoutReserve.value = policy.totalBudget.value
    have hwithin := hs.within
    have hreserve := policy.reserve_lt
    unfold AdaptiveBudgetPolicy.allocatable at hwithin ⊢
    omega
  · rcases hstop with hfull | hnone
    · exact .inl hfull
    · refine .inr fun c hc => ?_
      show (ordinalsOf planned.allocations c.candidateId).length = _ ∨
        policy.allocatable - planned.consumed < _
      rw [hlength]
      have hmost := hs.most c hc
      have hviable := hnone c hc
      unfold TrialState.Viable at hviable
      omega

/-- The draft for registered candidates: insufficient exactly when the mandatory trials do not
    fit, and otherwise with every guarantee. -/
lemma allocateRegistered_spec [Platform]
    (hkeyed : Keyed AdaptiveTrialCandidate.candidateId candidates byId)
    (hminimum : ∀ c ∈ candidates, policy.minimumTrialsPerCandidate ≤ c.maximumAdditionalTrials)
    (h : allocateRegistered score policy byId totalGateHistory = .ok draft) :
    (draft.disposition = .boundedUnknownInsufficientMandatoryCoverage ∧
        ¬MandatoryFits candidates policy) ∨
      draft.disposition = .planned ∧ MandatoryFits candidates policy ∧
        draft.Guarantees (values byId) policy := by
  simp only [allocateRegistered, bind_ok, checkedAdd_ok, checkedMul_ok, failIf_ok,
    exists_const, ite_ok, pure_ok] at h
  obtain ⟨_, -, _, -, _, -, -, -, mandatoryCost, hcost, h⟩ := h
  have hcost := foldlM_addMandatoryCost hcost
  have hsum : ((values byId).map fun c => c.trialCost.value).sum =
      (candidates.map fun c => c.trialCost.value).sum := (hkeyed.values_perm.map _).sum_eq
  rw [hsum, Nat.zero_add] at hcost
  rw [hkeyed.size_eq] at h
  rcases h with ⟨hinsufficient, rfl⟩ | ⟨hfits, covered, hcovered, planned, hplanned, hwithin, rfl⟩
  · refine .inl ⟨rfl, ?_⟩
    intro hfits
    -- the product of the counts is over the limit when it is over the width of the counter
    have hwidth : maxObservations < u64Width := by decide
    have hmaximum := policy.maximum_le
    unfold MandatoryFits AdaptiveBudgetPolicy.allocatable at hfits
    rw [hcost] at hinsufficient
    omega
  · have hfits' : MandatoryFits candidates policy := by
      unfold MandatoryFits AdaptiveBudgetPolicy.allocatable
      rw [hcost] at hfits
      omega
    refine .inr ⟨rfl, hfits', ?_⟩
    have hdistinct := hkeyed.distinct_values
    obtain ⟨hsound, hcount, hlength, hconsumed⟩ := mandatory_spec hdistinct hcovered
    have hcovers : covered.Covers (values byId) policy.minimumTrialsPerCandidate
        policy.allocatable := by
      refine ⟨hsound, ?_, ?_, ?_⟩
      · intro c hc
        rw [hcount c hc]
      · intro c hc
        rw [hcount c hc]
        exact hminimum c (hkeyed.mem_values.mp hc)
      · rw [hconsumed, hsum]
        exact hfits'.1
    obtain ⟨hplanned, hlimit, hstop⟩ := planTrials_spec hdistinct hcovers hplanned
    have hbase : covered.allocations.length ≤ policy.maximumTotalTrials := by
      rw [hlength, hkeyed.values_perm.length_eq]
      exact hfits'.2
    rw [Nat.add_sub_cancel' hbase] at hlimit hstop
    exact hplanned.guarantees hlimit hstop

lemma AdaptiveBudgetPlanDraft.Guarantees.perm {others : List AdaptiveTrialCandidate}
    (h : draft.Guarantees others policy) (hperm : others.Perm candidates) :
    draft.Guarantees candidates policy where
  covered := by
    intro c hc
    exact h.covered c (hperm.mem_iff.mpr hc)
  ordinals := h.ordinals
  registered := by
    intro a ha
    obtain ⟨c, hc, hid, hcost⟩ := h.registered a ha
    exact ⟨c, hperm.mem_iff.mp hc, hid, hcost⟩
  limit := h.limit
  consumed := h.consumed
  conserved := h.conserved
  maximal := by
    rcases h.maximal with hfull | hnone
    · exact .inl hfull
    · exact .inr fun c hc => hnone c (hperm.mem_iff.mpr hc)

variable [Platform]

lemma allocateWith_ok {plan : AdaptiveBudgetPlan} :
    allocateWith score candidates policy = .ok plan ↔
      candidates ≠ [] ∧ candidates.length ≤ maxTrialCandidates ∧ ∃ byId totalGateHistory draft,
          candidates.foldlM (registerCandidate policy.minimumTrialsPerCandidate) (∅, 0) =
            .ok (byId, totalGateHistory) ∧
          allocateRegistered score policy byId totalGateHistory = .ok draft ∧
          AdaptiveBudgetPlan.seal draft = plan := by
  simp only [allocateWith, bind_ok, failIf_ok, exists_const, pure_ok, not_or, not_lt,
    List.isEmpty_iff, Prod.exists, and_assoc]
  constructor
  · intro h
    obtain ⟨hne, hlength, byId, total, hfold, draft, hdraft, hseal⟩ := h
    exact ⟨hne, hlength, byId, total, draft, hfold, hdraft, hseal⟩
  · intro h
    obtain ⟨hne, hlength, byId, total, draft, hfold, hdraft, hseal⟩ := h
    exact ⟨hne, hlength, byId, total, hfold, draft, hdraft, hseal⟩

/-- **An adaptive plan, over any score, covers its candidates, keeps the budget and cannot be
    extended.  It is insufficient exactly when the mandatory trials do not fit, and the
    candidates may come in any order.** -/
theorem adaptive_budget_correct {plan : AdaptiveBudgetPlan}
    (h : allocateWith score candidates policy = .ok plan) : (plan.disposition = .planned →
        plan.toAdaptiveBudgetPlanDraft.Guarantees candidates policy) ∧
      (plan.disposition = .boundedUnknownInsufficientMandatoryCoverage ↔
        ¬MandatoryFits candidates policy) ∧
      ∀ others : List AdaptiveTrialCandidate, others.Perm candidates →
        allocateWith score others policy = .ok plan := by
  obtain ⟨hne, hcount, byId, total, draft, hfold, hdraft, rfl⟩ := allocateWith_ok.mp h
  obtain ⟨hregistrable, hkeyed, htotal⟩ := registerCandidates_ok.mp hfold
  have hspec := allocateRegistered_spec hkeyed hregistrable.minimum hdraft
  refine ⟨?_, ?_, ?_⟩
  · intro hplanned
    have hplanned' : draft.disposition = .planned := hplanned
    rcases hspec with ⟨hdisposition, -⟩ | ⟨-, -, hguarantees⟩
    · rw [hdisposition] at hplanned'
      cases hplanned'
    · exact hguarantees.perm hkeyed.values_perm
  · show draft.disposition = _ ↔ _
    rcases hspec with ⟨hdisposition, hfits⟩ | ⟨hdisposition, hfits, -⟩
    · rw [hdisposition]
      exact ⟨fun _ => hfits, fun _ => rfl⟩
    · rw [hdisposition]
      constructor
      · intro habsurd
        cases habsurd
      · intro hnot
        exact absurd hfits hnot
  · intro others hperm
    have hlength := hperm.length_eq
    have hne' : others ≠ [] := by
      intro hnil
      subst hnil
      exact hne hperm.symm.eq_nil
    rw [allocateWith_ok, hlength]
    refine ⟨hne', hcount, byId, total, draft, ?_, hdraft, rfl⟩
    rw [registerCandidates_ok]
    refine ⟨hregistrable.perm hperm, hkeyed.perm hperm, ?_⟩
    rw [htotal, (hperm.map _).sum_eq]

end

/-! ## Two candidates and five trials -/

namespace BudgetSample

def units (n : Nat) (h : 0 < n ∧ n < u64Width) : ComputeUnits :=
  ⟨n, h.1, h.2⟩

def policy : AdaptiveBudgetPolicy where
  priorityMetricId := ⟨"precision", by decide⟩
  totalBudget := units 10 (by decide)
  holdoutReserve := units 2 (by decide)
  minimumTrialsPerCandidate := 1
  maximumTotalTrials := 5
  explorationStrength := ⟨F64.ofNat 7, by decide +kernel⟩
  costPenalty := ⟨F64.ofNat 8, by decide +kernel⟩
  policyDigest := ⟨zero⟩
  reserve_lt := by decide
  minimum_pos := Nat.one_pos
  maximum_pos := Nat.succ_pos 4
  maximum_le := by decide

def cheap : VariantId := ⟨"cheap", by decide⟩
def dear : VariantId := ⟨"dear", by decide⟩

def candidates : List AdaptiveTrialCandidate :=
  [⟨cheap, [], units 1 (by decide), 4⟩, ⟨dear, [], units 3 (by decide), 4⟩]

def costScore : TrialScore :=
  fun _ _ _ cost _ => .ok (F64.ofNat cost.value)

attribute [local instance] Platform.reference in
/-- Eight units pay for two trials of each, and the candidates may come in the other order. -/
theorem two_trials_each : ∃ plan, allocateWith costScore candidates policy = .ok plan ∧
    ordinalsOf plan.allocations dear = [0, 1] ∧ plan.unspentBudget = 0 ∧
      plan.toAdaptiveBudgetPlanDraft.Guarantees candidates policy ∧
      allocateWith costScore candidates.reverse policy = .ok plan := by
  have hreturns : returns (allocateWith costScore candidates policy)
      (fun plan => plan.disposition = .planned ∧ ordinalsOf plan.allocations dear = [0, 1] ∧
        plan.unspentBudget = 0) = true := by decide +kernel
  obtain ⟨plan, hplan, htest⟩ := returns_iff.mp hreturns
  obtain ⟨hplanned, hordinals, hunspent⟩ := of_decide_eq_true htest
  have hcorrect := adaptive_budget_correct hplan
  exact ⟨plan, hplan, hordinals, hunspent, hcorrect.1 hplanned,
    hcorrect.2.2 _ (reverse_perm _)⟩

end BudgetSample

end Tidex.Governance
