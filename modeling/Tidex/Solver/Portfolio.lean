/-
  Solver.Portfolio — the portfolio over a list of external proposals.
-/
import Mathlib.Data.Prod.Lex
import Mathlib.Data.String.Basic
import Tidex.Lib.FirstLeast
import Tidex.Lib.StableSort
import Tidex.Solver.Evaluation

namespace Tidex.Solver

open Tidex.Lib List Option ByteArray Sha256Digest Json

/-! ## Proposals -/

def maxBackendReasonBytes : Nat := 4096

inductive ExternalProposalPayload where
  | candidate (candidate : CandidateRepresentation)
  | notApplicable (reason : String)
  | boundedUnknown (reason : String)
  deriving DecidableEq

/-- Inert data of an external runner, under a name that it declares. -/
structure ExternalCandidateProposal where
  descriptor : BackendDescriptor
  payload : ExternalProposalPayload
  role_eq : descriptor.role = .externalProposal

structure BuiltinVerdict [SolverKernels] (problem : LeastSquaresProblem)
    (role : NumericalBackendRole) where
  evaluation : CandidateEvaluation
  role_eq : evaluation.backend.role = role
  measured : ∀ candidate, evaluation.candidate = some candidate →
    ∃ metrics, evaluation.metrics = some metrics ∧
      SolverKernels.measureCandidate candidate problem = .ok metrics
  accepted : evaluation.status = .accepted → evaluation.candidate ≠ none

/-- What the direct decomposition gives, where it converges. -/
structure DirectSolution [SolverKernels] (problem : LeastSquaresProblem) where
  diagnostics : Json
  choleskyGate : CholeskyGate
  cholesky : BuiltinVerdict problem .builtInCholeskyRidge
  direct : BuiltinVerdict problem .builtInDirectJacobiSvd

/-- The numerical parts of the portfolio, as functions of the problem and the policy. -/
class PortfolioKernels extends SolverKernels where
  validate : LeastSquaresProblem → PortfolioPolicy → BrainResult Unit
  problemLimit : LeastSquaresProblem → PortfolioPolicy → Option EvaluationReason
  directSolverWorkUpperBound : LeastSquaresProblem → PortfolioPolicy → Option Nat
  singleCandidateEvaluationWorkUpperBound : LeastSquaresProblem → Option Nat
  directSolution : (problem : LeastSquaresProblem) → PortfolioPolicy →
    BrainResult (Option (DirectSolution problem))
  problemDigest : LeastSquaresProblem → Sha256Digest
  policyDigest : PortfolioPolicy → Sha256Digest

def isWhitespace (c : Char) : Bool :=
  let code := c.toNat
  (9 ≤ code && code ≤ 13) || code == 0x20 || code == 0x85 || code == 0xa0 || code == 0x1680
    || (0x2000 ≤ code && code ≤ 0x200a) || code == 0x2028 || code == 0x2029 || code == 0x202f
    || code == 0x205f || code == 0x3000

def isControl (c : Char) : Bool := c.toNat ≤ 0x1f || (0x7f ≤ c.toNat && c.toNat ≤ 0x9f)

def externalMessageEvaluation (backend : BackendDescriptor) (message : String)
    (boundedUnknown : Bool) (reason : String → EvaluationReason) : CandidateEvaluation :=
  let valid := !message.toList.all isWhitespace
    && decide (message.utf8ByteSize ≤ maxBackendReasonBytes) && !message.toList.any isControl
  ⟨backend, if valid && boundedUnknown then .boundedUnknown else .rejected,
    if valid then reason message else .invalidCandidate "solver_backend_message_invalid",
    none, none, none⟩

section

variable [PortfolioKernels]

def runExternal (problem : LeastSquaresProblem) (policy : PortfolioPolicy)
    (proposal : ExternalCandidateProposal) : CandidateEvaluation :=
  match proposal.payload with
  | .candidate candidate =>
    if (PortfolioKernels.singleCandidateEvaluationWorkUpperBound problem).all fun work =>
        decide (policy.limits.maxNumericalWorkUnits < work) then
      ⟨proposal.descriptor, .boundedUnknown,
        .resourceLimit "solver_max_candidate_evaluation_work_units", candidate.rank, none, none⟩
    else evaluateCandidate proposal.descriptor candidate.rank candidate problem policy
  | .notApplicable reason =>
    externalMessageEvaluation proposal.descriptor reason false .backendNotApplicable
  | .boundedUnknown reason =>
    externalMessageEvaluation proposal.descriptor reason true .backendBoundedUnknown

/-- The parameters of a proposal, where they fit a word. -/
def ExternalCandidateProposal.parameterCount (proposal : ExternalCandidateProposal) : Option Nat :=
  match proposal.payload with
  | .candidate candidate => candidate.storedParameterCount
  | .notApplicable _ => some 0
  | .boundedUnknown _ => some 0

def externalProposalLimit (proposals : List ExternalCandidateProposal) (policy : PortfolioPolicy) :
    Option EvaluationReason :=
  if policy.limits.maxExternalProposals < proposals.length then
    some (.resourceLimit "solver_external_proposal_budget")
  else
    let totalParameters := proposals.foldlM (fun total proposal => do
      let count ← proposal.parameterCount
      wordSum total count) 0
    if totalParameters.any fun total => decide (total ≤ policy.limits.maxCandidateParameters) then
      none
    else some (.resourceLimit "solver_max_total_external_parameters")

end

/-! ## Selection -/

def NumericalBackendRole.cost : NumericalBackendRole → Nat
  | .builtInCholeskyRidge => 0
  | .builtInDirectJacobiSvd => 1
  | .externalProposal => 2

/-- The keys of an accepted evaluation: its size, its cost, its residual, its norm, its digest. -/
abbrev SelectionKey : Type := Nat ×ₗ Nat ×ₗ Int ×ₗ Int ×ₗ String

section

variable [Platform]

def acceptedKey (evaluation : CandidateEvaluation) : BrainResult (Option SelectionKey) := do
  if evaluation.status ≠ .accepted then return none
  let metrics ← okOr evaluation.metrics (integrity "solver_accepted_metrics_missing")
  let candidate ← okOr evaluation.candidate (integrity "solver_accepted_candidate_missing")
  let digest ← candidate.exactDigest
  return some (toLex (metrics.storedParameterCount, toLex (evaluation.backend.role.cost,
    toLex (metrics.absoluteResidual.totalKey, toLex (metrics.frobeniusNorm.totalKey,
      digest.raw.hex)))))

def chooseAccepted (evaluations : List CandidateEvaluation) :
    BrainResult (Option (CandidateEvaluation × Nat)) := do
  let keyed ← evaluations.mapM fun evaluation => do
    let key ← acceptedKey evaluation
    return (evaluation, key)
  return (firstLeast Prod.snd keyed).map fun found => (found.1.1, found.2)

def observedRejection (evaluation : CandidateEvaluation) : Bool :=
  decide (evaluation.status = .rejected) && evaluation.candidate.isSome && evaluation.metrics.isSome

def rejectionKey (evaluation : CandidateEvaluation) : BrainResult (Option String) := do
  if ¬observedRejection evaluation then return none
  let candidate ← okOr evaluation.candidate
    (integrity "solver_observed_rejection_candidate_missing")
  let digest ← candidate.exactDigest
  return some digest.raw.hex

def directRejection (evaluation : CandidateEvaluation) : Bool :=
  observedRejection evaluation && decide (evaluation.backend.role = .builtInDirectJacobiSvd)

/-- The rejection that stands for all, with its place: that of the direct decomposition, or the
    first of the least digest. -/
def canonicalObservedRejection (evaluations : List CandidateEvaluation) :
    BrainResult (Option (CandidateEvaluation × Nat)) := do
  match evaluations.zipIdx.find? fun entry => directRejection entry.1 with
  | some direct => return some direct
  | none =>
    let keyed ← evaluations.mapM fun evaluation => do
      let key ← rejectionKey evaluation
      return (evaluation, key)
    return (firstLeast Prod.snd keyed).map fun found => (found.1.1, found.2)

def aggregateRejectionReason (evaluations : List CandidateEvaluation) :
    BrainResult EvaluationReason :=
  let direct := evaluations.find? fun evaluation =>
    decide (evaluation.status = .rejected)
      && decide (evaluation.backend.role = .builtInDirectJacobiSvd)
  let any := evaluations.find? fun evaluation => decide (evaluation.status = .rejected)
  okOr ((direct.or any).map CandidateEvaluation.reason)
    (integrity "solver_rejected_without_rejection_reason")

/-! ## Reports -/

def candidateEvaluationDomain : String := "TIDEX:CANDIDATE-EVALUATION:v1\x00"
def portfolioReportDomain : String := "TIDEX:SOLVER-PORTFOLIO-REPORT:v1\x00"

def SolverStatus.wire : SolverStatus → String
  | .accepted => "accepted"
  | .rejected => "rejected"
  | .boundedUnknown => "bounded_unknown"

def CholeskyGate.wire : CholeskyGate → String
  | .authorized => "authorized"
  | .degenerate => "degenerate"
  | .rankDeficient => "rank_deficient"
  | .conditionExceedsPolicy => "condition_exceeds_policy"
  | .caseCountInsufficient => "case_count_insufficient"
  | .caseLimitExceeded => "case_limit_exceeded"
  | .float32ConversionUnsafe => "float32_conversion_unsafe"

def NumericalBackendRole.wire : NumericalBackendRole → String
  | .builtInCholeskyRidge => "built_in_cholesky_ridge"
  | .builtInDirectJacobiSvd => "built_in_direct_jacobi_svd"
  | .externalProposal => "external_proposal"

def kindJson (kind : String) (detail : Option String) : Json :=
  .obj (("kind", str kind) :: (detail.map fun text => ("detail", str text)).toList)

def EvaluationReason.json : EvaluationReason → Json
  | .residualWithinTolerance => kindJson "residual_within_tolerance" none
  | .residualExceedsTolerance => kindJson "residual_exceeds_tolerance" none
  | .choleskyNotAuthorized gate => kindJson "cholesky_not_authorized" (some gate.wire)
  | .rankBudgetInsufficient => kindJson "rank_budget_insufficient" none
  | .resourceLimit code => kindJson "resource_limit" (some code)
  | .backendNotApplicable reason => kindJson "backend_not_applicable" (some reason)
  | .backendBoundedUnknown reason => kindJson "backend_bounded_unknown" (some reason)
  | .backendFailure error => kindJson "backend_failure" (some error)
  | .invalidCandidate error => kindJson "invalid_candidate" (some error)
  | .directSvdDidNotConverge => kindJson "direct_svd_did_not_converge" none
  | .residualToleranceUnrepresentable => kindJson "residual_tolerance_unrepresentable" none

def CandidateMetrics.json (metrics : CandidateMetrics) : Json :=
  .obj [("absolute_residual_bits", toJson metrics.absoluteResidual.bits),
    ("root_mean_square_residual_bits", toJson metrics.rootMeanSquareResidual.bits),
    ("maximum_absolute_residual_bits", toJson metrics.maximumAbsoluteResidual.bits),
    ("relative_residual_bits", toJson (metrics.relativeResidual.map F64.bits)),
    ("target_norm_bits", toJson metrics.targetNorm.bits),
    ("frobenius_norm_bits", toJson metrics.frobeniusNorm.bits),
    ("stored_parameter_count", toJson metrics.storedParameterCount)]

def evaluationDigest (evaluation : CandidateEvaluation) : BrainResult Sha256Digest := do
  let candidateDigest ← evaluation.candidate.mapM CandidateRepresentation.exactDigest
  return digestDomain candidateEvaluationDomain (toBytes (.obj
    [("backend_role", .str evaluation.backend.role.wire),
      ("status", .str evaluation.status.wire), ("reason", evaluation.reason.json),
      ("constructed_rank", toJson evaluation.constructedRank),
      ("candidate_digest", toJson (candidateDigest.map ExactSolverCandidateDigest.raw)),
      ("metrics", (evaluation.metrics.map CandidateMetrics.json).getD .null)]))

/-- What a report says before it is sealed. -/
structure SolverPortfolioReportDraft where
  status : SolverStatus
  reason : EvaluationReason
  diagnostics : Option Json
  choleskyGate : Option CholeskyGate
  evaluations : List CandidateEvaluation
  selectedEvaluation : Option Nat
  externalProposalsSupplied : Nat
  externalProposalsConsidered : Nat

structure SolverPortfolioReport extends SolverPortfolioReportDraft where
  problemDigest : Sha256Digest
  policyDigest : Sha256Digest
  reportDigest : Sha256Digest

namespace SolverPortfolioReport

def selected (report : SolverPortfolioReport) : Option CandidateEvaluation :=
  report.selectedEvaluation.bind fun index => report.evaluations[index]?

end SolverPortfolioReport

/-- The digests of the evaluations, in their order. -/
def canonicalDigests (digests : List Sha256Digest) : List Sha256Digest :=
  digests.mergeSort fun left right => (compare left right).isLE

def projectionJson (problemDigest policyDigest : Sha256Digest) (draft : SolverPortfolioReportDraft)
    (digests : List Sha256Digest) (selected : Option Sha256Digest) : Json :=
  .obj [("problem_digest", toJson problemDigest), ("policy_digest", toJson policyDigest),
    ("status", .str draft.status.wire), ("reason", draft.reason.json),
    ("diagnostics", draft.diagnostics.getD .null),
    ("cholesky_gate", (draft.choleskyGate.map fun gate => str gate.wire).getD .null),
    ("evaluation_digests", toJson digests), ("selected_evaluation_digest", toJson selected),
    ("external_proposals_supplied", toJson draft.externalProposalsSupplied),
    ("external_proposals_considered", toJson draft.externalProposalsConsidered)]

def portfolioProjection (problemDigest policyDigest : Sha256Digest)
    (draft : SolverPortfolioReportDraft) : BrainResult Json := do
  let digests ← draft.evaluations.mapM evaluationDigest
  let selected ← draft.selectedEvaluation.mapM fun index =>
    okOr digests[index]? (integrity "solver_selected_evaluation_out_of_bounds")
  return projectionJson problemDigest policyDigest draft (canonicalDigests digests) selected

section

variable [PortfolioKernels]

def sealPortfolioReport (problem : LeastSquaresProblem) (policy : PortfolioPolicy)
    (draft : SolverPortfolioReportDraft) : BrainResult SolverPortfolioReport := do
  failIf (draft.selectedEvaluation.any fun index => decide (draft.evaluations.length ≤ index))
    (integrity "solver_selected_evaluation_out_of_bounds")
  let problemDigest := PortfolioKernels.problemDigest problem
  let policyDigest := PortfolioKernels.policyDigest policy
  let projection ← portfolioProjection problemDigest policyDigest draft
  return ⟨draft, problemDigest, policyDigest,
    digestDomain portfolioReportDomain projection.toBytes⟩

def sealLimit (problem : LeastSquaresProblem) (policy : PortfolioPolicy)
    (proposals : List ExternalCandidateProposal) (limit : EvaluationReason) :
    BrainResult SolverPortfolioReport :=
  sealPortfolioReport problem policy
    ⟨.boundedUnknown, limit, none, none, [], none, proposals.length, 0⟩

/-- The status and the reason of a report. -/
def portfolioVerdict (selected : Option (CandidateEvaluation × Nat)) (truncated : Prop)
    [Decidable truncated] (evaluations : List CandidateEvaluation)
    (otherwise : List CandidateEvaluation → BrainResult (SolverStatus × EvaluationReason)) :
    BrainResult (SolverStatus × EvaluationReason) :=
  match selected with
  | some selected => .ok (.accepted, selected.1.reason)
  | none =>
    if truncated then .ok (.boundedUnknown, .resourceLimit "solver_external_proposal_budget")
    else
      match evaluations.find? fun evaluation => decide (evaluation.status = .boundedUnknown) with
      | some unknown => .ok (.boundedUnknown, unknown.reason)
      | none => otherwise evaluations

/-- Evaluate the proposals after the built-in verdicts, select, and seal. -/
def concludePortfolio (problem : LeastSquaresProblem) (policy : PortfolioPolicy)
    (proposals : List ExternalCandidateProposal) (builtins : List CandidateEvaluation)
    (diagnostics : Option Json) (choleskyGate : Option CholeskyGate)
    (otherwise : List CandidateEvaluation → BrainResult (SolverStatus × EvaluationReason)) :
    BrainResult SolverPortfolioReport := do
  let considered := min proposals.length policy.limits.maxExternalProposals
  let evaluations := builtins ++ (proposals.take considered).map (runExternal problem policy)
  let selectedEvaluation ← chooseAccepted evaluations
  let (status, reason) ← portfolioVerdict selectedEvaluation (considered < proposals.length)
    evaluations otherwise
  sealPortfolioReport problem policy
    ⟨status, reason, diagnostics, choleskyGate, evaluations, selectedEvaluation.map Prod.snd,
      proposals.length, considered⟩

/-- The verdict of a direct decomposition that is not there. -/
def unavailableEvaluation (reason : EvaluationReason) : CandidateEvaluation :=
  ⟨⟨.builtInDirectJacobiSvd, "tidex.bounded_direct_jacobi_svd.v1"⟩, .boundedUnknown, reason, none,
    none, none⟩

def sealWithUnavailableDirectSolver (problem : LeastSquaresProblem) (policy : PortfolioPolicy)
    (proposals : List ExternalCandidateProposal) (unavailableReason : EvaluationReason) :
    BrainResult SolverPortfolioReport :=
  concludePortfolio problem policy proposals [unavailableEvaluation unavailableReason] none none
    fun _ => .error (integrity "solver_unavailable_path_without_unknown")

/-- The verdicts, and the reason of the rejection of all. -/
def concludeSolution (problem : LeastSquaresProblem) (policy : PortfolioPolicy)
    (proposals : List ExternalCandidateProposal) (solution : DirectSolution problem) :
    BrainResult SolverPortfolioReport :=
  concludePortfolio problem policy proposals
    [solution.cholesky.evaluation, solution.direct.evaluation] (some solution.diagnostics)
    (some solution.choleskyGate) fun evaluations => do
      let reason ← aggregateRejectionReason evaluations
      return (.rejected, reason)

def solveWithPortfolio (problem : LeastSquaresProblem) (policy : PortfolioPolicy)
    (proposals : List ExternalCandidateProposal) : BrainResult SolverPortfolioReport := do
  PortfolioKernels.validate problem policy
  match PortfolioKernels.problemLimit problem policy with
  | some limit => sealLimit problem policy proposals limit
  | none =>
    match externalProposalLimit proposals policy with
    | some limit => sealLimit problem policy proposals limit
    | none =>
      if (PortfolioKernels.directSolverWorkUpperBound problem policy).all fun work =>
          decide (policy.limits.maxNumericalWorkUnits < work) then
        sealWithUnavailableDirectSolver problem policy proposals
          (.resourceLimit "solver_max_svd_work_units")
      else
        match ← PortfolioKernels.directSolution problem policy with
        | none =>
          sealWithUnavailableDirectSolver problem policy proposals .directSvdDidNotConverge
        | some solution => concludeSolution problem policy proposals solution

end

/-! ## What a caller sees -/

def receiptFrame (reportDigest : Sha256Digest) (evaluationIndex : Nat) : ByteArray :=
  reportDigest.hex.toByteArray ++ Lib.be64 evaluationIndex

def rejectionReceipt (reportDigest : Sha256Digest) (evaluationIndex : Nat) : Sha256Digest :=
  digestBytes (receiptFrame reportDigest evaluationIndex)

/-- What a report shows: no name that a proposal declares is in the selected representation. -/
structure PortfolioView where
  status : SolverStatus
  reason : EvaluationReason
  selected : Option CandidateRepresentation
  rejection : Option (CandidateEvaluation × Sha256Digest)
  reportDigest : Sha256Digest

def SolverPortfolioReport.view (report : SolverPortfolioReport) : BrainResult PortfolioView := do
  let rejection ← canonicalObservedRejection report.evaluations
  return ⟨report.status, report.reason, report.selected.bind CandidateEvaluation.candidate,
    rejection.map fun found => (found.1, rejectionReceipt report.reportDigest found.2),
    report.reportDigest⟩

end

/-! ## Values and keys -/

def valueOf {β : Type} [Inhabited β] (result : BrainResult β) : β := result.toOption.getD default

lemma mapM_keyed {α β : Type} [Inhabited β] {f : α → BrainResult β} {xs : List α}
    (h : ∀ x ∈ xs, ∃ y, f x = .ok y) : xs.mapM (fun x => f x >>= fun y => pure (x, y)) =
      (.ok (xs.map fun x => (x, valueOf (f x))) : BrainResult (List (α × β))) := by
  induction xs with
  | nil => rfl
  | cons x xs ih =>
    obtain ⟨y, hy⟩ := h x mem_cons_self
    rw [mapM_cons, ih fun z hz => h z (mem_cons_of_mem _ hz), map_cons, hy]
    rfl

lemma firstLeast_keyed {α K : Type} [LinearOrder K] (key : α → Option K) (xs : List α) :
    (firstLeast Prod.snd (xs.map fun x => (x, key x))).map
      (fun found => (found.1.1, found.2)) = firstLeast key xs := by
  induction xs with
  | nil => rfl
  | cons x xs ih =>
    rw [map_cons]
    unfold firstLeast
    rw [← ih]
    cases hkey : key x with
    | none =>
      simp only [Option.map_map]
      cases firstLeast Prod.snd (xs.map fun x => (x, key x)) with
      | none => rfl
      | some found => rfl
    | some k =>
      cases hfound : firstLeast Prod.snd (xs.map fun x => (x, key x)) with
      | none => rfl
      | some found =>
        obtain ⟨⟨y, ky⟩, i⟩ := found
        -- the key of what is found is the one that was computed
        obtain ⟨_, hspec⟩ := firstLeast_spec hfound
        obtain ⟨z, hz, hpair⟩ := mem_map.mp (mem_of_getElem? hspec.getElem)
        rw [Prod.mk.injEq] at hpair
        have hky : ky = key y := by
          rw [← hpair.2, hpair.1]
        simp only [Option.map_some, hky]
        by_cases hless : ((key y).any fun other => decide (other < k)) = true
        · rw [if_pos hless, if_pos hless]
          rfl
        · rw [if_neg hless, if_neg hless]
          rfl

/-! ## What every evaluation has -/

section

variable [Platform] [PortfolioKernels]

/-- What an evaluation says of a candidate was measured. -/
structure WellMeasured (problem : LeastSquaresProblem) (evaluation : CandidateEvaluation) :
    Prop where
  measured : ∀ candidate, evaluation.candidate = some candidate →
    ∃ metrics, evaluation.metrics = some metrics ∧
      SolverKernels.measureCandidate candidate problem = .ok metrics
  accepted : evaluation.status = .accepted → evaluation.candidate ≠ none

def MeasuredHasDigest (problem : LeastSquaresProblem) : Prop :=
  ∀ candidate metrics, SolverKernels.measureCandidate candidate problem = .ok metrics →
    ∃ digest, candidate.exactDigest = .ok digest

variable {problem : LeastSquaresProblem} {policy : PortfolioPolicy}

section

omit [Platform]

lemma wellMeasured_of_none {evaluation : CandidateEvaluation}
    (hnone : evaluation.candidate = none)
    (hstatus : evaluation.status ≠ .accepted) : WellMeasured problem evaluation := by
  refine ⟨?_, ?_⟩
  · intro c hc
    rw [hnone] at hc
    cases hc
  · intro haccepted
    exact absurd haccepted hstatus

lemma wellMeasured_evaluateCandidate (backend : BackendDescriptor) (rank : Option Nat)
    (candidate : CandidateRepresentation) :
    WellMeasured problem (evaluateCandidate backend rank candidate problem policy) := by
  obtain ⟨-, -, hcases⟩ := evaluateCandidate_cases backend rank candidate problem policy
  rcases hcases with ⟨_, hstatus, -, hnone, -⟩ | ⟨hstatus, -, hnone, -⟩ |
    ⟨metrics, hmeasure, hsome, hmetrics, -⟩
  · exact wellMeasured_of_none hnone (by rw [hstatus]; simp)
  · exact wellMeasured_of_none hnone (by rw [hstatus]; simp)
  · refine ⟨?_, ?_⟩
    · intro c hc
      rw [hsome, some.injEq] at hc
      rw [← hc]
      exact ⟨metrics, hmetrics, hmeasure⟩
    · intro _ hnone
      rw [hsome] at hnone
      cases hnone

end

omit [Platform] [PortfolioKernels] in
lemma externalMessageEvaluation_status (backend : BackendDescriptor) (message : String)
    (boundedUnknown : Bool) (reason : String → EvaluationReason) :
    (externalMessageEvaluation backend message boundedUnknown reason).status ≠ .accepted := by
  unfold externalMessageEvaluation
  simp only []
  split
  · intro h
    cases h
  · intro h
    cases h

section

omit [Platform]

lemma wellMeasured_runExternal (proposal : ExternalCandidateProposal) :
    WellMeasured problem (runExternal problem policy proposal) := by
  unfold runExternal
  cases hpayload : proposal.payload with
  | candidate candidate =>
    simp only []
    split
    · exact wellMeasured_of_none rfl (fun h => by cases h)
    · exact wellMeasured_evaluateCandidate _ _ _
  | notApplicable reason | boundedUnknown reason =>
    exact wellMeasured_of_none rfl (externalMessageEvaluation_status _ _ _ _)

lemma runExternal_role (proposal : ExternalCandidateProposal) :
    (runExternal problem policy proposal).backend.role = .externalProposal := by
  unfold runExternal
  cases hpayload : proposal.payload with
  | candidate candidate =>
    simp only []
    split
    · exact proposal.role_eq
    · have hbackend := (evaluateCandidate_cases proposal.descriptor candidate.rank candidate problem
        policy).1
      rw [hbackend]
      exact proposal.role_eq
  | notApplicable reason => exact proposal.role_eq
  | boundedUnknown reason => exact proposal.role_eq

end

/-- Two evaluations that differ at most in the names that the backends declare. -/
structure Alike (a b : CandidateEvaluation) : Prop where
  role : a.backend.role = b.backend.role
  status : a.status = b.status
  reason : a.reason = b.reason
  rank : a.constructedRank = b.constructedRank
  candidate : a.candidate = b.candidate
  metrics : a.metrics = b.metrics

omit [Platform] [PortfolioKernels] in
lemma Alike.refl (a : CandidateEvaluation) : Alike a a := ⟨rfl, rfl, rfl, rfl, rfl, rfl⟩

omit [PortfolioKernels] in
lemma Alike.digest {a b : CandidateEvaluation} (h : Alike a b) :
    evaluationDigest a = evaluationDigest b := by
  unfold evaluationDigest
  rw [h.role, h.status, h.reason, h.rank, h.candidate, h.metrics]

section

omit [Platform]

lemma alike_evaluateCandidate (backend other : BackendDescriptor)
    (hrole : backend.role = other.role) (rank : Option Nat) (candidate : CandidateRepresentation) :
    Alike (evaluateCandidate backend rank candidate problem policy)
      (evaluateCandidate other rank candidate problem policy) := by
  unfold evaluateCandidate
  cases candidate.storedParameterCount with
  | none => exact ⟨hrole, rfl, rfl, rfl, rfl, rfl⟩
  | some count =>
    simp only []
    split
    · exact ⟨hrole, rfl, rfl, rfl, rfl, rfl⟩
    · cases SolverKernels.measureCandidate candidate problem with
      | error error => exact ⟨hrole, rfl, rfl, rfl, rfl, rfl⟩
      | ok metrics =>
        simp only []
        split
        · exact ⟨hrole, rfl, rfl, rfl, rfl, rfl⟩
        · split
          · exact ⟨hrole, rfl, rfl, rfl, rfl, rfl⟩
          · exact ⟨hrole, rfl, rfl, rfl, rfl, rfl⟩

lemma payload_of_candidate {proposal : ExternalCandidateProposal}
    {candidate : CandidateRepresentation}
    (h : (runExternal problem policy proposal).candidate = some candidate) :
    proposal.payload = .candidate candidate ∧ runExternal problem policy proposal =
      evaluateCandidate proposal.descriptor candidate.rank candidate problem policy := by
  unfold runExternal at h ⊢
  cases hpayload : proposal.payload with
  | candidate c =>
    rw [hpayload] at h
    simp only [] at h ⊢
    split at h
    · cases h
    · rename_i hwork
      rw [if_neg hwork]
      obtain ⟨-, -, hcases⟩ := evaluateCandidate_cases proposal.descriptor c.rank c problem policy
      rcases hcases with ⟨_, -, -, hnone, -⟩ | ⟨-, -, hnone, -⟩ | ⟨_, -, hsome, -, -⟩
      · rw [hnone] at h
        cases h
      · rw [hnone] at h
        cases h
      · rw [hsome, some.injEq] at h
        rw [← h]
        exact ⟨rfl, rfl⟩
  | notApplicable reason =>
    rw [hpayload] at h
    cases h
  | boundedUnknown reason =>
    rw [hpayload] at h
    cases h

lemma alike_of_candidate {p p' : ExternalCandidateProposal} {candidate : CandidateRepresentation}
    (h : (runExternal problem policy p).candidate = some candidate)
    (h' : (runExternal problem policy p').candidate = some candidate) :
    Alike (runExternal problem policy p) (runExternal problem policy p') := by
  obtain ⟨-, heq⟩ := payload_of_candidate h
  obtain ⟨-, heq'⟩ := payload_of_candidate h'
  rw [heq, heq']
  apply alike_evaluateCandidate
  rw [p.role_eq, p'.role_eq]

end

/-! ## Keys -/

def acceptedKeyOf (evaluation : CandidateEvaluation) : Option SelectionKey :=
  valueOf (acceptedKey evaluation)

def rejectionKeyOf (evaluation : CandidateEvaluation) : Option String :=
  valueOf (rejectionKey evaluation)

variable {e : CandidateEvaluation}

section

variable (hdigest : MeasuredHasDigest problem) (he : WellMeasured problem e)
include hdigest he

lemma acceptedKey_ok : (e.status ≠ .accepted ∧ acceptedKey e = .ok none) ∨
      ∃ candidate metrics digest, e.status = .accepted ∧ e.candidate = some candidate ∧
        e.metrics = some metrics ∧ candidate.exactDigest = .ok digest ∧
        acceptedKey e = .ok (some (toLex (metrics.storedParameterCount,
          toLex (e.backend.role.cost, toLex (metrics.absoluteResidual.totalKey,
            toLex (metrics.frobeniusNorm.totalKey, digest.raw.hex)))))) := by
  unfold acceptedKey
  by_cases hstatus : e.status = .accepted
  · obtain ⟨candidate, hcandidate⟩ := ne_none_iff_exists'.mp (he.accepted hstatus)
    obtain ⟨metrics, hmetrics, hmeasure⟩ := he.measured candidate hcandidate
    obtain ⟨digest, hd⟩ := hdigest candidate metrics hmeasure
    refine .inr ⟨candidate, metrics, digest, hstatus, hcandidate, hmetrics, hd, ?_⟩
    rw [if_neg (not_not.mpr hstatus), hcandidate, hmetrics]
    simp only [okOr, ok_bind, hd]
    rfl
  · rw [if_pos hstatus]
    exact .inl ⟨hstatus, rfl⟩

lemma rejectionKey_ok : (observedRejection e = false ∧ rejectionKey e = .ok none) ∨
      ∃ candidate digest, observedRejection e = true ∧ e.candidate = some candidate ∧
        candidate.exactDigest = .ok digest ∧ rejectionKey e = .ok (some digest.raw.hex) := by
  unfold rejectionKey
  by_cases hobserved : observedRejection e = true
  · have hparts := hobserved
    unfold observedRejection at hparts
    rw [Bool.and_eq_true, Bool.and_eq_true] at hparts
    obtain ⟨candidate, hcandidate⟩ := isSome_iff_exists.mp hparts.1.2
    obtain ⟨metrics, -, hmeasure⟩ := he.measured candidate hcandidate
    obtain ⟨digest, hd⟩ := hdigest candidate metrics hmeasure
    refine .inr ⟨candidate, digest, hobserved, hcandidate, hd, ?_⟩
    rw [if_neg (not_not.mpr hobserved), hcandidate]
    simp only [okOr, ok_bind, hd]
    rfl
  · rw [if_pos hobserved]
    rw [Bool.not_eq_true] at hobserved
    exact .inl ⟨hobserved, rfl⟩

lemma evaluationDigest_ok : ∃ digest, evaluationDigest e = .ok digest := by
  unfold evaluationDigest
  cases hcandidate : e.candidate with
  | none => exact ⟨_, rfl⟩
  | some candidate =>
    obtain ⟨metrics, -, hmeasure⟩ := he.measured candidate hcandidate
    obtain ⟨digest, hd⟩ := hdigest candidate metrics hmeasure
    rw [mapM_some, hd]
    exact ⟨_, rfl⟩

end

variable {evaluations : List CandidateEvaluation}

/-- The selection is the first of the least key. -/
lemma chooseAccepted_spec (hdigest : MeasuredHasDigest problem)
    (hall : ∀ e ∈ evaluations, WellMeasured problem e) :
    chooseAccepted evaluations = .ok (firstLeast acceptedKeyOf evaluations) := by
  have hok : ∀ e ∈ evaluations, ∃ key, acceptedKey e = .ok key := by
    intro e he
    rcases acceptedKey_ok hdigest (hall e he) with ⟨-, hkey⟩ | ⟨_, _, _, -, -, -, -, hkey⟩
    · exact ⟨_, hkey⟩
    · exact ⟨_, hkey⟩
  show (evaluations.mapM (fun e => acceptedKey e >>= fun key => pure (e, key)) >>= fun keyed =>
    pure ((firstLeast Prod.snd keyed).map fun found => (found.1.1, found.2))) = _
  rw [mapM_keyed hok, ok_bind, firstLeast_keyed]
  rfl

omit [PortfolioKernels] in
lemma canonicalObservedRejection_eq (hok : ∀ e ∈ evaluations, ∃ key, rejectionKey e = .ok key) :
    canonicalObservedRejection evaluations =
      .ok ((evaluations.zipIdx.find? fun entry => directRejection entry.1).or
        (firstLeast rejectionKeyOf evaluations)) := by
  unfold canonicalObservedRejection
  cases hdirect : evaluations.zipIdx.find? fun entry => directRejection entry.1 with
  | some direct => rfl
  | none =>
    show (evaluations.mapM (fun e => rejectionKey e >>= fun key => pure (e, key)) >>= fun keyed =>
      pure ((firstLeast Prod.snd keyed).map fun found => (found.1.1, found.2))) = _
    rw [mapM_keyed hok, ok_bind, firstLeast_keyed]
    rfl

lemma canonicalObservedRejection_spec (hdigest : MeasuredHasDigest problem)
    (hall : ∀ e ∈ evaluations, WellMeasured problem e) : canonicalObservedRejection evaluations =
      .ok ((evaluations.zipIdx.find? fun entry => directRejection entry.1).or
        (firstLeast rejectionKeyOf evaluations)) := by
  apply canonicalObservedRejection_eq
  intro e he
  rcases rejectionKey_ok hdigest (hall e he) with ⟨-, hkey⟩ | ⟨_, _, -, -, -, hkey⟩
  · exact ⟨_, hkey⟩
  · exact ⟨_, hkey⟩

omit [PortfolioKernels] in
lemma canonicalObservedRejection_none (h : ∀ e ∈ evaluations, e.candidate = none) :
    canonicalObservedRejection evaluations = .ok none := by
  have hobserved : ∀ e ∈ evaluations, observedRejection e = false := by
    intro e he
    unfold observedRejection
    rw [h e he]
    simp
  have hkey : ∀ e ∈ evaluations, rejectionKey e = .ok none := by
    intro e he
    unfold rejectionKey
    rw [hobserved e he]
    rfl
  have hdirect : (evaluations.zipIdx.find? fun entry => directRejection entry.1) = none := by
    rw [find?_eq_none]
    intro entry hentry
    unfold directRejection
    rw [hobserved entry.1 (fst_mem_of_mem_zipIdx hentry)]
    simp
  have hnone : firstLeast rejectionKeyOf evaluations = none := by
    rw [firstLeast_eq_none]
    intro e he
    unfold rejectionKeyOf
    rw [hkey e he]
    rfl
  rw [canonicalObservedRejection_eq fun e he => ⟨none, hkey e he⟩, hdirect, hnone]
  rfl

/-! ## The report of a list of proposals -/

/-- The verdicts of the built-in solvers. -/
structure Builtins (problem : LeastSquaresProblem) (builtins : List CandidateEvaluation) :
    Prop where
  measured : ∀ e ∈ builtins, WellMeasured problem e
  role_ne : ∀ e ∈ builtins, e.backend.role ≠ .externalProposal
  distinct : ∀ e ∈ builtins, ∀ e' ∈ builtins, e.backend.role = e'.backend.role → e = e'

def evaluationsOf (problem : LeastSquaresProblem) (policy : PortfolioPolicy)
    (builtins : List CandidateEvaluation) (proposals : List ExternalCandidateProposal) :
    List CandidateEvaluation :=
  builtins ++ proposals.map (runExternal problem policy)

variable {builtins : List CandidateEvaluation}

omit [Platform] in
lemma wellMeasured_evaluationsOf (hbuiltins : Builtins problem builtins)
    (proposals : List ExternalCandidateProposal) :
    ∀ e ∈ evaluationsOf problem policy builtins proposals, WellMeasured problem e := by
  intro e he
  rcases mem_append.mp he with he | he
  · exact hbuiltins.measured e he
  · obtain ⟨p, -, rfl⟩ := mem_map.mp he
    exact wellMeasured_runExternal p

def verdictOf (fallback : SolverStatus × EvaluationReason)
    (evaluations : List CandidateEvaluation) :
    SolverStatus × EvaluationReason :=
  match firstLeast acceptedKeyOf evaluations with
  | some selected => (.accepted, selected.1.reason)
  | none =>
    match evaluations.find? fun e => decide (e.status = .boundedUnknown) with
    | some unknown => (.boundedUnknown, unknown.reason)
    | none => fallback

def rejectionOf (evaluations : List CandidateEvaluation) : Option (CandidateEvaluation × Nat) :=
  (evaluations.zipIdx.find? fun entry => directRejection entry.1).or
    (firstLeast rejectionKeyOf evaluations)

def digestOf (evaluation : CandidateEvaluation) : Sha256Digest :=
  (evaluationDigest evaluation).toOption.getD (Platform.sha256 ByteArray.empty)

lemma mapM_evaluationDigest (hdigest : MeasuredHasDigest problem)
    (hall : ∀ e ∈ evaluations, WellMeasured problem e) :
    evaluations.mapM evaluationDigest = .ok (evaluations.map digestOf) := by
  induction evaluations with
  | nil => rfl
  | cons e rest ih =>
    obtain ⟨d, hd⟩ := evaluationDigest_ok hdigest (hall e mem_cons_self)
    have hvalue : digestOf e = d := by
      unfold digestOf
      rw [hd]
      rfl
    rw [mapM_cons, hd, ok_bind, ih fun x hx => hall x (mem_cons_of_mem _ hx), ok_bind,
      map_cons, hvalue]
    rfl

def draftOf (problem : LeastSquaresProblem) (policy : PortfolioPolicy)
    (builtins : List CandidateEvaluation) (diagnostics : Option Json)
    (choleskyGate : Option CholeskyGate) (fallback : SolverStatus × EvaluationReason)
    (proposals : List ExternalCandidateProposal) : SolverPortfolioReportDraft :=
  let evaluations := evaluationsOf problem policy builtins proposals
  ⟨(verdictOf fallback evaluations).1, (verdictOf fallback evaluations).2, diagnostics,
    choleskyGate, evaluations, (firstLeast acceptedKeyOf evaluations).map Prod.snd,
    proposals.length, proposals.length⟩

def reportDigestOf (problem : LeastSquaresProblem) (policy : PortfolioPolicy)
    (draft : SolverPortfolioReportDraft) : Sha256Digest :=
  digestDomain portfolioReportDomain (projectionJson
    (PortfolioKernels.problemDigest problem) (PortfolioKernels.policyDigest policy) draft
    (canonicalDigests (draft.evaluations.map digestOf))
    ((firstLeast acceptedKeyOf draft.evaluations).map fun found => digestOf found.1)).toBytes

/-- What the report of a list of proposals shows. -/
def viewOf (problem : LeastSquaresProblem) (policy : PortfolioPolicy)
    (draft : SolverPortfolioReportDraft) : PortfolioView :=
  ⟨draft.status, draft.reason,
    (firstLeast acceptedKeyOf draft.evaluations).bind fun found => found.1.candidate,
    (rejectionOf draft.evaluations).map fun found =>
      (found.1, rejectionReceipt (reportDigestOf problem policy draft) found.2),
    reportDigestOf problem policy draft⟩

/-- The loop without its own branch for each path. -/
structure Fallback (builtins : List CandidateEvaluation)
    (otherwise : List CandidateEvaluation → BrainResult (SolverStatus × EvaluationReason))
    (fallback : SolverStatus × EvaluationReason) : Prop where
  eq : ∀ rest, (∀ e ∈ builtins, e.status = .rejected) → otherwise (builtins ++ rest) = .ok fallback

omit [Platform] [PortfolioKernels] in
lemma status_cases (e : CandidateEvaluation) :
    e.status = .accepted ∨ e.status = .rejected ∨ e.status = .boundedUnknown := by
  cases e.status with
  | accepted => exact .inl rfl
  | rejected => exact .inr (.inl rfl)
  | boundedUnknown => exact .inr (.inr rfl)

lemma acceptedKeyOf_eq_none (hdigest : MeasuredHasDigest problem) (he : WellMeasured problem e) :
    acceptedKeyOf e = none ↔ e.status ≠ .accepted := by
  unfold acceptedKeyOf
  rcases acceptedKey_ok hdigest he with ⟨hstatus, hkey⟩ | ⟨_, _, _, hstatus, -, -, -, hkey⟩
  · rw [hkey]
    exact ⟨fun _ => hstatus, fun _ => rfl⟩
  · rw [hkey]
    constructor
    · intro h
      cases h
    · intro h
      exact absurd hstatus h

variable {draft : SolverPortfolioReportDraft}

section

variable (hdigest : MeasuredHasDigest problem)
  (hall : ∀ e ∈ draft.evaluations, WellMeasured problem e)
  (hselected : draft.selectedEvaluation = (firstLeast acceptedKeyOf draft.evaluations).map Prod.snd)
  (hplace : ∀ found, firstLeast acceptedKeyOf draft.evaluations = some found → draft.evaluations[found.2]? = some found.1)
include hdigest hall hselected hplace

lemma sealPortfolioReport_eq :
    sealPortfolioReport problem policy draft = .ok ⟨draft, PortfolioKernels.problemDigest problem,
      PortfolioKernels.policyDigest policy, reportDigestOf problem policy draft⟩ := by
  have hin : (draft.selectedEvaluation.any fun index =>
      decide (draft.evaluations.length ≤ index)) = false := by
    rw [hselected]
    cases hfound : firstLeast acceptedKeyOf draft.evaluations with
    | none => rfl
    | some found =>
      have hlt := (List.getElem?_eq_some_iff.mp (hplace found hfound)).1
      show decide (draft.evaluations.length ≤ found.2) = false
      rw [decide_eq_false_iff_not]
      omega
  have hprojection : portfolioProjection (PortfolioKernels.problemDigest problem)
      (PortfolioKernels.policyDigest policy) draft =
      .ok (projectionJson (PortfolioKernels.problemDigest problem)
        (PortfolioKernels.policyDigest policy) draft
        (canonicalDigests (draft.evaluations.map digestOf))
        ((firstLeast acceptedKeyOf draft.evaluations).map fun found => digestOf found.1)) := by
    unfold portfolioProjection
    rw [mapM_evaluationDigest hdigest hall, ok_bind, hselected]
    cases hfound : firstLeast acceptedKeyOf draft.evaluations with
    | none => rfl
    | some found =>
      have hget : (draft.evaluations.map digestOf)[found.2]? = some (digestOf found.1) := by
        rw [List.getElem?_map, hplace found hfound]
        rfl
      rw [map_some, mapM_some, hget]
      rfl
  unfold sealPortfolioReport
  rw [hin]
  simp only [failIf, Bool.false_eq_true, if_false, ok_bind, hprojection]
  rfl

lemma view_eq : SolverPortfolioReport.view ⟨draft, PortfolioKernels.problemDigest problem,
      PortfolioKernels.policyDigest policy, reportDigestOf problem policy draft⟩ =
      .ok (viewOf problem policy draft) := by
  have hcandidate : (draft.selectedEvaluation.bind fun index => draft.evaluations[index]?).bind
      CandidateEvaluation.candidate =
      (firstLeast acceptedKeyOf draft.evaluations).bind fun found => found.1.candidate := by
    rw [hselected]
    cases hfound : firstLeast acceptedKeyOf draft.evaluations with
    | none => rfl
    | some found =>
      rw [map_some, bind_some, hplace found hfound]
      rfl
  unfold SolverPortfolioReport.view
  rw [canonicalObservedRejection_spec hdigest hall, ok_bind]
  unfold SolverPortfolioReport.selected
  simp only [hcandidate]
  rfl

end

variable {diagnostics : Option Json} {choleskyGate : Option CholeskyGate}
  {otherwise : List CandidateEvaluation → BrainResult (SolverStatus × EvaluationReason)}
  {fallback : SolverStatus × EvaluationReason} {proposals : List ExternalCandidateProposal}

section

variable (hdigest : MeasuredHasDigest problem) (hbuiltins : Builtins problem builtins)
  (hfallback : Fallback builtins otherwise fallback)
  (hlimit : proposals.length ≤ policy.limits.maxExternalProposals)
include hdigest hbuiltins hfallback hlimit

/-- The report at the end of the portfolio. -/
lemma concludePortfolio_ok :
    concludePortfolio problem policy proposals builtins diagnostics choleskyGate otherwise =
      .ok ⟨draftOf problem policy builtins diagnostics choleskyGate fallback proposals,
        PortfolioKernels.problemDigest problem, PortfolioKernels.policyDigest policy,
        reportDigestOf problem policy
          (draftOf problem policy builtins diagnostics choleskyGate fallback proposals)⟩ := by
  have hall : ∀ e ∈ evaluationsOf problem policy builtins proposals, WellMeasured problem e :=
    wellMeasured_evaluationsOf hbuiltins proposals
  have hconsidered : min proposals.length policy.limits.maxExternalProposals = proposals.length :=
    Nat.min_eq_left hlimit
  -- the verdict, whichever path it takes
  have hverdict : portfolioVerdict
      (firstLeast acceptedKeyOf (evaluationsOf problem policy builtins proposals))
      (proposals.length < proposals.length) (evaluationsOf problem policy builtins proposals)
      otherwise = .ok (verdictOf fallback (evaluationsOf problem policy builtins proposals)) := by
    unfold verdictOf portfolioVerdict
    cases hselected : firstLeast acceptedKeyOf
        (evaluationsOf problem policy builtins proposals) with
    | some selected => rfl
    | none =>
      simp only [Nat.lt_irrefl, if_false]
      cases hunknown : (evaluationsOf problem policy builtins proposals).find?
          fun e => decide (e.status = .boundedUnknown) with
      | some unknown => rfl
      | none =>
        apply hfallback.eq
        intro e he
        have hmem : e ∈ evaluationsOf problem policy builtins proposals :=
          mem_append_left _ he
        have hnot := find?_eq_none.mp hunknown e hmem
        have hkey := firstLeast_eq_none.mp hselected e hmem
        rw [acceptedKeyOf_eq_none hdigest (hall e hmem)] at hkey
        rcases status_cases e with h | h | h
        · exact absurd h hkey
        · exact h
        · rw [h] at hnot
          exact absurd rfl hnot
  unfold concludePortfolio
  simp only [hconsidered, take_length]
  show (chooseAccepted (evaluationsOf problem policy builtins proposals) >>= fun selected =>
    portfolioVerdict selected (proposals.length < proposals.length)
      (evaluationsOf problem policy builtins proposals) otherwise >>= fun verdict =>
        sealPortfolioReport problem policy ⟨verdict.1, verdict.2, diagnostics, choleskyGate,
          evaluationsOf problem policy builtins proposals, selected.map Prod.snd,
          proposals.length, proposals.length⟩) = _
  rw [chooseAccepted_spec hdigest hall, ok_bind, hverdict, ok_bind]
  exact sealPortfolioReport_eq hdigest hall rfl firstLeast_place

lemma concludePortfolio_view :
    (concludePortfolio problem policy proposals builtins diagnostics choleskyGate otherwise >>=
      SolverPortfolioReport.view) = .ok (viewOf problem policy
        (draftOf problem policy builtins diagnostics choleskyGate fallback proposals)) := by
  rw [concludePortfolio_ok hdigest hbuiltins hfallback hlimit, ok_bind]
  exact view_eq hdigest (wellMeasured_evaluationsOf hbuiltins proposals) rfl firstLeast_place

end

/-! ## Another order -/

def candidateFrames (proposals : List ExternalCandidateProposal) : Set ByteArray :=
  {bytes | ∃ p ∈ proposals, ∃ candidate,
    p.payload = .candidate candidate ∧ bytes ∈ candidate.hashed}

lemma alike_of_acceptedKey (hdigest : MeasuredHasDigest problem)
    (hbuiltins : Builtins problem builtins)
    (hcollision : Set.InjOn Platform.sha256 (candidateFrames proposals))
    {e e' : CandidateEvaluation} (he : e ∈ evaluationsOf problem policy builtins proposals)
    (he' : e' ∈ evaluationsOf problem policy builtins proposals) {k : SelectionKey}
    (hk : acceptedKeyOf e = some k) (hk' : acceptedKeyOf e' = some k) : Alike e e' := by
  have hwell : ∀ e ∈ evaluationsOf problem policy builtins proposals, WellMeasured problem e :=
    wellMeasured_evaluationsOf hbuiltins proposals
  unfold acceptedKeyOf at hk hk'
  rcases acceptedKey_ok hdigest (hwell e he) with ⟨-, hkey⟩ |
    ⟨candidate, metrics, digest, -, hcandidate, -, hd, hkey⟩
  · rw [hkey] at hk
    cases hk
  rcases acceptedKey_ok hdigest (hwell e' he') with ⟨-, hkey'⟩ |
    ⟨candidate', metrics', digest', -, hcandidate', -, hd', hkey'⟩
  · rw [hkey'] at hk'
    cases hk'
  rw [hkey] at hk
  rw [hkey'] at hk'
  have hsame := some.inj (hk.trans hk'.symm)
  rw [EmbeddingLike.apply_eq_iff_eq, Prod.mk.injEq, EmbeddingLike.apply_eq_iff_eq, Prod.mk.injEq,
    EmbeddingLike.apply_eq_iff_eq, Prod.mk.injEq, EmbeddingLike.apply_eq_iff_eq, Prod.mk.injEq]
    at hsame
  obtain ⟨-, hcost, -, -, hhex⟩ := hsame
  have hrole : e.backend.role = e'.backend.role := by
    revert hcost
    cases e.backend.role <;> cases e'.backend.role <;> simp [NumericalBackendRole.cost]
  rcases mem_append.mp he with hb | hx
  · rcases mem_append.mp he' with hb' | hx'
    · rw [hbuiltins.distinct e hb e' hb' hrole]
      exact Alike.refl _
    · obtain ⟨p', -, rfl⟩ := mem_map.mp hx'
      rw [runExternal_role] at hrole
      exact absurd hrole (hbuiltins.role_ne e hb)
  · obtain ⟨p, hp, rfl⟩ := mem_map.mp hx
    rcases mem_append.mp he' with hb' | hx'
    · rw [runExternal_role] at hrole
      exact absurd hrole.symm (hbuiltins.role_ne e' hb')
    · obtain ⟨p', hp', rfl⟩ := mem_map.mp hx'
      -- one digest, so one candidate
      have hraw : digest = digest' := by
        have hraw' := hex_injective hhex
        cases digest
        cases digest'
        exact congrArg _ hraw'
      have hcandidates : candidate = candidate' := by
        rw [← hraw] at hd'
        refine CandidateRepresentation.eq_of_exactDigest hcollision ?_ ?_ hd hd'
        · intro bytes hbytes
          exact ⟨p, hp, candidate, (payload_of_candidate hcandidate).1, hbytes⟩
        · intro bytes hbytes
          exact ⟨p', hp', candidate', (payload_of_candidate hcandidate').1, hbytes⟩
      rw [← hcandidates] at hcandidate'
      exact alike_of_candidate hcandidate hcandidate'

variable {proposals others : List ExternalCandidateProposal}

omit [Platform] in
lemma mem_evaluationsOf_perm (hperm : proposals.Perm others) (e : CandidateEvaluation) :
    e ∈ evaluationsOf problem policy builtins others ↔
      e ∈ evaluationsOf problem policy builtins proposals := by
  unfold evaluationsOf
  exact ((hperm.map _).append_left builtins).mem_iff.symm

lemma selected_perm (policy : PortfolioPolicy) (hdigest : MeasuredHasDigest problem)
    (hbuiltins : Builtins problem builtins)
    (hcollision : Set.InjOn Platform.sha256 (candidateFrames proposals))
    (hperm : proposals.Perm others) :
    (firstLeast acceptedKeyOf (evaluationsOf problem policy builtins proposals) = none ∧
      firstLeast acceptedKeyOf (evaluationsOf problem policy builtins others) = none) ∨
    ∃ found found',
      firstLeast acceptedKeyOf (evaluationsOf problem policy builtins proposals) = some found ∧
      firstLeast acceptedKeyOf (evaluationsOf problem policy builtins others) = some found' ∧
      Alike found.1 found'.1 := by
  have hmem : ∀ e, e ∈ evaluationsOf problem policy builtins others ↔
      e ∈ evaluationsOf problem policy builtins proposals := mem_evaluationsOf_perm hperm
  rcases firstLeast_cases acceptedKeyOf (evaluationsOf problem policy builtins proposals) with
    ⟨hnone, hall⟩ | ⟨e, i, k, hsome, he⟩
  · refine .inl ⟨hnone, firstLeast_eq_none.mpr ?_⟩
    intro x hx
    exact hall x ((hmem x).mp hx)
  · rcases firstLeast_cases acceptedKeyOf (evaluationsOf problem policy builtins others) with
      ⟨-, hall⟩ | ⟨e', i', k', hsome', he'⟩
    · have hkey := hall e ((hmem e).mpr (mem_of_getElem? he.getElem))
      rw [he.key_eq] at hkey
      cases hkey
    · have hk : k = k' := he.key_congr he' fun z => (hmem z).symm
      refine .inr ⟨(e, i), (e', i'), hsome, hsome', ?_⟩
      apply alike_of_acceptedKey hdigest hbuiltins hcollision
        (mem_of_getElem? he.getElem)
        ((hmem e').mp (mem_of_getElem? he'.getElem)) he.key_eq
      rw [hk]
      exact he'.key_eq

omit [Platform] [PortfolioKernels] in
lemma canonicalDigests_perm {xs ys : List Sha256Digest} (hperm : xs.Perm ys) :
    canonicalDigests xs = canonicalDigests ys := by
  unfold canonicalDigests
  have hsorted := fun l : List Sha256Digest =>
    @pairwise_mergeSort _ (fun left right => (compare left right).isLE)
      (fun _ _ _ hab hbc => Std.TransCmp.isLE_trans hab hbc) isLE_total l
  refine Perm.eq_of_pairwise ?_ (hsorted xs) (hsorted ys) ?_
  · intro a b _ _ hab hba
    exact Std.LawfulEqCmp.eq_of_compare (Std.OrientedCmp.isLE_antisymm hab hba)
  · exact (mergeSort_perm xs _).trans (hperm.trans (mergeSort_perm ys _).symm)

/-- When the reason and the canonical rejection do not depend on the order. -/
structure Settled (problem : LeastSquaresProblem) (policy : PortfolioPolicy)
    (builtins : List CandidateEvaluation) (proposals : List ExternalCandidateProposal) : Prop where
  /-- Something is accepted, a built-in solver does not know, or all the proposals that do not
      know give one reason. -/
  reason : (∃ e ∈ evaluationsOf problem policy builtins proposals, e.status = .accepted) ∨
    (∃ e ∈ builtins, e.status = .boundedUnknown) ∨
    ∀ p ∈ proposals, ∀ p' ∈ proposals, (runExternal problem policy p).status = .boundedUnknown →
      (runExternal problem policy p').status = .boundedUnknown →
      (runExternal problem policy p).reason = (runExternal problem policy p').reason
  /-- The direct decomposition was rejected on a candidate, no rejected proposal has a digest
      below those of the rejected built-in candidates, or all the proposals evaluate alike. -/
  rejection : (∃ e ∈ builtins, directRejection e = true) ∨
    (∀ p ∈ proposals, ∀ k, rejectionKeyOf (runExternal problem policy p) = some k →
      ∃ b ∈ builtins, ∃ least, rejectionKeyOf b = some least ∧ least ≤ k) ∨
    ∀ p ∈ proposals, ∀ p' ∈ proposals, runExternal problem policy p = runExternal problem policy p'

lemma verdictOf_perm (hdigest : MeasuredHasDigest problem) (hbuiltins : Builtins problem builtins)
    (hcollision : Set.InjOn Platform.sha256 (candidateFrames proposals))
    (hperm : proposals.Perm others) (hsettled : Settled problem policy builtins proposals)
    (fallback : SolverStatus × EvaluationReason) :
    verdictOf fallback (evaluationsOf problem policy builtins others) =
      verdictOf fallback (evaluationsOf problem policy builtins proposals) := by
  have hwell : ∀ e ∈ evaluationsOf problem policy builtins proposals, WellMeasured problem e :=
    wellMeasured_evaluationsOf hbuiltins proposals
  unfold verdictOf
  rcases selected_perm policy hdigest hbuiltins hcollision hperm with
    ⟨hnone, hnone'⟩ | ⟨found, found', hsome, hsome', halike⟩
  · rw [hnone, hnone']
    simp only []
    -- the first evaluation that does not know
    have happend : ∀ ps : List ExternalCandidateProposal,
        (evaluationsOf problem policy builtins ps).find?
            (fun e => decide (e.status = .boundedUnknown)) =
          (builtins.find? fun e => decide (e.status = .boundedUnknown)).or
            ((ps.map (runExternal problem policy)).find? fun e =>
              decide (e.status = .boundedUnknown)) := by
      intro ps
      unfold evaluationsOf
      exact find?_append
    rw [happend, happend]
    cases hb : builtins.find? fun e => decide (e.status = .boundedUnknown) with
    | some unknown => rfl
    | none =>
      rw [none_or, none_or]
      have hmem : ∀ e, e ∈ others.map (runExternal problem policy) ↔
          e ∈ proposals.map (runExternal problem policy) := by
        intro e
        exact (hperm.map _).mem_iff.symm
      have hreasons : ∀ p ∈ proposals, ∀ p' ∈ proposals,
          (runExternal problem policy p).status = .boundedUnknown →
          (runExternal problem policy p').status = .boundedUnknown →
          (runExternal problem policy p).reason = (runExternal problem policy p').reason := by
        rcases hsettled.reason with ⟨e, he, haccepted⟩ | ⟨e, he, hunknown⟩ | hreasons
        · have hkey := firstLeast_eq_none.mp hnone e he
          rw [acceptedKeyOf_eq_none hdigest (hwell e he)] at hkey
          exact absurd haccepted hkey
        · have hnot := find?_eq_none.mp hb e he
          rw [hunknown] at hnot
          exact absurd rfl hnot
        · exact hreasons
      cases hfirst : (others.map (runExternal problem policy)).find?
          fun e => decide (e.status = .boundedUnknown) with
      | none =>
        have hnone₂ : (proposals.map (runExternal problem policy)).find?
            (fun e => decide (e.status = .boundedUnknown)) = none := by
          rw [find?_eq_none] at hfirst ⊢
          intro e he
          exact hfirst e ((hmem e).mpr he)
        rw [hnone₂]
      | some e =>
        cases hsecond : (proposals.map (runExternal problem policy)).find?
            fun e => decide (e.status = .boundedUnknown) with
        | none =>
          have hnot := find?_eq_none.mp hsecond e
            ((hmem e).mp (mem_of_find?_eq_some hfirst))
          have hyes := find?_some hfirst
          exact absurd hyes hnot
        | some e' =>
          have hstatus := find?_some hfirst
          have hstatus' := find?_some hsecond
          rw [decide_eq_true_iff] at hstatus hstatus'
          obtain ⟨p, hp, rfl⟩ := mem_map.mp
            ((hmem e).mp (mem_of_find?_eq_some hfirst))
          obtain ⟨p', hp', rfl⟩ := mem_map.mp (mem_of_find?_eq_some hsecond)
          simp only []
          rw [hreasons p hp p' hp' hstatus hstatus']
  · rw [hsome, hsome']
    simp only []
    rw [halike.reason]

lemma reportDigestOf_perm (hdigest : MeasuredHasDigest problem)
    (hbuiltins : Builtins problem builtins)
    (hcollision : Set.InjOn Platform.sha256 (candidateFrames proposals))
    (hperm : proposals.Perm others) (hsettled : Settled problem policy builtins proposals)
    (fallback : SolverStatus × EvaluationReason) : reportDigestOf problem policy
        (draftOf problem policy builtins diagnostics choleskyGate fallback others) =
      reportDigestOf problem policy
        (draftOf problem policy builtins diagnostics choleskyGate fallback proposals) := by
  have hverdict := verdictOf_perm hdigest hbuiltins hcollision hperm hsettled fallback
  have hdigests : canonicalDigests
      ((evaluationsOf problem policy builtins others).map digestOf) =
      canonicalDigests ((evaluationsOf problem policy builtins proposals).map digestOf) := by
    apply canonicalDigests_perm
    exact (((hperm.map _).append_left builtins).map digestOf).symm
  have hselected : ((firstLeast acceptedKeyOf (evaluationsOf problem policy builtins others)).map
      fun found => digestOf found.1) =
      (firstLeast acceptedKeyOf (evaluationsOf problem policy builtins proposals)).map
        fun found => digestOf found.1 := by
    rcases selected_perm policy hdigest hbuiltins hcollision hperm with
      ⟨hnone, hnone'⟩ | ⟨found, found', hsome, hsome', halike⟩
    · rw [hnone, hnone']
    · rw [hsome, hsome', map_some, map_some]
      unfold digestOf
      rw [halike.digest]
  unfold reportDigestOf draftOf projectionJson
  simp only [hverdict, hdigests, hselected, hperm.length_eq]

omit [Platform] in
lemma find_direct (builtins : List CandidateEvaluation)
    (proposals : List ExternalCandidateProposal) :
    ((evaluationsOf problem policy builtins proposals).zipIdx.find?
      fun entry => directRejection entry.1) =
        builtins.zipIdx.find? fun entry => directRejection entry.1 := by
  unfold evaluationsOf
  rw [zipIdx_append, find?_append]
  have hnone : ((proposals.map (runExternal problem policy)).zipIdx (0 + builtins.length)).find?
      (fun entry => directRejection entry.1) = none := by
    rw [find?_eq_none]
    intro entry hentry
    obtain ⟨p, -, hp⟩ := mem_map.mp (fst_mem_of_mem_zipIdx hentry)
    unfold directRejection
    rw [← hp, runExternal_role]
    simp
  rw [hnone, or_none]

lemma rejectionOf_perm (hperm : proposals.Perm others)
    (hsettled : Settled problem policy builtins proposals) :
    rejectionOf (evaluationsOf problem policy builtins others) =
      rejectionOf (evaluationsOf problem policy builtins proposals) := by
  unfold rejectionOf
  rw [find_direct, find_direct]
  rcases hsettled.rejection with ⟨e, he, hdirect⟩ | hbelow | hequal
  · cases hfind : builtins.zipIdx.find? fun entry => directRejection entry.1 with
    | some found => rfl
    | none =>
      obtain ⟨i, hi, hget⟩ := getElem_of_mem he
      have hmem : (e, i) ∈ builtins.zipIdx := by
        rw [mem_zipIdx_iff_getElem?, getElem?_eq_getElem hi, hget]
      have hnot := find?_eq_none.mp hfind (e, i) hmem
      exact absurd hdirect hnot
  · have hpasses : ∀ ps : List ExternalCandidateProposal, (∀ p ∈ ps, p ∈ proposals) →
        firstLeast rejectionKeyOf (evaluationsOf problem policy builtins ps) =
          firstLeast rejectionKeyOf builtins := by
      intro ps hps
      apply firstLeast_append
      intro y hy k hk
      obtain ⟨p, hp, rfl⟩ := mem_map.mp hy
      exact hbelow p (hps p hp) k hk
    rw [hpasses others fun p hp => hperm.mem_iff.mpr hp, hpasses proposals fun _ hp => hp]
  · have hlists : others.map (runExternal problem policy) =
        proposals.map (runExternal problem policy) := by
      cases hproposals : proposals with
      | nil =>
        rw [hproposals] at hperm
        rw [hperm.symm.eq_nil]
      | cons p rest =>
        have hconst : ∀ e ∈ proposals.map (runExternal problem policy),
            e = runExternal problem policy p := by
          intro e he
          obtain ⟨q, hq, rfl⟩ := mem_map.mp he
          exact hequal q hq p (by rw [hproposals]; exact mem_cons_self)
        have hreplicate := eq_replicate_of_mem hconst
        have hother := (hperm.map (runExternal problem policy)).symm
        rw [hreplicate, perm_replicate] at hother
        rw [← hproposals, hreplicate, hother]
    unfold evaluationsOf
    rw [hlists]

/-- A settled list of proposals shows the same on every order. -/
lemma viewOf_perm (hdigest : MeasuredHasDigest problem) (hbuiltins : Builtins problem builtins)
    (hcollision : Set.InjOn Platform.sha256 (candidateFrames proposals))
    (hperm : proposals.Perm others) (hsettled : Settled problem policy builtins proposals)
    (fallback : SolverStatus × EvaluationReason) : viewOf problem policy
        (draftOf problem policy builtins diagnostics choleskyGate fallback others) =
      viewOf problem policy
        (draftOf problem policy builtins diagnostics choleskyGate fallback proposals) := by
  have hverdict := verdictOf_perm hdigest hbuiltins hcollision hperm hsettled fallback
  have hreport : reportDigestOf problem policy
      (draftOf problem policy builtins diagnostics choleskyGate fallback others) =
      reportDigestOf problem policy
        (draftOf problem policy builtins diagnostics choleskyGate fallback proposals) :=
    reportDigestOf_perm hdigest hbuiltins hcollision hperm hsettled fallback
  have hrejection := rejectionOf_perm hperm hsettled
  have hselected : ((firstLeast acceptedKeyOf (evaluationsOf problem policy builtins others)).bind
      fun found => found.1.candidate) =
      (firstLeast acceptedKeyOf (evaluationsOf problem policy builtins proposals)).bind
        fun found => found.1.candidate := by
    rcases selected_perm policy hdigest hbuiltins hcollision hperm with
      ⟨hnone, hnone'⟩ | ⟨found, found', hsome, hsome', halike⟩
    · rw [hnone, hnone']
    · rw [hsome, hsome', bind_some, bind_some, halike.candidate]
  unfold viewOf
  rw [hreport]
  show PortfolioView.mk (verdictOf fallback (evaluationsOf problem policy builtins others)).1
    (verdictOf fallback (evaluationsOf problem policy builtins others)).2
    ((firstLeast acceptedKeyOf (evaluationsOf problem policy builtins others)).bind
      fun found => found.1.candidate)
    ((rejectionOf (evaluationsOf problem policy builtins others)).map _) _ = _
  rw [hverdict, hrejection, hselected]
  rfl

/-! ## What an order shows -/

omit [Platform] [PortfolioKernels] in
lemma index_of_receiptFrame {d d' : Sha256Digest} {i j : Nat} (hi : i < 2 ^ 64) (hj : j < 2 ^ 64)
    (h : receiptFrame d i = receiptFrame d' j) : i = j := by
  unfold receiptFrame at h
  have hsizes : d.hex.toByteArray.size = d'.hex.toByteArray.size := by
    have htotal := congrArg size h
    rw [size_append, size_append] at htotal
    have hword : (Lib.be64 i).size = (Lib.be64 j).size := rfl
    omega
  obtain ⟨-, hwords⟩ := append_inj_of_size hsizes h
  exact be64_inj hi hj hwords

/-- The reason where a proposal that does not know comes first, and nothing else decides. -/
lemma reason_of_front (hdigest : MeasuredHasDigest problem)
    (hbuiltins : Builtins problem builtins) (fallback : SolverStatus × EvaluationReason)
    {p : ExternalCandidateProposal} {rest : List ExternalCandidateProposal}
    (haccepted : ∀ e ∈ evaluationsOf problem policy builtins (p :: rest), e.status ≠ .accepted)
    (hunknown : ∀ e ∈ builtins, e.status ≠ .boundedUnknown)
    (hstatus : (runExternal problem policy p).status = .boundedUnknown) :
    (verdictOf fallback (evaluationsOf problem policy builtins (p :: rest))).2 =
      (runExternal problem policy p).reason := by
  have hwell : ∀ e ∈ evaluationsOf problem policy builtins (p :: rest), WellMeasured problem e :=
    wellMeasured_evaluationsOf hbuiltins _
  have hnone : firstLeast acceptedKeyOf
      (evaluationsOf problem policy builtins (p :: rest)) = none := by
    rw [firstLeast_eq_none]
    intro e he
    rw [acceptedKeyOf_eq_none hdigest (hwell e he)]
    exact haccepted e he
  have hbuiltin : builtins.find? (fun e => decide (e.status = .boundedUnknown)) = none := by
    rw [find?_eq_none]
    intro e he hyes
    rw [decide_eq_true_iff] at hyes
    exact hunknown e he hyes
  have hfind : (evaluationsOf problem policy builtins (p :: rest)).find?
      (fun e => decide (e.status = .boundedUnknown)) = some (runExternal problem policy p) := by
    unfold evaluationsOf
    rw [find?_append, hbuiltin, none_or, map_cons, find?_cons_of_pos]
    rw [hstatus]
    rfl
  unfold verdictOf
  rw [hnone]
  simp only [hfind]

/-- A list of proposals that shows the same on every order is settled. -/
lemma settled_of_views (hdigest : MeasuredHasDigest problem)
    {builtins : List CandidateEvaluation} (hbuiltins : Builtins problem builtins)
    {diagnostics : Option Json} {choleskyGate : Option CholeskyGate}
    {fallback : SolverStatus × EvaluationReason} {proposals : List ExternalCandidateProposal}
    (hlength : builtins.length + proposals.length < 2 ^ 64) {frames : Set ByteArray}
    (hreceipts : Set.InjOn Platform.sha256 frames)
    (hframes : ∀ others, proposals.Perm others → ∀ found,
      rejectionOf (evaluationsOf problem policy builtins others) = some found →
        receiptFrame (reportDigestOf problem policy
          (draftOf problem policy builtins diagnostics choleskyGate fallback others)) found.2 ∈
            frames) (hviews : ∀ others, proposals.Perm others → viewOf problem policy
          (draftOf problem policy builtins diagnostics choleskyGate fallback others) =
        viewOf problem policy
          (draftOf problem policy builtins diagnostics choleskyGate fallback proposals)) :
    Settled problem policy builtins proposals := by
  classical
  refine ⟨?_, ?_⟩
  · -- each proposal that does not know gives the reason when it comes first
    by_cases haccepted : ∃ e ∈ evaluationsOf problem policy builtins proposals, e.status = .accepted
    · exact .inl haccepted
    by_cases hunknown : ∃ e ∈ builtins, e.status = .boundedUnknown
    · exact .inr (.inl hunknown)
    refine .inr (.inr ?_)
    have hfirst : ∀ p ∈ proposals, (runExternal problem policy p).status = .boundedUnknown →
        (runExternal problem policy p).reason = (viewOf problem policy
          (draftOf problem policy builtins diagnostics choleskyGate fallback
            proposals)).reason := by
      intro p hp hstatus
      have hperm := List.perm_cons_erase hp
      rw [← hviews _ hperm]
      refine (reason_of_front hdigest hbuiltins fallback ?_ ?_ hstatus).symm
      · intro e he hacc
        exact haccepted ⟨e, (mem_evaluationsOf_perm hperm e).mp he, hacc⟩
      · intro e he hunk
        exact hunknown ⟨e, he, hunk⟩
    intro p hp p' hp' hstatus hstatus'
    rw [hfirst p hp hstatus, hfirst p' hp' hstatus']
  · -- the canonical rejection is the first proposal on every order, so all evaluate alike
    by_cases hdirect : ∃ e ∈ builtins, directRejection e = true
    · exact .inl hdirect
    by_cases hbelow : ∀ p ∈ proposals, ∀ k, rejectionKeyOf (runExternal problem policy p) = some k →
        ∃ b ∈ builtins, ∃ least, rejectionKeyOf b = some least ∧ least ≤ k
    · exact .inr (.inl hbelow)
    refine .inr (.inr ?_)
    push Not at hbelow
    obtain ⟨p₀, hp₀, k₀, hk₀, habove⟩ := hbelow
    have hfind : ∀ ps, rejectionOf (evaluationsOf problem policy builtins ps) =
        firstLeast rejectionKeyOf (evaluationsOf problem policy builtins ps) := by
      intro ps
      unfold rejectionOf
      rw [find_direct]
      have hnone : builtins.zipIdx.find? (fun entry => directRejection entry.1) = none := by
        rw [List.find?_eq_none]
        intro entry hentry hyes
        exact hdirect ⟨entry.1, List.fst_mem_of_mem_zipIdx hentry, hyes⟩
      rw [hnone, none_or]
    have hmem₀ : ∀ ps, proposals.Perm ps →
        runExternal problem policy p₀ ∈ evaluationsOf problem policy builtins ps := by
      intro ps hperm
      exact List.mem_append_right _ (List.mem_map_of_mem (hperm.mem_iff.mp hp₀))
    have hexists : ∀ ps, proposals.Perm ps → ∃ x i k,
        firstLeast rejectionKeyOf (evaluationsOf problem policy builtins ps) = some (x, i) ∧
          FirstLeast rejectionKeyOf (evaluationsOf problem policy builtins ps) x i k := by
      intro ps hperm
      rcases firstLeast_cases rejectionKeyOf (evaluationsOf problem policy builtins ps) with
        ⟨-, hall⟩ | hsome
      · have hkey := hall _ (hmem₀ ps hperm)
        rw [hk₀] at hkey
        cases hkey
      · exact hsome
    obtain ⟨c, i, k, hc, hfirst⟩ := hexists proposals (List.Perm.refl _)
    -- on every order it is the same evaluation, at the same place
    have hsame : ∀ ps, proposals.Perm ps →
        FirstLeast rejectionKeyOf (evaluationsOf problem policy builtins ps) c i k := by
      intro ps hperm
      obtain ⟨x, j, k', hx, hfirst'⟩ := hexists ps hperm
      have hview := congrArg PortfolioView.rejection (hviews ps hperm)
      change (rejectionOf (evaluationsOf problem policy builtins ps)).map _ =
        (rejectionOf (evaluationsOf problem policy builtins proposals)).map _ at hview
      rw [hfind, hfind, hx, hc, map_some, map_some, some.injEq, Prod.mk.injEq] at hview
      have hlen : ∀ qs, proposals.Perm qs →
          (evaluationsOf problem policy builtins qs).length =
            builtins.length + proposals.length := by
        intro qs hqs
        unfold evaluationsOf
        rw [List.length_append, List.length_map, hqs.length_eq]
      have hj := (List.getElem?_eq_some_iff.mp hfirst'.getElem).1
      have hi := (List.getElem?_eq_some_iff.mp hfirst.getElem).1
      rw [hlen ps hperm] at hj
      rw [hlen proposals (List.Perm.refl _)] at hi
      have hreceipt := hreceipts (hframes ps hperm (x, j) ((hfind ps).trans hx))
        (hframes proposals (List.Perm.refl _) (c, i) ((hfind proposals).trans hc)) hview.2
      have hplace : j = i := index_of_receiptFrame (by omega) (by omega) hreceipt
      have hk : k' = k := by
        apply hfirst'.key_congr hfirst
        exact mem_evaluationsOf_perm hperm
      have hxc : x = c := hview.1
      rw [← hplace, ← hk, ← hxc]
      exact hfirst'
    -- the least digest is one of a proposal, and below those of the built-in candidates
    have hleast : ∀ b ∈ builtins, ∀ other, rejectionKeyOf b = some other → k < other := by
      intro b hb other hother
      have hle := hfirst.least _ (hmem₀ proposals (List.Perm.refl _)) k₀ hk₀
      exact lt_of_le_of_lt hle (habove b hb other hother)
    have hcext : ∃ q ∈ proposals, runExternal problem policy q = c := by
      rcases List.mem_append.mp (List.mem_of_getElem? hfirst.getElem) with hcb | hce
      · exact absurd (hleast c hcb k hfirst.key_eq) (lt_irrefl k)
      · exact List.mem_map.mp hce
    obtain ⟨q, hq, hqc⟩ := hcext
    have hplace : i = builtins.length := by
      have hfront : FirstLeast rejectionKeyOf
          (evaluationsOf problem policy builtins (q :: proposals.erase q)) c builtins.length k := by
        refine ⟨?_, hfirst.key_eq, ?_, ?_⟩
        · unfold evaluationsOf
          rw [List.getElem?_append_right (le_refl _), Nat.sub_self, List.map_cons,
            List.getElem?_cons_zero, hqc]
        · intro y hy other hother
          exact hfirst.least y ((mem_evaluationsOf_perm (List.perm_cons_erase hq) y).mp hy) other
            hother
        · intro j y hj hy other hother
          unfold evaluationsOf at hy
          rw [List.getElem?_append_left hj] at hy
          exact hleast y (List.mem_of_getElem? hy) other hother
      exact ((hsame _ (List.perm_cons_erase hq)).eq hfront).2
    have hall : ∀ p ∈ proposals, runExternal problem policy p = c := by
      intro p hp
      have hget := (hsame _ (List.perm_cons_erase hp)).getElem
      unfold evaluationsOf at hget
      rw [hplace, List.getElem?_append_right (le_refl _), Nat.sub_self, List.map_cons,
        List.getElem?_cons_zero, some.injEq] at hget
      exact hget
    intro p hp p' hp'
    rw [hall p hp, hall p' hp']

/-! ## The paths of the portfolio -/

/-- How far the portfolio comes before it looks at the proposals. -/
inductive PortfolioPath where
  | limited (limit : EvaluationReason)
  | ready (builtins : List CandidateEvaluation) (diagnostics : Option Json)
      (choleskyGate : Option CholeskyGate)
      (otherwise : List CandidateEvaluation → BrainResult (SolverStatus × EvaluationReason))

def portfolioPath (problem : LeastSquaresProblem) (policy : PortfolioPolicy)
    (proposals : List ExternalCandidateProposal) : BrainResult PortfolioPath := do
  PortfolioKernels.validate problem policy
  match PortfolioKernels.problemLimit problem policy with
  | some limit => return .limited limit
  | none =>
    match externalProposalLimit proposals policy with
    | some limit => return .limited limit
    | none =>
      if (PortfolioKernels.directSolverWorkUpperBound problem policy).all fun work =>
          decide (policy.limits.maxNumericalWorkUnits < work) then
        return .ready [unavailableEvaluation (.resourceLimit "solver_max_svd_work_units")] none none
          fun _ => .error (integrity "solver_unavailable_path_without_unknown")
      else
        match ← PortfolioKernels.directSolution problem policy with
        | none =>
          return .ready [unavailableEvaluation .directSvdDidNotConverge] none none
            fun _ => .error (integrity "solver_unavailable_path_without_unknown")
        | some solution =>
          return .ready [solution.cholesky.evaluation, solution.direct.evaluation]
            (some solution.diagnostics) (some solution.choleskyGate) fun evaluations => do
              let reason ← aggregateRejectionReason evaluations
              return (.rejected, reason)

def PortfolioPath.conclude (path : PortfolioPath) (problem : LeastSquaresProblem)
    (policy : PortfolioPolicy) (proposals : List ExternalCandidateProposal) :
    BrainResult SolverPortfolioReport :=
  match path with
  | .limited limit => sealLimit problem policy proposals limit
  | .ready builtins diagnostics choleskyGate otherwise =>
    concludePortfolio problem policy proposals builtins diagnostics choleskyGate otherwise

lemma solveWithPortfolio_eq (proposals : List ExternalCandidateProposal) :
    solveWithPortfolio problem policy proposals =
      portfolioPath problem policy proposals >>= fun path =>
        path.conclude problem policy proposals := by
  unfold solveWithPortfolio portfolioPath
  cases PortfolioKernels.validate problem policy with
  | error e => rfl
  | ok _ =>
    rw [ok_bind, ok_bind]
    cases PortfolioKernels.problemLimit problem policy with
    | some limit => rfl
    | none =>
      simp only []
      cases externalProposalLimit proposals policy with
      | some limit => rfl
      | none =>
        simp only []
        by_cases hwork : ((PortfolioKernels.directSolverWorkUpperBound problem policy).all
            fun work => decide (policy.limits.maxNumericalWorkUnits < work)) = true
        · rw [if_pos hwork, if_pos hwork]
          rfl
        · rw [if_neg hwork, if_neg hwork]
          cases PortfolioKernels.directSolution problem policy with
          | error e => rfl
          | ok solution =>
            rw [ok_bind, ok_bind]
            cases solution with
            | none => rfl
            | some solution => rfl

section

omit [Platform] [PortfolioKernels]

lemma wordSum_comm (total a b : Nat) : ((wordSum total b).bind fun t => wordSum t a) =
      (wordSum total a).bind fun t => wordSum t b := by
  have hsum : ∀ x y, ((wordSum total x).bind fun t => wordSum t y) =
      if total + x + y < usizeValues then some (total + x + y) else none := by
    intro x y
    unfold wordSum
    by_cases hx : total + x < usizeValues
    · rw [if_pos hx, bind_some]
    · rw [if_neg hx, if_neg (by omega)]
      rfl
  rw [hsum, hsum, Nat.add_right_comm]

lemma totalParameters_perm (hperm : proposals.Perm others) (total : Nat) :
    proposals.foldlM (fun total proposal => do
      let count ← proposal.parameterCount
      wordSum total count) total =
    others.foldlM (fun total proposal => do
      let count ← proposal.parameterCount
      wordSum total count) total := by
  induction hperm generalizing total with
  | nil => rfl
  | cons p _ ih =>
    rw [foldlM_cons, foldlM_cons]
    congr 1
    funext next
    exact ih next
  | swap p q rest =>
    simp only [foldlM_cons]
    cases hp : p.parameterCount with
    | none =>
      cases hq : q.parameterCount with
      | none => rfl
      | some b =>
        show (wordSum total b >>= fun _ => none) = none
        cases wordSum total b with
        | none => rfl
        | some _ => rfl
    | some a =>
      cases hq : q.parameterCount with
      | none =>
        show none = wordSum total a >>= fun _ => none
        cases wordSum total a with
        | none => rfl
        | some _ => rfl
      | some b =>
        simp only [bind_eq_bind, bind_some]
        rw [← bind_assoc, ← bind_assoc, wordSum_comm]
  | trans _ _ ih ih' => exact (ih total).trans (ih' total)

lemma externalProposalLimit_perm (hperm : proposals.Perm others) :
    externalProposalLimit others policy = externalProposalLimit proposals policy := by
  unfold externalProposalLimit
  rw [hperm.length_eq, totalParameters_perm hperm]

end

section

omit [Platform]

lemma portfolioPath_perm (hperm : proposals.Perm others) :
    portfolioPath problem policy others = portfolioPath problem policy proposals := by
  unfold portfolioPath
  rw [externalProposalLimit_perm hperm]

lemma builtins_unavailable (reason : EvaluationReason) :
    Builtins problem [unavailableEvaluation reason] := by
  refine ⟨?_, ?_, ?_⟩
  · intro e he
    rw [mem_singleton.mp he]
    exact wellMeasured_of_none rfl (fun h => by cases h)
  · intro e he h
    rw [mem_singleton.mp he] at h
    cases h
  · intro e he e' he' _
    rw [mem_singleton.mp he, mem_singleton.mp he']

lemma builtins_solution (solution : DirectSolution problem) :
    Builtins problem [solution.cholesky.evaluation, solution.direct.evaluation] := by
  refine ⟨?_, ?_, ?_⟩
  · intro e he
    rw [mem_cons, mem_singleton] at he
    rcases he with he | he
    · rw [he]
      exact ⟨solution.cholesky.measured, solution.cholesky.accepted⟩
    · rw [he]
      exact ⟨solution.direct.measured, solution.direct.accepted⟩
  · intro e he h
    rw [mem_cons, mem_singleton] at he
    rcases he with he | he
    · rw [he, solution.cholesky.role_eq] at h
      cases h
    · rw [he, solution.direct.role_eq] at h
      cases h
  · intro e he e' he' h
    rw [mem_cons, mem_singleton] at he he'
    rcases he with he | he
    · rcases he' with he' | he'
      · rw [he, he']
      · rw [he, he', solution.cholesky.role_eq, solution.direct.role_eq] at h
        cases h
    · rcases he' with he' | he'
      · rw [he, he', solution.cholesky.role_eq, solution.direct.role_eq] at h
        cases h
      · rw [he, he']

lemma portfolioPath_ready {proposals : List ExternalCandidateProposal}
    {builtins : List CandidateEvaluation} {diagnostics : Option Json}
    {choleskyGate : Option CholeskyGate}
    {otherwise : List CandidateEvaluation → BrainResult (SolverStatus × EvaluationReason)}
    (h : portfolioPath problem policy proposals =
      .ok (.ready builtins diagnostics choleskyGate otherwise)) :
    Builtins problem builtins ∧ (∃ fallback, Fallback builtins otherwise fallback) ∧
      builtins.length ≤ 2 ∧ proposals.length ≤ policy.limits.maxExternalProposals := by
  unfold portfolioPath at h
  obtain ⟨_, -, h⟩ := bind_ok.mp h
  cases hlimit : PortfolioKernels.problemLimit problem policy with
  | some limit =>
    rw [hlimit] at h
    cases h
  | none =>
    rw [hlimit] at h
    simp only [] at h
    cases hexternal : externalProposalLimit proposals policy with
    | some limit =>
      rw [hexternal] at h
      cases h
    | none =>
      rw [hexternal] at h
      simp only [] at h
      have hlength : proposals.length ≤ policy.limits.maxExternalProposals := by
        unfold externalProposalLimit at hexternal
        by_contra hlong
        rw [if_pos (by omega)] at hexternal
        cases hexternal
      have hunknown : ∀ reason, Fallback [unavailableEvaluation reason]
          (fun _ => .error (integrity "solver_unavailable_path_without_unknown"))
          (.rejected, reason) := by
        intro reason
        refine ⟨?_⟩
        intro rest hrejected
        have hstatus := hrejected _ mem_cons_self
        cases hstatus
      by_cases hwork : ((PortfolioKernels.directSolverWorkUpperBound problem policy).all fun work =>
          decide (policy.limits.maxNumericalWorkUnits < work)) = true
      · rw [if_pos hwork] at h
        cases h
        exact ⟨builtins_unavailable _, ⟨_, hunknown _⟩, Nat.le_succ 1, hlength⟩
      · rw [if_neg hwork] at h
        obtain ⟨solution, -, h⟩ := bind_ok.mp h
        cases solution with
        | none =>
          cases h
          exact ⟨builtins_unavailable _, ⟨_, hunknown _⟩, Nat.le_succ 1, hlength⟩
        | some solution =>
          cases h
          refine ⟨builtins_solution solution, ⟨(.rejected, solution.direct.evaluation.reason), ?_⟩,
            le_refl 2, hlength⟩
          refine ⟨?_⟩
          intro rest hrejected
          -- the direct decomposition was rejected, so its reason is the one of all
          have hdirect := hrejected solution.direct.evaluation
            (mem_cons_of_mem _ mem_cons_self)
          have hfind : ([solution.cholesky.evaluation, solution.direct.evaluation] ++ rest).find?
              (fun evaluation => decide (evaluation.status = .rejected)
                && decide (evaluation.backend.role = .builtInDirectJacobiSvd)) =
              some solution.direct.evaluation := by
            rw [cons_append, find?_cons_of_neg, cons_append, find?_cons_of_pos]
            · rw [hdirect, solution.direct.role_eq]
              rfl
            · rw [solution.cholesky.role_eq]
              simp
          unfold aggregateRejectionReason
          simp only [hfind]
          rfl

end

/-! ## The order of the proposals -/

def observe (problem : LeastSquaresProblem) (policy : PortfolioPolicy)
    (proposals : List ExternalCandidateProposal) : BrainResult PortfolioView :=
  solveWithPortfolio problem policy proposals >>= SolverPortfolioReport.view

def OrderFree (problem : LeastSquaresProblem) (policy : PortfolioPolicy)
    (proposals : List ExternalCandidateProposal) : Prop :=
  ∀ others, proposals.Perm others → observe problem policy others = observe problem policy proposals

def orderReceipts (problem : LeastSquaresProblem) (policy : PortfolioPolicy)
    (proposals : List ExternalCandidateProposal) : Set ByteArray :=
  {bytes | ∃ others report found, proposals.Perm others ∧
    solveWithPortfolio problem policy others = .ok report ∧
    canonicalObservedRejection report.evaluations = .ok (some found) ∧
    bytes = receiptFrame report.reportDigest found.2}

/-- The hash does not collide on the candidates of the proposals, nor on the receipts of their
    reports. -/
structure Collisionless (problem : LeastSquaresProblem) (policy : PortfolioPolicy)
    (proposals : List ExternalCandidateProposal) : Prop where
  candidates : Set.InjOn Platform.sha256 (candidateFrames proposals)
  receipts : Set.InjOn Platform.sha256 (orderReceipts problem policy proposals)

end

/-! ## Two proposals that do not know -/

namespace PortfolioSample

def problem : LeastSquaresProblem := ⟨[[F64.ofNat 1]], [[F64.ofNat 2]], 1, 1⟩

def policy : PortfolioPolicy where
  targetExplainedEnergy := F64.ofNat 1
  minimumRank := 1
  maximumRank := 1
  relativeResidualTolerance := F64.zero false
  absoluteResidualTolerance := F64.ofNat 1
  limits := ⟨8, 4, 100⟩
  minimumRank_pos := Nat.one_pos
  minimumRank_le := Nat.le_refl 1

def unmeasured : BrainError := .numerical "solver_candidate_metrics_nonfinite"

@[reducible] def measure : SolverKernels where
  measureCandidate _ _ := .error unmeasured

def cholesky (problem : LeastSquaresProblem) :
    @BuiltinVerdict measure problem .builtInCholeskyRidge :=
  @BuiltinVerdict.mk measure problem .builtInCholeskyRidge
    ⟨⟨.builtInCholeskyRidge, "cholesky"⟩, .rejected, .choleskyNotAuthorized .degenerate, none,
      none, none⟩
    rfl (fun _ h => nomatch h) (fun h => nomatch h)

def direct (problem : LeastSquaresProblem) :
    @BuiltinVerdict measure problem .builtInDirectJacobiSvd :=
  @BuiltinVerdict.mk measure problem .builtInDirectJacobiSvd
    ⟨⟨.builtInDirectJacobiSvd, "direct"⟩, .rejected, .invalidCandidate (errorText unmeasured),
      some 1, none, none⟩
    rfl (fun _ h => nomatch h) (fun h => nomatch h)

@[reducible] def kernels : PortfolioKernels where
  toSolverKernels := measure
  validate _ _ := .ok ()
  problemLimit _ _ := none
  directSolverWorkUpperBound _ _ := some 10
  singleCandidateEvaluationWorkUpperBound _ := some 10
  directSolution problem _ :=
    .ok (some (@DirectSolution.mk measure problem .null .degenerate (cholesky problem)
      (direct problem)))
  problemDigest _ := zero
  policyDigest _ := zero

attribute [local instance] Platform.reference kernels

def unknown (message : String) : ExternalCandidateProposal :=
  ⟨⟨.externalProposal, "runner"⟩, .boundedUnknown message, rfl⟩

def builtins : List CandidateEvaluation :=
  [(cholesky problem).evaluation, (direct problem).evaluation]

lemma evaluated : ∀ message ∈ ["a", "b"], runExternal problem policy (unknown message) =
      ⟨⟨.externalProposal, "runner"⟩, .boundedUnknown, .backendBoundedUnknown message, none, none,
        none⟩ := by
  decide +kernel

lemma path (message other : String) :
    portfolioPath problem policy [unknown message, unknown other] =
      .ok (.ready builtins (some .null) (some .degenerate) fun evaluations => do
        let reason ← aggregateRejectionReason evaluations
        return (.rejected, reason)) := by
  rfl

lemma measured : MeasuredHasDigest problem := by
  intro candidate metrics h
  cases h

lemma rejected : ∀ e ∈ builtins, e.status = .rejected ∧ e.candidate = none := by
  intro e he
  unfold builtins at he
  rw [mem_cons, mem_singleton] at he
  rcases he with he | he
  all_goals
    rw [he]
    exact ⟨rfl, rfl⟩

lemma members {message other : String} (h : message ∈ ["a", "b"]) (h' : other ∈ ["a", "b"]) :
    ∀ e ∈ evaluationsOf problem policy builtins [unknown message, unknown other],
      e.status ≠ .accepted ∧ e.candidate = none := by
  intro e he
  unfold evaluationsOf at he
  rw [map_cons, map_cons, map_nil, evaluated message h, evaluated other h',
    mem_append, mem_cons, mem_singleton] at he
  rcases he with he | he | he
  · obtain ⟨hstatus, hnone⟩ := rejected e he
    refine ⟨?_, hnone⟩
    rw [hstatus]
    decide
  all_goals
    rw [he]
    exact ⟨nofun, rfl⟩

lemma reason_of_first {message other : String} (h : message ∈ ["a", "b"])
    (h' : other ∈ ["a", "b"]) :
    ∃ view, observe problem policy [unknown message, unknown other] = .ok view ∧
      view.reason = .backendBoundedUnknown message := by
  obtain ⟨hbuiltins, ⟨fallback, hfallback⟩, -, hlimit⟩ := portfolioPath_ready (path message other)
  have hobserve : observe problem policy [unknown message, unknown other] =
      .ok (viewOf problem policy (draftOf problem policy builtins (some .null) (some .degenerate)
        fallback [unknown message, unknown other])) := by
    unfold observe
    rw [solveWithPortfolio_eq, path, ok_bind]
    exact concludePortfolio_view measured hbuiltins hfallback hlimit
  refine ⟨_, hobserve, ?_⟩
  have hstatus : (runExternal problem policy (unknown message)).status = .boundedUnknown := by
    rw [evaluated message h]
  have hfront := reason_of_front measured hbuiltins fallback
    (fun e he => (members h h' e he).1) ?_ hstatus
  · rw [evaluated message h] at hfront
    exact hfront
  · intro e he hunknown
    rw [(rejected e he).1] at hunknown
    cases hunknown

lemma nothing_observed {others : List ExternalCandidateProposal}
    (hperm : [unknown "a", unknown "b"].Perm others) {report : SolverPortfolioReport}
    (hreport : solveWithPortfolio problem policy others = .ok report) :
    canonicalObservedRejection report.evaluations = .ok none := by
  have ha : "a" ∈ ["a", "b"] := mem_cons_self
  have hb : "b" ∈ ["a", "b"] := mem_cons_of_mem _ mem_cons_self
  obtain ⟨hbuiltins, ⟨fallback, hfallback⟩, -, hlimit⟩ := portfolioPath_ready (path "a" "b")
  rw [hperm.length_eq] at hlimit
  have hconclude : concludePortfolio problem policy others builtins (some .null) (some .degenerate)
      _ = .ok ⟨draftOf problem policy builtins (some .null) (some .degenerate) fallback others,
        PortfolioKernels.problemDigest problem, PortfolioKernels.policyDigest policy, _⟩ :=
    concludePortfolio_ok measured hbuiltins hfallback hlimit
  rw [solveWithPortfolio_eq, portfolioPath_perm hperm, path, ok_bind] at hreport
  rw [← Except.ok.inj (hconclude.symm.trans hreport)]
  apply canonicalObservedRejection_none
  intro e he
  exact (members ha hb e ((mem_evaluationsOf_perm hperm e).mp he)).2

lemma collisionless : Collisionless problem policy [unknown "a", unknown "b"] := by
  refine ⟨?_, ?_⟩
  · rintro bytes ⟨p, hp, candidate, hpayload, -⟩
    rw [mem_cons, mem_singleton] at hp
    rcases hp with hp | hp
    all_goals
      rw [hp] at hpayload
      cases hpayload
  · rintro bytes ⟨others, report, found, hperm, hreport, hfound, -⟩
    rw [nothing_observed hperm hreport] at hfound
    cases hfound

end PortfolioSample

end Tidex.Solver
