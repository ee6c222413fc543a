/-
  Solver.Evaluation — what the portfolio decides about one candidate.
-/
import Tidex.Solver.Candidate

namespace Tidex.Solver

open Tidex.Lib

/-! ## The problem, the policy and the verdicts -/

/-- The rows of the inputs and of the targets. -/
structure LeastSquaresProblem where
  inputs : List (List F64)
  targets : List (List F64)
  inputDimension : Nat
  outputDimension : Nat
  deriving DecidableEq

/-- The limits that the portfolio reads of a policy. -/
structure SolverResourceLimits where
  maxCandidateParameters : Nat
  maxExternalProposals : Nat
  maxNumericalWorkUnits : Nat
  deriving DecidableEq

/-- A policy that was validated, as far as a candidate and the ranks are concerned. -/
structure PortfolioPolicy where
  targetExplainedEnergy : F64
  minimumRank : Nat
  maximumRank : Nat
  relativeResidualTolerance : F64
  absoluteResidualTolerance : F64
  limits : SolverResourceLimits
  minimumRank_pos : 0 < minimumRank
  minimumRank_le : minimumRank ≤ maximumRank

inductive SolverStatus where
  | accepted
  | rejected
  | boundedUnknown
  deriving DecidableEq, Repr

inductive CholeskyGate where
  | authorized
  | degenerate
  | rankDeficient
  | conditionExceedsPolicy
  | caseCountInsufficient
  | caseLimitExceeded
  | float32ConversionUnsafe
  deriving DecidableEq, Repr

inductive EvaluationReason where
  | residualWithinTolerance
  | residualExceedsTolerance
  | choleskyNotAuthorized (gate : CholeskyGate)
  | rankBudgetInsufficient
  | resourceLimit (code : String)
  | backendNotApplicable (reason : String)
  | backendBoundedUnknown (reason : String)
  | backendFailure (error : String)
  | invalidCandidate (error : String)
  | directSvdDidNotConverge
  | residualToleranceUnrepresentable
  deriving DecidableEq, Repr

/-- The path that ran, in the order of its cost. -/
inductive NumericalBackendRole where
  | builtInCholeskyRidge
  | builtInDirectJacobiSvd
  /-- All untrusted proposals. -/
  | externalProposal
  deriving DecidableEq, Repr

structure BackendDescriptor where
  role : NumericalBackendRole
  implementation : String
  deriving DecidableEq

structure CandidateMetrics where
  absoluteResidual : F64
  rootMeanSquareResidual : F64
  maximumAbsoluteResidual : F64
  relativeResidual : Option F64
  targetNorm : F64
  frobeniusNorm : F64
  storedParameterCount : Nat
  deriving DecidableEq

structure CandidateEvaluation where
  backend : BackendDescriptor
  status : SolverStatus
  reason : EvaluationReason
  constructedRank : Option Nat
  candidate : Option CandidateRepresentation
  metrics : Option CandidateMetrics
  deriving DecidableEq

/-! ## Sizes and errors -/

def wordProduct (a b : Nat) : Option Nat := if a * b < usizeValues then some (a * b) else none

def wordSum (a b : Nat) : Option Nat := if a + b < usizeValues then some (a + b) else none

namespace CandidateRepresentation

def rank : CandidateRepresentation → Option Nat
  | .lowRank _ _ rank _ _ => some rank
  | .dense _ _ _ => none
  | .sparse _ _ _ => none
  | .block _ _ _ => none

def storedParameterCount : CandidateRepresentation → Option Nat
  | .lowRank rows columns rank _ _ => do
    let left ← wordProduct rows rank
    let right ← wordProduct rank columns
    wordSum left right
  | .dense rows columns _ => wordProduct rows columns
  | .sparse _ _ entries => some entries.length
  | .block _ _ blocks =>
    blocks.foldlM (fun total block => wordSum total block.values.length) 0

end CandidateRepresentation

def errorText : BrainError → String
  | .invalid code => "invalid:" ++ code
  | .integrity code => "integrity:" ++ code
  | .numerical code => "numerical:" ++ code
  | .io .notFound => "io:not found"
  | .io .other => "io:other"
  | .json => "json"

/-! ## Evaluating one candidate -/

/-- The measurement of a candidate on a problem. -/
class SolverKernels where
  measureCandidate : CandidateRepresentation → LeastSquaresProblem → BrainResult CandidateMetrics

section

variable [SolverKernels]

/-- The residual that the policy allows on a target. -/
def acceptanceThreshold (policy : PortfolioPolicy) (metrics : CandidateMetrics) : F64 :=
  policy.absoluteResidualTolerance + policy.relativeResidualTolerance * metrics.targetNorm

def evaluateCandidate (backend : BackendDescriptor) (constructedRank : Option Nat)
    (candidate : CandidateRepresentation) (problem : LeastSquaresProblem)
    (policy : PortfolioPolicy) : CandidateEvaluation :=
  match candidate.storedParameterCount with
  | none =>
    ⟨backend, .rejected, .invalidCandidate "solver_candidate_parameter_overflow",
      constructedRank, none, none⟩
  | some parameterCount =>
    if policy.limits.maxCandidateParameters < parameterCount then
      ⟨backend, .boundedUnknown, .resourceLimit "solver_max_candidate_parameters",
        constructedRank, none, none⟩
    else match SolverKernels.measureCandidate candidate problem with
      | .ok metrics =>
        if ¬(policy.relativeResidualTolerance * metrics.targetNorm).isFinite ∨
            ¬(acceptanceThreshold policy metrics).isFinite then
          ⟨backend, .boundedUnknown, .residualToleranceUnrepresentable, constructedRank,
            some candidate, some metrics⟩
        else if metrics.absoluteResidual.le? (acceptanceThreshold policy metrics) then
          ⟨backend, .accepted, .residualWithinTolerance, constructedRank, some candidate,
            some metrics⟩
        else
          ⟨backend, .rejected, .residualExceedsTolerance, constructedRank, some candidate,
            some metrics⟩
      | .error error =>
        ⟨backend, .rejected, .invalidCandidate (errorText error), constructedRank, none, none⟩

section

variable (backend : BackendDescriptor) (constructedRank : Option Nat)
  (candidate : CandidateRepresentation) (problem : LeastSquaresProblem) (policy : PortfolioPolicy)
include backend constructedRank candidate problem policy

lemma evaluateCandidate_cases :
    let e := evaluateCandidate backend constructedRank candidate problem policy
    e.backend = backend ∧ e.constructedRank = constructedRank ∧
      ((∃ error, e.status = .rejected ∧ e.reason = .invalidCandidate error ∧
          e.candidate = none ∧ e.metrics = none) ∨
        (e.status = .boundedUnknown ∧ e.reason = .resourceLimit "solver_max_candidate_parameters" ∧
          e.candidate = none ∧ e.metrics = none) ∨
        ∃ metrics, SolverKernels.measureCandidate candidate problem = .ok metrics ∧
          e.candidate = some candidate ∧ e.metrics = some metrics ∧
          ((e.status = .boundedUnknown ∧ e.reason = .residualToleranceUnrepresentable) ∨
            (e.status = .accepted ∧ e.reason = .residualWithinTolerance) ∨
            (e.status = .rejected ∧ e.reason = .residualExceedsTolerance))) := by
  unfold evaluateCandidate
  cases hcount : candidate.storedParameterCount with
  | none => exact ⟨rfl, rfl, .inl ⟨_, rfl, rfl, rfl, rfl⟩⟩
  | some parameterCount =>
    simp only
    by_cases hlimit : policy.limits.maxCandidateParameters < parameterCount
    · rw [if_pos hlimit]
      exact ⟨rfl, rfl, .inr (.inl ⟨rfl, rfl, rfl, rfl⟩)⟩
    rw [if_neg hlimit]
    cases hmeasure : SolverKernels.measureCandidate candidate problem with
    | error error => exact ⟨rfl, rfl, .inl ⟨_, rfl, rfl, rfl, rfl⟩⟩
    | ok metrics =>
      simp only
      by_cases hfinite : ¬(policy.relativeResidualTolerance * metrics.targetNorm).isFinite ∨
          ¬(acceptanceThreshold policy metrics).isFinite
      · rw [if_pos hfinite]
        exact ⟨rfl, rfl, .inr (.inr ⟨metrics, rfl, rfl, rfl, .inl ⟨rfl, rfl⟩⟩)⟩
      rw [if_neg hfinite]
      by_cases hwithin : metrics.absoluteResidual.le? (acceptanceThreshold policy metrics) = true
      · rw [if_pos hwithin]
        exact ⟨rfl, rfl, .inr (.inr ⟨metrics, rfl, rfl, rfl, .inr (.inl ⟨rfl, rfl⟩)⟩)⟩
      · rw [if_neg hwithin]
        exact ⟨rfl, rfl, .inr (.inr ⟨metrics, rfl, rfl, rfl, .inr (.inr ⟨rfl, rfl⟩)⟩)⟩

lemma evaluateCandidate_reason_ne :
    (evaluateCandidate backend constructedRank candidate problem policy).reason ≠
      .rankBudgetInsufficient := by
  intro hreason
  obtain ⟨-, -, hcases⟩ := evaluateCandidate_cases backend constructedRank candidate problem policy
  rcases hcases with ⟨_, -, h, -⟩ | ⟨-, h, -⟩ | ⟨_, -, -, -, ⟨-, h⟩ | ⟨-, h⟩ | ⟨-, h⟩⟩
  all_goals
    rw [h] at hreason
    cases hreason

end

end

end Tidex.Solver
