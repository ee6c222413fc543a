/-
  Knowledge.Types — the records of the knowledge engine.

  Predicates and plans, the contract a caller drafts, the governed state, what an executor
  is asked to do, what it returns, and the receipts and heads that are stored.
-/
import Tidex.Knowledge.Identity

namespace Tidex.Knowledge

open Tidex.Lib BTreeMap

/-! ## Hard limits -/

def hardMaxClaims : Nat := 4096
def hardMaxObligations : Nat := 8192
def hardMaxHypotheses : Nat := 512
def hardMaxActions : Nat := 8192
def hardMaxTotalCost : Nat := 1000000
def hardMaxRevision : Nat := 8192
def hardMaxDependencyNodes : Nat := 4096
def hardMaxDependencyEdges : Nat := 16384
def hardMaxDependencyEdgesPerAction : Nat := 256
def hardMaxDependencyDepth : Nat := 64
def hardMaxEvidenceRecords : Nat := 16384
def hardMaxObservationsPerAction : Nat := 1024
def hardMaxScenarioInputs : Nat := 256
def hardMaxTraceEvents : Nat := 1000000
def hardMaxCounterexampleCases : Nat := 1000000
def hardMaxDiscoveriesPerAction : Nat := 256
def maxStateBytes : Nat := 67108864
def maxActionReceiptBytes : Nat := 67108864
def maxEvidenceRecordBytes : Nat := 1048576
def maxEvidenceArtifactBytes : Nat := 67108864
def maxExecutorImplementationBytes : Nat := 67108864
/-- The number of values of the machine's counters. -/
def u16Width : Nat := 65536
def u32Width : Nat := 4294967296
def u64Width : Nat := 18446744073709551616

/-! ## Observations and predicates -/

inductive ObservedValue where
  | bool (value : Bool)
  | i64 (value : Int)
  | u64 (value : Nat)
  | symbol (value : KnowledgeSymbol)
  | exactBytesDigest (value : ExactBytesDigest)
  deriving DecidableEq

abbrev Observations := BTreeMap ObservationKey ObservedValue

/-- A precommitted condition on one observation. -/
inductive KnowledgePredicate where
  | boolEquals (key : ObservationKey) (expected : Bool)
  | i64Equals (key : ObservationKey) (expected : Int)
  | u64Equals (key : ObservationKey) (expected : Nat)
  | u64AtLeast (key : ObservationKey) (minimum : Nat)
  | u64AtMost (key : ObservationKey) (maximum : Nat)
  | symbolEquals (key : ObservationKey) (expected : KnowledgeSymbol)
  | exactBytesDigestEquals (key : ObservationKey) (expected : ExactBytesDigest)
  deriving DecidableEq

inductive PredicateEvaluation where
  | matches_
  | contradicts
  | missing
  | typeMismatch
  deriving DecidableEq

inductive ObservationValueType where
  | bool
  | i64
  | u64
  | symbol
  | exactBytesDigest
  deriving DecidableEq

def ObservedValue.valueType : ObservedValue → ObservationValueType
  | .bool _ => .bool
  | .i64 _ => .i64
  | .u64 _ => .u64
  | .symbol _ => .symbol
  | .exactBytesDigest _ => .exactBytesDigest

namespace KnowledgePredicate

def observationKey : KnowledgePredicate → ObservationKey
  | .boolEquals key _
  | .i64Equals key _
  | .u64Equals key _
  | .u64AtLeast key _
  | .u64AtMost key _
  | .symbolEquals key _
  | .exactBytesDigestEquals key _ => key

def valueType : KnowledgePredicate → ObservationValueType
  | .boolEquals .. => .bool
  | .i64Equals .. => .i64
  | .u64Equals .. | .u64AtLeast .. | .u64AtMost .. => .u64
  | .symbolEquals .. => .symbol
  | .exactBytesDigestEquals .. => .exactBytesDigest

/-- Whether a value of the predicate's type satisfies it; `none` on another type. -/
def matchesValue : KnowledgePredicate → ObservedValue → Option Bool
  | .boolEquals _ expected, .bool actual => some (actual = expected)
  | .i64Equals _ expected, .i64 actual => some (actual = expected)
  | .u64Equals _ expected, .u64 actual => some (actual = expected)
  | .u64AtLeast _ minimum, .u64 actual => some (actual ≥ minimum)
  | .u64AtMost _ maximum, .u64 actual => some (actual ≤ maximum)
  | .symbolEquals _ expected, .symbol actual => some (actual = expected)
  | .exactBytesDigestEquals _ expected, .exactBytesDigest actual => some (actual = expected)
  | _, _ => none

def evaluate (p : KnowledgePredicate) (observations : Observations) : PredicateEvaluation :=
  match observations[p.observationKey]? with
  | none => .missing
  | some actual =>
    if p.valueType ≠ actual.valueType then .typeMismatch
    else
      match p.matchesValue actual with
      | some true => .matches_
      | some false => .contradicts
      | none => .typeMismatch

end KnowledgePredicate

/-- The exact criterion that reduces an obligation. -/
structure EvaluationCriterion where
  predicate : KnowledgePredicate
  deriving DecidableEq

/-! ## Domains, plans and budgets -/

inductive KnowledgeDomain where
  | traceBehavior
  | scenarioBehavior
  | causalMechanism
  | adversarialBoundary
  | formalProperty
  | dependencyClosure
  /-- A capability-specific concern outside the core taxonomy. -/
  | profiled (profileId : ProfiledKnowledgeDomainId)
  deriving DecidableEq

def KnowledgeDomain.isProfiled : KnowledgeDomain → Bool
  | .profiled _ => true
  | _ => false

inductive ProofSystem where
  | smt
  | modelChecking
  | theoremKernel
  | abstractInterpretation
  deriving DecidableEq

abbrev Predictions := BTreeMap KnowledgeHypothesisId KnowledgePredicate
abbrev ScenarioInputs := BTreeMap ScenarioInputId ObservedValue

/-- How an obligation is to be investigated. -/
inductive CognitivePlan where
  | observeTrace (observationKeys : BTreeSet ObservationKey) (maxEvents : Nat)
  | executeScenario (scenarioId : ScenarioId) (inputs : ScenarioInputs)
      (observationKeys : BTreeSet ObservationKey)
  | causalIntervention (variable_ : InterventionVariableId) (baseline treatment : ObservedValue)
      (effect : KnowledgePredicate) (predictions : Predictions)
  | searchCounterexample (target : KnowledgePredicate) (maxCases : Nat)
      (predictions : Predictions)
  | verifyFormalProperty (proofSystem : ProofSystem) (property : KnowledgePredicate)
  | expandDependencyClosure (root : DependencyNodeId) (depth maxDepth : Nat)
  deriving DecidableEq

namespace CognitivePlan

def domain : CognitivePlan → KnowledgeDomain
  | .observeTrace .. => .traceBehavior
  | .executeScenario .. => .scenarioBehavior
  | .causalIntervention .. => .causalMechanism
  | .searchCounterexample .. => .adversarialBoundary
  | .verifyFormalProperty .. => .formalProperty
  | .expandDependencyClosure .. => .dependencyClosure

def cost : CognitivePlan → Nat
  | .observeTrace .. => 2
  | .executeScenario .. => 3
  | .causalIntervention .. => 5
  | .searchCounterexample .. => 4
  | .verifyFormalProperty .. => 8
  | .expandDependencyClosure .. => 3

def predictions : CognitivePlan → Option Predictions
  | .causalIntervention _ _ _ _ predictions
  | .searchCounterexample _ _ predictions => some predictions
  | _ => none

def isExpandDependencyClosure : CognitivePlan → Bool
  | .expandDependencyClosure .. => true
  | _ => false

end CognitivePlan

def planPredicates : CognitivePlan → List KnowledgePredicate
  | .observeTrace .. | .executeScenario .. | .expandDependencyClosure .. => []
  | .causalIntervention _ _ _ effect predictions => effect :: values predictions
  | .searchCounterexample target _ predictions => target :: values predictions
  | .verifyFormalProperty _ property => [property]

/-- The bounds of one investigation. -/
structure KnowledgeBudget where
  maxActions : Nat
  maxTotalCost : Nat
  maxRevision : Nat
  maxDependencyNodes : Nat
  maxDependencyEdges : Nat
  maxDependencyDepth : Nat
  maxEvidenceRecords : Nat
  maxObservationsPerAction : Nat

/-! ## The contract -/

structure KnowledgeClaimDraft where
  claimId : KnowledgeClaimId
  domain : KnowledgeDomain
  predicate : KnowledgePredicate

structure KnowledgeObligationDraft where
  obligationId : KnowledgeObligationId
  claimId : KnowledgeClaimId
  criterion : EvaluationCriterion
  plan : CognitivePlan

structure KnowledgeHypothesisDraft where
  hypothesisId : KnowledgeHypothesisId
  familyId : HypothesisFamilyId
  definition : KnowledgePredicate

/-- Untrusted caller proposal, validated and sealed by `initialize`. -/
structure KnowledgeContractDraft where
  claims : List KnowledgeClaimDraft
  obligations : List KnowledgeObligationDraft
  hypotheses : List KnowledgeHypothesisDraft
  budget : KnowledgeBudget

/-! ## The governed state -/

inductive KnowledgeEngineSchema where
  | v1
  deriving DecidableEq

abbrev Witnesses := BTreeSet ActionReceiptDigest

inductive ClaimAssessment where
  | unresolved
  | established (witnesses : Witnesses)
  | contradicted (witnesses : Witnesses)
  deriving DecidableEq

inductive ExecutionBlockReason where
  | adapterUnavailable
  | resourceDenied
  | unsupportedEnvironment
  | observationUnavailable
  | safetyPolicyDenied
  | executorIntegrityFailure
  deriving DecidableEq

inductive KnowledgeBlockReason where
  | contradictoryObservation (receipt : ActionReceiptDigest)
  | executorBlocked (receipt : ActionReceiptDigest) (reason : ExecutionBlockReason)
  | dependencyCycle (receipt : ActionReceiptDigest) (fromNode toNode : DependencyNodeId)
  | hypothesisConflict (familyId : HypothesisFamilyId) (hypothesisId : KnowledgeHypothesisId)
  deriving DecidableEq

inductive KnowledgeObligationState where
  | open_ (attempts : Nat) (witnesses : Witnesses)
  | satisfied (attempts : Nat) (witnesses : Witnesses)
  | blocked (attempts : Nat) (witnesses : Witnesses) (reason : KnowledgeBlockReason)
  deriving DecidableEq

namespace KnowledgeObligationState

def attempts : KnowledgeObligationState → Nat
  | .open_ attempts _ | .satisfied attempts _ | .blocked attempts _ _ => attempts

def witnesses : KnowledgeObligationState → Witnesses
  | .open_ _ witnesses | .satisfied _ witnesses | .blocked _ witnesses _ => witnesses

def isOpen : KnowledgeObligationState → Bool
  | .open_ .. => true
  | _ => false

def isSatisfied : KnowledgeObligationState → Bool
  | .satisfied .. => true
  | _ => false

def isBlocked : KnowledgeObligationState → Bool
  | .blocked .. => true
  | _ => false

end KnowledgeObligationState

structure KnowledgeClaim where
  claimId : KnowledgeClaimId
  domain : KnowledgeDomain
  predicate : KnowledgePredicate
  assessment : ClaimAssessment
  deriving DecidableEq

structure KnowledgeObligation where
  obligationId : KnowledgeObligationId
  claimId : KnowledgeClaimId
  domain : KnowledgeDomain
  criterion : EvaluationCriterion
  plan : CognitivePlan
  state : KnowledgeObligationState
  deriving DecidableEq

inductive HypothesisAssessment where
  | viable
  | supported (witnesses : Witnesses)
  | refuted (witnesses : Witnesses)
  | conflicted (supporting refuting : Witnesses)
  deriving DecidableEq

namespace HypothesisAssessment

def isSupported : HypothesisAssessment → Bool
  | .supported _ => true
  | _ => false

def isRefuted : HypothesisAssessment → Bool
  | .refuted _ => true
  | _ => false

def isConflicted : HypothesisAssessment → Bool
  | .conflicted .. => true
  | _ => false

end HypothesisAssessment

structure KnowledgeHypothesis where
  hypothesisId : KnowledgeHypothesisId
  familyId : HypothesisFamilyId
  definition : KnowledgePredicate
  assessment : HypothesisAssessment

structure BudgetUsage where
  actions : Nat
  totalCost : Nat
  evidenceRecords : Nat

/-- A reported dependency of one node on another. -/
structure DependencyEdge where
  fromNode : DependencyNodeId
  toNode : DependencyNodeId

namespace DependencyEdge

instance : Ord DependencyEdge := ⟨compareLex (compareOn fromNode) (compareOn toNode)⟩

instance : Std.TransOrd DependencyEdge :=
  inferInstanceAs (Std.TransCmp (compareLex (compareOn fromNode) (compareOn toNode)))

instance : Std.LawfulEqOrd DependencyEdge where
  compare_self := fun {e} =>
    @Std.ReflCmp.compare_self _ (compareLex (compareOn fromNode) (compareOn toNode)) _ e
  eq_of_compare := by
    rintro ⟨a, b⟩ ⟨c, d⟩ h
    obtain ⟨hac, hbd⟩ := compareLex_eq_eq.mp h
    have hac' : a = c := @Std.LawfulEqCmp.eq_of_compare _ compare _ _ _ hac
    have hbd' : b = d := @Std.LawfulEqCmp.eq_of_compare _ compare _ _ _ hbd
    subst hac' hbd'
    rfl

end DependencyEdge

abbrev DependencyGraph := BTreeMap DependencyNodeId (BTreeSet DependencyNodeId)

inductive BoundedUnknownReason where
  | actionBudgetExhausted
  | costBudgetExhausted
  | revisionLimitReached
  | evidenceLimitReached
  | attemptLimitReached (obligationId : KnowledgeObligationId)
  | dependencyNodeLimitReached
  | dependencyEdgeLimitReached
  | dependencyDepthLimitReached (node : DependencyNodeId)
  | noAdmissibleInvocation
  deriving DecidableEq

/-- One revision of governed knowledge, without its digest. -/
structure KnowledgeStateProjection where
  schema : KnowledgeEngineSchema
  authorityRoot : AuthorityRootDigest
  inquiryId : InquiryId
  capabilityBundleReference : PrivateFileReference
  capabilityBundle : CapabilityBundleDigest
  policyDigest : KnowledgePolicyDigest
  revision : Nat
  parentDigest : Option KnowledgeStateDigest
  parentReference : Option PrivateFileReference
  lastActionReceiptReference : Option PrivateFileReference
  budget : KnowledgeBudget
  usage : BudgetUsage
  claims : BTreeMap KnowledgeClaimId KnowledgeClaim
  obligations : BTreeMap KnowledgeObligationId KnowledgeObligation
  hypotheses : BTreeMap KnowledgeHypothesisId KnowledgeHypothesis
  dependencyParents : BTreeMap DependencyNodeId (Option DependencyNodeId)
  dependencyDepths : BTreeMap DependencyNodeId Nat
  dependencyGraph : DependencyGraph
  boundedReason : Option BoundedUnknownReason
  appliedReceipts : BTreeSet ActionReceiptDigest
  usedEvidenceArtifacts : BTreeSet Sha256Digest

/-- One revision of governed knowledge, sealed by its digest. -/
structure KnowledgeState extends KnowledgeStateProjection where
  manifestDigest : KnowledgeStateDigest

/-! ## Invocations -/

/-- What ties an invocation to one attempt at one obligation of one state. -/
structure InvocationBinding where
  authorityInstance : AuthorityInstanceId
  authorityRoot : AuthorityRootDigest
  inquiryId : InquiryId
  capabilityBundle : CapabilityBundleDigest
  parentState : KnowledgeStateDigest
  actionId : KnowledgeActionId
  obligationId : KnowledgeObligationId
  claimId : KnowledgeClaimId
  attempt : Nat
  criterion : EvaluationCriterion
  deriving DecidableEq

@[ext]
structure TraceInvocation where
  binding : InvocationBinding
  observationKeys : BTreeSet ObservationKey
  maxEvents : Nat
  deriving DecidableEq

@[ext]
structure ScenarioInvocation where
  binding : InvocationBinding
  scenarioId : ScenarioId
  inputs : ScenarioInputs
  observationKeys : BTreeSet ObservationKey
  deriving DecidableEq

@[ext]
structure CausalInvocation where
  binding : InvocationBinding
  variable_ : InterventionVariableId
  baseline : ObservedValue
  treatment : ObservedValue
  effect : KnowledgePredicate
  predictions : Predictions
  deriving DecidableEq

@[ext]
structure CounterexampleInvocation where
  binding : InvocationBinding
  target : KnowledgePredicate
  maxCases : Nat
  predictions : Predictions
  deriving DecidableEq

@[ext]
structure FormalVerificationInvocation where
  binding : InvocationBinding
  proofSystem : ProofSystem
  property : KnowledgePredicate
  deriving DecidableEq

@[ext]
structure DependencyExpansionInvocation where
  binding : InvocationBinding
  root : DependencyNodeId
  depth : Nat
  maxDepth : Nat
  deriving DecidableEq

inductive CognitiveInvocation where
  | observeTrace (value : TraceInvocation)
  | executeScenario (value : ScenarioInvocation)
  | causalIntervention (value : CausalInvocation)
  | searchCounterexample (value : CounterexampleInvocation)
  | verifyFormalProperty (value : FormalVerificationInvocation)
  | expandDependencyClosure (value : DependencyExpansionInvocation)
  deriving DecidableEq

namespace CognitiveInvocation

def binding : CognitiveInvocation → InvocationBinding
  | .observeTrace value => value.binding
  | .executeScenario value => value.binding
  | .causalIntervention value => value.binding
  | .searchCounterexample value => value.binding
  | .verifyFormalProperty value => value.binding
  | .expandDependencyClosure value => value.binding

def actionId (i : CognitiveInvocation) : KnowledgeActionId := i.binding.actionId

def obligationId (i : CognitiveInvocation) : KnowledgeObligationId := i.binding.obligationId

def cost : CognitiveInvocation → Nat
  | .observeTrace _ => 2
  | .executeScenario _ => 3
  | .causalIntervention _ => 5
  | .searchCounterexample _ => 4
  | .verifyFormalProperty _ => 8
  | .expandDependencyClosure _ => 3

def predictions : CognitiveInvocation → Option Predictions
  | .causalIntervention value => some value.predictions
  | .searchCounterexample value => some value.predictions
  | _ => none

def isVerifyFormalProperty : CognitiveInvocation → Bool
  | .verifyFormalProperty _ => true
  | _ => false

def predictionKeys (predictions : Predictions) : BTreeSet ObservationKey :=
  .ofList ((values predictions).map KnowledgePredicate.observationKey)

/-- The observations a completed outcome must carry. -/
def requiredObservations (i : CognitiveInvocation) : BTreeSet ObservationKey :=
  let keys : BTreeSet ObservationKey :=
    match i with
    | .observeTrace value => value.observationKeys
    | .executeScenario value => value.observationKeys
    | .causalIntervention value => predictionKeys value.predictions
    | .searchCounterexample value => predictionKeys value.predictions
    | .verifyFormalProperty value => .ofList [value.property.observationKey]
    | .expandDependencyClosure _ => ∅
  let keys : BTreeSet ObservationKey :=
    match i with
    | .searchCounterexample value => keys.insert value.target.observationKey
    | _ => keys
  keys.insert i.binding.criterion.predicate.observationKey

end CognitiveInvocation

/-! ## Evidence, executors and outcomes -/

inductive EvidenceKind where
  | runtimeTrace
  | scenarioResult
  | causalComparison
  | counterexampleSearch
  | formalCertificate
  | formalSearchLog
  | dependencyGraph
  deriving DecidableEq

namespace EvidenceKind

lemma ctorIdx_injective : Function.Injective EvidenceKind.ctorIdx := by
  intro a b h
  cases a <;> cases b <;> first | rfl | cases h

instance : Ord EvidenceKind := ordBy EvidenceKind.ctorIdx
instance : Std.TransOrd EvidenceKind := transOrd_ordBy EvidenceKind.ctorIdx
instance : Std.LawfulEqOrd EvidenceKind := lawfulEqOrd_ordBy ctorIdx_injective

end EvidenceKind

structure EvidenceArtifactInput where
  kind : EvidenceKind
  artifact : PrivateFileReference

inductive ExecutorInterfaceVersion where
  | v1
  deriving DecidableEq

structure ExecutorIdentityDraft where
  executorId : ExecutorId
  interfaceVersion : ExecutorInterfaceVersion
  implementation : PrivateFileReference

structure ExecutorAttestation where
  executorId : ExecutorId
  interfaceVersion : ExecutorInterfaceVersion
  implementation : PrivateFileReference
  versionDigest : ExecutorVersionDigest
  deriving DecidableEq

inductive DiscoveredConcernKind where
  | effect
  | risk
  deriving DecidableEq

/-- A newly observed effect or risk, as a real obligation. -/
structure DiscoveredKnowledgeObligation where
  kind : DiscoveredConcernKind
  domain : KnowledgeDomain
  claimPredicate : KnowledgePredicate
  criterion : EvaluationCriterion
  plan : CognitivePlan
  deriving DecidableEq

abbrev Discoveries := BTreeMap DiscoveredConcernId DiscoveredKnowledgeObligation

inductive BoundedActionReason where
  | searchSpaceExhausted
  | proofInconclusive
  | traceLimitReached
  | scenarioIndeterminate
  deriving DecidableEq

inductive ActionOutcome where
  | completed (observations : Observations) (dependencyEdges : BTreeSet DependencyEdge)
      (discoveredObligations : Discoveries)
  | boundedNoResult (reason : BoundedActionReason)
  | blocked (reason : ExecutionBlockReason)
  deriving DecidableEq

namespace ActionOutcome

def observations : ActionOutcome → Option Observations
  | .completed observations _ _ => some observations
  | .boundedNoResult _ | .blocked _ => none

def isCompleted : ActionOutcome → Bool
  | .completed .. => true
  | _ => false

end ActionOutcome

/-! ## Receipts -/

structure KnowledgeEvidenceProjection where
  schema : KnowledgeEngineSchema
  authorityRoot : AuthorityRootDigest
  evidenceId : KnowledgeEvidenceId
  invocationDigest : CognitiveInvocationDigest
  executorId : ExecutorId
  kind : EvidenceKind
  artifact : PrivateFileReference
  outcomeDigest : ObservationSetDigest

structure KnowledgeEvidenceRecord extends KnowledgeEvidenceProjection where
  manifestDigest : KnowledgeEvidenceDigest

structure AuthenticatedEvidenceReference where
  evidenceId : KnowledgeEvidenceId
  kind : EvidenceKind
  record : PrivateFileReference
  recordDigest : KnowledgeEvidenceDigest
  sourceArtifactDigest : Sha256Digest

structure ActionReceiptProjection where
  schema : KnowledgeEngineSchema
  authorityRoot : AuthorityRootDigest
  inquiryId : InquiryId
  capabilityBundle : CapabilityBundleDigest
  parentState : KnowledgeStateDigest
  actionId : KnowledgeActionId
  invocation : CognitiveInvocation
  invocationDigest : CognitiveInvocationDigest
  executor : ExecutorAttestation
  outcome : ActionOutcome
  evidence : BTreeMap KnowledgeEvidenceId AuthenticatedEvidenceReference
  chargedCost : Nat

structure ActionReceipt extends ActionReceiptProjection where
  manifestDigest : ActionReceiptDigest

inductive KnowledgeTerminal where
  | scopedComplete (state : KnowledgeStateDigest) (revision : Nat)
      (establishedClaims : BTreeSet KnowledgeClaimId)
  | boundedUnknown (state : KnowledgeStateDigest) (revision : Nat)
      (reason : BoundedUnknownReason) (unresolvedObligations : BTreeSet KnowledgeObligationId)
  | blocked (state : KnowledgeStateDigest) (revision : Nat)
      (blockers : BTreeMap KnowledgeObligationId KnowledgeBlockReason)
  deriving DecidableEq

inductive PlanningDecision where
  | invoke (invocation : CognitiveInvocation)
  | terminal (terminal : KnowledgeTerminal)

structure TransitionChanges where
  satisfiedObligations : BTreeSet KnowledgeObligationId
  blockedObligations : BTreeSet KnowledgeObligationId
  establishedClaims : BTreeSet KnowledgeClaimId
  contradictedClaims : BTreeSet KnowledgeClaimId
  supportedHypotheses : BTreeSet KnowledgeHypothesisId
  refutedHypotheses : BTreeSet KnowledgeHypothesisId
  addedClaims : BTreeSet KnowledgeClaimId
  addedObligations : BTreeSet KnowledgeObligationId

def TransitionChanges.default : TransitionChanges :=
  ⟨∅, ∅, ∅, ∅, ∅, ∅, ∅, ∅⟩

structure TransitionProjection where
  schema : KnowledgeEngineSchema
  authorityRoot : AuthorityRootDigest
  inquiryId : InquiryId
  capabilityBundle : CapabilityBundleDigest
  fromState : KnowledgeStateDigest
  toState : KnowledgeStateDigest
  actionId : KnowledgeActionId
  actionReceipt : ActionReceiptDigest
  fromStateReference : PrivateFileReference
  toStateReference : PrivateFileReference
  actionReceiptReference : PrivateFileReference
  changes : TransitionChanges
  terminalAfter : Option KnowledgeTerminal

structure TransitionReceipt extends TransitionProjection where
  manifestDigest : TransitionReceiptDigest

structure KnowledgeAdvance where
  state : KnowledgeState
  transition : TransitionReceipt

end Tidex.Knowledge
