/-
  Knowledge.Evidence — evidence artifacts and their verifiers.
-/
import Tidex.Knowledge.Schema

namespace Tidex.Knowledge

open Tidex.Lib BTreeMap

/-! ## What an artifact is bound to -/

/-- The invocation and executor that a piece of evidence must be about. -/
structure EvidenceVerificationContext where
  authorityInstance : AuthorityInstanceId
  authorityRoot : AuthorityRootDigest
  invocation : CognitiveInvocation
  executor : ExecutorAttestation

/-- The authority, invocation and executor an artifact names. -/
structure EvidenceAuthorityBinding where
  schema : KnowledgeEngineSchema
  authorityInstance : AuthorityInstanceId
  authorityRoot : AuthorityRootDigest
  inquiryId : InquiryId
  capabilityBundle : CapabilityBundleDigest
  parentState : KnowledgeStateDigest
  actionId : KnowledgeActionId
  obligationId : KnowledgeObligationId
  claimId : KnowledgeClaimId
  attempt : Nat
  invocationDigest : CognitiveInvocationDigest
  executorId : ExecutorId
  executorInterfaceVersion : ExecutorInterfaceVersion
  executorImplementationDigest : Sha256Digest
  executorVersionDigest : ExecutorVersionDigest

instance : Serialize EvidenceAuthorityBinding where
  toJson b :=
    .obj [("schema", toJson b.schema), ("authority_instance", toJson b.authorityInstance),
      ("authority_root", toJson b.authorityRoot), ("inquiry_id", toJson b.inquiryId),
      ("capability_bundle", toJson b.capabilityBundle), ("parent_state", toJson b.parentState),
      ("action_id", toJson b.actionId), ("obligation_id", toJson b.obligationId),
      ("claim_id", toJson b.claimId), ("attempt", toJson b.attempt),
      ("invocation_digest", toJson b.invocationDigest), ("executor_id", toJson b.executorId),
      ("executor_interface_version", toJson b.executorInterfaceVersion),
      ("executor_implementation_digest", toJson b.executorImplementationDigest),
      ("executor_version_digest", toJson b.executorVersionDigest)]

/-- Whether an artifact is about the context's invocation and executor. -/
def EvidenceAuthorityBinding.validate [Platform] (b : EvidenceAuthorityBinding)
    (context : EvidenceVerificationContext) : BrainResult Unit :=
  let invocationBinding := context.invocation.binding
  let derivedRoot := authorityRootOf context.authorityInstance
  failIf (b.schema ≠ .v1
    ∨ derivedRoot ≠ context.authorityRoot
    ∨ b.authorityInstance ≠ context.authorityInstance
    ∨ b.authorityInstance ≠ invocationBinding.authorityInstance
    ∨ b.authorityRoot ≠ context.authorityRoot
    ∨ b.authorityRoot ≠ invocationBinding.authorityRoot
    ∨ b.inquiryId ≠ invocationBinding.inquiryId
    ∨ b.capabilityBundle ≠ invocationBinding.capabilityBundle
    ∨ b.parentState ≠ invocationBinding.parentState
    ∨ b.actionId ≠ invocationBinding.actionId
    ∨ b.obligationId ≠ invocationBinding.obligationId
    ∨ b.claimId ≠ invocationBinding.claimId
    ∨ b.attempt ≠ invocationBinding.attempt
    ∨ b.invocationDigest ≠ context.invocation.digest
    ∨ b.executorId ≠ context.executor.executorId
    ∨ b.executorInterfaceVersion ≠ context.executor.interfaceVersion
    ∨ b.executorImplementationDigest ≠ context.executor.implementation.sha256
    ∨ b.executorVersionDigest ≠ context.executor.versionDigest)
    (integrity "evidence_authority_binding_mismatch")

/-! ## Artifacts -/

inductive TraceEvidenceProtocol where
  | canonicalEventStreamV1
  deriving DecidableEq

inductive ScenarioEvidenceProtocol where
  | exactScenarioObservationV1
  deriving DecidableEq

inductive CausalEvidenceProtocol where
  | pairedInterventionV1
  deriving DecidableEq

inductive CounterexampleEvidenceProtocol where
  | deterministicCaseSearchV1
  deriving DecidableEq

inductive FormalEvidenceProtocol where
  | backendUnavailableV1
  | externalCertificateV1
  deriving DecidableEq

inductive DependencyGraphEvidenceProtocol where
  | canonicalDependencyEdgesV1
  deriving DecidableEq

instance : Serialize TraceEvidenceProtocol where
  toJson _ := .str "canonical_event_stream_v1"
  toJson_injective := by
    rintro ⟨⟩ ⟨⟩ -
    rfl

instance : Serialize ScenarioEvidenceProtocol where
  toJson _ := .str "exact_scenario_observation_v1"
  toJson_injective := by
    rintro ⟨⟩ ⟨⟩ -
    rfl

instance : Serialize CausalEvidenceProtocol where
  toJson _ := .str "paired_intervention_v1"
  toJson_injective := by
    rintro ⟨⟩ ⟨⟩ -
    rfl

instance : Serialize CounterexampleEvidenceProtocol where
  toJson _ := .str "deterministic_case_search_v1"
  toJson_injective := by
    rintro ⟨⟩ ⟨⟩ -
    rfl

instance : Serialize FormalEvidenceProtocol where
  toJson
    | .backendUnavailableV1 => .str "backend_unavailable_v1"
    | .externalCertificateV1 => .str "external_certificate_v1"

instance : Serialize DependencyGraphEvidenceProtocol where
  toJson _ := .str "canonical_dependency_edges_v1"
  toJson_injective := by
    rintro ⟨⟩ ⟨⟩ -
    rfl

structure TraceEvidenceEvent where
  ordinal : Nat
  observations : Observations

/-- An ordered stream of raw observations. -/
structure TraceEvidenceArtifact where
  binding : EvidenceAuthorityBinding
  protocol : TraceEvidenceProtocol
  observationKeys : BTreeSet ObservationKey
  maxEvents : Nat
  events : List TraceEvidenceEvent

structure ScenarioEvidenceArtifact where
  binding : EvidenceAuthorityBinding
  protocol : ScenarioEvidenceProtocol
  scenarioId : ScenarioId
  inputs : ScenarioInputs
  observationKeys : BTreeSet ObservationKey
  observations : Observations

/-- Both arms of one intervention. -/
structure CausalEvidenceArtifact where
  binding : EvidenceAuthorityBinding
  protocol : CausalEvidenceProtocol
  variable_ : InterventionVariableId
  baseline : ObservedValue
  treatment : ObservedValue
  effect : KnowledgePredicate
  predictions : Predictions
  baselineObservations : Observations
  treatmentObservations : Observations

structure CounterexampleCaseEvidence where
  inputs : ScenarioInputs
  observations : Observations

/-- The cases of a deterministic search. -/
structure CounterexampleEvidenceArtifact where
  binding : EvidenceAuthorityBinding
  protocol : CounterexampleEvidenceProtocol
  target : KnowledgePredicate
  maxCases : Nat
  predictions : Predictions
  cases : BTreeMap CounterexampleCaseId CounterexampleCaseEvidence

/-- Evidence that no proof checker is installed. -/
structure FormalVerificationEvidenceArtifact where
  binding : EvidenceAuthorityBinding
  protocol : FormalEvidenceProtocol
  proofSystem : ProofSystem
  property : KnowledgePredicate

structure UntrustedFormalCertificateArtifactDto where
  binding : EvidenceAuthorityBinding
  protocol : FormalEvidenceProtocol
  proofSystem : ProofSystem
  property : KnowledgePredicate
  certificate : List UInt8

/-- The edges out of one dependency node. -/
structure DependencyGraphEvidenceArtifact where
  binding : EvidenceAuthorityBinding
  protocol : DependencyGraphEvidenceProtocol
  root : DependencyNodeId
  depth : Nat
  maxDepth : Nat
  edges : BTreeSet DependencyEdge

instance : Serialize UInt8 where
  toJson n := .num n.toNat
  toJson_injective := by
    intro a b h
    exact UInt8.toNat_inj.mp (Int.ofNat.inj (Json.num.inj h))

instance : Serialize TraceEvidenceEvent where
  toJson e := .obj [("ordinal", toJson e.ordinal), ("observations", toJson e.observations)]

instance : Serialize TraceEvidenceArtifact where
  toJson a :=
    .obj [("binding", toJson a.binding), ("protocol", toJson a.protocol),
      ("observation_keys", toJson a.observationKeys), ("max_events", toJson a.maxEvents),
      ("events", toJson a.events)]

instance : Serialize ScenarioEvidenceArtifact where
  toJson a :=
    .obj [("binding", toJson a.binding), ("protocol", toJson a.protocol),
      ("scenario_id", toJson a.scenarioId), ("inputs", toJson a.inputs),
      ("observation_keys", toJson a.observationKeys), ("observations", toJson a.observations)]

instance : Serialize CausalEvidenceArtifact where
  toJson a :=
    .obj [("binding", toJson a.binding), ("protocol", toJson a.protocol),
      ("variable", toJson a.variable_), ("baseline", toJson a.baseline),
      ("treatment", toJson a.treatment), ("effect", toJson a.effect),
      ("predictions", toJson a.predictions),
      ("baseline_observations", toJson a.baselineObservations),
      ("treatment_observations", toJson a.treatmentObservations)]

instance : Serialize CounterexampleCaseEvidence where
  toJson c := .obj [("inputs", toJson c.inputs), ("observations", toJson c.observations)]

instance : Serialize CounterexampleEvidenceArtifact where
  toJson a :=
    .obj [("binding", toJson a.binding), ("protocol", toJson a.protocol),
      ("target", toJson a.target), ("max_cases", toJson a.maxCases),
      ("predictions", toJson a.predictions), ("cases", toJson a.cases)]

instance : Serialize FormalVerificationEvidenceArtifact where
  toJson a :=
    .obj [("binding", toJson a.binding), ("protocol", toJson a.protocol),
      ("proof_system", toJson a.proofSystem), ("property", toJson a.property)]

instance : Serialize UntrustedFormalCertificateArtifactDto where
  toJson a :=
    .obj [("binding", toJson a.binding), ("protocol", toJson a.protocol),
      ("proof_system", toJson a.proofSystem), ("property", toJson a.property),
      ("certificate", toJson a.certificate)]

instance : Serialize DependencyGraphEvidenceArtifact where
  toJson a :=
    .obj [("binding", toJson a.binding), ("protocol", toJson a.protocol),
      ("root", toJson a.root), ("depth", toJson a.depth), ("max_depth", toJson a.maxDepth),
      ("edges", toJson a.edges)]

section

variable [Platform]

def decodeCanonical (α : Type) [Serialize α] (encodingCode canonicalCode : String)
    (bytes : ByteArray) : BrainResult α := do
  let artifact ← okOr (Platform.fromSlice α bytes) (integrity encodingCode)
  failIf (toVec artifact ≠ bytes) (integrity canonicalCode)
  return artifact

def TraceEvidenceArtifact.decodeCanonical (bytes : ByteArray) :
    BrainResult TraceEvidenceArtifact :=
  Knowledge.decodeCanonical _ "trace_evidence_encoding_invalid" "trace_evidence_not_canonical"
    bytes

def ScenarioEvidenceArtifact.decodeCanonical (bytes : ByteArray) :
    BrainResult ScenarioEvidenceArtifact :=
  Knowledge.decodeCanonical _ "scenario_evidence_encoding_invalid"
    "scenario_evidence_not_canonical" bytes

def CausalEvidenceArtifact.decodeCanonical (bytes : ByteArray) :
    BrainResult CausalEvidenceArtifact :=
  Knowledge.decodeCanonical _ "causal_evidence_encoding_invalid" "causal_evidence_not_canonical"
    bytes

def CounterexampleEvidenceArtifact.decodeCanonical (bytes : ByteArray) :
    BrainResult CounterexampleEvidenceArtifact :=
  Knowledge.decodeCanonical _ "counterexample_evidence_encoding_invalid"
    "counterexample_evidence_not_canonical" bytes

def FormalVerificationEvidenceArtifact.decodeCanonical (bytes : ByteArray) :
    BrainResult FormalVerificationEvidenceArtifact :=
  Knowledge.decodeCanonical _ "formal_evidence_encoding_invalid" "formal_evidence_not_canonical"
    bytes

def UntrustedFormalCertificateArtifactDto.decodeCanonical (bytes : ByteArray) :
    BrainResult UntrustedFormalCertificateArtifactDto :=
  Knowledge.decodeCanonical _ "formal_certificate_encoding_invalid"
    "formal_certificate_not_canonical" bytes

def DependencyGraphEvidenceArtifact.decodeCanonical (bytes : ByteArray) :
    BrainResult DependencyGraphEvidenceArtifact :=
  Knowledge.decodeCanonical _ "dependency_graph_evidence_encoding_invalid"
    "dependency_graph_evidence_not_canonical" bytes

/-! ## Checks the verifiers share -/

def canonicalCompleted (observations : Observations) : ActionOutcome :=
  .completed observations ∅ ∅

def observationForPredicate : KnowledgePredicate → ObservedValue
  | .boolEquals _ expected => .bool expected
  | .i64Equals _ expected => .i64 expected
  | .u64Equals _ expected => .u64 expected
  | .u64AtLeast _ minimum => .u64 minimum
  | .u64AtMost _ maximum => .u64 maximum
  | .symbolEquals _ expected => .symbol expected
  | .exactBytesDigestEquals _ expected => .exactBytesDigest expected

def canonicalDependencyClosureObservations (invocation : DependencyExpansionInvocation) :
    Observations :=
  let predicate := invocation.binding.criterion.predicate
  .ofList [(predicate.observationKey, observationForPredicate predicate)]

def validateExactObservationKeys (observations : Observations)
    (expected : BTreeSet ObservationKey) (code : String) : BrainResult Unit :=
  failIf ((.ofList observations.keys : BTreeSet ObservationKey) ≠ expected) (integrity code)

def validatePredicateObservationTypes (observations : Observations)
    (predicates : List KnowledgePredicate) (code : String) : BrainResult Unit :=
  failIf (∃ p ∈ predicates,
    p.evaluate observations = .missing ∨ p.evaluate observations = .typeMismatch) (integrity code)

/-- The bytes of the one piece of evidence, which must be of the expected kind. -/
def readSingleEvidence (fs : PrivateRoot) (evidence : List EvidenceArtifactInput)
    (expectedKind : EvidenceKind) (code : String) : BrainResult ByteArray :=
  match evidence with
  | [input] => do
    failIf (input.kind ≠ expectedKind) (integrity code)
    input.artifact.readVerifiedBounded fs maxEvidenceArtifactBytes
  | _ => .error (integrity code)

/-! ## The verifiers -/

/-- One event of a trace: its ordinal is its position, and it observes requested
    keys only; later values replace earlier ones. -/
def replayEvent (trace : TraceInvocation) (observations : Observations)
    (event : TraceEvidenceEvent × Nat) : BrainResult Observations := do
  let (event, index) := event
  failIf (index ≥ u32Width) (invalid "trace_ordinal_overflow")
  failIf (event.ordinal ≠ index ∨ event.observations.isEmpty
    ∨ ∃ key ∈ event.observations.keys, key ∉ trace.observationKeys)
    (integrity "trace_evidence_event_invalid")
  return event.observations.toList.foldl (fun obs (key, value) => obs.insert key value)
    observations

def deriveTrace (fs : PrivateRoot) (context : EvidenceVerificationContext)
    (trace : TraceInvocation) (evidence : List EvidenceArtifactInput) :
    BrainResult ActionOutcome := do
  let bytes ← readSingleEvidence fs evidence .runtimeTrace
    "trace_evidence_cardinality_or_kind_invalid"
  let artifact ← TraceEvidenceArtifact.decodeCanonical bytes
  artifact.binding.validate context
  failIf (artifact.protocol ≠ .canonicalEventStreamV1
    ∨ artifact.observationKeys ≠ trace.observationKeys
    ∨ artifact.maxEvents ≠ trace.maxEvents
    ∨ artifact.events = []
    ∨ artifact.events.length ≥ u32Width ∨ artifact.events.length > trace.maxEvents)
    (integrity "trace_evidence_protocol_or_inputs_mismatch")
  let observations ← artifact.events.zipIdx.foldlM (replayEvent trace) ∅
  validateExactObservationKeys observations trace.observationKeys
    "trace_evidence_observations_incomplete"
  validatePredicateObservationTypes observations [trace.binding.criterion.predicate]
    "trace_evidence_observation_type_mismatch"
  return canonicalCompleted observations

def deriveScenario (fs : PrivateRoot) (context : EvidenceVerificationContext)
    (scenario : ScenarioInvocation) (evidence : List EvidenceArtifactInput) :
    BrainResult ActionOutcome := do
  let bytes ← readSingleEvidence fs evidence .scenarioResult
    "scenario_evidence_cardinality_or_kind_invalid"
  let artifact ← ScenarioEvidenceArtifact.decodeCanonical bytes
  artifact.binding.validate context
  failIf (artifact.protocol ≠ .exactScenarioObservationV1
    ∨ artifact.scenarioId ≠ scenario.scenarioId
    ∨ artifact.inputs ≠ scenario.inputs
    ∨ artifact.observationKeys ≠ scenario.observationKeys)
    (integrity "scenario_evidence_protocol_or_inputs_mismatch")
  validateExactObservationKeys artifact.observations scenario.observationKeys
    "scenario_evidence_observations_incomplete"
  validatePredicateObservationTypes artifact.observations [scenario.binding.criterion.predicate]
    "scenario_evidence_observation_type_mismatch"
  return canonicalCompleted artifact.observations

def deriveCausal (fs : PrivateRoot) (context : EvidenceVerificationContext)
    (causal : CausalInvocation) (evidence : List EvidenceArtifactInput) :
    BrainResult ActionOutcome := do
  let bytes ← readSingleEvidence fs evidence .causalComparison
    "causal_evidence_cardinality_or_kind_invalid"
  let artifact ← CausalEvidenceArtifact.decodeCanonical bytes
  artifact.binding.validate context
  failIf (artifact.protocol ≠ .pairedInterventionV1
    ∨ artifact.variable_ ≠ causal.variable_
    ∨ artifact.baseline ≠ causal.baseline
    ∨ artifact.treatment ≠ causal.treatment
    ∨ artifact.effect ≠ causal.effect
    ∨ artifact.predictions ≠ causal.predictions)
    (integrity "causal_evidence_protocol_or_inputs_mismatch")
  let required := context.invocation.requiredObservations
  validateExactObservationKeys artifact.baselineObservations required
    "causal_baseline_observations_incomplete"
  validateExactObservationKeys artifact.treatmentObservations required
    "causal_treatment_observations_incomplete"
  let predicates := causal.effect :: values causal.predictions
  validatePredicateObservationTypes artifact.baselineObservations predicates
    "causal_baseline_observation_type_mismatch"
  validatePredicateObservationTypes artifact.treatmentObservations predicates
    "causal_treatment_observation_type_mismatch"
  return canonicalCompleted artifact.treatmentObservations

/-- One case of a search: fresh inputs, the required observations with their types; the first
    contradicting case is kept. -/
def searchCase (required : BTreeSet ObservationKey) (target : KnowledgePredicate)
    (predicates : List KnowledgePredicate) (state : List ByteArray × Option Observations)
    (case : CounterexampleCaseEvidence) : BrainResult (List ByteArray × Option Observations) := do
  let (uniqueInputs, firstCounterexample) := state
  failIf (case.inputs.size > hardMaxScenarioInputs ∨ ∃ seen ∈ uniqueInputs, seen = toVec case.inputs)
    (integrity "counterexample_case_inputs_invalid")
  validateExactObservationKeys case.observations required
    "counterexample_case_observations_incomplete"
  validatePredicateObservationTypes case.observations predicates
    "counterexample_case_observation_type_mismatch"
  return (toVec case.inputs :: uniqueInputs,
    if firstCounterexample.isNone ∧ target.evaluate case.observations = .contradicts then
      some case.observations
    else firstCounterexample)

def deriveCounterexample (fs : PrivateRoot) (context : EvidenceVerificationContext)
    (search : CounterexampleInvocation) (evidence : List EvidenceArtifactInput) :
    BrainResult ActionOutcome := do
  let bytes ← readSingleEvidence fs evidence .counterexampleSearch
    "counterexample_evidence_cardinality_or_kind_invalid"
  let artifact ← CounterexampleEvidenceArtifact.decodeCanonical bytes
  artifact.binding.validate context
  failIf (artifact.protocol ≠ .deterministicCaseSearchV1
    ∨ artifact.target ≠ search.target
    ∨ artifact.maxCases ≠ search.maxCases
    ∨ artifact.predictions ≠ search.predictions
    ∨ artifact.cases.isEmpty
    ∨ artifact.cases.size ≥ u32Width ∨ artifact.cases.size > search.maxCases)
    (integrity "counterexample_evidence_protocol_or_inputs_mismatch")
  let required := context.invocation.requiredObservations
  let predicates := search.target :: values search.predictions
  let (_, firstCounterexample) ← (values artifact.cases).foldlM
    (searchCase required search.target predicates) ([], none)
  let observations ← okOr firstCounterexample
    (integrity "counterexample_evidence_contains_no_counterexample")
  return canonicalCompleted observations

def deriveDependencyGraph (fs : PrivateRoot) (context : EvidenceVerificationContext)
    (evidence : List EvidenceArtifactInput) : BrainResult ActionOutcome := do
  let bytes ← readSingleEvidence fs evidence .dependencyGraph
    "dependency_graph_evidence_cardinality_or_kind_invalid"
  let artifact ← DependencyGraphEvidenceArtifact.decodeCanonical bytes
  artifact.binding.validate context
  match context.invocation with
  | .expandDependencyClosure expansion => do
    failIf (artifact.protocol ≠ .canonicalDependencyEdgesV1
      ∨ artifact.root ≠ expansion.root
      ∨ artifact.depth ≠ expansion.depth
      ∨ artifact.maxDepth ≠ expansion.maxDepth
      ∨ ∃ edge ∈ artifact.edges.toList, edge.fromNode ≠ expansion.root)
      (integrity "dependency_graph_evidence_protocol_or_inputs_mismatch")
    return .completed (canonicalDependencyClosureObservations expansion) artifact.edges ∅
  | _ => .error (integrity "dependency_graph_verifier_requires_dependency_invocation")

def deriveFormalBackendUnavailable (fs : PrivateRoot) (context : EvidenceVerificationContext)
    (formal : FormalVerificationInvocation) (proposed : ActionOutcome)
    (evidence : List EvidenceArtifactInput) : BrainResult ActionOutcome := do
  let bytes ← readSingleEvidence fs evidence .formalSearchLog
    "formal_evidence_cardinality_or_kind_invalid"
  let artifact ← FormalVerificationEvidenceArtifact.decodeCanonical bytes
  artifact.binding.validate context
  failIf (artifact.protocol ≠ .backendUnavailableV1
    ∨ artifact.proofSystem ≠ formal.proofSystem
    ∨ artifact.property ≠ formal.property)
    (integrity "formal_evidence_protocol_or_inputs_mismatch")
  let derived := ActionOutcome.blocked .adapterUnavailable
  failIf (derived ≠ proposed) (integrity "formal_blocked_outcome_not_canonically_derived")
  return derived

def rejectUncheckedFormalCertificate (fs : PrivateRoot) (context : EvidenceVerificationContext)
    (formal : FormalVerificationInvocation) (evidence : List EvidenceArtifactInput) :
    BrainResult ActionOutcome := do
  let bytes ← readSingleEvidence fs evidence .formalCertificate
    "formal_certificate_cardinality_or_kind_invalid"
  let artifact ← UntrustedFormalCertificateArtifactDto.decodeCanonical bytes
  artifact.binding.validate context
  failIf (artifact.protocol ≠ .externalCertificateV1
    ∨ artifact.proofSystem ≠ formal.proofSystem
    ∨ artifact.property ≠ formal.property
    ∨ artifact.certificate = [])
    (integrity "formal_certificate_protocol_or_inputs_mismatch")
  .error (integrity "formal_certificate_checker_backend_unavailable")

/-- The verifier of a completed outcome, by the kind of its invocation. -/
def deriveByInvocation (fs : PrivateRoot) (context : EvidenceVerificationContext)
    (evidence : List EvidenceArtifactInput) : BrainResult ActionOutcome :=
  match context.invocation with
  | .observeTrace trace => deriveTrace fs context trace evidence
  | .executeScenario scenario => deriveScenario fs context scenario evidence
  | .causalIntervention causal => deriveCausal fs context causal evidence
  | .searchCounterexample search => deriveCounterexample fs context search evidence
  | .verifyFormalProperty formal => rejectUncheckedFormalCertificate fs context formal evidence
  | .expandDependencyClosure _ => deriveDependencyGraph fs context evidence

def deriveCompleted (fs : PrivateRoot) (context : EvidenceVerificationContext)
    (proposed : ActionOutcome) (evidence : List EvidenceArtifactInput) :
    BrainResult ActionOutcome :=
  match proposed with
  | .completed _ dependencyEdges discoveredObligations => do
    failIf (¬discoveredObligations.isEmpty
      ∨ (¬(context.invocation matches .expandDependencyClosure _) ∧ ¬dependencyEdges.isEmpty))
      (integrity "semantic_verifier_forbids_unverified_derivations")
    let derived ← deriveByInvocation fs context evidence
    failIf (derived ≠ proposed) (integrity "executor_outcome_not_canonically_derived")
    return derived
  | _ => .error (integrity "completed_evidence_derivation_requires_completed_outcome")

def deriveVerifiedOutcome (fs : PrivateRoot) (context : EvidenceVerificationContext)
    (proposed : ActionOutcome) (evidence : List EvidenceArtifactInput) :
    BrainResult ActionOutcome :=
  match context.invocation, proposed with
  | _, .completed .. => deriveCompleted fs context proposed evidence
  | .verifyFormalProperty formal, .blocked _ =>
    deriveFormalBackendUnavailable fs context formal proposed evidence
  | .verifyFormalProperty _, .boundedNoResult _ =>
    .error (integrity "formal_bounded_result_requires_real_backend")
  | _, _ => .ok proposed

/-! ## What the verifiers establish -/

/-- The predicates whose values a verifier type-checks. -/
def CognitiveInvocation.judgedPredicates : CognitiveInvocation → List KnowledgePredicate
  | .observeTrace trace => [trace.binding.criterion.predicate]
  | .executeScenario scenario => [scenario.binding.criterion.predicate]
  | .causalIntervention causal => causal.effect :: values causal.predictions
  | .searchCounterexample search => search.target :: values search.predictions
  | .verifyFormalProperty _ => []
  | .expandDependencyClosure expansion => [expansion.binding.criterion.predicate]

/-- A predicate that is either satisfied or contradicted: its key is observed
    with a value of its type. -/
def KnowledgePredicate.Decided (p : KnowledgePredicate) (observations : Observations) : Prop :=
  p.evaluate observations = .matches_ ∨ p.evaluate observations = .contradicts

/-- What is known of a completed outcome that a verifier derived. -/
structure VerifiedCompleted (invocation : CognitiveInvocation) (observations : Observations)
    (edges : BTreeSet DependencyEdge) (discoveries : Discoveries) : Prop where
  discoveries_eq : discoveries = ∅
  edges_from : ∀ e ∈ edges, ∃ x : DependencyExpansionInvocation,
    invocation = .expandDependencyClosure x ∧ e.fromNode = x.root
  closing : ∀ x, invocation = .expandDependencyClosure x →
    observations = canonicalDependencyClosureObservations x
  decided : ∀ p ∈ invocation.judgedPredicates, p.Decided observations
  not_formal : ∀ x, invocation ≠ .verifyFormalProperty x

variable {observations : Observations}

section

omit [Platform]

lemma decided_iff {p : KnowledgePredicate} : p.Decided observations ↔
      ¬(p.evaluate observations = .missing ∨ p.evaluate observations = .typeMismatch) := by
  unfold KnowledgePredicate.Decided
  cases p.evaluate observations <;> simp

lemma validatePredicateObservationTypes_ok {predicates : List KnowledgePredicate}
    {code : String} {u : Unit} :
    validatePredicateObservationTypes observations predicates code = .ok u ↔
      ∀ p ∈ predicates, p.Decided observations := by
  rw [validatePredicateObservationTypes, failIf_ok]
  simp only [decided_iff, not_exists, not_and]

lemma evaluate_canonicalDependencyClosureObservations (x : DependencyExpansionInvocation) :
    x.binding.criterion.predicate.evaluate (canonicalDependencyClosureObservations x) =
      .matches_ := by
  have hget : (canonicalDependencyClosureObservations x)[
      x.binding.criterion.predicate.observationKey]? =
      some (observationForPredicate x.binding.criterion.predicate) := by
    rw [canonicalDependencyClosureObservations, Std.ExtTreeMap.getElem?_ofList_of_mem
      (k := x.binding.criterion.predicate.observationKey)
      (v := observationForPredicate x.binding.criterion.predicate)]
    · simp
    · simp
    · simp
  unfold KnowledgePredicate.evaluate
  rw [hget]
  cases x.binding.criterion.predicate <;>
    simp [observationForPredicate, KnowledgePredicate.valueType, ObservedValue.valueType,
      KnowledgePredicate.matchesValue]

end

/-- What the derivation of one kind of invocation shows of its observations. -/
def DerivesDecided (predicates : List KnowledgePredicate) (r : BrainResult ActionOutcome) : Prop :=
  ∀ derived, r = .ok derived → ∃ observations, derived = canonicalCompleted observations ∧
    ∀ p ∈ predicates, p.Decided observations

variable {edges : BTreeSet DependencyEdge} {discoveries : Discoveries}

omit [Platform] in
lemma DerivesDecided.verifiedCompleted {invocation : CognitiveInvocation}
    {r : BrainResult ActionOutcome} (h : DerivesDecided invocation.judgedPredicates r)
    (hr : r = .ok (.completed observations edges discoveries))
    (hexpand : ∀ x, invocation ≠ .expandDependencyClosure x)
    (hformal : ∀ x, invocation ≠ .verifyFormalProperty x) :
    VerifiedCompleted invocation observations edges discoveries := by
  obtain ⟨obs, heq, hdecided⟩ := h _ hr
  cases heq
  exact ⟨rfl, by simp, fun x hx => absurd hx (hexpand x), hdecided, hformal⟩

lemma deriveTrace_decided (fs : PrivateRoot) (context : EvidenceVerificationContext)
    (trace : TraceInvocation) (evidence : List EvidenceArtifactInput) :
    DerivesDecided [trace.binding.criterion.predicate] (deriveTrace fs context trace evidence) := by
  intro derived h
  simp only [deriveTrace, bind_ok, pure_ok] at h
  obtain ⟨_, -, _, -, _, -, _, -, observations, -, _, -, _, htypes, rfl⟩ := h
  exact ⟨observations, rfl, validatePredicateObservationTypes_ok.mp htypes⟩

lemma deriveScenario_decided (fs : PrivateRoot) (context : EvidenceVerificationContext)
    (scenario : ScenarioInvocation) (evidence : List EvidenceArtifactInput) :
    DerivesDecided [scenario.binding.criterion.predicate]
      (deriveScenario fs context scenario evidence) := by
  intro derived h
  simp only [deriveScenario, bind_ok, pure_ok] at h
  obtain ⟨_, -, artifact, -, _, -, _, -, _, -, _, htypes, rfl⟩ := h
  exact ⟨artifact.observations, rfl, validatePredicateObservationTypes_ok.mp htypes⟩

lemma deriveCausal_decided (fs : PrivateRoot) (context : EvidenceVerificationContext)
    (causal : CausalInvocation) (evidence : List EvidenceArtifactInput) :
    DerivesDecided (causal.effect :: values causal.predictions)
      (deriveCausal fs context causal evidence) := by
  intro derived h
  simp only [deriveCausal, bind_ok, pure_ok] at h
  obtain ⟨_, -, artifact, -, _, -, _, -, _, -, _, -, _, -, _, htypes, rfl⟩ := h
  exact ⟨artifact.treatmentObservations, rfl, validatePredicateObservationTypes_ok.mp htypes⟩

omit [Platform] in
lemma searchCase_invariant {required : BTreeSet ObservationKey} {target : KnowledgePredicate}
    {predicates : List KnowledgePredicate} {cases : List CounterexampleCaseEvidence}
    {result : List ByteArray × Option Observations}
    (h : cases.foldlM (searchCase required target predicates) ([], none) = .ok result) :
    ∀ observations, result.2 = some observations → (∀ p ∈ predicates, p.Decided observations) ∧
        target.evaluate observations = .contradicts := by
  refine foldlM_ok_induction (fun state : List ByteArray × Option Observations =>
    ∀ observations, state.2 = some observations →
      (∀ p ∈ predicates, p.Decided observations) ∧
        target.evaluate observations = .contradicts) (by simp) ?_ h
  rintro ⟨seen, first⟩ case state' - hinv hstep
  simp only [searchCase, bind_ok, pure_ok] at hstep
  obtain ⟨_, -, _, -, _, htypes, rfl⟩ := hstep
  intro observations hobs
  simp only at hobs
  split at hobs
  · next hnew =>
    cases hobs
    exact ⟨validatePredicateObservationTypes_ok.mp htypes, hnew.2⟩
  · exact hinv observations hobs

lemma deriveCounterexample_decided (fs : PrivateRoot) (context : EvidenceVerificationContext)
    (search : CounterexampleInvocation) (evidence : List EvidenceArtifactInput) :
    DerivesDecided (search.target :: values search.predictions)
      (deriveCounterexample fs context search evidence) := by
  intro derived h
  simp only [deriveCounterexample, bind_ok, pure_ok, okOr_ok] at h
  obtain ⟨_, -, _, -, _, -, _, -, ⟨seen, first⟩, hloop, observations, hfirst, rfl⟩ := h
  exact ⟨observations, rfl, (searchCase_invariant hloop observations hfirst).1⟩

variable {fs : PrivateRoot} {context : EvidenceVerificationContext}
  {evidence : List EvidenceArtifactInput} {derived : ActionOutcome}

/-- The dependency verifier reports the canonical closing observation and edges
    out of the expanded node. -/
lemma deriveDependencyGraph_spec (h : deriveDependencyGraph fs context evidence = .ok derived) :
    ∃ (x : DependencyExpansionInvocation) (edges : BTreeSet DependencyEdge),
      context.invocation = .expandDependencyClosure x ∧
      derived = .completed (canonicalDependencyClosureObservations x) edges ∅ ∧
      ∀ e ∈ edges, e.fromNode = x.root := by
  simp only [deriveDependencyGraph, bind_ok] at h
  obtain ⟨_, -, artifact, -, _, -, h⟩ := h
  cases hinvocation : context.invocation with
  | expandDependencyClosure x =>
    simp only [hinvocation, bind_ok, pure_ok, failIf_ok, not_or, not_exists, not_and, not_not] at h
    obtain ⟨_, ⟨-, -, -, -, hedges⟩, rfl⟩ := h
    exact ⟨x, artifact.edges, rfl, rfl,
      fun e he => hedges e (Std.ExtTreeSet.mem_toList.mpr he)⟩
  | _ => simp [hinvocation] at h

lemma rejectUncheckedFormalCertificate_ne_ok {formal : FormalVerificationInvocation} :
    rejectUncheckedFormalCertificate fs context formal evidence ≠ .ok derived := by
  intro h
  simp [rejectUncheckedFormalCertificate, bind_ok] at h

lemma deriveByInvocation_spec
    (h : deriveByInvocation fs context evidence = .ok (.completed observations edges discoveries)) :
    VerifiedCompleted context.invocation observations edges discoveries := by
  unfold deriveByInvocation at h
  cases hinvocation : context.invocation with
  | expandDependencyClosure x =>
    simp only [hinvocation] at h
    obtain ⟨y, edges', hy, heq, hfrom⟩ := deriveDependencyGraph_spec h
    rw [hinvocation] at hy
    cases hy
    cases heq
    refine ⟨rfl, fun e he => ⟨x, rfl, hfrom e he⟩, fun y hy => by cases hy; rfl, ?_, by simp⟩
    intro p hp
    simp only [CognitiveInvocation.judgedPredicates, List.mem_singleton] at hp
    exact hp ▸ .inl (evaluate_canonicalDependencyClosureObservations x)
  | verifyFormalProperty formal =>
    simp only [hinvocation] at h
    exact absurd h rejectUncheckedFormalCertificate_ne_ok
  | observeTrace trace =>
    simp only [hinvocation] at h
    exact DerivesDecided.verifiedCompleted (deriveTrace_decided _ _ _ _) h (by simp) (by simp)
  | executeScenario scenario =>
    simp only [hinvocation] at h
    exact DerivesDecided.verifiedCompleted (deriveScenario_decided _ _ _ _) h (by simp) (by simp)
  | causalIntervention causal =>
    simp only [hinvocation] at h
    exact DerivesDecided.verifiedCompleted (deriveCausal_decided _ _ _ _) h (by simp) (by simp)
  | searchCounterexample search =>
    simp only [hinvocation] at h
    exact DerivesDecided.verifiedCompleted (deriveCounterexample_decided _ _ _ _) h (by simp) (by simp)

lemma deriveCompleted_spec {fs : PrivateRoot} {context : EvidenceVerificationContext}
    {observations : Observations} {edges : BTreeSet DependencyEdge} {discoveries : Discoveries}
    {evidence : List EvidenceArtifactInput} {derived : ActionOutcome}
    (h : deriveCompleted fs context (.completed observations edges discoveries) evidence =
      .ok derived) : derived = .completed observations edges discoveries ∧
      VerifiedCompleted context.invocation observations edges discoveries := by
  simp only [deriveCompleted, bind_ok, failIf_ok, pure_ok, not_or, not_and, not_not, ne_eq] at h
  obtain ⟨_, -, derived', hderived, _, rfl, rfl⟩ := h
  exact ⟨rfl, deriveByInvocation_spec hderived⟩

lemma deriveVerifiedOutcome_eq {proposed derived : ActionOutcome}
    (h : deriveVerifiedOutcome fs context proposed evidence = .ok derived) :
    derived = proposed := by
  cases proposed with
  | completed observations edges discoveries =>
    have hcompleted : deriveCompleted fs context (.completed observations edges discoveries)
        evidence = .ok derived := by
      simpa [deriveVerifiedOutcome] using h
    exact (deriveCompleted_spec hcompleted).1
  | boundedNoResult reason =>
    unfold deriveVerifiedOutcome at h
    cases hinvocation : context.invocation <;> simp_all
  | blocked reason =>
    unfold deriveVerifiedOutcome at h
    cases hinvocation : context.invocation with
    | verifyFormalProperty formal =>
      simp only [hinvocation, deriveFormalBackendUnavailable, bind_ok, pure_ok,
        failIf_ok, ne_eq, not_not] at h
      obtain ⟨_, -, _, -, _, -, _, -, _, hsame, rfl⟩ := h
      exact hsame
    | _ => simp_all

/-- What an accepted completed outcome satisfies. -/
lemma verifiedOutcome_of_derive {fs : PrivateRoot} {context : EvidenceVerificationContext}
    {observations : Observations} {edges : BTreeSet DependencyEdge} {discoveries : Discoveries}
    {evidence : List EvidenceArtifactInput} {derived : ActionOutcome}
    (h : deriveVerifiedOutcome fs context (.completed observations edges discoveries) evidence =
      .ok derived) : VerifiedCompleted context.invocation observations edges discoveries := by
  have hcompleted : deriveCompleted fs context (.completed observations edges discoveries)
      evidence = .ok derived := by
    simpa [deriveVerifiedOutcome] using h
  exact (deriveCompleted_spec hcompleted).2

end

end Tidex.Knowledge
