/-
  Knowledge.Wire — the stored form of the knowledge engine's records.

  One `Serialize` instance a type, with the member names, the member order and the tags
  the derived serializers write.
-/
import Tidex.Knowledge.Types

namespace Tidex.Knowledge

open Tidex.Lib Json

/-! ## Enumerations without data -/

def ProofSystem.wire : ProofSystem → String
  | .smt => "smt"
  | .modelChecking => "model_checking"
  | .theoremKernel => "theorem_kernel"
  | .abstractInterpretation => "abstract_interpretation"

def KnowledgeEngineSchema.wire : KnowledgeEngineSchema → String
  | .v1 => "v1"

def ExecutionBlockReason.wire : ExecutionBlockReason → String
  | .adapterUnavailable => "adapter_unavailable"
  | .resourceDenied => "resource_denied"
  | .unsupportedEnvironment => "unsupported_environment"
  | .observationUnavailable => "observation_unavailable"
  | .safetyPolicyDenied => "safety_policy_denied"
  | .executorIntegrityFailure => "executor_integrity_failure"

def EvidenceKind.wire : EvidenceKind → String
  | .runtimeTrace => "runtime_trace"
  | .scenarioResult => "scenario_result"
  | .causalComparison => "causal_comparison"
  | .counterexampleSearch => "counterexample_search"
  | .formalCertificate => "formal_certificate"
  | .formalSearchLog => "formal_search_log"
  | .dependencyGraph => "dependency_graph"

def ExecutorInterfaceVersion.wire : ExecutorInterfaceVersion → String
  | .v1 => "tidex.cognitive_executor/v1"

def DiscoveredConcernKind.wire : DiscoveredConcernKind → String
  | .effect => "effect"
  | .risk => "risk"

def BoundedActionReason.wire : BoundedActionReason → String
  | .searchSpaceExhausted => "search_space_exhausted"
  | .proofInconclusive => "proof_inconclusive"
  | .traceLimitReached => "trace_limit_reached"
  | .scenarioIndeterminate => "scenario_indeterminate"

instance : Serialize ProofSystem := serializeName ProofSystem.wire

instance : Serialize KnowledgeEngineSchema := serializeName KnowledgeEngineSchema.wire

instance : Serialize ExecutionBlockReason := serializeName ExecutionBlockReason.wire

instance : Serialize EvidenceKind := serializeName EvidenceKind.wire

instance : Serialize ExecutorInterfaceVersion := serializeName ExecutorInterfaceVersion.wire

instance : Serialize DiscoveredConcernKind := serializeName DiscoveredConcernKind.wire

instance : Serialize BoundedActionReason := serializeName BoundedActionReason.wire

/-! ## Observations, predicates and plans -/

instance : Serialize ObservedValue where
  toJson
    | .bool value => .obj [("type", .str "bool"), ("value", toJson value)]
    | .i64 value => .obj [("type", .str "i64"), ("value", toJson value)]
    | .u64 value => .obj [("type", .str "u64"), ("value", toJson value)]
    | .symbol value => .obj [("type", .str "symbol"), ("value", toJson value)]
    | .exactBytesDigest value => .obj [("type", .str "exact_bytes_digest"), ("value", toJson value)]

instance : Serialize KnowledgePredicate where
  toJson
    | .boolEquals key expected =>
      .obj [("operator", .str "bool_equals"), ("key", toJson key), ("expected", toJson expected)]
    | .i64Equals key expected =>
      .obj [("operator", .str "i64_equals"), ("key", toJson key), ("expected", toJson expected)]
    | .u64Equals key expected =>
      .obj [("operator", .str "u64_equals"), ("key", toJson key), ("expected", toJson expected)]
    | .u64AtLeast key minimum =>
      .obj [("operator", .str "u64_at_least"), ("key", toJson key), ("minimum", toJson minimum)]
    | .u64AtMost key maximum =>
      .obj [("operator", .str "u64_at_most"), ("key", toJson key), ("maximum", toJson maximum)]
    | .symbolEquals key expected =>
      .obj [("operator", .str "symbol_equals"), ("key", toJson key), ("expected", toJson expected)]
    | .exactBytesDigestEquals key expected =>
      .obj [("operator", .str "exact_bytes_digest_equals"), ("key", toJson key),
        ("expected", toJson expected)]

instance : Serialize EvaluationCriterion where
  toJson c := .obj [("predicate", toJson c.predicate)]

instance : Serialize KnowledgeDomain where
  toJson
    | .traceBehavior => .obj [("domain", .str "trace_behavior")]
    | .scenarioBehavior => .obj [("domain", .str "scenario_behavior")]
    | .causalMechanism => .obj [("domain", .str "causal_mechanism")]
    | .adversarialBoundary => .obj [("domain", .str "adversarial_boundary")]
    | .formalProperty => .obj [("domain", .str "formal_property")]
    | .dependencyClosure => .obj [("domain", .str "dependency_closure")]
    | .profiled profileId => .obj [("domain", .str "profiled"), ("profile_id", toJson profileId)]

instance : Serialize CognitivePlan where
  toJson
    | .observeTrace observationKeys maxEvents =>
      .obj [("method", .str "observe_trace"), ("observation_keys", toJson observationKeys),
        ("max_events", toJson maxEvents)]
    | .executeScenario scenarioId inputs observationKeys =>
      .obj [("method", .str "execute_scenario"), ("scenario_id", toJson scenarioId),
        ("inputs", toJson inputs), ("observation_keys", toJson observationKeys)]
    | .causalIntervention variable_ baseline treatment effect predictions =>
      .obj [("method", .str "causal_intervention"), ("variable", toJson variable_),
        ("baseline", toJson baseline), ("treatment", toJson treatment),
        ("effect", toJson effect), ("predictions", toJson predictions)]
    | .searchCounterexample target maxCases predictions =>
      .obj [("method", .str "search_counterexample"), ("target", toJson target),
        ("max_cases", toJson maxCases), ("predictions", toJson predictions)]
    | .verifyFormalProperty proofSystem property =>
      .obj [("method", .str "verify_formal_property"), ("proof_system", toJson proofSystem),
        ("property", toJson property)]
    | .expandDependencyClosure root depth maxDepth =>
      .obj [("method", .str "expand_dependency_closure"), ("root", toJson root),
        ("depth", toJson depth), ("max_depth", toJson maxDepth)]

instance : Serialize KnowledgeBudget where
  toJson b :=
    .obj [("max_actions", toJson b.maxActions), ("max_total_cost", toJson b.maxTotalCost),
      ("max_revision", toJson b.maxRevision),
      ("max_dependency_nodes", toJson b.maxDependencyNodes),
      ("max_dependency_edges", toJson b.maxDependencyEdges),
      ("max_dependency_depth", toJson b.maxDependencyDepth),
      ("max_evidence_records", toJson b.maxEvidenceRecords),
      ("max_observations_per_action", toJson b.maxObservationsPerAction)]

/-! ## The state -/

instance : Serialize ClaimAssessment where
  toJson
    | .unresolved => .obj [("assessment", .str "unresolved")]
    | .established witnesses =>
      .obj [("assessment", .str "established"), ("witnesses", toJson witnesses)]
    | .contradicted witnesses =>
      .obj [("assessment", .str "contradicted"), ("witnesses", toJson witnesses)]

instance : Serialize KnowledgeBlockReason where
  toJson
    | .contradictoryObservation receipt =>
      .obj [("block", .str "contradictory_observation"), ("receipt", toJson receipt)]
    | .executorBlocked receipt reason =>
      .obj [("block", .str "executor_blocked"), ("receipt", toJson receipt),
        ("reason", toJson reason)]
    | .dependencyCycle receipt fromNode toNode =>
      .obj [("block", .str "dependency_cycle"), ("receipt", toJson receipt),
        ("from", toJson fromNode), ("to", toJson toNode)]
    | .hypothesisConflict familyId hypothesisId =>
      .obj [("block", .str "hypothesis_conflict"), ("family_id", toJson familyId),
        ("hypothesis_id", toJson hypothesisId)]

instance : Serialize KnowledgeObligationState where
  toJson
    | .open_ attempts witnesses =>
      .obj [("state", .str "open"), ("attempts", toJson attempts), ("witnesses", toJson witnesses)]
    | .satisfied attempts witnesses =>
      .obj [("state", .str "satisfied"), ("attempts", toJson attempts),
        ("witnesses", toJson witnesses)]
    | .blocked attempts witnesses reason =>
      .obj [("state", .str "blocked"), ("attempts", toJson attempts),
        ("witnesses", toJson witnesses), ("reason", toJson reason)]

instance : Serialize KnowledgeClaim where
  toJson c :=
    .obj [("claim_id", toJson c.claimId), ("domain", toJson c.domain),
      ("predicate", toJson c.predicate), ("assessment", toJson c.assessment)]

instance : Serialize KnowledgeObligation where
  toJson o :=
    .obj [("obligation_id", toJson o.obligationId), ("claim_id", toJson o.claimId),
      ("domain", toJson o.domain), ("criterion", toJson o.criterion), ("plan", toJson o.plan),
      ("state", toJson o.state)]

instance : Serialize HypothesisAssessment where
  toJson
    | .viable => .obj [("assessment", .str "viable")]
    | .supported witnesses =>
      .obj [("assessment", .str "supported"), ("witnesses", toJson witnesses)]
    | .refuted witnesses =>
      .obj [("assessment", .str "refuted"), ("witnesses", toJson witnesses)]
    | .conflicted supporting refuting =>
      .obj [("assessment", .str "conflicted"), ("supporting", toJson supporting),
        ("refuting", toJson refuting)]

instance : Serialize KnowledgeHypothesis where
  toJson y :=
    .obj [("hypothesis_id", toJson y.hypothesisId), ("family_id", toJson y.familyId),
      ("definition", toJson y.definition), ("assessment", toJson y.assessment)]

instance : Serialize BudgetUsage where
  toJson u :=
    .obj [("actions", toJson u.actions), ("total_cost", toJson u.totalCost),
      ("evidence_records", toJson u.evidenceRecords)]

instance : Serialize DependencyEdge where
  toJson e := .obj [("from", toJson e.fromNode), ("to", toJson e.toNode)]

instance : SerializeSome BoundedUnknownReason where
  toJson
    | .actionBudgetExhausted => .str "action_budget_exhausted"
    | .costBudgetExhausted => .str "cost_budget_exhausted"
    | .revisionLimitReached => .str "revision_limit_reached"
    | .evidenceLimitReached => .str "evidence_limit_reached"
    | .attemptLimitReached obligationId =>
      .obj [("attempt_limit_reached", .obj [("obligation_id", toJson obligationId)])]
    | .dependencyNodeLimitReached => .str "dependency_node_limit_reached"
    | .dependencyEdgeLimitReached => .str "dependency_edge_limit_reached"
    | .dependencyDepthLimitReached node =>
      .obj [("dependency_depth_limit_reached", .obj [("node", toJson node)])]
    | .noAdmissibleInvocation => .str "no_admissible_invocation"
  toJson_ne_null := by
    intro a h
    cases a <;> cases h

def KnowledgeStateProjection.members (s : KnowledgeStateProjection) : List (String × Json) :=
  [("schema", toJson s.schema), ("authority_root", toJson s.authorityRoot),
    ("inquiry_id", toJson s.inquiryId),
    ("capability_bundle_reference", toJson s.capabilityBundleReference),
    ("capability_bundle", toJson s.capabilityBundle), ("policy_digest", toJson s.policyDigest),
    ("revision", toJson s.revision), ("parent_digest", toJson s.parentDigest),
    ("parent_reference", toJson s.parentReference),
    ("last_action_receipt_reference", toJson s.lastActionReceiptReference),
    ("budget", toJson s.budget), ("usage", toJson s.usage), ("claims", toJson s.claims),
    ("obligations", toJson s.obligations), ("hypotheses", toJson s.hypotheses),
    ("dependency_parents", toJson s.dependencyParents),
    ("dependency_depths", toJson s.dependencyDepths),
    ("dependency_graph", toJson s.dependencyGraph), ("bounded_reason", toJson s.boundedReason),
    ("applied_receipts", toJson s.appliedReceipts),
    ("used_evidence_artifacts", toJson s.usedEvidenceArtifacts)]

instance : Serialize KnowledgeStateProjection where
  toJson s := .obj s.members
  toJson_injective := by
    rintro ⟨⟩ ⟨⟩ h
    simp_all [KnowledgeStateProjection.members]

instance : Serialize KnowledgeState where
  toJson s :=
    .obj (s.toKnowledgeStateProjection.members ++ [("manifest_digest", toJson s.manifestDigest)])
  toJson_injective := by
    rintro ⟨p, d⟩ ⟨q, e⟩ h
    obtain ⟨hpq, hde⟩ := List.append_inj' (obj.inj h) rfl
    have hp : p = q := toJson_inj.mp (congrArg obj hpq)
    have hd : d = e := by simpa using hde
    rw [hp, hd]

/-! ## Invocations -/

instance : Serialize InvocationBinding where
  toJson b :=
    .obj [("authority_instance", toJson b.authorityInstance),
      ("authority_root", toJson b.authorityRoot), ("inquiry_id", toJson b.inquiryId),
      ("capability_bundle", toJson b.capabilityBundle), ("parent_state", toJson b.parentState),
      ("action_id", toJson b.actionId), ("obligation_id", toJson b.obligationId),
      ("claim_id", toJson b.claimId), ("attempt", toJson b.attempt),
      ("criterion", toJson b.criterion)]

instance : Serialize CognitiveInvocation where
  toJson
    | .observeTrace v =>
      .obj [("invocation", .str "observe_trace"), ("binding", toJson v.binding),
        ("observation_keys", toJson v.observationKeys), ("max_events", toJson v.maxEvents)]
    | .executeScenario v =>
      .obj [("invocation", .str "execute_scenario"), ("binding", toJson v.binding),
        ("scenario_id", toJson v.scenarioId), ("inputs", toJson v.inputs),
        ("observation_keys", toJson v.observationKeys)]
    | .causalIntervention v =>
      .obj [("invocation", .str "causal_intervention"), ("binding", toJson v.binding),
        ("variable", toJson v.variable_), ("baseline", toJson v.baseline),
        ("treatment", toJson v.treatment), ("effect", toJson v.effect),
        ("predictions", toJson v.predictions)]
    | .searchCounterexample v =>
      .obj [("invocation", .str "search_counterexample"), ("binding", toJson v.binding),
        ("target", toJson v.target), ("max_cases", toJson v.maxCases),
        ("predictions", toJson v.predictions)]
    | .verifyFormalProperty v =>
      .obj [("invocation", .str "verify_formal_property"), ("binding", toJson v.binding),
        ("proof_system", toJson v.proofSystem), ("property", toJson v.property)]
    | .expandDependencyClosure v =>
      .obj [("invocation", .str "expand_dependency_closure"), ("binding", toJson v.binding),
        ("root", toJson v.root), ("depth", toJson v.depth), ("max_depth", toJson v.maxDepth)]
  toJson_injective := by
    intro a b h
    cases a <;> cases b <;>
      simp_all [TraceInvocation.ext_iff, ScenarioInvocation.ext_iff, CausalInvocation.ext_iff,
        CounterexampleInvocation.ext_iff, FormalVerificationInvocation.ext_iff,
        DependencyExpansionInvocation.ext_iff]

/-! ## Outcomes and receipts -/

instance : Serialize DiscoveredKnowledgeObligation where
  toJson d :=
    .obj [("kind", toJson d.kind), ("domain", toJson d.domain),
      ("claim_predicate", toJson d.claimPredicate), ("criterion", toJson d.criterion),
      ("plan", toJson d.plan)]

instance : Serialize ActionOutcome where
  toJson
    | .completed observations dependencyEdges discoveredObligations =>
      .obj [("outcome", .str "completed"), ("observations", toJson observations),
        ("dependency_edges", toJson dependencyEdges),
        ("discovered_obligations", toJson discoveredObligations)]
    | .boundedNoResult reason =>
      .obj [("outcome", .str "bounded_no_result"), ("reason", toJson reason)]
    | .blocked reason => .obj [("outcome", .str "blocked"), ("reason", toJson reason)]

instance : Serialize ExecutorAttestation where
  toJson e :=
    .obj [("executor_id", toJson e.executorId), ("interface_version", toJson e.interfaceVersion),
      ("implementation", toJson e.implementation), ("version_digest", toJson e.versionDigest)]

def KnowledgeEvidenceProjection.members (r : KnowledgeEvidenceProjection) :
    List (String × Json) :=
  [("schema", toJson r.schema), ("authority_root", toJson r.authorityRoot),
    ("evidence_id", toJson r.evidenceId), ("invocation_digest", toJson r.invocationDigest),
    ("executor_id", toJson r.executorId), ("kind", toJson r.kind),
    ("artifact", toJson r.artifact), ("outcome_digest", toJson r.outcomeDigest)]

instance : Serialize KnowledgeEvidenceProjection where
  toJson r := .obj r.members
  toJson_injective := by
    rintro ⟨⟩ ⟨⟩ h
    simp_all [KnowledgeEvidenceProjection.members]

instance : Serialize KnowledgeEvidenceRecord where
  toJson r :=
    .obj (r.toKnowledgeEvidenceProjection.members ++
      [("manifest_digest", toJson r.manifestDigest)])
  toJson_injective := by
    rintro ⟨p, d⟩ ⟨q, e⟩ h
    obtain ⟨hpq, hde⟩ := List.append_inj' (obj.inj h) rfl
    have hp : p = q := toJson_inj.mp (congrArg obj hpq)
    have hd : d = e := by simpa using hde
    rw [hp, hd]

instance : Serialize AuthenticatedEvidenceReference where
  toJson r :=
    .obj [("evidence_id", toJson r.evidenceId), ("kind", toJson r.kind),
      ("record", toJson r.record), ("record_digest", toJson r.recordDigest),
      ("source_artifact_digest", toJson r.sourceArtifactDigest)]

def ActionReceiptProjection.members (r : ActionReceiptProjection) : List (String × Json) :=
  [("schema", toJson r.schema), ("authority_root", toJson r.authorityRoot),
    ("inquiry_id", toJson r.inquiryId), ("capability_bundle", toJson r.capabilityBundle),
    ("parent_state", toJson r.parentState), ("action_id", toJson r.actionId),
    ("invocation", toJson r.invocation), ("invocation_digest", toJson r.invocationDigest),
    ("executor", toJson r.executor), ("outcome", toJson r.outcome),
    ("evidence", toJson r.evidence), ("charged_cost", toJson r.chargedCost)]

instance : Serialize ActionReceiptProjection where
  toJson r := .obj r.members
  toJson_injective := by
    rintro ⟨⟩ ⟨⟩ h
    simp_all [ActionReceiptProjection.members]

instance : Serialize ActionReceipt where
  toJson r :=
    .obj (r.toActionReceiptProjection.members ++ [("manifest_digest", toJson r.manifestDigest)])
  toJson_injective := by
    rintro ⟨p, d⟩ ⟨q, e⟩ h
    obtain ⟨hpq, hde⟩ := List.append_inj' (obj.inj h) rfl
    have hp : p = q := toJson_inj.mp (congrArg obj hpq)
    have hd : d = e := by simpa using hde
    rw [hp, hd]

/-! ## Transitions and heads -/

instance : SerializeSome KnowledgeTerminal where
  toJson
    | .scopedComplete state revision establishedClaims =>
      .obj [("terminal", .str "scoped_complete"), ("state", toJson state),
        ("revision", toJson revision), ("established_claims", toJson establishedClaims)]
    | .boundedUnknown state revision reason unresolvedObligations =>
      .obj [("terminal", .str "bounded_unknown"), ("state", toJson state),
        ("revision", toJson revision), ("reason", toJson reason),
        ("unresolved_obligations", toJson unresolvedObligations)]
    | .blocked state revision blockers =>
      .obj [("terminal", .str "blocked"), ("state", toJson state),
        ("revision", toJson revision), ("blockers", toJson blockers)]
  toJson_ne_null := by
    intro a h
    cases a <;> cases h

instance : Serialize TransitionChanges where
  toJson c :=
    .obj [("satisfied_obligations", toJson c.satisfiedObligations),
      ("blocked_obligations", toJson c.blockedObligations),
      ("established_claims", toJson c.establishedClaims),
      ("contradicted_claims", toJson c.contradictedClaims),
      ("supported_hypotheses", toJson c.supportedHypotheses),
      ("refuted_hypotheses", toJson c.refutedHypotheses),
      ("added_claims", toJson c.addedClaims), ("added_obligations", toJson c.addedObligations)]

def TransitionProjection.members (t : TransitionProjection) : List (String × Json) :=
  [("schema", toJson t.schema), ("authority_root", toJson t.authorityRoot),
    ("inquiry_id", toJson t.inquiryId), ("capability_bundle", toJson t.capabilityBundle),
    ("from_state", toJson t.fromState), ("to_state", toJson t.toState),
    ("action_id", toJson t.actionId), ("action_receipt", toJson t.actionReceipt),
    ("from_state_reference", toJson t.fromStateReference),
    ("to_state_reference", toJson t.toStateReference),
    ("action_receipt_reference", toJson t.actionReceiptReference),
    ("changes", toJson t.changes), ("terminal_after", toJson t.terminalAfter)]

instance : Serialize TransitionProjection where
  toJson t := .obj t.members
  toJson_injective := by
    rintro ⟨⟩ ⟨⟩ h
    simp_all [TransitionProjection.members]

/-! ## Digests of sealed records -/

section

variable [Platform]

def KnowledgeStateProjection.calculateDigest (s : KnowledgeStateProjection) :
    KnowledgeStateDigest :=
  .computed _ stateDomain (toVec s)

def KnowledgeEvidenceProjection.calculateDigest (r : KnowledgeEvidenceProjection) :
    KnowledgeEvidenceDigest :=
  .computed _ evidenceDomain (toVec r)

def ActionReceiptProjection.calculateDigest (r : ActionReceiptProjection) : ActionReceiptDigest :=
  .computed _ receiptDomain (toVec r)

def TransitionProjection.calculateDigest (t : TransitionProjection) : TransitionReceiptDigest :=
  .computed _ transitionDomain (toVec t)

def CognitiveInvocation.digest (i : CognitiveInvocation) : CognitiveInvocationDigest :=
  .computed _ invocationDomain (toVec i)

def outcomeDigest (o : ActionOutcome) : ObservationSetDigest :=
  .computed _ observationDomain (toVec o)

def authorityRootOf (instance_ : AuthorityInstanceId) : AuthorityRootDigest :=
  .computed _ rootDomain (toVec instance_)

def KnowledgeStateProjection.seal (s : KnowledgeStateProjection) : KnowledgeState :=
  { s with manifestDigest := s.calculateDigest }

def calculateExecutorVersionDigest (executorId : ExecutorId)
    (interfaceVersion : ExecutorInterfaceVersion)
    (declaredImplementationDigest observedImplementationDigest : Sha256Digest) :
    ExecutorVersionDigest :=
  .computed _ executorVersionDomain
    (tupleToVec [toJson executorId, toJson interfaceVersion, toJson declaredImplementationDigest,
      toJson observedImplementationDigest])

end

end Tidex.Knowledge
