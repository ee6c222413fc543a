/-
  Knowledge.Advance — one authenticated action reduces one state.
-/
import Tidex.Knowledge.Receipt
import Tidex.Knowledge.Expansion

namespace Tidex.Knowledge

open Tidex.Lib Relation Std.ExtTreeMap BTreeMap BTreeSet

/-! ## The reducers -/

section

variable [Platform]

def chargeReceipt (E : KnowledgeEngine) (s : KnowledgeState) (receipt : ActionReceipt) :
    BrainResult KnowledgeStateProjection := do
  let revision ← checkedAdd u64Width s.revision 1 (invalid "knowledge_revision_overflow")
  let actions ← checkedAdd u64Width s.usage.actions 1 (invalid "knowledge_action_count_overflow")
  let totalCost ← checkedAdd u64Width s.usage.totalCost receipt.chargedCost
    (invalid "knowledge_cost_overflow")
  let evidenceRecords ← checkedAdd u64Width s.usage.evidenceRecords receipt.evidence.size
    (invalid "knowledge_evidence_count_overflow")
  let appliedReceipts ← BTreeSet.insertOnce id (integrity "action_receipt_replayed")
    s.appliedReceipts receipt.manifestDigest
  let usedEvidenceArtifacts ← (BTreeMap.values receipt.evidence).foldlM
    (BTreeSet.insertOnce AuthenticatedEvidenceReference.sourceArtifactDigest
      (integrity "action_receipt_source_evidence_replayed")) s.usedEvidenceArtifacts
  return { s.toKnowledgeStateProjection with
    parentDigest := some s.manifestDigest
    parentReference := some (E.stateReference s)
    lastActionReceiptReference := some (E.actionReceiptReference receipt)
    revision := revision
    usage := ⟨actions, totalCost, evidenceRecords⟩
    appliedReceipts := appliedReceipts
    usedEvidenceArtifacts := usedEvidenceArtifacts }

def reducePrediction (observations : Observations) (receiptDigest : ActionReceiptDigest)
    (entry : KnowledgeHypothesisId × KnowledgePredicate) (hypothesis : KnowledgeHypothesis) :
    BrainResult KnowledgeHypothesis := do
  let assessment ← reduceHypothesisAssessment hypothesis.assessment
    (entry.2.evaluate observations) receiptDigest
  return { hypothesis with assessment := assessment }

def reduceHypotheses (receipt : ActionReceipt)
    (hypotheses : BTreeMap KnowledgeHypothesisId KnowledgeHypothesis) :
    BrainResult (BTreeMap KnowledgeHypothesisId KnowledgeHypothesis) :=
  match receipt.invocation.predictions, receipt.outcome.observations with
  | some predictions, some observations =>
    predictions.toList.foldlM (updateEach Prod.fst
      (reducePrediction observations receipt.manifestDigest)
      (integrity "receipt_prediction_hypothesis_missing")) hypotheses
  | _, _ => .ok hypotheses

def reducedState (receipt : ActionReceipt) (prior : KnowledgeObligationState) :
    BrainResult KnowledgeObligationState := do
  let attempts ← checkedAdd u16Width prior.attempts 1 (invalid "knowledge_attempt_overflow")
  let witnesses := prior.witnesses.insert receipt.manifestDigest
  match receipt.outcome with
  | .completed observations _ _ =>
    match receipt.invocation.binding.criterion.predicate.evaluate observations with
    | .matches_ => return .satisfied attempts witnesses
    | .contradicts =>
      return .blocked attempts witnesses (.contradictoryObservation receipt.manifestDigest)
    | .missing => .error (integrity "receipt_missing_precommitted_criterion")
    | .typeMismatch => .error (integrity "receipt_criterion_observation_type_mismatch")
  | .boundedNoResult _ => return .open_ attempts witnesses
  | .blocked reason =>
    return .blocked attempts witnesses (.executorBlocked receipt.manifestDigest reason)

def reduceObligation (receipt : ActionReceipt)
    (obligations : BTreeMap KnowledgeObligationId KnowledgeObligation) :
    BrainResult (BTreeMap KnowledgeObligationId KnowledgeObligation) := do
  let prior ← okOr obligations[receipt.invocation.obligationId]?
    (integrity "action_obligation_missing")
  let state ← reducedState receipt prior.state
  return obligations.insert receipt.invocation.obligationId { prior with state := state }

def concernIdentityPayload (s : KnowledgeStateProjection) (concernId : DiscoveredConcernId)
    (kind : DiscoveredConcernKind) : ByteArray :=
  tupleToVec [toJson s.inquiryId, toJson s.capabilityBundle, toJson concernId, toJson kind]

def indexDiscoveredRoot (state : KnowledgeStateProjection) :
    CognitivePlan → BrainResult (Option KnowledgeStateProjection)
  | .expandDependencyClosure root depth _ =>
    match state.dependencyDepths[root]? with
    | some existingDepth => do
      failIf (existingDepth ≠ depth) (integrity "discovered_dependency_depth_conflict")
      return some state
    | none =>
      if depth = 0 then
        if state.dependencyParents.size ≥ state.budget.maxDependencyNodes then .ok none
        else .ok (some { state with
          dependencyParents := state.dependencyParents.insert root none
          dependencyDepths := state.dependencyDepths.insert root 0
          dependencyGraph := state.dependencyGraph.insert root ∅ })
      else .error (integrity "discovered_dependency_without_authenticated_parent")
  | _ => .ok (some state)

/-- Admit the discovered obligations; a limit ends the loop with its reason. -/
def reduceDiscoveredObligations :
    Reduction → List (DiscoveredConcernId × DiscoveredKnowledgeObligation) → BrainResult Reduction
  | acc, [] => .ok acc
  | (state, changes), (concernId, discovery) :: rest =>
    if state.claims.size ≥ hardMaxClaims ∨ state.obligations.size ≥ hardMaxObligations then
      .ok ({ state with boundedReason := some .noAdmissibleInvocation }, changes)
    else do
      let payload := concernIdentityPayload state concernId discovery.kind
      let claimId := KnowledgeClaimId.derivedDiscovery payload
      let obligationId := KnowledgeObligationId.derivedDiscovery payload
      match state.claims[claimId]?, state.obligations[obligationId]? with
      | some existingClaim, some existingObligation => do
        failIf (existingClaim.domain ≠ discovery.domain
          ∨ existingClaim.predicate ≠ discovery.claimPredicate
          ∨ existingObligation.criterion ≠ discovery.criterion
          ∨ existingObligation.plan ≠ discovery.plan)
          (integrity "discovered_concern_identity_collision")
        reduceDiscoveredObligations (state, changes) rest
      | none, none => do
        match ← indexDiscoveredRoot state discovery.plan with
        | none => .ok ({ state with boundedReason := some .dependencyNodeLimitReached }, changes)
        | some state =>
          reduceDiscoveredObligations
            ({ state with
              claims := state.claims.insert claimId
                ⟨claimId, discovery.domain, discovery.claimPredicate, .unresolved⟩
              obligations := state.obligations.insert obligationId
                ⟨obligationId, claimId, discovery.domain, discovery.criterion, discovery.plan,
                  .open_ 0 ∅⟩ },
            { changes with
              addedClaims := changes.addedClaims.insert claimId
              addedObligations := changes.addedObligations.insert obligationId }) rest
      | _, _ => .error (integrity "discovered_concern_partial_identity_collision")

/-- A completed expansion widens the dependency index. -/
def reduceExpansion (receipt : ActionReceipt) (acc : Reduction) : BrainResult Reduction :=
  match receipt.invocation, receipt.outcome with
  | .expandDependencyClosure invocation, .completed _ dependencyEdges _ =>
    reduceDependencyExpansion acc invocation dependencyEdges receipt.manifestDigest
  | _, _ => .ok acc

/-- A completed outcome brings its discoveries. -/
def reduceDiscoveries (receipt : ActionReceipt) (acc : Reduction) : BrainResult Reduction :=
  match receipt.outcome with
  | .completed _ _ discoveredObligations =>
    reduceDiscoveredObligations acc discoveredObligations.toList
  | _ => .ok acc

omit [Platform] in
def changedInto {k : IdKind} {V W : Type} [DecidableEq W] (prior next : BTreeMap (LocalId k) V)
    (state : V → W) (kind : W → Bool) (keys : BTreeSet (LocalId k)) : BTreeSet (LocalId k) :=
  next.toList.foldl (fun keys entry =>
    if (prior[entry.1]?).map state ≠ some (state entry.2) ∧ kind (state entry.2) then
      keys.insert entry.1
    else keys) keys

def ClaimAssessment.isEstablished : ClaimAssessment → Bool
  | .established _ => true
  | _ => false

def ClaimAssessment.isContradicted : ClaimAssessment → Bool
  | .contradicted _ => true
  | _ => false

omit [Platform] in
def recordTransitionChanges (prior next : KnowledgeStateProjection) (changes : TransitionChanges) :
    TransitionChanges :=
  { changes with
    satisfiedObligations := changedInto prior.obligations next.obligations
      KnowledgeObligation.state KnowledgeObligationState.isSatisfied changes.satisfiedObligations
    blockedObligations := changedInto prior.obligations next.obligations
      KnowledgeObligation.state KnowledgeObligationState.isBlocked changes.blockedObligations
    establishedClaims := changedInto prior.claims next.claims KnowledgeClaim.assessment
      ClaimAssessment.isEstablished changes.establishedClaims
    contradictedClaims := changedInto prior.claims next.claims KnowledgeClaim.assessment
      ClaimAssessment.isContradicted changes.contradictedClaims
    supportedHypotheses := changedInto prior.hypotheses next.hypotheses
      KnowledgeHypothesis.assessment HypothesisAssessment.isSupported changes.supportedHypotheses
    refutedHypotheses := changedInto prior.hypotheses next.hypotheses
      KnowledgeHypothesis.assessment HypothesisAssessment.isRefuted changes.refutedHypotheses }

def reduceReceipt (E : KnowledgeEngine) (s : KnowledgeState) (receipt : ActionReceipt) :
    BrainResult Reduction := do
  let charged ← chargeReceipt E s receipt
  let hypotheses ← reduceHypotheses receipt charged.hypotheses
  let obligations ← reduceObligation receipt charged.obligations
  let expanded ← reduceExpansion receipt
    ({ charged with hypotheses := hypotheses, obligations := obligations }, .default)
  let (next, changes) ← reduceDiscoveries receipt expanded
  let claims ← recomputeClaimAssessments next.claims next.obligations
  let next := { next with claims := claims }
  return (next, recordTransitionChanges s.toKnowledgeStateProjection next changes)

/-! ## The advance -/

def transitionProjection (E : KnowledgeEngine) (s next : KnowledgeState) (receipt : ActionReceipt)
    (changes : TransitionChanges) (terminalAfter : Option KnowledgeTerminal) :
    TransitionProjection where
  schema := .v1
  authorityRoot := E.authorityRoot
  inquiryId := next.inquiryId
  capabilityBundle := next.capabilityBundle
  fromState := s.manifestDigest
  toState := next.manifestDigest
  actionId := receipt.actionId
  actionReceipt := receipt.manifestDigest
  fromStateReference := E.stateReference s
  toStateReference := E.stateReference next
  actionReceiptReference := E.actionReceiptReference receipt
  changes := changes
  terminalAfter := terminalAfter

def TransitionProjection.seal (t : TransitionProjection) : TransitionReceipt :=
  { t with manifestDigest := t.calculateDigest }

def advance (E : KnowledgeEngine) (fs : PrivateRoot) (s : KnowledgeState)
    (receipt : ActionReceipt) : BrainResult KnowledgeAdvance := do
  validateState E fs s
  validateActionReceipt E fs s receipt
  let persistedParent ← (E.stateReference s).readVerifiedBounded fs maxStateBytes
  failIf (persistedParent ≠ toVec s) (integrity "knowledge_parent_state_bytes_mismatch")
  let (next, changes) ← reduceReceipt E s receipt
  let next := next.seal
  validateState E fs next
  let terminalAfter ← deriveTerminal E next
  let _ ← (E.actionReceiptReference receipt).readVerifiedBounded fs maxActionReceiptBytes
  return ⟨next, (transitionProjection E s next receipt changes terminalAfter).seal⟩

/-! ## What the reducers make of a state -/

def HypothesisMoved (receipt : ActionReceipt) (h h' : KnowledgeHypothesis) : Prop :=
  h' = h ∨ ∃ evaluation assessment,
    reduceHypothesisAssessment h.assessment evaluation receipt.manifestDigest = .ok assessment ∧
      h' = { h with assessment := assessment }

/-- The state `m` is `s` with the receipt charged, the hypotheses moved and the
    obligation `o` reduced to `st`. -/
structure Recorded (E : KnowledgeEngine) (s : KnowledgeState) (receipt : ActionReceipt)
    (o : KnowledgeObligation) (st : KnowledgeObligationState) (m : KnowledgeStateProjection) :
    Prop where
  frame : m = { s.toKnowledgeStateProjection with
    parentDigest := some s.manifestDigest
    parentReference := some (E.stateReference s)
    lastActionReceiptReference := some (E.actionReceiptReference receipt)
    revision := s.revision + 1
    usage := ⟨s.usage.actions + 1, s.usage.totalCost + receipt.chargedCost,
      s.usage.evidenceRecords + receipt.evidence.size⟩
    obligations := s.obligations.insert o.obligationId { o with state := st }
    hypotheses := m.hypotheses
    appliedReceipts := m.appliedReceipts
    usedEvidenceArtifacts := m.usedEvidenceArtifacts }
  state : reducedState receipt o.state = .ok st
  hypotheses : Pointwise (HypothesisMoved receipt) s.hypotheses m.hypotheses
  applied : ∀ d : ActionReceiptDigest,
    d ∈ m.appliedReceipts ↔ d ∈ s.appliedReceipts ∨ d = receipt.manifestDigest
  applied_size : m.appliedReceipts.size = s.appliedReceipts.size + 1
  used : ∀ d : Sha256Digest,
    d ∈ m.usedEvidenceArtifacts ↔ d ∈ s.usedEvidenceArtifacts ∨ d ∈ sourceArtifacts receipt
  used_size : m.usedEvidenceArtifacts.size = s.usedEvidenceArtifacts.size + receipt.evidence.size

/-- The state `q` is `m` after the outcome's edges, if it reports an expansion. -/
inductive Widened (receipt : ActionReceipt) (m q : KnowledgeStateProjection) : Prop
  | expanded (x : DependencyExpansionInvocation) (observations : Observations)
      (edges : BTreeSet DependencyEdge)
      (invocation_eq : receipt.invocation = .expandDependencyClosure x)
      (outcome_eq : receipt.outcome = .completed observations edges ∅)
      (sources : ∀ e ∈ edges.toList, e.fromNode = x.root)
      (reduced : Expanded m x receipt.manifestDigest edges.toList q)
  | same (eq : q = m)
      (other : ∀ x observations edges discoveries,
        receipt.invocation = .expandDependencyClosure x →
          receipt.outcome ≠ .completed observations edges discoveries)

/-- The state `p` is `q` with its claims assessed again. -/
structure Reassessed (q p : KnowledgeStateProjection) : Prop where
  frame : p = { q with claims := p.claims }
  claims : ∀ id : KnowledgeClaimId, p.claims[id]? = (q.claims[id]?).map fun c =>
    { c with assessment := deriveClaimAssessment (obligationsOf q.obligations id) }

/-- What all reducers together make of a state. -/
structure Reduced (E : KnowledgeEngine) (s : KnowledgeState) (receipt : ActionReceipt)
    (o : KnowledgeObligation) (st : KnowledgeObligationState)
    (m q p : KnowledgeStateProjection) : Prop where
  recorded : Recorded E s receipt o st m
  widened : Widened receipt m q
  reassessed : Reassessed q p

variable {E : KnowledgeEngine} {fs : PrivateRoot} {s : KnowledgeState} {receipt : ActionReceipt}
  {o : KnowledgeObligation}

lemma Planned.obligationId_eq (h : Planned E fs s receipt.invocation o) :
    receipt.invocation.obligationId = o.obligationId := by
  rw [h.invocation_eq, CognitiveInvocation.obligationId, invocationOf_binding]
  rfl

lemma Planned.criterion_eq (h : Planned E fs s receipt.invocation o) :
    receipt.invocation.binding.criterion = o.criterion := by
  rw [h.invocation_eq, invocationOf_binding]
  rfl

omit [Platform] in
lemma reduceHypotheses_spec {hypotheses hypotheses' : BTreeMap KnowledgeHypothesisId
    KnowledgeHypothesis} (h : reduceHypotheses receipt hypotheses = .ok hypotheses') :
    Pointwise (HypothesisMoved receipt) hypotheses hypotheses' := by
  unfold reduceHypotheses at h
  split at h
  · next predictions observations _ _ =>
    have hnodup : (predictions.toList.map Prod.fst).Nodup := by
      rw [map_fst_toList_eq_keys]
      exact nodup_keys
    refine (foldlM_updateEach_rel hnodup h).mono ?_
    rintro y y' (rfl | ⟨entry, -, hmove⟩)
    · exact .inl rfl
    · simp only [reducePrediction, bind_ok, pure_ok] at hmove
      obtain ⟨assessment, hassessment, rfl⟩ := hmove
      exact .inr ⟨_, assessment, hassessment, rfl⟩
  · cases h
    exact Pointwise.refl fun _ => .inl rfl

lemma recorded_of_ok (hplanned : Planned E fs s receipt.invocation o)
    {c : KnowledgeStateProjection} {hypotheses : BTreeMap KnowledgeHypothesisId KnowledgeHypothesis}
    {obligations : BTreeMap KnowledgeObligationId KnowledgeObligation}
    (hcharge : chargeReceipt E s receipt = .ok c)
    (hhypotheses : reduceHypotheses receipt c.hypotheses = .ok hypotheses)
    (hobligations : reduceObligation receipt c.obligations = .ok obligations) :
    ∃ st, Recorded E s receipt o st
      { c with hypotheses := hypotheses, obligations := obligations } := by
  simp only [chargeReceipt, bind_ok, checkedAdd_ok, insertOnce_ok, pure_ok] at hcharge
  obtain ⟨_, ⟨-, rfl⟩, _, ⟨-, rfl⟩, _, ⟨-, rfl⟩, _, ⟨-, rfl⟩, _, ⟨hfresh, rfl⟩, used, hused,
    rfl⟩ := hcharge
  simp only [reduceObligation, bind_ok, okOr_ok, pure_ok] at hobligations
  obtain ⟨prior, hprior, st, hst, rfl⟩ := hobligations
  rw [hplanned.obligationId_eq, hplanned.stored] at hprior
  cases hprior
  obtain ⟨hmem, hsize⟩ := foldlM_insertOnce_spec hused
  refine ⟨st, ?_, hst, reduceHypotheses_spec hhypotheses, ?_, size_insert_new hfresh,
    hmem, ?_⟩
  · rw [hplanned.obligationId_eq]
  · intro d
    rw [mem_insert_iff, or_comm]
    rfl
  · rw [hsize, length_values]

variable {st : KnowledgeObligationState} {m : KnowledgeStateProjection}

lemma Recorded.expandReady (h : Recorded E s receipt o st m)
    (hplanned : Planned E fs s receipt.invocation o) {x : DependencyExpansionInvocation}
    (hx : receipt.invocation = .expandDependencyClosure x) : ExpandReady m x := by
  have hs := hplanned.valid.projection
  have hdep := hs.dependency
  have hvalid := hs.obligations _ _ hplanned.stored
  -- the invocation names what the plan of the obligation names
  have hinvocation := hplanned.invocation_eq
  rw [hx] at hinvocation
  obtain ⟨root, depth, maxDepth, hplan⟩ : ∃ root depth maxDepth,
      o.plan = .expandDependencyClosure root depth maxDepth := by
    cases hp : o.plan <;> rw [hp] at hinvocation <;> cases hinvocation
    exact ⟨_, _, _, rfl⟩
  rw [hplan] at hinvocation
  cases hinvocation
  have hbounds := hvalid.bounds
  rw [hplan] at hbounds
  have hdepth := depth_le_of_validateBounds hbounds
  have hmax := hs.budget.dependencyDepth.2
  rw [h.frame]
  refine ⟨hdep.closed, fun n => hs.mem_graph, fun n => hs.mem_parents.symm, ?_,
    hs.bounds.nodes_le, (hvalid.indexed _ _ _ hplan).1, ?_, ?_⟩
  · exact hdep.graph_size.trans hdep.parents_size.symm
  · simp only [u16Width, hardMaxDependencyDepth] at hmax ⊢
    omega
  · exact mem_insert_self

lemma reduceDiscoveries_eq (hr : ValidReceipt E fs s receipt) (hs : ValidState E fs s)
    (acc : Reduction) : reduceDiscoveries receipt acc = .ok acc := by
  unfold reduceDiscoveries
  cases hout : receipt.outcome with
  | completed observations edges discoveries =>
    have hshape := hr.shape
    rw [hout] at hshape
    have hnone := (validateOutcomeShape_completed hs.projection.budget hshape).discoveries_eq
    subst hnone
    have hempty : (∅ : Discoveries).toList = [] := by simp
    simp only [hempty, reduceDiscoveredObligations]
  | _ => rfl

lemma reduceExpansion_spec (hr : ValidReceipt E fs s receipt)
    (hrecorded : Recorded E s receipt o st m) (hplanned : Planned E fs s receipt.invocation o)
    {changes : TransitionChanges} {acc : Reduction}
    (h : reduceExpansion receipt (m, changes) = .ok acc) : Widened receipt m acc.1 := by
  unfold reduceExpansion at h
  split at h
  · next x observations edges discoveries hinv hout =>
    have hshape := hr.shape
    rw [hout] at hshape
    have hcompleted := validateOutcomeShape_completed hplanned.valid.projection.budget hshape
    have hnone := hcompleted.discoveries_eq
    subst hnone
    simp only [reduceDependencyExpansion, bind_ok, okOr_ok, failIf_ok, ne_eq, not_not] at h
    obtain ⟨depth, hdepth, _, rfl, hrun⟩ := h
    have hsources := hcompleted.sources x hinv
    exact .expanded x observations edges hinv hout hsources
      (expandEdges_spec (hrecorded.expandReady hplanned hinv) (nodup_toNode hsources) hrun)
  · next hno =>
    cases h
    exact .same rfl hno

/-- What the reducers make of a state. -/
lemma reduceReceipt_spec (hr : ValidReceipt E fs s receipt)
    (hplanned : Planned E fs s receipt.invocation o) {acc : Reduction}
    (h : reduceReceipt E s receipt = .ok acc) : ∃ st m q, Reduced E s receipt o st m q acc.1 := by
  simp only [reduceReceipt, bind_ok, reduceDiscoveries_eq hr hplanned.valid, pure_ok,
    Except.ok.injEq] at h
  obtain ⟨c, hcharge, hypotheses, hhypotheses, obligations, hobligations, expanded, hexpanded,
    _, rfl, claims, hclaims, rfl⟩ := h
  obtain ⟨st, hrecorded⟩ := recorded_of_ok hplanned hcharge hhypotheses hobligations
  exact ⟨st, _, expanded.1, hrecorded, reduceExpansion_spec hr hrecorded hplanned hexpanded, rfl,
    recomputeClaimAssessments_spec hclaims⟩

/-! ## Entry by entry -/

/-- An obligation of the successor that the state did not have: its node was
    admitted by the receipt's expansion. -/
def NewObligation (receipt : ActionReceipt) (m : KnowledgeStateProjection)
    (id : KnowledgeObligationId) (o : KnowledgeObligation) : Prop :=
  ∃ x observations edges, receipt.invocation = .expandDependencyClosure x ∧
    receipt.outcome = .completed observations edges ∅ ∧
    ∃ n ∈ admittedNodes m x edges.toList, id = nodeObligationId m n ∧ o = nodeObligation m x n

def NewClaim (receipt : ActionReceipt) (m : KnowledgeStateProjection) (id : KnowledgeClaimId)
    (c : KnowledgeClaim) : Prop :=
  ∃ x observations edges, receipt.invocation = .expandDependencyClosure x ∧
    receipt.outcome = .completed observations edges ∅ ∧
    ∃ n ∈ admittedNodes m x edges.toList, id = nodeClaimId m n ∧ c = nodeClaim m n

/-- What becomes of the planned obligation's state: one attempt more, the receipt
    as a witness, and satisfied only on an observation that matches its criterion. -/
structure StateReduced (receipt : ActionReceipt) (o : KnowledgeObligation)
    (final : KnowledgeObligationState) : Prop where
  attempts_eq : final.attempts = o.state.attempts + 1
  witnesses_iff : ∀ w : ActionReceiptDigest,
    w ∈ final.witnesses ↔ w ∈ o.state.witnesses ∨ w = receipt.manifestDigest
  satisfied : final.isSatisfied = true → ∃ observations edges discoveries,
    receipt.outcome = .completed observations edges discoveries ∧
      o.criterion.predicate.evaluate observations = .matches_

namespace Reduced

variable {st : KnowledgeObligationState} {m q p : KnowledgeStateProjection}

section

variable (h : Reduced E s receipt o st m q p)
include h

lemma stateReduced_st (hplanned : Planned E fs s receipt.invocation o) :
    StateReduced receipt o st := by
  have hst := h.recorded.state
  have hinsert : ∀ w : ActionReceiptDigest, w ∈ o.state.witnesses.insert receipt.manifestDigest ↔
      w ∈ o.state.witnesses ∨ w = receipt.manifestDigest := by
    intro w
    rw [mem_insert_iff, or_comm]
  simp only [reducedState, bind_ok, checkedAdd_ok, hplanned.criterion_eq] at hst
  obtain ⟨_, ⟨-, rfl⟩, hst⟩ := hst
  cases hout : receipt.outcome with
  | completed observations edges discoveries =>
    rw [hout] at hst
    cases heval : o.criterion.predicate.evaluate observations with
    | matches_ =>
      simp only [heval, pure_ok] at hst
      subst hst
      exact ⟨rfl, hinsert, fun _ => ⟨observations, edges, discoveries, hout, heval⟩⟩
    | contradicts =>
      simp only [heval, pure_ok] at hst
      subst hst
      exact ⟨rfl, hinsert, fun hsat => by cases hsat⟩
    | missing => simp [heval] at hst
    | typeMismatch => simp [heval] at hst
  | boundedNoResult reason | blocked reason =>
    simp only [hout, pure_ok] at hst
    subst hst
    exact ⟨rfl, hinsert, fun hsat => by cases hsat⟩

lemma obligations_eq : p.obligations = q.obligations := by
  rw [h.reassessed.frame]

lemma recorded_obligations :
    m.obligations = s.obligations.insert o.obligationId { o with state := st } := by
  rw [h.recorded.frame]

lemma recorded_claims : m.claims = s.claims := by
  rw [h.recorded.frame]

lemma selected (hplanned : Planned E fs s receipt.invocation o) :
    ∃ final, p.obligations[o.obligationId]? = some { o with state := final } ∧
      StateReduced receipt o final := by
  have hst := h.stateReduced_st hplanned
  have hm : m.obligations[o.obligationId]? = some { o with state := st } := by
    rw [h.recorded_obligations, getElem?_insert_iff, if_pos rfl]
  rw [h.obligations_eq]
  rcases h.widened with ⟨x, observations, edges, hinv, -, -, hexp⟩ | ⟨rfl, -⟩
  · have hid : x.binding.obligationId = o.obligationId := by
      have heq := hplanned.obligationId_eq
      rw [hinv] at heq
      exact heq
    obtain ⟨o', ho', hselected⟩ := hexp.selected
    rw [hid] at ho' hselected
    rw [hm] at ho'
    cases ho'
    rcases hselected with ⟨hq, -⟩ | ⟨e, -, -, hq⟩
    · exact ⟨st, hq, hst⟩
    · exact ⟨_, hq, hst.attempts_eq, hst.witnesses_iff, fun hsat => by cases hsat⟩
  · exact ⟨st, hm, hst⟩

/-- Every other obligation is kept, or is new. -/
lemma other_iff (hplanned : Planned E fs s receipt.invocation o) {id : KnowledgeObligationId}
    (hid : id ≠ o.obligationId) (o' : KnowledgeObligation) : p.obligations[id]? = some o' ↔
      s.obligations[id]? = some o' ∨ NewObligation receipt m id o' := by
  have hm : m.obligations[id]? = s.obligations[id]? := by
    rw [h.recorded_obligations, getElem?_insert_of_ne (Ne.symm hid)]
  rw [h.obligations_eq]
  rcases h.widened with ⟨x, observations, edges, hinv, hout, -, hexp⟩ | ⟨rfl, hother⟩
  · have heq := hplanned.obligationId_eq
    rw [hinv] at heq
    have hx : id ≠ x.binding.obligationId := fun hxid => hid (hxid.trans heq)
    rw [hexp.obligations id o' hx, hm]
    refine or_congr_right ⟨fun hn => ⟨x, observations, edges, hinv, hout, hn⟩, ?_⟩
    rintro ⟨x', observations', edges', hinv', hout', hn⟩
    rw [hinv] at hinv'
    cases hinv'
    rw [hout] at hout'
    cases hout'
    exact hn
  · rw [hm]
    refine (or_iff_left ?_).symm
    rintro ⟨x, observations, edges, hinv, hout, -⟩
    exact hother x observations edges _ hinv hout

lemma claims_iff (id : KnowledgeClaimId) (c : KnowledgeClaim) :
    p.claims[id]? = some c ↔ ∃ c₀, (s.claims[id]? = some c₀ ∨ NewClaim receipt m id c₀) ∧
      c = { c₀ with assessment := deriveClaimAssessment (obligationsOf p.obligations id) } := by
  rw [h.reassessed.claims id, Option.map_eq_some_iff, h.obligations_eq]
  refine exists_congr fun c₀ => and_congr ?_ eq_comm
  rcases h.widened with ⟨x, observations, edges, hinv, hout, -, hexp⟩ | ⟨rfl, hother⟩
  · rw [hexp.claims, h.recorded_claims]
    refine or_congr_right ⟨fun hn => ⟨x, observations, edges, hinv, hout, hn⟩, ?_⟩
    rintro ⟨x', observations', edges', hinv', hout', hn⟩
    rw [hinv] at hinv'
    cases hinv'
    rw [hout] at hout'
    cases hout'
    exact hn
  · rw [h.recorded_claims]
    refine (or_iff_left ?_).symm
    rintro ⟨x, observations, edges, hinv, hout, -⟩
    exact hother x observations edges _ hinv hout

lemma edge_mono {a b : DependencyNodeId} (hab : s.dependencyGraph.Edge a b) :
    p.dependencyGraph.Edge a b := by
  have hm : m.dependencyGraph = s.dependencyGraph := by rw [h.recorded.frame]
  have hp : p.dependencyGraph = q.dependencyGraph := by rw [h.reassessed.frame]
  rw [hp]
  rcases h.widened with ⟨x, observations, edges, -, -, -, hexp⟩ | ⟨rfl, -⟩
  · rw [hexp.edges_iff, hm]
    exact .inl hab
  · rw [hm]
    exact hab

end

/-- The counters and the receipts after the step. -/
structure Counted (s : KnowledgeState) (receipt : ActionReceipt) (p : KnowledgeStateProjection) :
    Prop where
  inquiryId : p.inquiryId = s.inquiryId
  budget : p.budget = s.budget
  revision : p.revision = s.revision + 1
  applied : ∀ d : ActionReceiptDigest,
    d ∈ p.appliedReceipts ↔ d ∈ s.appliedReceipts ∨ d = receipt.manifestDigest
  used : ∀ d : Sha256Digest,
    d ∈ p.usedEvidenceArtifacts ↔ d ∈ s.usedEvidenceArtifacts ∨ d ∈ sourceArtifacts receipt

lemma header (h : Reduced E s receipt o st m q p) : p = { m with
    claims := p.claims
    obligations := p.obligations
    dependencyParents := p.dependencyParents
    dependencyDepths := p.dependencyDepths
    dependencyGraph := p.dependencyGraph
    boundedReason := p.boundedReason } := by
  have hq : q = { m with
      claims := q.claims
      obligations := q.obligations
      dependencyParents := q.dependencyParents
      dependencyDepths := q.dependencyDepths
      dependencyGraph := q.dependencyGraph
      boundedReason := q.boundedReason } := by
    rcases h.widened with ⟨x, observations, edges, -, -, -, hexp⟩ | ⟨rfl, -⟩
    · exact hexp.frame
    · rfl
  have hp := h.reassessed.frame
  rw [hp]
  conv_lhs => rw [hq]

lemma counted (h : Reduced E s receipt o st m q p) : Counted s receipt p := by
  have hm := h.recorded.frame
  rw [h.header]
  refine ⟨?_, ?_, ?_, h.recorded.applied, h.recorded.used⟩ <;> simp only <;> rw [hm]

lemma hypotheses (h : Reduced E s receipt o st m q p) :
    Pointwise (HypothesisMoved receipt) s.hypotheses p.hypotheses := by
  rw [h.header]
  exact h.recorded.hypotheses

end Reduced

/-! ## The advance -/

structure Advanced (E : KnowledgeEngine) (fs : PrivateRoot) (s : KnowledgeState)
    (receipt : ActionReceipt) (a : KnowledgeAdvance) : Prop where
  receipt_valid : ValidReceipt E fs s receipt
  stored : (E.stateReference s).readVerifiedBounded fs maxStateBytes = .ok (toVec s)
  receipt_stored : ∃ bytes,
    (E.actionReceiptReference receipt).readVerifiedBounded fs maxActionReceiptBytes = .ok bytes
  reduced : ∃ o st m q, Planned E fs s receipt.invocation o ∧
    Reduced E s receipt o st m q a.state.toKnowledgeStateProjection
  successor : ValidState E fs a.state

lemma advance_spec {a : KnowledgeAdvance} (h : advance E fs s receipt = .ok a) :
    Advanced E fs s receipt a := by
  simp only [advance, bind_ok, pure_ok, failIf_ok, ne_eq, not_not] at h
  obtain ⟨_, hvalid, _, hreceipt, _, hstored, _, rfl, ⟨p, changes⟩, hreduce, _, hnext, terminal,
    hterminal, bytes, hbytes, rfl⟩ := h
  have hr := validateActionReceipt_spec (validateState_ok.mp hvalid) hreceipt
  obtain ⟨o, hplanned⟩ := hr.planned
  obtain ⟨st, m, q, hreduced⟩ := reduceReceipt_spec hr hplanned hreduce
  exact ⟨hr, hstored, ⟨bytes, hbytes⟩, ⟨o, st, m, q, hplanned, hreduced⟩,
    validateState_ok.mp hnext⟩

lemma advance_reduced {a : KnowledgeAdvance} (h : advance E fs s receipt = .ok a) :
    ∃ acc, reduceReceipt E s receipt = .ok acc ∧ a.state = acc.1.seal := by
  simp only [advance, bind_ok, pure_ok] at h
  obtain ⟨_, -, _, -, _, -, _, -, acc, hreduce, _, -, _, -, _, -, rfl⟩ := h
  exact ⟨acc, hreduce, rfl⟩

lemma advance_ok {u : Unit} (hs : ValidState E fs s)
    (hr : validateActionReceipt E fs s receipt = .ok u)
    (hstored : (E.stateReference s).readVerifiedBounded fs maxStateBytes = .ok (toVec s))
    {bytes : ByteArray} (hreceipt :
      (E.actionReceiptReference receipt).readVerifiedBounded fs maxActionReceiptBytes = .ok bytes) :
    (∃ a, advance E fs s receipt = .ok a) ↔
      ∃ acc, reduceReceipt E s receipt = .ok acc ∧ ValidProjection E fs acc.1 := by
  have hvalid : validateState E fs s = .ok () := validateState_ok.mpr hs
  constructor
  · rintro ⟨a, h⟩
    simp only [advance, bind_ok, pure_ok, failIf_ok, ne_eq, not_not] at h
    obtain ⟨_, -, _, -, _, -, _, -, acc, hreduce, _, hnext, -⟩ := h
    exact ⟨acc, hreduce, (validateState_ok.mp hnext).projection⟩
  · rintro ⟨⟨p, changes⟩, hreduce, hp⟩
    have hnext : ValidState E fs p.seal := ⟨hp, rfl⟩
    obtain ⟨terminal, hterminal⟩ := deriveTerminal_ok hnext
    refine ⟨⟨p.seal, (transitionProjection E s p.seal receipt changes terminal).seal⟩, ?_⟩
    simp only [advance, bind_ok, pure_ok, failIf_ok, ne_eq, not_not]
    exact ⟨(), hvalid, (), hr, _, hstored, (), rfl, _, hreduce, (), validateState_ok.mpr hnext,
      terminal, hterminal, bytes, hreceipt, rfl⟩

end

end Tidex.Knowledge
