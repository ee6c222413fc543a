/-
  Knowledge.Progress — when an accepted receipt advances its state.
-/
import Tidex.Knowledge.Advance
import Tidex.Knowledge.Issue

namespace Tidex.Knowledge

open Tidex.Lib Relation List Std.ExtTreeMap BTreeMap BTreeSet Platform

/-! ## Fresh identities -/

section

variable [Platform]

def ActionReceipt.targets (receipt : ActionReceipt) : List DependencyNodeId :=
  match receipt.invocation, receipt.outcome with
  | .expandDependencyClosure _, .completed _ edges _ => edges.toList.map DependencyEdge.toNode
  | _, _ => []

def identityPreimages (s : KnowledgeStateProjection) (receipt : ActionReceipt) : Set ByteArray :=
  {bytes | ∃ n ∈ receipt.targets,
    bytes = derivedClaimIdDomain.toByteArray ++ nodeIdentityPayload s n ∨
      bytes = derivedObligationIdDomain.toByteArray ++ nodeIdentityPayload s n}

omit [Platform] in
lemma nodeIdentityPayload_injective (s : KnowledgeStateProjection) :
    Function.Injective (nodeIdentityPayload s) := by
  intro a b h
  simpa [nodeIdentityPayload] using h

variable {E : KnowledgeEngine} {fs : PrivateRoot} {s : KnowledgeState} {receipt : ActionReceipt}
  {o : KnowledgeObligation} {st : KnowledgeObligationState} {m q p : KnowledgeStateProjection}

lemma freshNodes_of_injOn {s : KnowledgeStateProjection}
    (hsha : Set.InjOn Platform.sha256 (identityPreimages s receipt))
    (hfresh : ∀ n ∈ receipt.targets, FreshNode s n) (hnodup : receipt.targets.Nodup) :
    FreshNodes s receipt.targets := by
  refine ⟨hfresh, ?_, ?_⟩
  · refine Nodup.map_on ?_ hnodup
    intro a ha b hb heq
    have hhex := (String.append_right_inj _).mp (congrArg LocalId.str heq)
    have hpayload := hsha ⟨a, ha, .inl rfl⟩ ⟨b, hb, .inl rfl⟩ (Sha256Digest.hex_injective hhex)
    exact nodeIdentityPayload_injective s ((ByteArray.append_right_inj _).mp hpayload)
  · refine Nodup.map_on ?_ hnodup
    intro a ha b hb heq
    have hhex := (String.append_right_inj _).mp (congrArg LocalId.str heq)
    have hpayload := hsha ⟨a, ha, .inr rfl⟩ ⟨b, hb, .inr rfl⟩ (Sha256Digest.hex_injective hhex)
    exact nodeIdentityPayload_injective s ((ByteArray.append_right_inj _).mp hpayload)

lemma Planned.charged_le (h : Planned E fs s receipt.invocation o) (hr : ValidReceipt E fs s receipt) :
    s.usage.totalCost + receipt.chargedCost ≤ s.budget.maxTotalCost := by
  rw [hr.cost_eq, h.invocation_eq, invocationOf_cost]
  exact h.cost_le

section

variable (hr : ValidReceipt E fs s receipt)
include hr

lemma ValidReceipt.targets_nodup (hs : ValidState E fs s) : receipt.targets.Nodup := by
  unfold ActionReceipt.targets
  split
  · next x observations edges discoveries hinv hout =>
    have hshape := hr.shape
    rw [hout] at hshape
    exact nodup_toNode
      ((validateOutcomeShape_completed hs.projection.budget hshape).sources x hinv)
  · exact nodup_nil

/-! ## The reducers return -/

section

variable (hplanned : Planned E fs s receipt.invocation o)
include hplanned

lemma chargeReceipt_ok : ∃ c, chargeReceipt E s receipt = .ok c := by
  have hs := hplanned.valid.projection
  have hrevision := hplanned.continues.limits.revision_lt
  have hactions := hplanned.continues.limits.actions_lt
  have hmaxRevision := hs.budget.revision.2
  have hmaxActions := hs.budget.actions.2
  have hmaxCost := hs.budget.totalCost.2
  have hmaxEvidence := hs.budget.evidenceRecords.2
  have hevidence := hr.evidence_le
  have hcost := hplanned.charged_le hr
  simp only [hardMaxRevision, hardMaxActions, hardMaxTotalCost, hardMaxEvidenceRecords]
    at hmaxRevision hmaxActions hmaxCost hmaxEvidence
  obtain ⟨used, hused⟩ := foldlM_insertOnce_ok
    (integrity "action_receipt_source_evidence_replayed") s.usedEvidenceArtifacts
    hr.evidence_nodup (fun reference href => hr.evidence_fresh _ (mem_map_of_mem href))
  simp only [chargeReceipt, bind_ok, checkedAdd_ok, insertOnce_ok, u64Width]
  exact ⟨_, _, ⟨by omega, rfl⟩, _, ⟨by omega, rfl⟩, _, ⟨by omega, rfl⟩, _, ⟨by omega, rfl⟩, _,
    ⟨hr.fresh, rfl⟩, used, hused, rfl⟩

lemma reduceHypotheses_ok :
    ∃ hypotheses, reduceHypotheses receipt s.hypotheses = .ok hypotheses := by
  unfold reduceHypotheses
  split
  · next predictions observations hpredictions hobservations =>
    have hplan : o.plan.predictions = some predictions := by
      rw [hplanned.invocation_eq, invocationOf_predictions] at hpredictions
      exact hpredictions
    obtain ⟨edges, discoveries, hout⟩ : ∃ edges discoveries,
        receipt.outcome = .completed observations edges discoveries := by
      cases hcase : receipt.outcome with
      | completed obs edges discoveries =>
        rw [hcase] at hobservations
        cases hobservations
        exact ⟨edges, discoveries, rfl⟩
      | _ =>
        rw [hcase] at hobservations
        cases hobservations
    have hdecided := (hr.decided hplanned hout).2 predictions hplan
    have hmem : o.plan ∈ s.plans :=
      mem_map.mpr ⟨o, mem_values.mpr ⟨_, hplanned.stored⟩, rfl⟩
    obtain ⟨familyId, -, hfamily, -⟩ :=
      hplanned.valid.projection.families.plans_cover o.plan hmem predictions hplan
    refine foldlM_updateEach_ok ?_ ?_
    · rw [map_fst_toList_eq_keys]
      exact nodup_keys
    · rintro ⟨id, prediction⟩ hentry
      rw [mem_toList_iff] at hentry
      have hid := hfamily.2 id
        (mem_keys.mpr (mem_iff_getElem?.mpr ⟨_, hentry⟩))
      rw [KnowledgeStateProjection.familyOf, Option.map_eq_some_iff] at hid
      obtain ⟨y, hy, -⟩ := hid
      obtain ⟨assessment, hassessment⟩ := reduceHypothesisAssessment_ok y.assessment
        receipt.manifestDigest
        (hdecided prediction (mem_values.mpr ⟨id, hentry⟩))
      refine ⟨y, { y with assessment := assessment }, hy, ?_⟩
      rw [reducePrediction, hassessment]
      rfl
  · exact ⟨_, rfl⟩

lemma reducedState_ok : ∃ st, reducedState receipt o.state = .ok st := by
  have hattempt : checkedAdd u16Width o.state.attempts 1 (invalid "knowledge_attempt_overflow") =
      .ok (o.state.attempts + 1) := checkedAdd_ok.mpr ⟨hplanned.attempts_lt, rfl⟩
  unfold reducedState
  rw [hattempt, ok_bind, hplanned.criterion_eq]
  cases hout : receipt.outcome with
  | completed observations edges discoveries =>
    rcases (hr.decided hplanned hout).1 with hmatches | hcontradicts
    · simp only [hmatches]
      exact ⟨_, rfl⟩
    · simp only [hcontradicts]
      exact ⟨_, rfl⟩
  | _ => exact ⟨_, rfl⟩

lemma reduceObligation_ok :
    ∃ obligations, reduceObligation receipt s.obligations = .ok obligations := by
  obtain ⟨st, hst⟩ := reducedState_ok hr hplanned
  refine ⟨s.obligations.insert o.obligationId { o with state := st }, ?_⟩
  simp only [reduceObligation, bind_ok, okOr_ok, hplanned.obligationId_eq]
  exact ⟨o, hplanned.stored, st, hst, rfl⟩

end

lemma reduceExpansion_ok (hrecorded : Recorded E s receipt o st m)
    (hplanned : Planned E fs s receipt.invocation o) (hids : FreshNodes m receipt.targets)
    (changes : TransitionChanges) : ∃ acc, reduceExpansion receipt (m, changes) = .ok acc := by
  unfold reduceExpansion
  split
  · next x observations edges discoveries hinv hout =>
    have hshape := hr.shape
    rw [hout] at hshape
    have hsources := (validateOutcomeShape_completed hplanned.valid.projection.budget hshape).sources
      x hinv
    have hready := hrecorded.expandReady hplanned hinv
    rw [ActionReceipt.targets, hinv, hout] at hids
    obtain ⟨acc, hacc⟩ := expandEdges_ok receipt.manifestDigest changes hready
      (nodup_toNode hsources) hsources hids
    refine ⟨acc, ?_⟩
    simp only [reduceDependencyExpansion, bind_ok, okOr_ok, failIf_ok, ne_eq, not_not]
    exact ⟨x.depth, hready.depth_eq, (), rfl, hacc⟩
  · exact ⟨_, rfl⟩

end

lemma obligationsOf_ne_nil (hrecorded : Recorded E s receipt o st m)
    (hplanned : Planned E fs s receipt.invocation o) (hwidened : Widened receipt m q)
    (id : KnowledgeClaimId) (hid : id ∈ q.claims) : obligationsOf q.obligations id ≠ [] := by
  -- look at the state that the assessments would give: it has the same obligations
  let p : KnowledgeStateProjection :=
    { q with claims := q.claims.map fun id c =>
        { c with assessment := deriveClaimAssessment (obligationsOf q.obligations id) } }
  have hreduced : Reduced E s receipt o st m q p :=
    ⟨hrecorded, hwidened, rfl, fun id => getElem?_map⟩
  obtain ⟨c, hc⟩ := mem_iff_getElem?.mp hid
  have hp : p.claims[id]? = some { c with
      assessment := deriveClaimAssessment (obligationsOf q.obligations id) } := by
    rw [hreduced.reassessed.claims, hc]
    rfl
  obtain ⟨c₀, hold | hnew, -⟩ := (hreduced.claims_iff id _).mp hp
  · have hvalid := hplanned.valid.projection
    obtain ⟨o', ho', -⟩ := (hvalid.claims id c₀ hold).criterion
    rw [hvalid.claim_keys id c₀ hold] at ho'
    obtain ⟨⟨oid, hoid⟩, hclaim⟩ := mem_obligationsOf.mp ho'
    by_cases hsel : oid = o.obligationId
    · subst hsel
      rw [hplanned.stored] at hoid
      cases hoid
      obtain ⟨final, hfinal, -⟩ := hreduced.selected hplanned
      exact ne_nil_of_mem (mem_obligationsOf.mpr ⟨⟨_, hfinal⟩, hclaim⟩)
    · exact ne_nil_of_mem (mem_obligationsOf.mpr
        ⟨⟨oid, (hreduced.other_iff hplanned hsel o').mpr (.inl hoid)⟩, hclaim⟩)
  · obtain ⟨x, observations, edges, hinv, hout, n, hn, rfl, rfl⟩ := hnew
    rcases hwidened with ⟨x', observations', edges', hinv', hout', -, hexp⟩ | ⟨rfl, hother⟩
    · rw [hinv] at hinv'
      cases hinv'
      rw [hout] at hout'
      cases hout'
      have hother : nodeObligationId m n ≠ o.obligationId := by
        intro heq
        refine (hexp.fresh n hn).2 ?_
        rw [heq, hreduced.recorded_obligations]
        exact mem_insert_self
      have hmem := (hreduced.other_iff hplanned hother _).mpr
        (.inr ⟨x, observations, edges, hinv, hout, n, hn, rfl, rfl⟩)
      exact ne_nil_of_mem (mem_obligationsOf.mpr ⟨⟨_, hmem⟩, rfl⟩)
    · exact absurd hout (hother x observations edges _ hinv)

lemma Recorded.freshNodes (h : Recorded E s receipt o st m)
    (hplanned : Planned E fs s receipt.invocation o) {nodes : List DependencyNodeId}
    (hids : FreshNodes s.toKnowledgeStateProjection nodes) : FreshNodes m nodes := by
  have hclaimId : nodeClaimId m = nodeClaimId s.toKnowledgeStateProjection := by
    funext n
    rw [h.frame]
    rfl
  have hobligationId : nodeObligationId m = nodeObligationId s.toKnowledgeStateProjection := by
    funext n
    rw [h.frame]
    rfl
  refine ⟨?_, hclaimId ▸ hids.claims_nodup, hobligationId ▸ hids.obligations_nodup⟩
  intro n hn
  obtain ⟨hclaim, hobligation⟩ := hids.fresh n hn
  unfold FreshNode
  rw [hclaimId, hobligationId, h.frame]
  refine ⟨hclaim, fun hmem => ?_⟩
  rcases mem_insert.mp hmem with heq | hmem
  · rw [Std.LawfulEqCmp.compare_eq_iff_eq] at heq
    exact hobligation (heq ▸ mem_iff_getElem?.mpr ⟨o, hplanned.stored⟩)
  · exact hobligation hmem

/-- The reducers return on an accepted receipt with fresh identities. -/
lemma reduceReceipt_ok (hr : ValidReceipt E fs s receipt)
    (hplanned : Planned E fs s receipt.invocation o)
    (hids : FreshNodes s.toKnowledgeStateProjection receipt.targets) :
    ∃ acc, reduceReceipt E s receipt = .ok acc := by
  obtain ⟨c, hcharge⟩ := chargeReceipt_ok hr hplanned
  obtain ⟨hypothesesEq, obligationsEq⟩ : c.hypotheses = s.hypotheses ∧
      c.obligations = s.obligations := by
    have hframe := hcharge
    simp only [chargeReceipt, bind_ok, pure_ok] at hframe
    obtain ⟨_, -, _, -, _, -, _, -, _, -, _, -, rfl⟩ := hframe
    exact ⟨rfl, rfl⟩
  obtain ⟨hypotheses, hhypotheses⟩ := reduceHypotheses_ok hr hplanned
  obtain ⟨obligations, hobligations⟩ := reduceObligation_ok hr hplanned
  rw [← hypothesesEq] at hhypotheses
  rw [← obligationsEq] at hobligations
  obtain ⟨st, hrecorded⟩ := recorded_of_ok hplanned hcharge hhypotheses hobligations
  obtain ⟨⟨q, changes⟩, hexpansion⟩ := reduceExpansion_ok hr hrecorded hplanned
    (hrecorded.freshNodes hplanned hids) .default
  have hwidened := reduceExpansion_spec hr hrecorded hplanned hexpansion
  obtain ⟨claims, hclaims⟩ := recomputeClaimAssessments_ok
    (obligationsOf_ne_nil hrecorded hplanned hwidened)
  simp only [reduceReceipt, hcharge, ok_bind, hhypotheses, hobligations, hexpansion,
    reduceDiscoveries_eq hr hplanned.valid, hclaims]
  exact ⟨_, rfl⟩

/-! ## What the successor must fit -/

def newNodes (s : KnowledgeStateProjection) (receipt : ActionReceipt) : List DependencyNodeId :=
  match receipt.invocation, receipt.outcome with
  | .expandDependencyClosure x, .completed _ edges _ => admittedNodes s x edges.toList
  | _, _ => []

/-- The new nodes fit the hard limits on claims and obligations, and the state gives
    none of their closing observations another type. -/
structure SuccessorFits (s : KnowledgeStateProjection) (receipt : ActionReceipt) : Prop where
  claims_le : s.claims.size + (newNodes s receipt).length ≤ hardMaxClaims
  obligations_le : s.obligations.size + (newNodes s receipt).length ≤ hardMaxObligations
  types : ∀ n ∈ newNodes s receipt, ∀ p ∈ s.predicates,
    p.observationKey = dependencyObservationKey n → p.valueType = .bool

/-- Both documents are within what their readers accept. -/
structure Readable (s : KnowledgeState) (receipt : ActionReceipt) : Prop where
  state_le : (toVec s).size ≤ maxStateBytes
  receipt_le : (toVec receipt).size ≤ maxActionReceiptBytes

lemma newObligation_iff {id : KnowledgeObligationId} {o' : KnowledgeObligation} :
    NewObligation receipt m id o' ↔ ∃ x observations edges,
      receipt.invocation = .expandDependencyClosure x ∧
        receipt.outcome = .completed observations edges ∅ ∧
          ∃ n ∈ newNodes m receipt, id = nodeObligationId m n ∧ o' = nodeObligation m x n := by
  unfold NewObligation
  refine exists_congr fun x => exists_congr fun observations => exists_congr fun edges => ?_
  refine and_congr_right fun hinv => and_congr_right fun hout => ?_
  rw [newNodes, hinv, hout]

lemma newClaim_iff {id : KnowledgeClaimId} {c : KnowledgeClaim} :
    NewClaim receipt m id c ↔ ∃ x observations edges,
      receipt.invocation = .expandDependencyClosure x ∧
        receipt.outcome = .completed observations edges ∅ ∧
          ∃ n ∈ newNodes m receipt, id = nodeClaimId m n ∧ c = nodeClaim m n := by
  unfold NewClaim
  refine exists_congr fun x => exists_congr fun observations => exists_congr fun edges => ?_
  refine and_congr_right fun hinv => and_congr_right fun hout => ?_
  rw [newNodes, hinv, hout]

lemma Widened.exists_of_mem_newNodes (h : Widened receipt m q) {n : DependencyNodeId}
    (hn : n ∈ newNodes m receipt) : ∃ x observations edges,
      receipt.invocation = .expandDependencyClosure x ∧
        receipt.outcome = .completed observations edges ∅ ∧ n ∈ admittedNodes m x edges.toList ∧
          Expanded m x receipt.manifestDigest edges.toList q := by
  rcases h with ⟨x, observations, edges, hinv, hout, -, hexp⟩ | ⟨-, hother⟩
  · rw [newNodes, hinv, hout] at hn
    exact ⟨x, observations, edges, hinv, hout, hn, hexp⟩
  · unfold newNodes at hn
    split at hn
    · next x observations edges discoveries hinv hout =>
      exact absurd hout (hother x observations edges discoveries hinv)
    · cases hn

lemma Widened.sizes (h : Widened receipt m q) :
    q.claims.size = m.claims.size + (newNodes m receipt).length ∧
      q.obligations.size = m.obligations.size + (newNodes m receipt).length := by
  rcases h with ⟨x, observations, edges, hinv, hout, -, hexp⟩ | ⟨rfl, hother⟩
  · rw [newNodes, hinv, hout]
    exact ⟨hexp.claims_size, hexp.obligations_size⟩
  · have hnone : newNodes q receipt = [] := by
      unfold newNodes
      split
      · next x observations edges discoveries hinv hout =>
        exact absurd hout (hother x observations edges discoveries hinv)
      · rfl
    simp [hnone]

namespace Reduced

section

variable (h : Reduced E s receipt o st m q p)
include h

lemma newNodes_eq : newNodes m receipt = newNodes s.toKnowledgeStateProjection receipt := by
  rw [h.recorded.frame]
  rfl

lemma obligations_size (hplanned : Planned E fs s receipt.invocation o) : p.obligations.size =
      s.obligations.size + (newNodes s.toKnowledgeStateProjection receipt).length := by
  rw [h.obligations_eq, h.widened.sizes.2, h.newNodes_eq, h.recorded_obligations,
    size_insert_old (mem_iff_getElem?.mpr ⟨o, hplanned.stored⟩)]

lemma claims_size :
    p.claims.size = s.claims.size + (newNodes s.toKnowledgeStateProjection receipt).length := by
  have hkeys : p.claims.size = q.claims.size := by
    have hmap : p.claims = q.claims.map fun id c =>
        { c with assessment := deriveClaimAssessment (obligationsOf q.obligations id) } := by
      apply Std.ExtTreeMap.ext_getElem?
      intro id
      rw [h.reassessed.claims, Std.ExtTreeMap.getElem?_map]
    rw [hmap, Std.ExtTreeMap.size_map]
  rw [hkeys, h.widened.sizes.1, h.newNodes_eq, h.recorded_claims]

/-- The predicates of the successor: those of the state, and one for each new node. -/
lemma mem_predicates (hplanned : Planned E fs s receipt.invocation o)
    {predicate : KnowledgePredicate} : predicate ∈ p.predicates ↔ predicate ∈ s.predicates ∨
      ∃ n ∈ newNodes s.toKnowledgeStateProjection receipt,
        predicate = .boolEquals (dependencyObservationKey n) true := by
  have hhypotheses : (BTreeMap.values p.hypotheses).map KnowledgeHypothesis.definition =
      (BTreeMap.values s.hypotheses).map KnowledgeHypothesis.definition := by
    refine map_values_congr fun id => h.hypotheses.getElem?_map_eq ?_ id
    rintro y y' (rfl | ⟨-, -, -, rfl⟩) <;> rfl
  simp only [KnowledgeStateProjection.predicates, mem_append, mem_map, mem_flatMap,
    mem_values, hhypotheses]
  constructor
  · rintro ((⟨c, ⟨id, hc⟩, rfl⟩ | ⟨o', ⟨id, ho'⟩, hpred⟩) | hy)
    · obtain ⟨c₀, hold | hnew, rfl⟩ := (h.claims_iff id c).mp hc
      · exact .inl (.inl (.inl ⟨c₀, ⟨id, hold⟩, rfl⟩))
      · obtain ⟨-, -, -, -, -, n, hn, -, rfl⟩ := newClaim_iff.mp hnew
        exact .inr ⟨n, h.newNodes_eq ▸ hn, rfl⟩
    · by_cases hid : id = o.obligationId
      · subst hid
        obtain ⟨final, hfinal, -⟩ := h.selected hplanned
        rw [hfinal] at ho'
        cases ho'
        exact .inl (.inl (.inr ⟨o, ⟨_, hplanned.stored⟩, hpred⟩))
      · rcases (h.other_iff hplanned hid o').mp ho' with hold | hnew
        · exact .inl (.inl (.inr ⟨o', ⟨id, hold⟩, hpred⟩))
        · obtain ⟨x, -, -, -, -, n, hn, -, rfl⟩ := newObligation_iff.mp hnew
          simp only [KnowledgeObligation.predicates, nodeObligation, planPredicates,
            mem_singleton] at hpred
          exact .inr ⟨n, h.newNodes_eq ▸ hn, hpred⟩
    · exact .inl (.inr hy)
  · rintro (((⟨c, ⟨id, hc⟩, rfl⟩ | ⟨o', ⟨id, ho'⟩, hpred⟩) | hy) | ⟨n, hn, rfl⟩)
    · exact .inl (.inl ⟨_, ⟨id, (h.claims_iff id _).mpr ⟨c, .inl hc, rfl⟩⟩, rfl⟩)
    · refine .inl (.inr ?_)
      by_cases hid : id = o.obligationId
      · subst hid
        rw [hplanned.stored] at ho'
        cases ho'
        obtain ⟨final, hfinal, -⟩ := h.selected hplanned
        exact ⟨_, ⟨_, hfinal⟩, hpred⟩
      · exact ⟨o', ⟨id, (h.other_iff hplanned hid o').mpr (.inl ho')⟩, hpred⟩
    · exact .inr hy
    · obtain ⟨x, observations, edges, hinv, hout, hadmitted, -⟩ :=
        h.widened.exists_of_mem_newNodes (h.newNodes_eq ▸ hn)
      exact .inl (.inl ⟨_, ⟨_, (h.claims_iff _ _).mpr ⟨_, .inr ⟨x, observations, edges, hinv,
        hout, n, hadmitted, rfl, rfl⟩, rfl⟩⟩, rfl⟩)

lemma fits (hplanned : Planned E fs s receipt.invocation o) (hp : ValidProjection E fs p) :
    SuccessorFits s.toKnowledgeStateProjection receipt := by
  refine ⟨?_, ?_, ?_⟩
  · rw [← h.claims_size]
    exact hp.bounds.claims_le
  · rw [← h.obligations_size hplanned]
    exact hp.bounds.obligations_le
  · intro n hn predicate hpred hkey
    exact hp.types predicate ((h.mem_predicates hplanned).mpr (.inl hpred)) _
      ((h.mem_predicates hplanned).mpr (.inr ⟨n, hn, rfl⟩)) hkey

end

end Reduced

/-! ## The index of the successor -/

namespace Expanded

variable {x : DependencyExpansionInvocation} {receiptDigest : ActionReceiptDigest}
  {edges : List DependencyEdge}

lemma parents_mono (h : Expanded m x receiptDigest edges q) {n : DependencyNodeId}
    (hn : n ∈ m.dependencyParents) : n ∈ q.dependencyParents :=
  h.mem_parents.mpr (.inl hn)

lemma dependencyValid (hs : ExpandReady m x) (h : Expanded m x receiptDigest edges q)
    (hm : DependencyValid m) (hmax : m.budget.maxDependencyNodes < u64Width) :
    DependencyValid q := by
  have hacyclic := ((dependencyGraphIsAcyclic_iff hm.closed hmax).mp hm.acyclic).2
  have hbudget := h.budget_eq
  refine ⟨?_, ?_, ?_, h.closed hs, ?_, ?_⟩
  · rw [h.parents_size, h.depths_size, hm.parents_size]
  · rw [h.graph_size, h.depths_size, hm.graph_size]
  · intro n hn
    rcases (h.graph n).mp hn with hn | hn
    · obtain ⟨d, hd⟩ := mem_iff_getElem?.mp (hm.graph_depths n hn)
      exact mem_iff_getElem?.mpr ⟨d, (h.depths n d).mpr (.inl hd)⟩
    · exact mem_iff_getElem?.mpr ⟨_, (h.depths n _).mpr (.inr ⟨hn, rfl⟩)⟩
  · intro n d hd
    rw [hbudget]
    rcases (h.depths n d).mp hd with hd | ⟨hn, rfl⟩
    · exact hm.depths_le n d hd
    · have hallows := (mem_of_mem_admittedNodes hn).2.2
      simp only [depthAllows, Bool.and_eq_true, decide_eq_true_eq] at hallows
      exact hallows.2
  · refine (dependencyGraphIsAcyclic_iff (h.closed hs) (hbudget ▸ hmax)).mpr
      ⟨h.graph_size_le hs, h.acyclic hacyclic⟩

lemma parentsValid (hs : ExpandReady m x) (h : Expanded m x receiptDigest edges q)
    (hm : ∀ (node : DependencyNodeId) (parent : Option DependencyNodeId),
      m.dependencyParents[node]? = some parent → DependencyParentValid m node parent)
    {node : DependencyNodeId} {parent : Option DependencyNodeId}
    (hnode : q.dependencyParents[node]? = some parent) : DependencyParentValid q node parent := by
  rcases (h.parents node parent).mp hnode with hold | ⟨hn, rfl⟩
  · have hvalid := hm node parent hold
    obtain ⟨d, hd⟩ := mem_iff_getElem?.mp hvalid.depth
    refine ⟨mem_iff_getElem?.mpr ⟨d, (h.depths _ _).mpr (.inl hd)⟩, ?_⟩
    intro p hp
    obtain ⟨parentDepth, hparent, hdepth, hedge⟩ := hvalid.below p hp
    exact ⟨parentDepth, (h.depths _ _).mpr (.inl hparent), (h.depths _ _).mpr (.inl hdepth),
      (h.edges_iff _ _).mpr (.inl hedge)⟩
  · -- an admitted node hangs one level below the root, by an edge of its own
    obtain ⟨hmem, hnew, -⟩ := mem_of_mem_admittedNodes hn
    refine ⟨mem_iff_getElem?.mpr ⟨_, (h.depths _ _).mpr (.inr ⟨hn, rfl⟩)⟩, ?_⟩
    rintro _ ⟨⟩
    refine ⟨x.depth, (h.depths _ _).mpr (.inl hs.depth_eq), ?_, ?_⟩
    · rw [saturatingAdd_eq hs.depth_lt]
      exact (h.depths _ _).mpr (.inr ⟨hn, rfl⟩)
    · refine (h.edges_iff _ _).mpr (.inr ⟨rfl, hmem, fun hc => hnew (hs.mem_of_cyclic hc), ?_⟩)
      exact .inr hn

end Expanded

structure IndexValid (s : KnowledgeState) (p : KnowledgeStateProjection) : Prop where
  dependency : DependencyValid p
  parents : ∀ (node : DependencyNodeId) (parent : Option DependencyNodeId),
    p.dependencyParents[node]? = some parent → DependencyParentValid p node parent
  nodes_le : p.dependencyParents.size ≤ p.budget.maxDependencyNodes
  edges_le : p.dependencyGraph.edgeCount ≤ p.budget.maxDependencyEdges
  depths_mono : ∀ (n : DependencyNodeId) (d : Nat), s.dependencyDepths[n]? = some d →
    p.dependencyDepths[n]? = some d
  parents_mono : ∀ n : DependencyNodeId, n ∈ s.dependencyParents → n ∈ p.dependencyParents

lemma Reduced.indexValid (h : Reduced E s receipt o st m q p)
    (hr : ValidReceipt E fs s receipt) (hplanned : Planned E fs s receipt.invocation o) :
    IndexValid s p := by
  have hs := hplanned.valid.projection
  have hmax : s.budget.maxDependencyNodes < u64Width := by
    have hle := hs.budget.dependencyNodes.2
    simp only [hardMaxDependencyNodes, u64Width] at hle ⊢
    omega
  have hedges : s.dependencyGraph.edgeCount ≤ s.budget.maxDependencyEdges := by
    obtain ⟨n, hn, hle⟩ := hs.bounds.edges_le
    rw [← eq_edgeCount_of_ok hn]
    exact hle
  have hm := h.recorded.frame
  have hsame : IndexValid s m := by
    rw [hm]
    exact ⟨{ hs.dependency with }, fun node parent hnode => { hs.parents node parent hnode with },
      hs.bounds.nodes_le, hedges, fun _ _ hd => hd, fun _ hn => hn⟩
  rw [h.reassessed.frame]
  rcases h.widened with ⟨x, observations, edges, hinv, hout, hsources, hexp⟩ | ⟨rfl, -⟩
  · have hready := h.recorded.expandReady hplanned hinv
    have hbudget : m.budget = s.budget := by rw [hm]
    have hgraph : m.dependencyGraph = s.dependencyGraph := by rw [hm]
    have hshape := hr.shape
    rw [hout] at hshape
    have hcount := (validateOutcomeShape_completed hs.budget hshape).edgeCount_le
    have hdependency := hexp.dependencyValid hready hsame.dependency (hbudget ▸ hmax)
    refine ⟨{ hdependency with }, fun node parent hnode =>
      { hexp.parentsValid hready hsame.parents hnode with }, ?_, ?_, ?_, ?_⟩
    · have hroom : (admittedNodes m x edges.toList).length ≤ roomFor m := length_admittedNodes_le
      have hle := hready.parents_le
      simp only
      rw [hexp.parents_size, hexp.budget_eq]
      unfold roomFor at hroom
      omega
    · have hle := hexp.edgeCount_le
      rw [hgraph, Std.ExtTreeSet.length_toList] at hle
      simp only
      rw [hexp.budget_eq, hbudget]
      exact hle.trans hcount
    · exact fun n d hd => (hexp.depths n d).mpr (.inl (hsame.depths_mono n d hd))
    · exact fun n hn => hexp.parents_mono (hsame.parents_mono n hn)
  · exact { hsame with
      dependency := { hsame.dependency with }
      parents := fun node parent hnode => { hsame.parents node parent hnode with } }

/-! ## The obligations and claims of the successor -/

namespace Reduced

lemma expansion_bounds (hplanned : Planned E fs s receipt.invocation o)
    {x : DependencyExpansionInvocation} (hx : receipt.invocation = .expandDependencyClosure x) :
    0 < x.maxDepth ∧ x.maxDepth ≤ s.budget.maxDependencyDepth := by
  have hbounds := (hplanned.valid.projection.obligations _ _ hplanned.stored).bounds
  have hinvocation := hplanned.invocation_eq
  rw [hx] at hinvocation
  cases hplan : o.plan <;> rw [hplan] at hinvocation hbounds <;> cases hinvocation
  have hok := validateBounds_expandDependencyClosure_ok.mp hbounds
  exact ⟨hok.1, hok.2.1⟩

section

variable (h : Reduced E s receipt o st m q p)
include h

variable {id : KnowledgeClaimId} {c : KnowledgeClaim}

lemma claim_kept (hc : s.claims[id]? = some c) :
    ∃ c', p.claims[id]? = some c' ∧ c'.domain = c.domain :=
  ⟨_, (h.claims_iff id _).mpr ⟨c, .inl hc, rfl⟩, rfl⟩

variable {o' : KnowledgeObligation}

lemma obligationValid_kept (hindex : IndexValid s p)
    (hvalid : ObligationValid s.toKnowledgeStateProjection o') {state : KnowledgeObligationState}
    (hwitnesses : ∀ r ∈ state.witnesses, r ∈ p.appliedReceipts) :
    ObligationValid p { o' with state := state } := by
  obtain ⟨c, hc, hdomain, hplan⟩ := hvalid.claim
  obtain ⟨c', hc', hsame⟩ := h.claim_kept hc
  refine ⟨⟨c', hc', hsame.trans hdomain, hsame ▸ hplan⟩, ?_, hvalid.binding, ?_, hwitnesses⟩
  · rw [h.counted.budget]
    exact hvalid.bounds
  · intro root depth maxDepth hexpand
    obtain ⟨hdepth, hparent⟩ := hvalid.indexed root depth maxDepth hexpand
    exact ⟨hindex.depths_mono root depth hdepth, hindex.parents_mono root hparent⟩

section

variable (hplanned : Planned E fs s receipt.invocation o)
include hplanned

lemma obligationValid (hindex : IndexValid s p) {id : KnowledgeObligationId}
    (ho' : p.obligations[id]? = some o') : ObligationValid p o' := by
  have hs := hplanned.valid.projection
  have happlied := h.counted.applied
  by_cases hid : id = o.obligationId
  · subst hid
    obtain ⟨final, hfinal, hreduced⟩ := h.selected hplanned
    rw [hfinal] at ho'
    cases ho'
    have hvalid := hs.obligations _ _ hplanned.stored
    refine h.obligationValid_kept hindex hvalid ?_
    intro r hr
    rw [happlied]
    exact ((hreduced.witnesses_iff r).mp hr).imp_left (hvalid.witnesses r)
  · rcases (h.other_iff hplanned hid o').mp ho' with hold | hnew
    · have hvalid := hs.obligations _ _ hold
      exact h.obligationValid_kept hindex hvalid
        fun r hr => (happlied r).mpr (.inl (hvalid.witnesses r hr))
    · obtain ⟨x, observations, edges, hinv, hout, n, hn, -, rfl⟩ := hnew
      obtain ⟨hpos, hmaxDepth⟩ := expansion_bounds hplanned hinv
      have hallows := (mem_of_mem_admittedNodes hn).2.2
      simp only [depthAllows, Bool.and_eq_true, decide_eq_true_eq] at hallows
      have hclaim := (h.claims_iff (nodeClaimId m n) _).mpr
        ⟨nodeClaim m n, .inr ⟨x, observations, edges, hinv, hout, n, hn, rfl, rfl⟩, rfl⟩
      refine ⟨⟨_, hclaim, rfl, .inr rfl⟩, ?_, ?_, ?_, ?_⟩
      · rw [h.counted.budget]
        exact validateBounds_expandDependencyClosure_ok.mpr ⟨hpos, hmaxDepth, hallows.1⟩
      · exact validateCriterionPlanBinding_expandDependencyClosure_ok.mpr rfl
      · rintro root depth maxDepth ⟨⟩
        rcases h.widened with ⟨x', observations', edges', hinv', hout', -, hexp⟩ | ⟨-, hother⟩
        · rw [hinv] at hinv'
          cases hinv'
          rw [hout] at hout'
          cases hout'
          rw [h.reassessed.frame]
          exact ⟨(hexp.depths _ _).mpr (.inr ⟨hn, rfl⟩), hexp.mem_parents.mpr (.inr hn)⟩
        · exact absurd hout (hother x observations edges _ hinv)
      · intro r hr
        simp [nodeObligation, KnowledgeObligationState.witnesses] at hr

lemma obligation_keys {id : KnowledgeObligationId} (ho' : p.obligations[id]? = some o') :
    o'.obligationId = id := by
  by_cases hid : id = o.obligationId
  · subst hid
    obtain ⟨final, hfinal, -⟩ := h.selected hplanned
    rw [hfinal] at ho'
    cases ho'
    rfl
  · rcases (h.other_iff hplanned hid o').mp ho' with hold | ⟨_, _, _, -, -, _, -, rfl, rfl⟩
    · exact hplanned.valid.projection.obligation_keys id o' hold
    · rfl

lemma claim_keys (hc : p.claims[id]? = some c) : c.claimId = id := by
  obtain ⟨c₀, hold | ⟨_, _, _, -, -, _, -, rfl, rfl⟩, rfl⟩ := (h.claims_iff id c).mp hc
  · exact hplanned.valid.projection.claim_keys id c₀ hold
  · rfl

lemma claimValid (hc : p.claims[id]? = some c) : ClaimValid p c := by
  have hs := hplanned.valid.projection
  have hkey := h.claim_keys hplanned hc
  obtain ⟨c₀, hold | hnew, hassessed⟩ := (h.claims_iff id c).mp hc
  · refine ⟨?_, by rw [hkey, hassessed]⟩
    obtain ⟨o', ho', hcriterion⟩ := (hs.claims id c₀ hold).criterion
    obtain ⟨⟨oid, hoid⟩, hclaim⟩ := mem_obligationsOf.mp ho'
    rw [hs.claim_keys id c₀ hold] at hclaim
    rw [hkey]
    have hpredicate : c.predicate = c₀.predicate := by rw [hassessed]
    rw [hpredicate]
    by_cases hsel : oid = o.obligationId
    · subst hsel
      rw [hplanned.stored] at hoid
      cases hoid
      obtain ⟨final, hfinal, -⟩ := h.selected hplanned
      exact ⟨_, mem_obligationsOf.mpr ⟨⟨_, hfinal⟩, hclaim⟩, hcriterion⟩
    · exact ⟨o', mem_obligationsOf.mpr
        ⟨⟨oid, (h.other_iff hplanned hsel o').mpr (.inl hoid)⟩, hclaim⟩, hcriterion⟩
  · refine ⟨?_, by rw [hkey, hassessed]⟩
    obtain ⟨x, observations, edges, hinv, hout, n, hn, rfl, rfl⟩ := hnew
    have hexists := h.widened.exists_of_mem_newNodes (n := n) (by rw [newNodes, hinv, hout]; exact hn)
    obtain ⟨x', observations', edges', hinv', hout', hn', hexp⟩ := hexists
    have hother : nodeObligationId m n ≠ o.obligationId := by
      intro heq
      refine (hexp.fresh n hn').2 ?_
      rw [heq, h.recorded_obligations]
      exact mem_insert_self
    have hmem := (h.other_iff hplanned hother _).mpr
      (.inr ⟨x, observations, edges, hinv, hout, n, hn, rfl, rfl⟩)
    rw [hkey, hassessed]
    exact ⟨_, mem_obligationsOf.mpr ⟨⟨_, hmem⟩, rfl⟩, rfl⟩

lemma familiesCovered :
    FamiliesCovered p.familyOf (hypothesisFamilies p.hypothesisEntries) p.plans ∧
      p.hypothesisEntries = s.hypothesisEntries := by
  have hs := hplanned.valid.projection
  have hentries : p.hypothesisEntries = s.hypothesisEntries := by
    refine map_values_congr fun id => h.hypotheses.getElem?_map_eq ?_ id
    rintro y y' (rfl | ⟨-, -, -, rfl⟩) <;> rfl
  have hfamilyOf : p.familyOf = s.familyOf := by
    funext id
    refine h.hypotheses.getElem?_map_eq ?_ id
    rintro y y' (rfl | ⟨-, -, -, rfl⟩) <;> rfl
  refine ⟨?_, hentries⟩
  rw [hentries, hfamilyOf]
  have hplans : ∀ plan ∈ p.plans, plan ∈ s.plans ∨ plan.predictions = none := by
    intro plan hplan
    obtain ⟨o', ho', rfl⟩ := mem_map.mp hplan
    obtain ⟨id, hid⟩ := mem_values.mp ho'
    by_cases hsel : id = o.obligationId
    · subst hsel
      obtain ⟨final, hfinal, -⟩ := h.selected hplanned
      rw [hfinal] at hid
      cases hid
      exact .inl (mem_map.mpr ⟨o, mem_values.mpr ⟨_, hplanned.stored⟩, rfl⟩)
    · rcases (h.other_iff hplanned hsel o').mp hid with hold | ⟨_, _, _, -, -, _, -, -, rfl⟩
      · exact .inl (mem_map.mpr ⟨o', mem_values.mpr ⟨id, hold⟩, rfl⟩)
      · exact .inr rfl
  have hkept : ∀ plan ∈ s.plans, plan ∈ p.plans := by
    intro plan hplan
    obtain ⟨o', ho', rfl⟩ := mem_map.mp hplan
    obtain ⟨id, hid⟩ := mem_values.mp ho'
    by_cases hsel : id = o.obligationId
    · subst hsel
      rw [hplanned.stored] at hid
      cases hid
      obtain ⟨final, hfinal, -⟩ := h.selected hplanned
      exact mem_map.mpr ⟨_, mem_values.mpr ⟨_, hfinal⟩, rfl⟩
    · exact mem_map.mpr ⟨o', mem_values.mpr
        ⟨id, (h.other_iff hplanned hsel o').mpr (.inl hid)⟩, rfl⟩
  constructor
  · intro plan hplan
    rcases hplans plan hplan with hold | hnone
    · exact hs.families.plans_cover plan hold
    · intro predictions hpred
      rw [hnone] at hpred
      cases hpred
  · intro familyId hfamily
    obtain ⟨plan, hplan, hpred⟩ := hs.families.predicted familyId hfamily
    exact ⟨plan, hkept plan hplan, hpred⟩

end

end

end Reduced

/-! ## The successor is valid where it fits -/

omit [Platform] in
lemma new_receipts_eq {old new : BTreeSet ActionReceiptDigest} {digest : ActionReceiptDigest}
    (hfresh : digest ∉ old) (h : ∀ d, d ∈ new ↔ d ∈ old ∨ d = digest) :
    new.toList.filter (· ∉ old) = [digest] := by
  have hnodup := (nodup_toList new).filter (fun d => decide (d ∉ old))
  rw [← perm_singleton]
  refine (perm_ext_iff_of_nodup hnodup (nodup_singleton _)).mpr ?_
  intro d
  rw [mem_filter, Std.ExtTreeSet.mem_toList, h, decide_eq_true_eq, mem_singleton]
  constructor
  · rintro ⟨hd | hd, hnew⟩
    · exact absurd hd hnew
    · exact hd
  · rintro rfl
    exact ⟨.inr rfl, hfresh⟩

/-- The state and the receipt are stored where their references say, and are read
    back as they are. -/
structure Stored (E : KnowledgeEngine) (fs : PrivateRoot) (s : KnowledgeState)
    (receipt : ActionReceipt) : Prop where
  state : fs.content (E.stateReference s).path = .ok (toVec s)
  receipt_ : fs.content (E.actionReceiptReference receipt).path = .ok (toVec receipt)
  state_decodes : DecodesCanonical s
  receipt_decodes : DecodesCanonical receipt

lemma Stored.read_state (h : Stored E fs s receipt) (hle : (toVec s).size ≤ maxStateBytes) :
    (E.stateReference s).readVerifiedBounded fs maxStateBytes = .ok (toVec s) :=
  readVerifiedBounded_ok.mpr ⟨h.state, hle, rfl⟩

lemma Stored.read_receipt (h : Stored E fs s receipt)
    (hle : (toVec receipt).size ≤ maxActionReceiptBytes) :
    (E.actionReceiptReference receipt).readVerifiedBounded fs maxActionReceiptBytes =
      .ok (toVec receipt) :=
  readVerifiedBounded_ok.mpr ⟨h.receipt_, hle, rfl⟩

section

variable (h : Reduced E s receipt o st m q p)
include h

lemma Reduced.parentLink (hr : ValidReceipt E fs s receipt)
    (hplanned : Planned E fs s receipt.invocation o) (hstored : Stored E fs s receipt)
    (hreadable : Readable s receipt) :
    ParentLink E fs p s.manifestDigest (E.stateReference s) s (E.actionReceiptReference receipt)
      receipt := by
  have hs := hplanned.valid.projection
  have hsealed : s.calculateDigest = s.manifestDigest := hplanned.valid.sealed
  have hrevision := hplanned.continues.limits.revision_lt
  have hmaxRevision := hs.budget.revision.2
  have hmaxCost := hs.budget.totalCost.2
  have hmaxEvidence := hs.budget.evidenceRecords.2
  have hevidence := hr.evidence_le
  have hcost := hplanned.charged_le hr
  simp only [hardMaxRevision, hardMaxTotalCost, hardMaxEvidenceRecords]
    at hmaxRevision hmaxCost hmaxEvidence
  have hnew := new_receipts_eq hr.fresh h.recorded.applied
  have hm := h.recorded.frame
  have hp : p = { m with
      claims := p.claims
      obligations := p.obligations
      dependencyParents := p.dependencyParents
      dependencyDepths := p.dependencyDepths
      dependencyGraph := p.dependencyGraph
      boundedReason := p.boundedReason } := h.header
  rw [hp]
  refine ⟨?_, rfl, rfl, hsealed, ?_, ?_, ?_, ?_, ?_, ?_, rfl, hnew, hr.parent_eq, hr.sealed.symm,
    ?_, ?_⟩
  · rw [readStateDto, hstored.read_state hreadable.state_le, ok_bind]
    exact fromSlice_toVec hstored.state_decodes
  · simp only [u64Width]
    omega
  · rw [hm]
  · rw [hm]
  · rw [hm]
  · rw [hm]
  · rw [readReceiptDto, hstored.read_receipt hreadable.receipt_le, ok_bind]
    exact fromSlice_toVec hstored.receipt_decodes
  · rw [hm, saturatingAdd_eq (by simp only [u64Width]; omega)]
  · rw [hm, saturatingAdd_eq (by simp only [u64Width]; omega)]

lemma Reduced.stateBounds (hr : ValidReceipt E fs s receipt)
    (hplanned : Planned E fs s receipt.invocation o)
    (hfits : SuccessorFits s.toKnowledgeStateProjection receipt) : StateBounds p := by
  have hs := hplanned.valid.projection
  have hindex := h.indexValid hr hplanned
  have hlimits := hplanned.continues.limits
  have hclaims := h.claims_size
  have hobligations := h.obligations_size hplanned
  have hhypotheses : p.hypotheses.size = s.hypotheses.size := h.hypotheses.size_eq
  have hmaxEdges := hs.budget.dependencyEdges.2
  have hcost := hplanned.charged_le hr
  have hbudget := h.counted.budget
  have husage : p.usage = ⟨s.usage.actions + 1, s.usage.totalCost + receipt.chargedCost,
      s.usage.evidenceRecords + receipt.evidence.size⟩ := by
    rw [h.header]
    simp only
    rw [h.recorded.frame]
  have hclaimsNe := hs.bounds.claims_ne
  have hobligationsNe := hs.bounds.obligations_ne
  rw [isEmpty_eq_size_beq_zero, beq_eq_false_iff_ne] at hclaimsNe hobligationsNe
  simp only [hardMaxDependencyEdges] at hmaxEdges
  refine ⟨?_, ?_, ?_, ?_, ?_, ?_, ?_, ?_, ?_, ?_, ?_⟩
  · rw [isEmpty_eq_size_beq_zero, beq_eq_false_iff_ne, hclaims]
    omega
  · rw [isEmpty_eq_size_beq_zero, beq_eq_false_iff_ne, hobligations]
    omega
  · rw [hclaims]
    exact hfits.claims_le
  · rw [hobligations]
    exact hfits.obligations_le
  · rw [hhypotheses]
    exact hs.bounds.hypotheses_le
  · rw [h.counted.revision, hbudget]
    exact hlimits.revision_lt
  · rw [husage, hbudget]
    exact hlimits.actions_lt
  · rw [husage, hbudget]
    exact hcost
  · rw [husage, hbudget]
    exact hr.evidence_le
  · exact hindex.nodes_le
  · refine ⟨_, dependencyEdgeCount_eq ?_, hindex.edges_le⟩
    have hle := hindex.edges_le
    rw [hbudget] at hle
    simp only [u64Width]
    omega

lemma Reduced.accounting (hplanned : Planned E fs s receipt.invocation o) : Accounting p := by
  have hs := hplanned.valid.projection.accounting
  rw [h.header]
  refine ⟨?_, ?_, ?_, ?_, ?_, ?_⟩
  · simp only
    rw [h.recorded.frame]
    simp
  · simp only
    rw [h.recorded.frame]
    simp
  · simp only
    rw [h.recorded.frame]
    simp
  · simp only
    rw [h.recorded.frame]
    simp only
    rw [hs.actions_eq]
  · simp only
    rw [h.recorded.applied_size, h.recorded.frame]
    simp only
    rw [hs.receipts_eq]
  · simp only
    rw [h.recorded.used_size, h.recorded.frame]
    simp only
    rw [hs.artifacts_eq]

/-- New predicates are Boolean, and the old ones agree with them where they share a key. -/
lemma Reduced.types (hplanned : Planned E fs s receipt.invocation o)
    (hfits : SuccessorFits s.toKnowledgeStateProjection receipt) : TypeConsistent p.predicates := by
  intro a ha b hb hkey
  rcases (h.mem_predicates hplanned).mp ha with ha | ⟨n, hn, rfl⟩ <;>
    rcases (h.mem_predicates hplanned).mp hb with hb | ⟨n', hn', rfl⟩
  · exact hplanned.valid.projection.types a ha b hb hkey
  · exact hfits.types n' hn' a ha hkey
  · exact (hfits.types n hn b hb hkey.symm).symm
  · rfl

lemma Reduced.hypothesisWitnesses (hplanned : Planned E fs s receipt.invocation o)
    {id : KnowledgeHypothesisId} {y : KnowledgeHypothesis} (hy : p.hypotheses[id]? = some y) :
    y.hypothesisId = id ∧ ∀ r ∈ hypothesisWitnesses y.assessment, r ∈ p.appliedReceipts := by
  have hs := hplanned.valid.projection
  have happlied := h.counted.applied
  obtain ⟨y₀, hy₀, hmoved⟩ := h.hypotheses.origin hy
  have hold := hs.hypotheses id y₀ hy₀
  rcases hmoved with rfl | ⟨evaluation, assessment, hmove, rfl⟩
  · exact ⟨hs.hypothesis_keys id y hy₀, fun r hr => (happlied r).mpr (.inl (hold r hr))⟩
  · refine ⟨hs.hypothesis_keys id y₀ hy₀, fun r hr => (happlied r).mpr ?_⟩
    exact ((reduceHypothesisAssessment_spec hmove r).mp hr).imp_left (hold r)

lemma Reduced.valid (hr : ValidReceipt E fs s receipt)
    (hplanned : Planned E fs s receipt.invocation o) (hstored : Stored E fs s receipt)
    (hreadable : Readable s receipt) (hfits : SuccessorFits s.toKnowledgeStateProjection receipt) :
    ValidProjection E fs p := by
  have hs := hplanned.valid.projection
  have hindex := h.indexValid hr hplanned
  have hlink := h.parentLink hr hplanned hstored hreadable
  obtain ⟨hfamilies, hentries⟩ := h.familiesCovered hplanned
  have hrevision := h.counted.revision
  refine
    { authorityRoot_eq := ?_
      policy_eq := ?_
      budget := h.counted.budget ▸ hs.budget
      bounds := h.stateBounds hr hplanned hfits
      accounting := h.accounting hplanned
      origin := fun hzero => absurd hzero (by omega)
      parent := ?_
      bundle := ?_
      claim_keys := fun id c hc => h.claim_keys hplanned hc
      obligation_keys := fun id o' ho' => h.obligation_keys hplanned ho'
      hypothesis_keys := fun id y hy => (h.hypothesisWitnesses hplanned hy).1
      types := h.types hplanned hfits
      obligations := fun id o' ho' => h.obligationValid hplanned hindex ho'
      claims := fun id c hc => h.claimValid hplanned hc
      hypotheses := fun id y hy => (h.hypothesisWitnesses hplanned hy).2
      rivals := hentries ▸ hs.rivals
      families := hfamilies
      dependency := hindex.dependency
      parents := hindex.parents }
  · rw [h.header]
    simp only
    rw [h.recorded.frame]
    exact hs.authorityRoot_eq
  · rw [h.header]
    simp only
    rw [h.recorded.frame]
    exact hs.policy_eq
  · intro parentDigest parentReference hdigest hreference
    have hlinked : p.parentDigest = some s.manifestDigest ∧
        p.parentReference = some (E.stateReference s) := by
      rw [h.header]
      simp only
      rw [h.recorded.frame]
      exact ⟨rfl, rfl⟩
    rw [hlinked.1] at hdigest
    rw [hlinked.2] at hreference
    cases hdigest
    cases hreference
    exact ⟨s, _, receipt, hlink⟩
  · rw [h.header]
    simp only
    rw [h.recorded.frame]
    exact hs.bundle

end

/-! ## The condition for an advance -/

lemma fits_of_advance (hstored : Stored E fs s receipt) {a : KnowledgeAdvance}
    (ha : advance E fs s receipt = .ok a) :
    Readable s receipt ∧ SuccessorFits s.toKnowledgeStateProjection receipt := by
  have hadvanced := advance_spec ha
  obtain ⟨o, st, m, q, hplanned, hreduced⟩ := hadvanced.reduced
  obtain ⟨bytes, hbytes⟩ := hadvanced.receipt_stored
  obtain ⟨hcontent, hle, -⟩ := readVerifiedBounded_ok.mp hbytes
  rw [hstored.receipt_] at hcontent
  cases hcontent
  exact ⟨⟨(readVerifiedBounded_ok.mp hadvanced.stored).2.1, hle⟩,
    hreduced.fits hplanned hadvanced.successor.projection⟩

lemma advance_of_fits (hs : ValidState E fs s)
    (hr : validateActionReceipt E fs s receipt = .ok ()) (hstored : Stored E fs s receipt)
    (hids : FreshNodes s.toKnowledgeStateProjection receipt.targets)
    (hreadable : Readable s receipt) (hfits : SuccessorFits s.toKnowledgeStateProjection receipt) :
    ∃ a, advance E fs s receipt = .ok a := by
  have hvr := validateActionReceipt_spec hs hr
  obtain ⟨o, hplanned⟩ := hvr.planned
  obtain ⟨acc, hreduce⟩ := reduceReceipt_ok hvr hplanned hids
  obtain ⟨st, m, q, hreduced⟩ := reduceReceipt_spec hvr hplanned hreduce
  have hp := hreduced.valid hvr hplanned hstored hreadable hfits
  exact (advance_ok hs hr (hstored.read_state hreadable.state_le)
    (hstored.read_receipt hreadable.receipt_le)).mpr ⟨acc, hreduce, hp⟩

/-- **An accepted receipt advances a stored state exactly where the successor fits**
    and both documents are within what their readers accept. -/
theorem advance_ok_iff_fits (hs : validateState E fs s = .ok ())
    (hr : validateActionReceipt E fs s receipt = .ok ()) (hstored : Stored E fs s receipt)
    (hsha : Set.InjOn Platform.sha256 (identityPreimages s.toKnowledgeStateProjection receipt))
    (hfresh : ∀ n ∈ receipt.targets, FreshNode s.toKnowledgeStateProjection n) :
    (∃ a, advance E fs s receipt = .ok a ∧ validateState E fs a.state = .ok ()) ↔
      Readable s receipt ∧ SuccessorFits s.toKnowledgeStateProjection receipt := by
  have hvalid := validateState_ok.mp hs
  constructor
  · rintro ⟨a, ha, -⟩
    exact fits_of_advance hstored ha
  · rintro ⟨hreadable, hfits⟩
    have hnodup := (validateActionReceipt_spec hvalid hr).targets_nodup hvalid
    obtain ⟨a, ha⟩ := advance_of_fits hvalid hr hstored
      (freshNodes_of_injOn hsha hfresh hnodup) hreadable hfits
    exact ⟨a, ha, validateState_ok.mpr (advance_spec ha).successor⟩

end

/-! ## Two first attempts -/

namespace Sample

attribute [local instance] Platform.reference

namespace Attempt.Checked

variable {a : Attempt} (h : a.Checked)

omit h in
lemma stored : Stored engine a.fs a.state a.receipt :=
  ⟨root_content a.nodup_files (by simp [files]), root_content a.nodup_files (by simp [files]),
    decodesCanonical_reference _, decodesCanonical_reference _⟩

include h

lemma readable : Readable a.state a.receipt := by
  refine ⟨?_, a.receipt_le h.sizes.2.2.2 h.sizes.2.2.1⟩
  rw [toVec, Json.size_toBytes]
  exact h.sizes.1.trans (by decide)

end Attempt.Checked

lemma leaf_evaluated : leaf.receipt.targets = [] ∧
    newNodes leaf.state.toKnowledgeStateProjection leaf.receipt = [] ∧
    leaf.state.claims.size ≤ hardMaxClaims ∧ leaf.state.obligations.size ≤ hardMaxObligations := by
  decide +kernel

lemma leaf_targets : leaf.receipt.targets = [] := leaf_evaluated.1

lemma leaf_fits : SuccessorFits leaf.state.toKnowledgeStateProjection leaf.receipt := by
  obtain ⟨-, hnone, hclaims, hobligations⟩ := leaf_evaluated
  refine ⟨?_, ?_, ?_⟩
  · rw [hnone, length_nil]
    exact hclaims
  · rw [hnone, length_nil]
    exact hobligations
  · rw [hnone]
    simp

def leafDraft : KnowledgeContractDraft where
  claims := [⟨claimId, .dependencyClosure, closing⟩]
  obligations := [⟨obligationId, claimId, ⟨closing⟩, .expandDependencyClosure node 0 1⟩]
  hypotheses := []
  budget := budget

lemma leaf_initialized :
    initialize_ engine leaf.fs inquiryId bundleReference leafDraft = .ok leaf.state := by
  have hseal := leaf_checked.state_eq_seal
  have hvalid : validateState engine leaf.fs leaf.state = .ok () := leaf_checked.state_valid _
  simp only [initialize_, bind_ok, pure_ok]
  refine ⟨bundle, by decide +kernel, (), by decide +kernel, leaf.claims, by decide +kernel,
    ⟨leaf.obligations, _, _, _⟩, ?_, ∅, rfl, (), ?_, hseal⟩
  · rfl
  · rw [← hseal] at hvalid
    exact hvalid

lemma leaf_advanced : ∃ a, advance engine leaf.fs leaf.state leaf.receipt = .ok a := by
  refine advance_of_fits (validateState_ok.mp (leaf_checked.state_valid _))
    leaf_checked.accepted Attempt.Checked.stored ?_ leaf_checked.readable leaf_fits
  rw [leaf_targets]
  exact ⟨by simp, nodup_nil, nodup_nil⟩

/-- The receipt about the leaf advances its first state. -/
theorem leaf_advances : (∃ a, advance engine leaf.fs leaf.state leaf.receipt = .ok a ∧
      validateState engine leaf.fs a.state = .ok ()) ↔ Readable leaf.state leaf.receipt ∧
        SuccessorFits leaf.state.toKnowledgeStateProjection leaf.receipt :=
  advance_ok_iff_fits (leaf_checked.state_valid _) leaf_checked.accepted Attempt.Checked.stored
    (by
      have hempty : identityPreimages leaf.state.toKnowledgeStateProjection leaf.receipt = ∅ := by
        rw [identityPreimages, leaf_targets]
        simp
      rw [hempty]
      exact Set.injOn_empty _)
    (by
      rw [leaf_targets]
      simp)

/-- The receipt about the branch names one other node, which is new to the state, and the
    state has typed its closing observation. -/
lemma branch_evaluated : branch.receipt.targets = [otherNode] ∧
    (nodeClaimId branch.state.toKnowledgeStateProjection otherNode ∉ branch.state.claims ∧
      nodeObligationId branch.state.toKnowledgeStateProjection otherNode ∉
        branch.state.obligations) ∧
    otherNode ∈ newNodes branch.state.toKnowledgeStateProjection branch.receipt ∧
    counting ∈ branch.state.predicates ∧ sha256 (derivedClaimIdDomain.toByteArray ++
        nodeIdentityPayload branch.state.toKnowledgeStateProjection otherNode) ≠
      sha256 (derivedObligationIdDomain.toByteArray ++
        nodeIdentityPayload branch.state.toKnowledgeStateProjection otherNode) := by
  decide +kernel

lemma branch_targets : branch.receipt.targets = [otherNode] := branch_evaluated.1

lemma branch_fresh : FreshNode branch.state.toKnowledgeStateProjection otherNode :=
  branch_evaluated.2.1

lemma branch_not_fits :
    ¬SuccessorFits branch.state.toKnowledgeStateProjection branch.receipt := by
  intro h
  obtain ⟨-, -, hnew, hcounting, -⟩ := branch_evaluated
  have htype := h.types otherNode hnew counting hcounting
    dependencyObservationKey_otherNode.symm
  cases htype

/-- The receipt about the branch is accepted and never advances: the other node's
    closing observation would be given a second type. -/
theorem accepted_receipt_may_not_advance :
    ¬∀ (E : KnowledgeEngine) (fs : PrivateRoot) (s : KnowledgeState) (receipt : ActionReceipt),
      validateState E fs s = .ok () → validateActionReceipt E fs s receipt = .ok () →
      Stored E fs s receipt →
      Set.InjOn Platform.sha256 (identityPreimages s.toKnowledgeStateProjection receipt) →
      (∀ n ∈ receipt.targets, FreshNode s.toKnowledgeStateProjection n) →
      ∃ a, advance E fs s receipt = .ok a ∧ validateState E fs a.state = .ok () := by
  intro hclaim
  have hinjective : Set.InjOn sha256
      (identityPreimages branch.state.toKnowledgeStateProjection branch.receipt) := by
    have hpair : identityPreimages branch.state.toKnowledgeStateProjection branch.receipt =
        {derivedClaimIdDomain.toByteArray ++
            nodeIdentityPayload branch.state.toKnowledgeStateProjection otherNode,
          derivedObligationIdDomain.toByteArray ++
            nodeIdentityPayload branch.state.toKnowledgeStateProjection otherNode} := by
      rw [identityPreimages, branch_targets]
      ext bytes
      simp
    rw [hpair, Set.injOn_pair]
    intro hsame
    exact absurd hsame branch_evaluated.2.2.2.2
  obtain ⟨a, ha, -⟩ := hclaim engine branch.fs branch.state branch.receipt
    (branch_checked.state_valid _) branch_checked.accepted Attempt.Checked.stored hinjective
    (by
      rw [branch_targets]
      simpa using branch_fresh)
  exact branch_not_fits (fits_of_advance Attempt.Checked.stored ha).2

end Sample

end Tidex.Knowledge
