/-
  Knowledge.Completion — what a complete investigation has shown.
-/
import Tidex.Knowledge.Run

namespace Tidex.Knowledge

open Tidex.Lib Relation List BTreeMap KnowledgeObligationState

/-! ## What supports a state -/

def ActionReceipt.reportedEdges (receipt : ActionReceipt) : List DependencyEdge :=
  match receipt.outcome with
  | .completed _ edges _ => edges.toList
  | _ => []

def KnowledgeStateProjection.Expands (s : KnowledgeStateProjection) (id : KnowledgeObligationId)
    (o : KnowledgeObligation) (node : DependencyNodeId) : Prop :=
  s.obligations[id]? = some o ∧
    ∃ depth maxDepth, o.plan = .expandDependencyClosure node depth maxDepth

section

variable [Platform]

/-- A receipt is a witness of an obligation: it was derived by a verifier from
    authentic evidence, and its observations match the criterion that was
    committed to before. -/
structure Satisfies (E : KnowledgeEngine) (receipt : ActionReceipt) (o : KnowledgeObligation) :
    Prop where
  obligationId_eq : receipt.invocation.obligationId = o.obligationId
  witness : receipt.manifestDigest ∈ o.state.witnesses
  derived : ∃ fs, DerivedFromEvidence E fs receipt
  matches_ : ∃ observations edges discoveries,
    receipt.outcome = .completed observations edges discoveries ∧
      o.criterion.predicate.evaluate observations = .matches_

/-- What the receipts of a run support in the state they led to. -/
structure Supported (E : KnowledgeEngine) (receipts : List ActionReceipt)
    (s : KnowledgeStateProjection) : Prop where
  named : ∀ n : DependencyNodeId, n ∈ s.dependencyGraph → ∃ id o, s.Expands id o n
  satisfied : ∀ (id : KnowledgeObligationId) (o : KnowledgeObligation),
    s.obligations[id]? = some o → o.state.isSatisfied = true → ∃ r ∈ receipts, Satisfies E r o
  edges : Unblocked s → s.boundedReason = none → ∀ r ∈ receipts, ∀ e ∈ r.reportedEdges,
    s.dependencyGraph.Edge e.fromNode e.toNode

variable {E : KnowledgeEngine} {fs : PrivateRoot} {s t : KnowledgeState}
  {receipt : ActionReceipt} {receipts : List ActionReceipt} {o : KnowledgeObligation}
  {st : KnowledgeObligationState} {m q p : KnowledgeStateProjection}

lemma Initialized.supported (h : Initialized E fs s) :
    Supported E [] s.toKnowledgeStateProjection := by
  have hp := h.valid.projection
  refine ⟨?_, ?_, by simp⟩
  · intro n hn
    obtain ⟨id, o, depth, maxDepth, ho, hplan⟩ := h.named n (hp.mem_graph.mp hn)
    exact ⟨id, o, ho, depth, maxDepth, hplan⟩
  · intro id o ho hsat
    have hopen := (hp.origin h.revision_eq).obligations_open o
      (mem_values.mpr ⟨id, ho⟩)
    rw [hopen] at hsat
    cases hsat

/-! ## One advance -/

namespace Reduced

section

variable (h : Reduced E s receipt o st m q p) (hplanned : Planned E fs s receipt.invocation o)
include h hplanned

lemma named (hs : Supported E receipts s.toKnowledgeStateProjection) {n : DependencyNodeId}
    (hn : n ∈ p.dependencyGraph) : ∃ id o', p.Expands id o' n := by
  have hold : n ∈ s.dependencyGraph → ∃ id o', p.Expands id o' n := by
    intro hn
    obtain ⟨id, o', ho', depth, maxDepth, hplan⟩ := hs.named n hn
    obtain ⟨o'', ho'', hext⟩ := h.obligation_extends hplanned ho'
    refine ⟨id, o'', ho'', depth, maxDepth, ?_⟩
    rw [hext.frame]
    exact hplan
  have hm : m.dependencyGraph = s.dependencyGraph := by rw [h.recorded.frame]
  have hp : p.dependencyGraph = q.dependencyGraph := by rw [h.reassessed.frame]
  rw [hp] at hn
  rcases h.widened with ⟨x, observations, edges, hinv, hout, -, hexp⟩ | ⟨rfl, -⟩
  · rcases (hexp.graph n).mp hn with hn | hn
    · exact hold (hm ▸ hn)
    · have hid : nodeObligationId m n ≠ o.obligationId := by
        intro heq
        refine (hexp.fresh n hn).2 ?_
        rw [heq, h.recorded_obligations]
        exact Std.ExtTreeMap.mem_insert_self
      exact ⟨_, _, (h.other_iff hplanned hid _).mpr (.inr ⟨x, observations, edges, hinv, hout, n,
        hn, rfl, rfl⟩), _, _, rfl⟩
  · exact hold (hm ▸ hn)

lemma satisfied (hr : ValidReceipt E fs s receipt)
    (hs : Supported E receipts s.toKnowledgeStateProjection) {id : KnowledgeObligationId}
    {o' : KnowledgeObligation} (ho' : p.obligations[id]? = some o')
    (hsat : o'.state.isSatisfied = true) : ∃ r ∈ receipts ++ [receipt], Satisfies E r o' := by
  by_cases hid : id = o.obligationId
  · subst hid
    obtain ⟨final, hfinal, hreduced⟩ := h.selected hplanned
    rw [hfinal] at ho'
    cases ho'
    obtain ⟨observations, edges, discoveries, hout, heval⟩ := hreduced.satisfied hsat
    have hrequires : requiresDerivation receipt = true := by
      simp [requiresDerivation, hout, ActionOutcome.isCompleted]
    exact ⟨receipt, by simp, hplanned.obligationId_eq,
      (hreduced.witnesses_iff _).mpr (.inr rfl), ⟨fs, hr.derived hrequires⟩,
      observations, edges, discoveries, hout, heval⟩
  · rcases (h.other_iff hplanned hid o').mp ho' with ho' | ⟨_, _, _, -, -, _, -, -, rfl⟩
    · obtain ⟨r, hr, hsatisfies⟩ := hs.satisfied id o' ho' hsat
      exact ⟨r, mem_append_left _ hr, hsatisfies⟩
    · cases hsat

/-- No reported edge is dropped without a mark. -/
lemma reported (hr : ValidReceipt E fs s receipt) (hunblocked : Unblocked p)
    (hunbounded : p.boundedReason = none) {e : DependencyEdge} (he : e ∈ receipt.reportedEdges) :
    p.dependencyGraph.Edge e.fromNode e.toNode := by
  have hp : p.dependencyGraph = q.dependencyGraph := by rw [h.reassessed.frame]
  have hbounded : p.boundedReason = q.boundedReason := by rw [h.reassessed.frame]
  unfold ActionReceipt.reportedEdges at he
  rcases h.widened with ⟨x, observations, edges, hinv, hout, hsources, hexp⟩ | ⟨-, hother⟩
  · rw [hout] at he
    rcases hexp.accounted e he with hcyclic | hlinked | hmarked
    · -- a cycle would have blocked the planned obligation
      obtain ⟨o', -, hselected⟩ := hexp.selected
      rcases hselected with ⟨-, hacyclic⟩ | ⟨e', -, -, hblocked⟩
      · exact absurd hcyclic (hacyclic e he)
      · rw [← h.obligations_eq] at hblocked
        have hfree := hunblocked.obligations _ _ hblocked
        cases hfree
    · rw [hp, hexp.edges_iff]
      exact .inr ⟨hsources e he, hlinked⟩
    · exact absurd (hbounded ▸ hunbounded) hmarked
  · -- only a completed expansion reports edges
    cases hout : receipt.outcome with
    | completed observations edges discoveries =>
      have hshape := hr.shape
      rw [hout] at hshape he
      have hcompleted := validateOutcomeShape_completed hplanned.valid.projection.budget hshape
      have hempty := hcompleted.edges_eq fun x hinv =>
        hother x observations edges _ hinv hout
      simp [hempty] at he
    | _ => simp [hout] at he

end

end Reduced

lemma Supported.step (hs : Supported E receipts s.toKnowledgeStateProjection)
    {a : KnowledgeAdvance} (ha : Advanced E fs s receipt a) :
    Supported E (receipts ++ [receipt]) a.state.toKnowledgeStateProjection := by
  obtain ⟨o, st, m, q, hplanned, hreduced⟩ := ha.reduced
  refine ⟨fun n hn => hreduced.named hplanned hs hn,
    fun id o' ho' hsat => hreduced.satisfied hplanned ha.receipt_valid hs ho' hsat, ?_⟩
  intro hunblocked hunbounded r hr e he
  rcases mem_append.mp hr with hr | hr
  · exact hreduced.edge_mono
      (hs.edges hplanned.continues.unblocked hplanned.continues.unbounded r hr e he)
  · rw [mem_singleton.mp hr] at he
    exact hreduced.reported hplanned ha.receipt_valid hunblocked hunbounded he

/-- Every run supports the state it reaches. -/
lemma Advances.supported (hinit : Initialized E fs s) (h : Advances E s receipts t) :
    Supported E receipts t.toKnowledgeStateProjection := by
  induction h with
  | refl => exact hinit.supported
  | tail _ hstep ih => exact ih.step (advance_spec hstep)

/-! ## Resolved families -/

section

omit [Platform]

/-- One test is passed once, a second, disjoint one by all the rest: then whatever
    fails the first passes the second. -/
lemma all_rest_of_counts {α : Type} {l : List α} {f g : α → Bool}
    (hdisjoint : ∀ a, f a = true → g a = false) (hone : (l.filter f).length = 1)
    (hrest : (l.filter g).length = l.length - 1) {a : α} (ha : a ∈ l) (hfa : f a = false) :
    g a = true := by
  have hsub : (l.filter g).Sublist (l.filter fun b => !f b) := by
    refine monotone_filter_right l ?_
    intro b hb
    by_contra hne
    have hfb : f b = true := by simpa using hne
    rw [hdisjoint b hfb] at hb
    cases hb
  have hsplit := length_eq_length_filter_add (l := l) f
  have heq := hsub.eq_of_length (by omega)
  have hmem : a ∈ l.filter fun b => !f b := mem_filter.mpr ⟨ha, by simp [hfa]⟩
  rw [← heq] at hmem
  exact (mem_filter.mp hmem).2

lemma resolved_family {p : KnowledgeStateProjection}
    (hkeys : ∀ (id : KnowledgeHypothesisId) (h : KnowledgeHypothesis),
      p.hypotheses[id]? = some h → h.hypothesisId = id)
    (hresolved : hypothesisFamiliesResolved p.hypotheses = true) {id : KnowledgeHypothesisId}
    {h : KnowledgeHypothesis} (hid : p.hypotheses[id]? = some h) :
    ∃ (winner : KnowledgeHypothesisId) (w : KnowledgeHypothesis),
      p.hypotheses[winner]? = some w ∧ w.familyId = h.familyId ∧ w.assessment.isSupported = true ∧
        ∀ (rival : KnowledgeHypothesisId) (r : KnowledgeHypothesis),
          p.hypotheses[rival]? = some r → r.familyId = h.familyId → rival ≠ winner →
            r.assessment.isRefuted = true := by
  obtain ⟨hone, hrest⟩ := hypothesisFamiliesResolved_iff.mp hresolved id h hid
  obtain ⟨w, hw⟩ := length_eq_one_iff.mp hone
  have hwmem : w ∈ ((values p.hypotheses).filter (·.familyId = h.familyId)).filter
      (·.assessment.isSupported) := by simp [hw]
  simp only [mem_filter, mem_values, decide_eq_true_eq] at hwmem
  obtain ⟨⟨⟨winner, hwinner⟩, hwfamily⟩, hwsupported⟩ := hwmem
  refine ⟨winner, w, hwinner, hwfamily, hwsupported, ?_⟩
  intro rival r hrival hrfamily hne
  have hrmem : r ∈ (values p.hypotheses).filter (·.familyId = h.familyId) := by
    simp only [mem_filter, mem_values, decide_eq_true_eq]
    exact ⟨⟨rival, hrival⟩, hrfamily⟩
  refine all_rest_of_counts ?_ hone hrest hrmem ?_
  · intro y hy
    cases hcase : y.assessment <;>
      simp [hcase, HypothesisAssessment.isSupported, HypothesisAssessment.isRefuted] at hy ⊢
  · -- a second supported hypothesis would be the winner
    by_contra hsupported
    have hmem : r ∈ ((values p.hypotheses).filter (·.familyId = h.familyId)).filter
        (·.assessment.isSupported) := mem_filter.mpr ⟨hrmem, by simpa using hsupported⟩
    rw [hw, mem_singleton] at hmem
    subst hmem
    exact hne ((hkeys rival r hrival).symm.trans (hkeys winner r hwinner))

end

/-! ## The complete decision -/

/-- **Soundness of the complete decision.** -/
theorem scopedComplete_sound {inquiryId : InquiryId} {reference : PrivateFileReference}
    {draft : KnowledgeContractDraft} {origin : KnowledgeState} {digest : KnowledgeStateDigest}
    {revision : Nat} {claims : BTreeSet KnowledgeClaimId}
    (hinit : initialize_ E fs inquiryId reference draft = .ok origin)
    (hrun : Advances E origin receipts s)
    (hterminal : deriveTerminal E s = .ok (some (.scopedComplete digest revision claims))) :
    (∀ (id : KnowledgeClaimId) (c : KnowledgeClaim), s.claims[id]? = some c →
      c.assessment.isEstablished = true) ∧
    (∀ (id : KnowledgeObligationId) (o : KnowledgeObligation), s.obligations[id]? = some o →
      o.state.isSatisfied = true ∧ ∃ r ∈ receipts, Satisfies E r o) ∧
    (∀ (id : KnowledgeHypothesisId) (h : KnowledgeHypothesis), s.hypotheses[id]? = some h →
      ∃ (winner : KnowledgeHypothesisId) (w : KnowledgeHypothesis),
        s.hypotheses[winner]? = some w ∧ w.familyId = h.familyId ∧ w.assessment.isSupported = true ∧
          ∀ (rival : KnowledgeHypothesisId) (r : KnowledgeHypothesis),
            s.hypotheses[rival]? = some r → r.familyId = h.familyId → rival ≠ winner →
              r.assessment.isRefuted = true) ∧ Acyclic s.dependencyGraph.Edge ∧
    (∀ r ∈ receipts, ∀ e ∈ r.reportedEdges, s.dependencyGraph.Edge e.fromNode e.toNode) ∧
    ∀ n : DependencyNodeId, n ∈ s.dependencyGraph →
      ∃ id o, s.Expands id o n ∧ o.state.isSatisfied = true := by
  have horigin := initialize_spec hinit
  have hsupported := hrun.supported horigin
  obtain ⟨root, hvalid⟩ := (hrun.reached horigin).valid
  have hp := hvalid.projection
  have hcomplete := scopedComplete_spec hterminal
  refine ⟨?_, ?_, fun id h hid => resolved_family hp.hypothesis_keys hcomplete.resolved hid, ?_,
    hsupported.edges hcomplete.unblocked hcomplete.unbounded, ?_⟩
  · intro id c hc
    have hall : ∀ o ∈ obligationsOf s.obligations c.claimId, o.state.isSatisfied = true := by
      intro o ho
      obtain ⟨⟨oid, hoid⟩, -⟩ := mem_obligationsOf.mp ho
      exact hcomplete.satisfied oid o hoid
    obtain ⟨witnesses, hestablished⟩ := deriveClaimAssessment_established.mpr hall
    rw [(hp.claims id c hc).assessment, hestablished]
    rfl
  · intro id o ho
    have hsat := hcomplete.satisfied id o ho
    exact ⟨hsat, hsupported.satisfied id o ho hsat⟩
  · have hmax : s.budget.maxDependencyNodes < u64Width := by
      have hle := hp.budget.dependencyNodes.2
      simp only [hardMaxDependencyNodes, u64Width] at hle ⊢
      omega
    exact ((dependencyGraphIsAcyclic_iff hp.dependency.closed hmax).mp hp.dependency.acyclic).2
  · intro n hn
    obtain ⟨id, o, hexpands⟩ := hsupported.named n hn
    exact ⟨id, o, hexpands, hcomplete.satisfied id o hexpands.1⟩

end

namespace Sample

attribute [local instance] Platform.reference

lemma leaf_reduced {acc : Reduction}
    (h : reduceReceipt engine leaf.state leaf.receipt = .ok acc) : values acc.1.hypotheses = [] ∧
      (values acc.1.obligations).all (·.state.isSatisfied) = true ∧ acc.1.boundedReason = none := by
  have hrun : ((reduceReceipt engine leaf.state leaf.receipt).map fun acc =>
      ((values acc.1.hypotheses).length,
        (values acc.1.obligations).all (·.state.isSatisfied),
        acc.1.boundedReason)).toOption = some (0, true, none) := by
    decide +kernel
  rw [h] at hrun
  simp only [Except.map, Except.toOption, Option.some.injEq, Prod.mk.injEq] at hrun
  exact ⟨eq_nil_of_length_eq_zero hrun.1, hrun.2⟩

/-- The inquiry into a leaf is complete after one receipt. -/
theorem leaf_completed : ∃ (t : KnowledgeState) (claims : BTreeSet KnowledgeClaimId),
    deriveTerminal engine t = .ok (some (.scopedComplete t.manifestDigest t.revision claims)) ∧
      Acyclic t.dependencyGraph.Edge ∧
      ∀ (id : KnowledgeObligationId) (o : KnowledgeObligation), t.obligations[id]? = some o →
        o.state.isSatisfied = true ∧ ∃ r ∈ [leaf.receipt], Satisfies engine r o := by
  obtain ⟨a, ha⟩ := leaf_advanced
  have hrun : Advances engine leaf.state [leaf.receipt] a.state := Advances.refl.tail ha
  obtain ⟨acc, hreduce, hstate⟩ := advance_reduced ha
  obtain ⟨hhypotheses, hobligations, hbounded⟩ := leaf_reduced hreduce
  have hsat : ∀ (id : KnowledgeObligationId) (o : KnowledgeObligation),
      a.state.obligations[id]? = some o → o.state.isSatisfied = true := by
    rw [hstate]
    exact forall_values.mp (all_eq_true.mp hobligations)
  have hnone : ∀ (id : KnowledgeHypothesisId) (h : KnowledgeHypothesis),
      a.state.hypotheses[id]? ≠ some h := by
    rw [hstate]
    intro id h hid
    have hmem : h ∈ values acc.1.hypotheses := mem_values.mpr ⟨id, hid⟩
    rw [hhypotheses] at hmem
    cases hmem
  have hcompletion : ScopedCompletion a.state (.ofList a.state.claims.keys) := by
    refine ⟨⟨?_, fun id h hid => absurd hid (hnone id h)⟩, by rw [hstate]; exact hbounded, hsat,
      hypothesisFamiliesResolved_iff.mpr fun id h hid => absurd hid (hnone id h), rfl⟩
    intro id o ho
    have hsatisfied := hsat id o ho
    cases hcase : o.state <;>
      simp [hcase, isSatisfied, isBlocked]
        at hsatisfied ⊢
  have hterminal := hcompletion.terminal (E := engine)
  obtain ⟨-, hsatisfied, -, hacyclic, -⟩ :=
    scopedComplete_sound leaf_initialized hrun hterminal
  exact ⟨a.state, _, hterminal, hacyclic, hsatisfied⟩

end Sample

end Tidex.Knowledge
