/-
  Knowledge.Run — runs of advances, and what they never take back.
-/
import Tidex.Knowledge.Progress

namespace Tidex.Knowledge

open Tidex.Lib Relation List BTreeMap KnowledgeObligationState

/-! ## Runs -/

section

variable [Platform]

/-- The receipts of a list lead from one state to another, each under some
    content of the private root. -/
inductive Advances (E : KnowledgeEngine) (s : KnowledgeState) :
    List ActionReceipt → KnowledgeState → Prop
  | refl : Advances E s [] s
  | tail {receipts : List ActionReceipt} {t : KnowledgeState} {fs : PrivateRoot}
      {receipt : ActionReceipt} {a : KnowledgeAdvance} : Advances E s receipts t →
      advance E fs t receipt = .ok a → Advances E s (receipts ++ [receipt]) a.state

variable {E : KnowledgeEngine} {fs : PrivateRoot} {s t u : KnowledgeState}
  {receipt : ActionReceipt} {receipts more : List ActionReceipt}

lemma Advances.trans (h : Advances E s receipts t) (h' : Advances E t more u) :
    Advances E s (receipts ++ more) u := by
  induction h' with
  | refl =>
    rw [append_nil]
    exact h
  | tail _ hstep ih =>
    rw [← append_assoc]
    exact ih.tail hstep

/-! ## What a later state keeps of an earlier one -/

/-- An obligation later: only its state moved, and only while it was open. -/
structure ObligationExtends (o o' : KnowledgeObligation) : Prop where
  frame : o' = { o with state := o'.state }
  attempts_le : o.state.attempts ≤ o'.state.attempts
  witnesses : ∀ w ∈ o.state.witnesses, w ∈ o'.state.witnesses
  closed : o.state.isOpen = false → o'.state = o.state

/-- A claim later: only its assessment moved, and only while it was unresolved. -/
structure ClaimExtends (c c' : KnowledgeClaim) : Prop where
  frame : c' = { c with assessment := c'.assessment }
  resolved : c.assessment ≠ .unresolved → c'.assessment = c.assessment

/-- A hypothesis later: only its assessment moved, and its witnesses stayed. -/
structure HypothesisExtends (h h' : KnowledgeHypothesis) : Prop where
  frame : h' = { h with assessment := h'.assessment }
  witnesses : ∀ w ∈ hypothesisWitnesses h.assessment, w ∈ hypothesisWitnesses h'.assessment

/-- The state `s'` holds all that `s` had established. -/
structure Extends (s s' : KnowledgeStateProjection) : Prop where
  inquiryId : s'.inquiryId = s.inquiryId
  budget : s'.budget = s.budget
  obligations : ∀ (id : KnowledgeObligationId) (o : KnowledgeObligation),
    s.obligations[id]? = some o → ∃ o', s'.obligations[id]? = some o' ∧ ObligationExtends o o'
  claims : ∀ (id : KnowledgeClaimId) (c : KnowledgeClaim), s.claims[id]? = some c →
    ∃ c', s'.claims[id]? = some c' ∧ ClaimExtends c c'
  hypotheses : ∀ (id : KnowledgeHypothesisId) (h : KnowledgeHypothesis),
    s.hypotheses[id]? = some h → ∃ h', s'.hypotheses[id]? = some h' ∧ HypothesisExtends h h'
  applied : ∀ d ∈ s.appliedReceipts, d ∈ s'.appliedReceipts
  used : ∀ d ∈ s.usedEvidenceArtifacts, d ∈ s'.usedEvidenceArtifacts
  edges : ∀ a b, s.dependencyGraph.Edge a b → s'.dependencyGraph.Edge a b

section

omit [Platform]

lemma ObligationExtends.refl (o : KnowledgeObligation) : ObligationExtends o o :=
  ⟨rfl, Nat.le_refl _, fun _ hw => hw, fun _ => rfl⟩

lemma ObligationExtends.trans {o o' o'' : KnowledgeObligation} (h : ObligationExtends o o')
    (h' : ObligationExtends o' o'') : ObligationExtends o o'' := by
  refine ⟨?_, h.attempts_le.trans h'.attempts_le, fun w hw => h'.witnesses w (h.witnesses w hw), ?_⟩
  · rw [h'.frame, h.frame]
  · intro hclosed
    have heq := h.closed hclosed
    rw [h'.closed (heq ▸ hclosed), heq]

lemma ClaimExtends.trans {c c' c'' : KnowledgeClaim} (h : ClaimExtends c c')
    (h' : ClaimExtends c' c'') : ClaimExtends c c'' := by
  refine ⟨?_, ?_⟩
  · rw [h'.frame, h.frame]
  · intro hresolved
    have heq := h.resolved hresolved
    rw [h'.resolved (heq ▸ hresolved), heq]

lemma Extends.refl (s : KnowledgeStateProjection) : Extends s s :=
  ⟨rfl, rfl, fun _ o ho => ⟨o, ho, .refl o⟩, fun _ c hc => ⟨c, hc, rfl, fun _ => rfl⟩,
    fun _ y hy => ⟨y, hy, rfl, fun _ hw => hw⟩, fun _ hd => hd, fun _ hd => hd, fun _ _ hab => hab⟩

lemma Extends.trans {s s' s'' : KnowledgeStateProjection} (h : Extends s s')
    (h' : Extends s' s'') : Extends s s'' := by
  refine ⟨h'.inquiryId.trans h.inquiryId, h'.budget.trans h.budget, ?_, ?_, ?_,
    fun d hd => h'.applied d (h.applied d hd), fun d hd => h'.used d (h.used d hd),
    fun a b hab => h'.edges a b (h.edges a b hab)⟩
  · intro id o ho
    obtain ⟨o', ho', hext⟩ := h.obligations id o ho
    obtain ⟨o'', ho'', hext'⟩ := h'.obligations id o' ho'
    exact ⟨o'', ho'', hext.trans hext'⟩
  · intro id c hc
    obtain ⟨c', hc', hext⟩ := h.claims id c hc
    obtain ⟨c'', hc'', hext'⟩ := h'.claims id c' hc'
    exact ⟨c'', hc'', hext.trans hext'⟩
  · intro id y hy
    obtain ⟨y', hy', hext⟩ := h.hypotheses id y hy
    obtain ⟨y'', hy'', hext'⟩ := h'.hypotheses id y' hy'
    refine ⟨y'', hy'', ?_, fun w hw => hext'.witnesses w (hext.witnesses w hw)⟩
    rw [hext'.frame, hext.frame]

end

/-! ## One advance -/

section

variable {o : KnowledgeObligation} {st : KnowledgeObligationState}
  {m q p : KnowledgeStateProjection}

omit [Platform] in
lemma HypothesisMoved.extends {y y' : KnowledgeHypothesis} (h : HypothesisMoved receipt y y') :
    HypothesisExtends y y' := by
  rcases h with rfl | ⟨evaluation, assessment, hmove, rfl⟩
  · exact ⟨rfl, fun _ hw => hw⟩
  · exact ⟨rfl, fun w hw => (reduceHypothesisAssessment_spec hmove w).mpr (.inl hw)⟩

namespace Reduced

section

variable (h : Reduced E s receipt o st m q p) (hplanned : Planned E fs s receipt.invocation o)
include h hplanned

lemma obligation_extends {id : KnowledgeObligationId} {o' : KnowledgeObligation}
    (ho' : s.obligations[id]? = some o') :
    ∃ o'', p.obligations[id]? = some o'' ∧ ObligationExtends o' o'' := by
  by_cases hid : id = o.obligationId
  · subst hid
    rw [hplanned.stored] at ho'
    cases ho'
    obtain ⟨final, hfinal, hreduced⟩ := h.selected hplanned
    refine ⟨_, hfinal, rfl, ?_, ?_, ?_⟩
    · rw [hreduced.attempts_eq]
      exact Nat.le_succ _
    · exact fun w hw => (hreduced.witnesses_iff w).mpr (.inl hw)
    · intro hclosed
      rw [hplanned.isOpen] at hclosed
      cases hclosed
  · exact ⟨o', (h.other_iff hplanned hid o').mpr (.inl ho'), .refl o'⟩

lemma obligationsOf_eq {id : KnowledgeClaimId} (hid : id ∈ s.claims)
    (hsatisfied : ∀ o' ∈ obligationsOf s.obligations id, o'.state.isSatisfied = true) :
    obligationsOf p.obligations id = obligationsOf s.obligations id := by
  -- the planned obligation is open, so it is another claim's
  have hplannedClaim : o.claimId ≠ id := by
    intro hclaim
    have hsat := hsatisfied o (mem_obligationsOf.mpr ⟨⟨_, hplanned.stored⟩, hclaim⟩)
    have hopen := hplanned.isOpen
    cases hstate : o.state <;>
      simp [hstate, isSatisfied, isOpen]
        at hsat hopen
  unfold obligationsOf
  refine filter_values_congr ?_
  intro id' o' hclaim
  rw [decide_eq_true_eq] at hclaim
  by_cases hid' : id' = o.obligationId
  · subst hid'
    obtain ⟨final, hfinal, -⟩ := h.selected hplanned
    rw [hfinal, hplanned.stored]
    constructor
    · rintro ⟨⟩
      exact absurd hclaim hplannedClaim
    · rintro ⟨⟩
      exact absurd hclaim hplannedClaim
  · rw [h.other_iff hplanned hid']
    refine or_iff_left ?_
    -- a new obligation is a new claim's
    rintro ⟨x, observations, edges, hinv, hout, n, hn, -, rfl⟩
    rcases h.widened with ⟨x', observations', edges', hinv', hout', -, hexp⟩ | ⟨-, hother⟩
    · rw [hinv] at hinv'
      cases hinv'
      rw [hout] at hout'
      cases hout'
      have hfresh := (hexp.fresh n hn).1
      have hnode : nodeClaimId m n = id := hclaim
      rw [h.recorded_claims, hnode] at hfresh
      exact hfresh hid
    · exact hother x observations edges _ hinv hout

lemma claim_extends {id : KnowledgeClaimId} {c : KnowledgeClaim} (hc : s.claims[id]? = some c) :
    ∃ c', p.claims[id]? = some c' ∧ ClaimExtends c c' := by
  have hvalid := hplanned.valid.projection
  have hassessment := (hvalid.claims id c hc).assessment
  rw [hvalid.claim_keys id c hc] at hassessment
  refine ⟨_, (h.claims_iff id _).mpr ⟨c, .inl hc, rfl⟩, rfl, ?_⟩
  intro hresolved
  have hsatisfied : ∀ o' ∈ obligationsOf s.obligations id, o'.state.isSatisfied = true := by
    cases hcase : c.assessment with
    | unresolved => exact absurd hcase hresolved
    | established witnesses =>
      exact deriveClaimAssessment_established.mp ⟨witnesses, by rw [← hassessment, hcase]⟩
    | contradicted witnesses =>
      -- a contradicted claim has a blocked obligation, and then nothing is planned
      rw [hcase] at hassessment
      obtain ⟨o', ho', attempts, w, reason, hblocked⟩ :=
        exists_blocked_of_contradicted hassessment.symm
      obtain ⟨⟨id', hid'⟩, -⟩ := mem_obligationsOf.mp ho'
      have hfree := hplanned.continues.unblocked.obligations id' o' hid'
      rw [hblocked] at hfree
      cases hfree
  rw [h.obligationsOf_eq hplanned (mem_iff_getElem?.mpr ⟨c, hc⟩) hsatisfied, hassessment]

lemma extends_ : Extends s.toKnowledgeStateProjection p where
  inquiryId := h.counted.inquiryId
  budget := h.counted.budget
  obligations _ _ ho' := h.obligation_extends hplanned ho'
  claims _ _ hc := h.claim_extends hplanned hc
  hypotheses id y hy := by
    obtain ⟨y', hy', hmoved⟩ := h.hypotheses.entry id y hy
    exact ⟨y', hy', hmoved.extends⟩
  applied d hd := (h.counted.applied d).mpr (.inl hd)
  used d hd := (h.counted.used d).mpr (.inl hd)
  edges _ _ hab := h.edge_mono hab

end

end Reduced

lemma Advanced.extends {a : KnowledgeAdvance} (h : Advanced E fs s receipt a) :
    Extends s.toKnowledgeStateProjection a.state.toKnowledgeStateProjection := by
  obtain ⟨o, st, m, q, hplanned, hreduced⟩ := h.reduced
  exact hreduced.extends_ hplanned

end

lemma Advances.extends (h : Advances E s receipts t) :
    Extends s.toKnowledgeStateProjection t.toKnowledgeStateProjection := by
  induction h with
  | refl => exact .refl _
  | tail _ hstep ih => exact ih.trans (advance_spec hstep).extends

/-! ## The accounting of a run -/

/-- What holds of a state that some receipts led to. -/
structure Reached (E : KnowledgeEngine) (receipts : List ActionReceipt) (s : KnowledgeState) :
    Prop where
  valid : ∃ fs, ValidState E fs s
  revision_eq : s.revision = receipts.length
  attempts_le : ∀ (id : KnowledgeObligationId) (o : KnowledgeObligation),
    s.obligations[id]? = some o → o.state.attempts ≤ E.policy.maxAttemptsPerObligation
  applied : ∀ d : ActionReceiptDigest,
    d ∈ s.appliedReceipts ↔ d ∈ receipts.map ActionReceipt.manifestDigest
  used : ∀ d : Sha256Digest, d ∈ s.usedEvidenceArtifacts ↔ d ∈ receipts.flatMap sourceArtifacts
  used_nodup : (receipts.flatMap sourceArtifacts).Nodup

lemma Initialized.reached (h : Initialized E fs s) : Reached E [] s := by
  have ho := h.valid.projection.origin h.revision_eq
  refine ⟨⟨fs, h.valid⟩, h.revision_eq, ?_, ?_, ?_, nodup_nil⟩
  · intro id o hid
    rw [ho.obligations_open o (mem_values.mpr ⟨id, hid⟩)]
    exact Nat.zero_le _
  · intro d
    simp [ho.receipts_eq]
  · intro d
    simp [ho.artifacts_eq]

lemma Reached.step (h : Reached E receipts s) {a : KnowledgeAdvance}
    (ha : Advanced E fs s receipt a) : Reached E (receipts ++ [receipt]) a.state := by
  obtain ⟨o, st, m, q, hplanned, hreduced⟩ := ha.reduced
  have hcounted := hreduced.counted
  refine ⟨⟨fs, ha.successor⟩, ?_, ?_, ?_, ?_, ?_⟩
  · rw [hcounted.revision, h.revision_eq, length_append, length_singleton]
  · intro id o' ho'
    by_cases hid : id = o.obligationId
    · subst hid
      obtain ⟨final, hfinal, hfinalReduced⟩ := hreduced.selected hplanned
      rw [hfinal] at ho'
      cases ho'
      rw [hfinalReduced.attempts_eq]
      exact hplanned.continues.limits.attempts_lt _ o hplanned.stored hplanned.isOpen
    · rcases (hreduced.other_iff hplanned hid o').mp ho' with ho' | ⟨_, _, _, -, -, _, -, -, rfl⟩
      · exact h.attempts_le id o' ho'
      · exact Nat.zero_le _
  · intro d
    rw [hcounted.applied, h.applied, map_append, mem_append, map_singleton, mem_singleton]
  · intro d
    rw [hcounted.used, h.used, flatMap_append, mem_append, flatMap_singleton]
  · rw [flatMap_append, flatMap_singleton, nodup_append]
    refine ⟨h.used_nodup, ha.receipt_valid.evidence_nodup, ?_⟩
    rintro d hd _ hd' rfl
    exact ha.receipt_valid.evidence_fresh d hd' ((h.used d).mpr hd)

lemma Advances.reached (hinit : Initialized E fs s) (h : Advances E s receipts t) :
    Reached E receipts t := by
  induction h with
  | refl => exact hinit.reached
  | tail _ hstep ih => exact ih.step (advance_spec hstep)

/-! ## The planner on every valid state -/

lemma plan_ok (h : ValidState E fs s) : ∃ decision, plan E fs s = .ok decision := by
  by_cases hcontinues : Continues E s.toKnowledgeStateProjection
  · have hnone := deriveTerminal_eq_none_iff.mpr hcontinues
    have hvalid : validateState E fs s = .ok () := validateState_ok.mpr h
    unfold plan
    rw [hvalid, ok_bind, hnone, ok_bind]
    simp only
    split
    · next o hfind =>
      have hmem := mem_of_find?_eq_some hfind
      rw [openObligations, mem_filter, mem_values] at hmem
      obtain ⟨⟨id, hid⟩, hopen⟩ := hmem
      have hlt := hcontinues.limits.attempts_lt id o hid hopen
      rw [E.maxAttempts_eq] at hlt
      have hattempt : checkedAdd u16Width o.state.attempts 1
          (invalid "knowledge_attempt_overflow") = .ok (o.state.attempts + 1) :=
        checkedAdd_ok.mpr ⟨by simp only [u16Width]; omega, rfl⟩
      rw [materializeInvocation, hattempt]
      exact ⟨_, rfl⟩
    · exact ⟨_, rfl⟩
  · obtain ⟨terminal, hterminal⟩ := plan_terminal h hcontinues
    exact ⟨_, hterminal⟩

def KnowledgeBudget.advanceLimit (b : KnowledgeBudget) : Nat :=
  min b.maxActions b.maxRevision

lemma Reached.within_limit (h : Reached E receipts s) : receipts.length ≤ s.budget.advanceLimit ∧
      (receipts.length = s.budget.advanceLimit → ∀ fs, ValidState E fs s →
        ∃ terminal, plan E fs s = .ok (.terminal terminal)) := by
  obtain ⟨fs, hvalid⟩ := h.valid
  have hbounds := hvalid.projection.bounds
  have hactions := hvalid.projection.accounting.actions_eq
  have hrevision := h.revision_eq
  have hactionsLe := hbounds.actions_le
  have hrevisionLe := hbounds.revision_le
  unfold KnowledgeBudget.advanceLimit
  refine ⟨by omega, ?_⟩
  intro hlimit fs' hvalid'
  refine plan_terminal hvalid' ?_
  intro hcontinues
  have hactionsLt := hcontinues.limits.actions_lt
  have hrevisionLt := hcontinues.limits.revision_lt
  omega

/-! ## Nothing is taken back -/

structure WitnessesGrow (s s' : KnowledgeStateProjection) : Prop where
  obligations : ∀ (id : KnowledgeObligationId) (o : KnowledgeObligation),
    s.obligations[id]? = some o → ∃ o', s'.obligations[id]? = some o' ∧
      ∀ w ∈ o.state.witnesses, w ∈ o'.state.witnesses
  claims : ∀ (id : KnowledgeClaimId) (c : KnowledgeClaim), s.claims[id]? = some c →
    ∃ c', s'.claims[id]? = some c' ∧ ∀ w ∈ c.assessment.witnesses, w ∈ c'.assessment.witnesses
  hypotheses : ∀ (id : KnowledgeHypothesisId) (h : KnowledgeHypothesis),
    s.hypotheses[id]? = some h → ∃ h', s'.hypotheses[id]? = some h' ∧
      ∀ w ∈ hypothesisWitnesses h.assessment, w ∈ hypothesisWitnesses h'.assessment

omit [Platform] in
lemma Extends.witnessesGrow {s s' : KnowledgeStateProjection} (h : Extends s s') :
    WitnessesGrow s s' where
  obligations id o ho := by
    obtain ⟨o', ho', hext⟩ := h.obligations id o ho
    exact ⟨o', ho', hext.witnesses⟩
  claims id c hc := by
    obtain ⟨c', hc', hext⟩ := h.claims id c hc
    refine ⟨c', hc', ?_⟩
    by_cases hunresolved : c.assessment = .unresolved
    · intro w hw
      rw [hunresolved] at hw
      simp [ClaimAssessment.witnesses] at hw
    · rw [hext.resolved hunresolved]
      exact fun _ hw => hw
  hypotheses id y hy := by
    obtain ⟨y', hy', hext⟩ := h.hypotheses id y hy
    exact ⟨y', hy', hext.witnesses⟩

/-- **Knowledge is never retracted.** -/
theorem knowledge_never_retracted {inquiryId : InquiryId} {reference : PrivateFileReference}
    {draft : KnowledgeContractDraft} {origin s' : KnowledgeState}
    (hinit : initialize_ E fs inquiryId reference draft = .ok origin)
    (hpast : Advances E origin receipts s) (hfuture : Advances E s more s') :
    (∀ (id : KnowledgeObligationId) (o : KnowledgeObligation), s.obligations[id]? = some o →
      (o.state.isSatisfied = true ∨ o.state.isBlocked = true) →
        ∃ o', s'.obligations[id]? = some o' ∧ o'.state = o.state) ∧
    (∀ (id : KnowledgeClaimId) (c : KnowledgeClaim), s.claims[id]? = some c →
      (c.assessment.isEstablished = true ∨ c.assessment.isContradicted = true) →
        ∃ c', s'.claims[id]? = some c' ∧ c'.assessment = c.assessment) ∧
    (∀ (id : KnowledgeObligationId) (o : KnowledgeObligation), s'.obligations[id]? = some o →
      o.state.attempts ≤ E.policy.maxAttemptsPerObligation) ∧
    WitnessesGrow s.toKnowledgeStateProjection s'.toKnowledgeStateProjection ∧
    (∀ d ∈ s.appliedReceipts, d ∈ s'.appliedReceipts) ∧
    (∀ d ∈ s.usedEvidenceArtifacts, d ∈ s'.usedEvidenceArtifacts) ∧
    ((receipts ++ more).flatMap sourceArtifacts).Nodup ∧ s'.usage.actions = s'.revision ∧
    s'.usage.totalCost ≤ s'.budget.maxTotalCost ∧ s'.revision = (receipts ++ more).length ∧
    (receipts ++ more).length ≤ min origin.budget.maxActions origin.budget.maxRevision ∧
    (∃ root, validateState E root s' = .ok ()) ∧ ∀ root, validateState E root s' = .ok () →
      (∃ decision, plan E root s' = .ok decision) ∧
        ((receipts ++ more).length = min origin.budget.maxActions origin.budget.maxRevision →
          ∃ terminal, plan E root s' = .ok (.terminal terminal)) := by
  have hext := hfuture.extends
  have hrun := hpast.trans hfuture
  have hreached := hrun.reached (initialize_spec hinit)
  obtain ⟨root, hvalid⟩ := hreached.valid
  have hbudget : s'.budget = origin.budget := hrun.extends.budget
  obtain ⟨hlength, hend⟩ := hreached.within_limit
  rw [KnowledgeBudget.advanceLimit, hbudget] at hlength hend
  refine ⟨?_, ?_, hreached.attempts_le, hext.witnessesGrow, hext.applied, hext.used,
    hreached.used_nodup, hvalid.projection.accounting.actions_eq.symm,
    hvalid.projection.bounds.cost_le, hreached.revision_eq, hlength,
    ⟨root, validateState_ok.mpr hvalid⟩, ?_⟩
  · intro id o ho hclosed
    obtain ⟨o', ho', hext'⟩ := hext.obligations id o ho
    refine ⟨o', ho', hext'.closed ?_⟩
    cases hstate : o.state <;>
      simp [hstate, isSatisfied, isBlocked, isOpen] at hclosed ⊢
  · intro id c hc hresolved
    obtain ⟨c', hc', hext'⟩ := hext.claims id c hc
    refine ⟨c', hc', hext'.resolved ?_⟩
    intro hunresolved
    simp [hunresolved, ClaimAssessment.isEstablished, ClaimAssessment.isContradicted] at hresolved
  · intro root' hroot
    have hvalid' := validateState_ok.mp hroot
    exact ⟨plan_ok hvalid', fun hlimit => hend hlimit root' hvalid'⟩

/-! ## What determines a run -/

lemma advances_snoc : Advances E s (receipts ++ [receipt]) t ↔ ∃ u fs a,
    Advances E s receipts u ∧ advance E fs u receipt = .ok a ∧ a.state = t := by
  constructor
  · generalize hlist : receipts ++ [receipt] = list
    intro h
    cases h with
    | refl => simp at hlist
    | tail h hstep =>
      obtain ⟨rfl, hlast⟩ := append_inj' hlist rfl
      cases hlast
      exact ⟨_, _, _, h, hstep, rfl⟩
  · rintro ⟨u, fs, a, h, hstep, rfl⟩
    exact h.tail hstep

lemma advances_nil (h : Advances E s [] t) : t = s := by
  generalize hlist : ([] : List ActionReceipt) = list at h
  cases h with
  | refl => rfl
  | tail => simp at hlist

lemma advances_append : Advances E s (receipts ++ more) t ↔
    ∃ u, Advances E s receipts u ∧ Advances E u more t := by
  refine ⟨?_, fun ⟨u, h, h'⟩ => h.trans h'⟩
  induction more using reverseRecOn generalizing t with
  | nil =>
    intro h
    exact ⟨t, append_nil receipts ▸ h, .refl⟩
  | append_singleton more receipt ih =>
    rw [← append_assoc, advances_snoc]
    rintro ⟨v, fs, a, h, hstep, rfl⟩
    obtain ⟨u, h, h'⟩ := ih h
    exact ⟨u, h, h'.tail hstep⟩

lemma Advances.unique (h : Advances E s receipts t) (h' : Advances E s receipts u) : t = u := by
  induction receipts using reverseRecOn generalizing t u with
  | nil => rw [advances_nil h, advances_nil h']
  | append_singleton receipts receipt ih =>
    obtain ⟨v, fs, a, hrun, hstep, rfl⟩ := advances_snoc.mp h
    obtain ⟨v', fs', a', hrun', hstep', rfl⟩ := advances_snoc.mp h'
    cases ih hrun hrun'
    obtain ⟨acc, hreduce, hstate⟩ := advance_reduced hstep
    obtain ⟨acc', hreduce', hstate'⟩ := advance_reduced hstep'
    cases hreduce.symm.trans hreduce'
    rw [hstate, hstate']

lemma plan_of_advance {a : KnowledgeAdvance} (h : advance E fs s receipt = .ok a)
    {root : PrivateRoot} (hroot : validateState E root s = .ok ()) :
    plan E root s = .ok (.invoke receipt.invocation) := by
  simp only [advance, validateActionReceipt, validatePlannedInvocation, bind_ok] at h
  obtain ⟨_, hvalid, _, ⟨_, -, _, ⟨decision, hplan, hrest⟩, -⟩, -⟩ := h
  -- the planner reads the private root only to validate the state
  have hsame : plan E root s = plan E fs s := by
    unfold plan
    rw [hroot, hvalid]
  cases decision with
  | invoke invocation =>
    rw [failIf_ok, not_not] at hrest
    rw [hsame, hplan, hrest]
  | terminal => simp at hrest

/-- **A run is determined by its receipts**, whatever the private root held at each of them, and
    each of them carries the invocation that the planner asks for where it is applied. -/
theorem run_determined (h : Advances E s (receipts ++ receipt :: more) t) :
    ∃ u, Advances E s receipts u ∧ Advances E u (receipt :: more) t ∧
      (∀ v, Advances E s receipts v → v = u) ∧ ∀ root, validateState E root u = .ok () →
        plan E root u = .ok (.invoke receipt.invocation) := by
  obtain ⟨u, hpast, hfuture⟩ := advances_append.mp h
  refine ⟨u, hpast, hfuture, fun v hv => hv.unique hpast, ?_⟩
  intro root hroot
  rw [← singleton_append] at hfuture
  obtain ⟨v, hone, -⟩ := advances_append.mp hfuture
  rw [← nil_append [receipt]] at hone
  obtain ⟨w, fs, a, hnone, hstep, -⟩ := advances_snoc.mp hone
  cases advances_nil hnone
  exact plan_of_advance hstep hroot

end

namespace Sample

attribute [local instance] Platform.reference

/-- The inquiry into a leaf keeps what its one advance established. -/
theorem leaf_knowledge_kept : ∃ t : KnowledgeState, Advances engine leaf.state [leaf.receipt] t ∧
      (∀ (id : KnowledgeObligationId) (o : KnowledgeObligation), t.obligations[id]? = some o →
        o.state.attempts ≤ engine.policy.maxAttemptsPerObligation) ∧
      t.usage.actions = t.revision := by
  obtain ⟨a, ha⟩ := leaf_advanced
  have hstep : Advances engine leaf.state [leaf.receipt] a.state := Advances.refl.tail ha
  obtain ⟨-, -, hattempts, -, -, -, -, hactions, -⟩ :=
    knowledge_never_retracted leaf_initialized Advances.refl hstep
  exact ⟨a.state, hstep, hattempts, hactions⟩

theorem leaf_run_determined : ∃ u, Advances engine leaf.state [] u ∧
    ∀ root, validateState engine root u = .ok () →
      plan engine root u = .ok (.invoke leaf.receipt.invocation) := by
  obtain ⟨a, ha⟩ := leaf_advanced
  have hstep : Advances engine leaf.state ([] ++ leaf.receipt :: []) a.state := .tail .refl ha
  obtain ⟨u, hpast, -, -, hplan⟩ := run_determined hstep
  exact ⟨u, hpast, hplan⟩

end Sample

end Tidex.Knowledge
