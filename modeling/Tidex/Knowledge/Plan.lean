/-
  Knowledge.Plan — terminal decisions and the next action.
-/
import Tidex.Knowledge.Validate

namespace Tidex.Knowledge

open Tidex.Lib List BTreeMap

/-! ## Terminal decisions -/

def boundedTerminal (s : KnowledgeState) (reason : BoundedUnknownReason) : KnowledgeTerminal :=
  .boundedUnknown s.manifestDigest s.revision reason
    (.ofList ((s.obligations.toList.filter fun entry => !entry.2.state.isSatisfied).map Prod.fst))

def blockedObligations (s : KnowledgeStateProjection) :
    BTreeMap KnowledgeObligationId KnowledgeBlockReason :=
  s.obligations.toList.foldl (fun blockers entry =>
    match entry.2.state with
    | .blocked _ _ reason => blockers.insert entry.1 reason
    | _ => blockers) ∅

def KnowledgeObligation.predicts (o : KnowledgeObligation) (id : KnowledgeHypothesisId) : Bool :=
  match o.plan.predictions with
  | some predictions => id ∈ predictions
  | none => false

/-- A conflicted hypothesis blocks the first obligation that predicts it. -/
def addConflict (s : KnowledgeStateProjection)
    (blockers : BTreeMap KnowledgeObligationId KnowledgeBlockReason)
    (hypothesis : KnowledgeHypothesis) :
    BrainResult (BTreeMap KnowledgeObligationId KnowledgeBlockReason) :=
  if hypothesis.assessment.isConflicted then do
    let obligation ← okOr
      ((values s.obligations).find? (·.predicts hypothesis.hypothesisId))
      (integrity "conflicted_hypothesis_without_obligation")
    return blockers.insert obligation.obligationId
      (.hypothesisConflict hypothesis.familyId hypothesis.hypothesisId)
  else .ok blockers

def KnowledgeStateProjection.allSatisfied (s : KnowledgeStateProjection) : Bool :=
  (values s.obligations).all (·.state.isSatisfied)

def KnowledgeStateProjection.hasOpenExpansion (s : KnowledgeStateProjection) : Bool :=
  (values s.obligations).any fun o => o.state.isOpen && o.plan.isExpandDependencyClosure

section

variable [Platform]

/-- An open obligation that has used up its attempts. -/
def exhaustedObligation (E : KnowledgeEngine) (s : KnowledgeStateProjection) :
    Option KnowledgeObligation :=
  (values s.obligations).find? fun o =>
    o.state.isOpen && decide (o.state.attempts ≥ E.policy.maxAttemptsPerObligation)

/-- The decisions on limits, in the order they are tried. -/
def limitTerminal (E : KnowledgeEngine) (s : KnowledgeState) :
    BrainResult (Option KnowledgeTerminal) :=
  if s.usage.actions ≥ s.budget.maxActions then
    .ok (some (boundedTerminal s .actionBudgetExhausted))
  else if s.revision ≥ s.budget.maxRevision then
    .ok (some (boundedTerminal s .revisionLimitReached))
  else if s.usage.evidenceRecords ≥ s.budget.maxEvidenceRecords then
    .ok (some (boundedTerminal s .evidenceLimitReached))
  else
    match exhaustedObligation E s.toKnowledgeStateProjection with
    | some obligation =>
      .ok (some (boundedTerminal s (.attemptLimitReached obligation.obligationId)))
    | none =>
      if s.dependencyParents.size ≥ s.budget.maxDependencyNodes ∧ s.hasOpenExpansion then
        .ok (some (boundedTerminal s .dependencyNodeLimitReached))
      else do
        let edges ← dependencyEdgeCount s.dependencyGraph
        if edges ≥ s.budget.maxDependencyEdges ∧ s.hasOpenExpansion then
          return some (boundedTerminal s .dependencyEdgeLimitReached)
        else if s.allSatisfied then
          return some (boundedTerminal s .noAdmissibleInvocation)
        else return none

def deriveTerminal (E : KnowledgeEngine) (s : KnowledgeState) :
    BrainResult (Option KnowledgeTerminal) := do
  let blockers ← (values s.hypotheses).foldlM
    (addConflict s.toKnowledgeStateProjection) (blockedObligations s.toKnowledgeStateProjection)
  if ¬blockers.isEmpty then
    return some (.blocked s.manifestDigest s.revision blockers)
  else
    match s.boundedReason with
    | some reason => return some (boundedTerminal s reason)
    | none =>
      if s.allSatisfied ∧ hypothesisFamiliesResolved s.hypotheses then
        return some (.scopedComplete s.manifestDigest s.revision (.ofList s.claims.keys))
      else limitTerminal E s

/-! ## The next action -/

def invocationOf (binding : InvocationBinding) : CognitivePlan → CognitiveInvocation
  | .observeTrace observationKeys maxEvents =>
    .observeTrace ⟨binding, observationKeys, maxEvents⟩
  | .executeScenario scenarioId inputs observationKeys =>
    .executeScenario ⟨binding, scenarioId, inputs, observationKeys⟩
  | .causalIntervention variable_ baseline treatment effect predictions =>
    .causalIntervention ⟨binding, variable_, baseline, treatment, effect, predictions⟩
  | .searchCounterexample target maxCases predictions =>
    .searchCounterexample ⟨binding, target, maxCases, predictions⟩
  | .verifyFormalProperty proofSystem property =>
    .verifyFormalProperty ⟨binding, proofSystem, property⟩
  | .expandDependencyClosure root depth maxDepth =>
    .expandDependencyClosure ⟨binding, root, depth, maxDepth⟩

def nextBinding (E : KnowledgeEngine) (s : KnowledgeState) (obligation : KnowledgeObligation)
    (nextAttempt : Nat) : InvocationBinding where
  authorityInstance := E.authorityInstance
  authorityRoot := E.authorityRoot
  inquiryId := s.inquiryId
  capabilityBundle := s.capabilityBundle
  parentState := s.manifestDigest
  actionId := .computed _ actionIdDomain
    (tupleToVec [toJson s.manifestDigest, toJson obligation.obligationId, toJson nextAttempt])
  obligationId := obligation.obligationId
  claimId := obligation.claimId
  attempt := nextAttempt
  criterion := obligation.criterion

def materializeInvocation (E : KnowledgeEngine) (s : KnowledgeState)
    (obligation : KnowledgeObligation) : BrainResult CognitiveInvocation := do
  let nextAttempt ← checkedAdd u16Width obligation.state.attempts 1
    (invalid "knowledge_attempt_overflow")
  return invocationOf (nextBinding E s obligation nextAttempt) obligation.plan

/-- The open obligations; a state whose keys are its obligations' names lists
    them in the order the source sorts them into. -/
def openObligations (s : KnowledgeStateProjection) : List KnowledgeObligation :=
  (values s.obligations).filter (·.state.isOpen)

def affordable (s : KnowledgeStateProjection) (obligation : KnowledgeObligation) : Bool :=
  saturatingAdd u64Width s.usage.totalCost obligation.plan.cost ≤ s.budget.maxTotalCost

def plan (E : KnowledgeEngine) (fs : PrivateRoot) (s : KnowledgeState) :
    BrainResult PlanningDecision := do
  validateState E fs s
  let terminal ← deriveTerminal E s
  match terminal with
  | some terminal => return .terminal terminal
  | none =>
    match (openObligations s.toKnowledgeStateProjection).find?
        (affordable s.toKnowledgeStateProjection) with
    | some obligation => do
      let invocation ← materializeInvocation E s obligation
      return .invoke invocation
    | none =>
      let reason : BoundedUnknownReason :=
        if openObligations s.toKnowledgeStateProjection ≠ [] then .costBudgetExhausted
        else .noAdmissibleInvocation
      return .terminal (boundedTerminal s reason)

end

/-! ## When there is no blocker -/

/-- Nothing blocks the investigation. -/
structure Unblocked (s : KnowledgeStateProjection) : Prop where
  obligations : ∀ (id : KnowledgeObligationId) (o : KnowledgeObligation),
    s.obligations[id]? = some o → o.state.isBlocked = false
  hypotheses : ∀ (id : KnowledgeHypothesisId) (h : KnowledgeHypothesis),
    s.hypotheses[id]? = some h → h.assessment.isConflicted = false

variable {s : KnowledgeStateProjection}

lemma blockedObligations_isEmpty : (blockedObligations s).isEmpty = true ↔
      ∀ (id : KnowledgeObligationId) (o : KnowledgeObligation), s.obligations[id]? = some o →
        o.state.isBlocked = false := by
  have hfold : ∀ (entries : List (KnowledgeObligationId × KnowledgeObligation))
      (blockers : BTreeMap KnowledgeObligationId KnowledgeBlockReason),
      (entries.foldl (fun blockers entry =>
        match entry.2.state with
        | .blocked _ _ reason => blockers.insert entry.1 reason
        | _ => blockers) blockers).isEmpty = true ↔
        blockers.isEmpty = true ∧ ∀ entry ∈ entries, entry.2.state.isBlocked = false := by
    intro entries
    induction entries with
    | nil => simp
    | cons entry entries ih =>
      intro blockers
      rw [foldl_cons, ih, forall_mem_cons]
      cases hstate : entry.2.state <;>
        simp [KnowledgeObligationState.isBlocked]
  unfold blockedObligations
  rw [hfold, forall_toList]
  simp

variable {hypotheses : List KnowledgeHypothesis}

lemma foldlM_addConflict_isEmpty
    {blockers blockers' : BTreeMap KnowledgeObligationId KnowledgeBlockReason}
    (h : hypotheses.foldlM (addConflict s) blockers = .ok blockers') : blockers'.isEmpty = true ↔
      blockers.isEmpty = true ∧ ∀ y ∈ hypotheses, y.assessment.isConflicted = false := by
  induction hypotheses generalizing blockers with
  | nil =>
    rw [foldlM_nil, pure_ok] at h
    simp [h]
  | cons y hypotheses ih =>
    rw [foldlM_cons, bind_ok] at h
    obtain ⟨mid, hstep, hrest⟩ := h
    rw [ih hrest, forall_mem_cons]
    unfold addConflict at hstep
    split at hstep
    · next hconflicted =>
      rw [bind_ok] at hstep
      obtain ⟨o, -, hinsert⟩ := hstep
      rw [pure_ok] at hinsert
      subst hinsert
      simp [hconflicted]
    · next hfree =>
      cases hstep
      simp [hfree]

lemma foldlM_addConflict_eq (h : ∀ y ∈ hypotheses, y.assessment.isConflicted = false)
    (blockers : BTreeMap KnowledgeObligationId KnowledgeBlockReason) :
    hypotheses.foldlM (addConflict s) blockers = .ok blockers := by
  induction hypotheses with
  | nil => rfl
  | cons y hypotheses ih =>
    rw [forall_mem_cons] at h
    rw [foldlM_cons, bind_ok]
    exact ⟨blockers, by simp [addConflict, h.1], ih h.2⟩

/-- The blockers are empty exactly when nothing blocks. -/
lemma blockers_isEmpty :
    (∃ blockers, (values s.hypotheses).foldlM (addConflict s) (blockedObligations s) =
      .ok blockers ∧ blockers.isEmpty = true) ↔ Unblocked s := by
  constructor
  · rintro ⟨blockers, hrun, hempty⟩
    rw [foldlM_addConflict_isEmpty hrun, blockedObligations_isEmpty,
      forall_values] at hempty
    exact ⟨hempty.1, hempty.2⟩
  · intro h
    refine ⟨_, foldlM_addConflict_eq (forall_values.mpr h.hypotheses) _, ?_⟩
    exact blockedObligations_isEmpty.mpr h.obligations

/-! ## When the investigation goes on -/

section

variable [Platform] {E : KnowledgeEngine} {fs : PrivateRoot} {s : KnowledgeState}

/-- No limit is reached and something is left to do. -/
structure WithinLimits (E : KnowledgeEngine) (s : KnowledgeStateProjection) : Prop where
  actions_lt : s.usage.actions < s.budget.maxActions
  revision_lt : s.revision < s.budget.maxRevision
  evidence_lt : s.usage.evidenceRecords < s.budget.maxEvidenceRecords
  attempts_lt : ∀ (id : KnowledgeObligationId) (o : KnowledgeObligation),
    s.obligations[id]? = some o → o.state.isOpen = true →
      o.state.attempts < E.policy.maxAttemptsPerObligation
  nodes_lt : s.hasOpenExpansion = true →
    s.dependencyParents.size < s.budget.maxDependencyNodes
  edges_lt : ∃ edges, dependencyEdgeCount s.dependencyGraph = .ok edges ∧
    (s.hasOpenExpansion = true → edges < s.budget.maxDependencyEdges)
  unsatisfied : s.allSatisfied = false

/-- No terminal decision applies. -/
structure Continues (E : KnowledgeEngine) (s : KnowledgeStateProjection) : Prop where
  unblocked : Unblocked s
  unbounded : s.boundedReason = none
  limits : WithinLimits E s

variable {p : KnowledgeStateProjection}

lemma exhaustedObligation_eq_none_iff : exhaustedObligation E p = none ↔
      ∀ (id : KnowledgeObligationId) (o : KnowledgeObligation), p.obligations[id]? = some o →
        o.state.isOpen = true → o.state.attempts < E.policy.maxAttemptsPerObligation := by
  rw [exhaustedObligation, find?_eq_none, forall_values]
  simp [imp_iff_not_or]

lemma limitTerminal_eq_none_iff :
    limitTerminal E s = .ok none ↔ WithinLimits E s.toKnowledgeStateProjection := by
  unfold limitTerminal
  by_cases hactions : s.usage.actions ≥ s.budget.maxActions
  · rw [if_pos hactions]
    exact ⟨fun h => by simp at h, fun h => absurd h.actions_lt (not_lt.mpr hactions)⟩
  rw [if_neg hactions]
  by_cases hrevision : s.revision ≥ s.budget.maxRevision
  · rw [if_pos hrevision]
    exact ⟨fun h => by simp at h, fun h => absurd h.revision_lt (not_lt.mpr hrevision)⟩
  rw [if_neg hrevision]
  by_cases hevidence : s.usage.evidenceRecords ≥ s.budget.maxEvidenceRecords
  · rw [if_pos hevidence]
    exact ⟨fun h => by simp at h, fun h => absurd h.evidence_lt (not_lt.mpr hevidence)⟩
  rw [if_neg hevidence]
  cases hexhausted : exhaustedObligation E s.toKnowledgeStateProjection with
  | some o =>
    constructor
    · intro h
      simp at h
    · intro h
      rw [exhaustedObligation_eq_none_iff.mpr h.attempts_lt] at hexhausted
      cases hexhausted
  | none =>
    by_cases hnodes : s.dependencyParents.size ≥ s.budget.maxDependencyNodes ∧
        s.hasOpenExpansion = true
    · simp only [if_pos hnodes]
      exact ⟨fun h => by simp at h,
        fun h => absurd (h.nodes_lt hnodes.2) (not_lt.mpr hnodes.1)⟩
    simp only [if_neg hnodes, bind_ok]
    constructor
    · rintro ⟨edges, hedges, hrest⟩
      split at hrest
      · simp [pure_ok] at hrest
      · next hlimit =>
        split at hrest
        · simp [pure_ok] at hrest
        · next hunsatisfied =>
          exact ⟨not_le.mp hactions, not_le.mp hrevision, not_le.mp hevidence,
            exhaustedObligation_eq_none_iff.mp hexhausted,
            fun hopen => not_le.mp fun hle => hnodes ⟨hle, hopen⟩,
            ⟨edges, hedges, fun hopen => not_le.mp fun hle => hlimit ⟨hle, hopen⟩⟩,
            Bool.not_eq_true _ ▸ hunsatisfied⟩
    · intro h
      obtain ⟨edges, hedges, hlt⟩ := h.edges_lt
      refine ⟨edges, hedges, ?_⟩
      rw [if_neg (fun hlimit => absurd (hlt hlimit.2) (not_lt.mpr hlimit.1)), h.unsatisfied]
      rfl

/-- The investigation goes on exactly when no decision applies. -/
lemma deriveTerminal_eq_none_iff :
    deriveTerminal E s = .ok none ↔ Continues E s.toKnowledgeStateProjection := by
  unfold deriveTerminal
  rw [bind_ok]
  constructor
  · rintro ⟨blockers, hrun, hrest⟩
    split at hrest
    · simp [pure_ok] at hrest
    · next hempty =>
      have hunblocked := blockers_isEmpty.mp ⟨blockers, hrun, not_not.mp hempty⟩
      split at hrest
      · simp [pure_ok] at hrest
      · next hbounded =>
        split at hrest
        · simp [pure_ok] at hrest
        · exact ⟨hunblocked, hbounded, limitTerminal_eq_none_iff.mp hrest⟩
  · intro h
    obtain ⟨blockers, hrun, hempty⟩ := blockers_isEmpty.mpr h.unblocked
    refine ⟨blockers, hrun, ?_⟩
    rw [if_neg (not_not.mpr hempty), h.unbounded]
    simp only [h.limits.unsatisfied, Bool.false_eq_true, false_and, if_false]
    exact limitTerminal_eq_none_iff.mpr h.limits

/-- What the complete decision requires. -/
structure ScopedCompletion (s : KnowledgeState) (established : BTreeSet KnowledgeClaimId) :
    Prop where
  unblocked : Unblocked s.toKnowledgeStateProjection
  unbounded : s.boundedReason = none
  satisfied : ∀ (id : KnowledgeObligationId) (o : KnowledgeObligation),
    s.obligations[id]? = some o → o.state.isSatisfied = true
  resolved : hypothesisFamiliesResolved s.hypotheses = true
  claims_eq : established = .ofList s.claims.keys

variable {claims : BTreeSet KnowledgeClaimId}

lemma limitTerminal_ne_scopedComplete {d : KnowledgeStateDigest} {r : Nat} :
    limitTerminal E s ≠ .ok (some (.scopedComplete d r claims)) := by
  intro h
  unfold limitTerminal boundedTerminal at h
  simp only [ge_iff_le] at h
  split at h
  · cases h
  split at h
  · cases h
  split at h
  · cases h
  split at h
  · cases h
  split at h
  · cases h
  · rw [bind_ok] at h
    obtain ⟨edges, -, hrest⟩ := h
    split at hrest
    · cases hrest
    split at hrest <;> cases hrest

lemma scopedComplete_spec {d : KnowledgeStateDigest} {r : Nat}
    (h : deriveTerminal E s = .ok (some (.scopedComplete d r claims))) :
    ScopedCompletion s claims := by
  unfold deriveTerminal at h
  rw [bind_ok] at h
  obtain ⟨blockers, hrun, hrest⟩ := h
  split at hrest
  · simp [pure_ok] at hrest
  · next hempty =>
    have hunblocked := blockers_isEmpty.mp ⟨blockers, hrun, not_not.mp hempty⟩
    split at hrest
    · simp [pure_ok, boundedTerminal] at hrest
    · next hbounded =>
      split at hrest
      · next hcomplete =>
        simp only [pure_ok, Option.some.injEq, KnowledgeTerminal.scopedComplete.injEq] at hrest
        refine ⟨hunblocked, hbounded, ?_, hcomplete.2, hrest.2.2.symm⟩
        exact forall_values.mp (all_eq_true.mp hcomplete.1)
      · exact absurd hrest limitTerminal_ne_scopedComplete

lemma ScopedCompletion.terminal (h : ScopedCompletion s claims) :
    deriveTerminal E s = .ok (some (.scopedComplete s.manifestDigest s.revision claims)) := by
  obtain ⟨blockers, hrun, hempty⟩ := blockers_isEmpty.mpr h.unblocked
  have hall : s.allSatisfied = true :=
    all_eq_true.mpr (forall_values.mpr h.satisfied)
  unfold deriveTerminal
  rw [hrun, ok_bind, if_neg (not_not.mpr hempty), h.unbounded]
  simp only [hall, h.resolved, and_self, if_true]
  rw [h.claims_eq]
  rfl

/-! ## A valid state has a decision -/

lemma ValidProjection.exists_predicts (h : ValidProjection E fs p) {id : KnowledgeHypothesisId}
    {y : KnowledgeHypothesis} (hy : p.hypotheses[id]? = some y) :
    ∃ o, (values p.obligations).find? (·.predicts y.hypothesisId) = some o := by
  have hentry : (y.hypothesisId, y.familyId) ∈ p.hypothesisEntries :=
    mem_map.mpr ⟨y, mem_values.mpr ⟨id, hy⟩, rfl⟩
  obtain ⟨plan, hplan, predictions, hpred, hmem⟩ := h.families.exists_prediction hentry
  obtain ⟨o, ho, rfl⟩ := mem_map.mp hplan
  rw [← Option.isSome_iff_exists, find?_isSome]
  refine ⟨o, ho, ?_⟩
  simp only [KnowledgeObligation.predicts, hpred, decide_eq_true_eq]
  exact Std.ExtTreeMap.mem_keys.mp hmem

lemma foldlM_addConflict_ok {p : KnowledgeStateProjection} (h : ValidProjection E fs p)
    (blockers : BTreeMap KnowledgeObligationId KnowledgeBlockReason) :
    ∃ blockers', (values p.hypotheses).foldlM (addConflict p) blockers = .ok blockers' := by
  have hstep : ∀ blockers y, y ∈ values p.hypotheses → True →
      ∃ blockers', addConflict p blockers y = .ok blockers' ∧ True := by
    intro blockers y hy _
    obtain ⟨id, hid⟩ := mem_values.mp hy
    obtain ⟨o, ho⟩ := h.exists_predicts hid
    unfold addConflict
    split
    · rw [ho]
      exact ⟨_, rfl, trivial⟩
    · exact ⟨blockers, rfl, trivial⟩
  obtain ⟨blockers', hrun, -⟩ := foldlM_ok_of_step (fun _ => True) trivial hstep
  exact ⟨blockers', hrun⟩

lemma limitTerminal_ok (h : StateBounds s.toKnowledgeStateProjection) :
    ∃ terminal, limitTerminal E s = .ok terminal := by
  obtain ⟨edges, hedges, -⟩ := h.edges_le
  unfold limitTerminal
  rw [hedges]
  simp only [ok_bind]
  repeat' split
  all_goals exact ⟨_, rfl⟩

lemma deriveTerminal_ok (h : ValidState E fs s) : ∃ terminal, deriveTerminal E s = .ok terminal := by
  obtain ⟨blockers, hblockers⟩ := foldlM_addConflict_ok h.projection
    (blockedObligations s.toKnowledgeStateProjection)
  unfold deriveTerminal
  rw [hblockers, ok_bind]
  split
  · exact ⟨_, rfl⟩
  · split
    · exact ⟨_, rfl⟩
    · split
      · exact ⟨_, rfl⟩
      · exact limitTerminal_ok h.projection.bounds

/-! ## What the planner invokes -/

section

omit [Platform]

@[simp] lemma invocationOf_binding (binding : InvocationBinding) (plan : CognitivePlan) :
    (invocationOf binding plan).binding = binding := by
  cases plan <;> rfl

@[simp] lemma invocationOf_cost (binding : InvocationBinding) (plan : CognitivePlan) :
    (invocationOf binding plan).cost = plan.cost := by
  cases plan <;> rfl

@[simp] lemma invocationOf_predictions (binding : InvocationBinding) (plan : CognitivePlan) :
    (invocationOf binding plan).predictions = plan.predictions := by
  cases plan <;> rfl

end

/-- The obligation and the attempt that an invocation is for. -/
structure Planned (E : KnowledgeEngine) (fs : PrivateRoot) (s : KnowledgeState)
    (invocation : CognitiveInvocation) (obligation : KnowledgeObligation) : Prop where
  valid : ValidState E fs s
  continues : Continues E s.toKnowledgeStateProjection
  stored : s.obligations[obligation.obligationId]? = some obligation
  isOpen : obligation.state.isOpen = true
  cost_le : s.usage.totalCost + obligation.plan.cost ≤ s.budget.maxTotalCost
  attempts_lt : obligation.state.attempts + 1 < u16Width
  invocation_eq : invocation =
    invocationOf (nextBinding E s obligation (obligation.state.attempts + 1)) obligation.plan

omit [Platform] in
lemma affordable_iff (hbudget : p.budget.Valid) {o : KnowledgeObligation} :
    affordable p o = true ↔ p.usage.totalCost + o.plan.cost ≤ p.budget.maxTotalCost := by
  have hmax := hbudget.totalCost.2
  unfold affordable saturatingAdd
  rw [decide_eq_true_eq]
  simp only [hardMaxTotalCost, u64Width] at hmax ⊢
  omega

/-- The planner invokes the next attempt at an open, affordable obligation. -/
lemma plan_invoke {invocation : CognitiveInvocation}
    (h : plan E fs s = .ok (.invoke invocation)) : ∃ o, Planned E fs s invocation o := by
  simp only [plan, bind_ok] at h
  obtain ⟨_, hvalid, terminal, hterminal, hrest⟩ := h
  have hs := validateState_ok.mp hvalid
  cases terminal with
  | some terminal => simp [pure_ok] at hrest
  | none =>
    simp only at hrest
    split at hrest
    · next o hfind =>
      rw [bind_ok] at hrest
      obtain ⟨i, hi, hrest⟩ := hrest
      simp only [pure_ok, PlanningDecision.invoke.injEq] at hrest
      subst hrest
      have hmem := mem_of_find?_eq_some hfind
      rw [openObligations, mem_filter, mem_values] at hmem
      obtain ⟨⟨id, hid⟩, hopen⟩ := hmem
      simp only [materializeInvocation, bind_ok, checkedAdd_ok, pure_ok] at hi
      obtain ⟨_, ⟨hlt, rfl⟩, hi⟩ := hi
      exact ⟨o, hs, deriveTerminal_eq_none_iff.mp hterminal,
        (hs.projection.obligation_keys id o hid).symm ▸ hid, hopen,
        (affordable_iff hs.projection.budget).mp (find?_some hfind), hlt, hi.symm⟩
    · simp [pure_ok] at hrest

lemma plan_invoke_of_find {o : KnowledgeObligation} {u : Unit}
    (hvalid : validateState E fs s = .ok u) (hterminal : deriveTerminal E s = .ok none)
    (hfind : (openObligations s.toKnowledgeStateProjection).find?
      (affordable s.toKnowledgeStateProjection) = some o)
    (hattempts : o.state.attempts + 1 < u16Width) : plan E fs s = .ok (.invoke
      (invocationOf (nextBinding E s o (o.state.attempts + 1)) o.plan)) := by
  have hmaterialize : materializeInvocation E s o =
      .ok (invocationOf (nextBinding E s o (o.state.attempts + 1)) o.plan) := by
    simp only [materializeInvocation, bind_ok, checkedAdd_ok]
    exact ⟨_, ⟨hattempts, rfl⟩, rfl⟩
  simp only [plan, hvalid, ok_bind, hterminal, hfind, hmaterialize]
  rfl

/-- Where no decision is left to the state but a limit is reached, the planner
    ends the investigation. -/
lemma plan_terminal (h : ValidState E fs s) (hstop : ¬Continues E s.toKnowledgeStateProjection) :
    ∃ terminal, plan E fs s = .ok (.terminal terminal) := by
  obtain ⟨terminal, hterminal⟩ := deriveTerminal_ok h
  cases terminal with
  | none => exact absurd (deriveTerminal_eq_none_iff.mp hterminal) hstop
  | some terminal =>
    refine ⟨terminal, ?_⟩
    simp only [plan, bind_ok]
    exact ⟨(), validateState_ok.mpr h, some terminal, hterminal, rfl⟩

end

end Tidex.Knowledge
