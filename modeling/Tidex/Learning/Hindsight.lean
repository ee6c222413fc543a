/-
  Learning.Hindsight — what a query about an earlier revision is told.
-/
import Tidex.Learning.Replay
import Tidex.Learning.Retrieval
import Tidex.Lib.Collect

namespace Tidex.Learning

open Tidex.Lib Option Std.ExtTreeSet Sha256Digest Set SolverAttempt
open Tidex.Lib.BTreeMap

/-! ## The records of a revision -/

def Records.through (r : Records) (revision : Nat) : Records where
  attempts := {a ∈ r.attempts | a.observedRevision ≤ revision}
  failures := {f ∈ r.failures | f.observedRevision ≤ revision}
  drifts := {d ∈ r.drifts | d.detectedRevision ≤ revision}

namespace ProceduralMemory

def rebuildThrough [Platform] (m : ProceduralMemory) (revision : Nat) :
    BrainResult ProceduralMemory :=
  rebuildWithSolverFailures
    ((values m.attempts).filter fun a => a.observedRevision ≤ revision)
    ((values m.solverRunFailures).filter fun f => f.observedRevision ≤ revision)
    ((values m.driftRecords).filter fun d => d.detectedRevision ≤ revision)

section

variable [Platform] {m m' : ProceduralMemory} {r : Records}

omit [Platform] in
lemma driftBound_revisions {d : DriftRecord} {previous current : SolverAttempt}
    {previousScope currentScope : DriftScope}
    (h : driftBound d previous current previousScope currentScope = true) :
    previousScope = d.scope ∧ previous.observedRevision < current.observedRevision ∧
      d.detectedRevision = current.observedRevision ∧
      d.invalidatesThroughRevision = current.observedRevision := by
  simp only [driftBound, Bool.and_eq_true, beq_iff_eq, decide_eq_true_eq] at h
  obtain ⟨⟨⟨⟨hscope, -⟩, hrevision⟩, hdetected⟩, hthrough⟩ := h
  exact ⟨hscope, hrevision, hdetected, hthrough⟩

lemma Lawful.through_closed (h : Lawful r) (revision : Nat) :
    Closed (r.through revision) r where
  attempts := fun a ha => ha.1
  failures := fun f hf => hf.1
  drifts := fun d hd => hd.1
  rooted := by
    intro a ha
    obtain ⟨hmem, hle⟩ := ha
    rcases h.rooted a hmem with hfirst | hlater
    · exact .inl hfirst
    · obtain ⟨parent, hparent, hdigest, hcontinues, happlied⟩ := hlater
      -- a parent was observed before its child
      have hearlier := (continuesLineage_ordinal hcontinues).2.2
      have hparentLe : parent.observedRevision ≤ revision := by omega
      exact .inr ⟨parent, ⟨hparent, hparentLe⟩, hdigest, hcontinues, happlied⟩
  founded := by
    intro d hd
    obtain ⟨hmem, hle⟩ := hd
    obtain ⟨previous, hprevious, current, hcurrent, previousScope, currentScope,
      hpreviousReport, hcurrentReport, hpreviousScope, hcurrentScope, hbound⟩ := h.founded d hmem
    obtain ⟨-, hrevision, hdetected, -⟩ := driftBound_revisions hbound
    have hcurrentLe : current.observedRevision ≤ revision := by omega
    have hpreviousLe : previous.observedRevision ≤ revision := by omega
    exact ⟨previous, ⟨hprevious, hpreviousLe⟩, current, ⟨hcurrent, hcurrentLe⟩, previousScope,
      currentScope, hpreviousReport, hcurrentReport, hpreviousScope, hcurrentScope, hbound⟩

omit [Platform] in
lemma Enumerates.filter {α : Type} {xs : List α} {s : Set α} (h : Enumerates xs s)
    (p : α → Prop) [DecidablePred p] :
    Enumerates (xs.filter fun x => p x) {x ∈ s | p x} where
  nodup := h.nodup.filter _
  mem := by
    intro x
    rw [List.mem_filter, decide_eq_true_eq, h.mem x]
    exact Iff.rfl

/-- The records of a revision are rebuilt into a memory over them. -/
lemma Sound.rebuildThrough (h : Sound m r) (revision : Nat) :
    ∃ m', m.rebuildThrough revision = .ok m' ∧ Holds m' (r.through revision) :=
  h.rebuild (h.lawful.through_closed revision)
    ((enumerates_values h.holds.attempts).filter fun a => a.observedRevision ≤ revision)
    ((enumerates_values h.holds.failures).filter fun f => f.observedRevision ≤ revision)
    ((enumerates_values h.holds.drifts).filter fun d => d.detectedRevision ≤ revision)

/-! ## What is weighed -/

variable [Elementary] {q : RetrievalQuery}

def inScope (m : ProceduralMemory) (q : RetrievalQuery) : BTreeSet Sha256Digest :=
  m.attemptsByIsolation.getD q.scope.isolation ∅

/-- What judging an attempt adds to what was weighed. -/
def gather (m : ProceduralMemory) (q : RetrievalQuery)
    (accumulators : BTreeMap Sha256Digest AdviceAccumulator) (attemptId : Sha256Digest) :
    BrainResult (BTreeMap Sha256Digest AdviceAccumulator) := do
  match ← m.judge q attemptId with
  | .weighed w => return weigh accumulators w
  | .applicabilityFiltered | .driftFiltered | .evidenceFiltered => return accumulators

def shown (report : RetrievalReport) : List ProceduralAdvice × List SolverRunCaution :=
  (report.advice, report.solverRunCautions)

def shownCautions (m : ProceduralMemory) (q : RetrievalQuery) : List SolverRunCaution :=
  (((values m.solverRunFailures).filterMap q.caution).mergeSort cautionOrder).take q.maxResults

def shownAdvice (q : RetrievalQuery)
    (accumulators : BTreeMap Sha256Digest AdviceAccumulator) :
    BrainResult (List ProceduralAdvice) := do
  let advice ← accumulators.toList.mapM (advise q)
  return (advice.reduceOption.mergeSort adviceOrder).take q.maxResults

lemma foldlM_considered (ids : List Sha256Digest) (t : Tally) :
    (ids.foldlM (m.considered q) t).map Tally.accumulators =
      ids.foldlM (m.gather q) t.accumulators := by
  induction ids generalizing t with
  | nil => rfl
  | cons id ids ih =>
    rw [List.foldlM_cons, List.foldlM_cons]
    cases hjudge : m.judge q id with
    | error e =>
      rw [considered, gather, hjudge]
      rfl
    | ok verdict =>
      have hconsidered : m.considered q t id = .ok (t.count verdict) := by
        rw [considered, hjudge]
        rfl
      have hgather : m.gather q t.accumulators id = .ok (t.count verdict).accumulators := by
        rw [gather, hjudge]
        cases verdict <;> rfl
      rw [hconsidered, hgather]
      exact ih (t.count verdict)

omit [Platform] in
lemma shownAdvice_empty : shownAdvice q ∅ = .ok [] := by
  have hempty : (∅ : BTreeMap Sha256Digest AdviceAccumulator).toList = [] :=
    Std.ExtTreeMap.toList_eq_nil_iff.mpr rfl
  rw [shownAdvice, hempty]
  show Except.ok ((List.reduceOption []).mergeSort adviceOrder |>.take q.maxResults) = _
  rw [show List.reduceOption [] = ([] : List ProceduralAdvice) from rfl]
  simp

/-- What a retrieval shows: the advice from what is weighed, and the cautions. -/
lemma retrieve_shown (m : ProceduralMemory) (q : RetrievalQuery) :
    (m.retrieve q).map shown = (do
      q.validate
      let accumulators ← (m.inScope q).toList.foldlM (m.gather q) ∅
      let advice ← shownAdvice q accumulators
      return (advice, m.shownCautions q)) := by
  rw [retrieve]
  cases hvalidate : q.validate with
  | error e => rfl
  | ok u =>
    rw [ok_bind, ok_bind, inScope, Std.ExtTreeMap.getD_eq_getD_getElem?]
    cases hids : m.attemptsByIsolation[q.scope.isolation]? with
    | none =>
      have hempty : (∅ : BTreeSet Sha256Digest).toList = [] :=
        Std.ExtTreeSet.toList_eq_nil_iff.mpr rfl
      rw [getD_none, hempty, List.foldlM_nil, pure_bind, shownAdvice_empty]
      rfl
    | some ids =>
      have hfold := foldlM_considered (m := m) (q := q) ids.toList .start
      have hstart : Tally.start.accumulators = ∅ := rfl
      rw [hstart] at hfold
      rw [getD_some, ← hfold]
      cases hgathered : ids.toList.foldlM (m.considered q) .start with
      | error e =>
        simp only [hgathered]
        rfl
      | ok tally =>
        simp only [hgathered, ok_bind, Except.map, shownAdvice]
        cases hadvice : tally.accumulators.toList.mapM (advise q) with
        | error e => rfl
        | ok advice => rfl

/-! ## The answer as of the revision -/

def Invalidates (d : DriftRecord) (a : SolverAttempt) : Prop :=
  DriftScope.fromAttempt a = some d.scope ∧ a.observedRevision ≤ d.invalidatesThroughRevision

def AnsweredAsOf (m : ProceduralMemory) (q : RetrievalQuery) : Prop :=
  ∃ m', m.rebuildThrough q.currentRevision = .ok m' ∧
    (m.retrieve q).map shown = (m'.retrieve q).map shown

/-- An attempt of the scope and revision of a query that, invalidations apart, is not
    filtered out. -/
def Weighable (q : RetrievalQuery) (a : SolverAttempt) : Prop :=
  a.isolation = q.scope.isolation ∧ a.observedRevision ≤ q.currentRevision ∧
    q.judgeAttempt a ≠ .ok .evidenceFiltered ∧ q.judgeAttempt a ≠ .ok .applicabilityFiltered

/-- What would be weighed and is invalidated is invalidated by a drift record of the
    revision. -/
def NotHiddenLater (m : ProceduralMemory) (q : RetrievalQuery) : Prop :=
  ∀ a ∈ values m.attempts, Weighable q a → ∀ d ∈ values m.driftRecords, Invalidates d a →
    ∃ d' ∈ values m.driftRecords, d'.detectedRevision ≤ q.currentRevision ∧ Invalidates d' a

variable {a : SolverAttempt}

section

omit [Platform] [Elementary]

lemma isInvalidated_iff (h : Holds m r) :
    m.isInvalidated a = true ↔ ∃ d ∈ r.drifts, Invalidates d a := by
  rw [isInvalidated]
  cases hscope : DriftScope.fromAttempt a with
  | none => simp [Invalidates, hscope]
  | some scope =>
    rw [any_some, any_eq_true]
    constructor
    · intro hlast
      obtain ⟨revision, hget, hle⟩ := hlast
      obtain ⟨d, hd, hdscope, hthrough⟩ := h.invalidated.attained scope revision hget
      refine ⟨d, hd, ?_, ?_⟩
      · rw [hscope, hdscope]
      · have hle := of_decide_eq_true hle
        omega
    · intro hrecord
      obtain ⟨d, hd, hdscope, hle⟩ := hrecord
      rw [hscope, some.injEq] at hdscope
      -- the last invalidated revision of the scope is no earlier than that of `d`
      obtain ⟨revision, hget⟩ :=
        mem_iff_getElem?.mp ((h.invalidated.keys scope).mpr ⟨d, hd, hdscope.symm⟩)
      have hbound := h.invalidated.bound scope revision hget d hd hdscope.symm
      exact ⟨revision, hget, decide_eq_true (by omega)⟩

lemma mem_inScope (h : Holds m r) {id : Sha256Digest} :
    id ∈ m.inScope q ↔ ∃ a ∈ r.attempts, a.isolation = q.scope.isolation ∧
      a.attemptDigest = id := by
  rw [inScope, Std.ExtTreeMap.getD_eq_getD_getElem?]
  cases hids : m.attemptsByIsolation[q.scope.isolation]? with
  | some ids => exact h.isolation.values _ ids hids id
  | none =>
    constructor
    · intro hmem
      simp at hmem
    · intro hrecord
      obtain ⟨a, ha, hisolation, -⟩ := hrecord
      have hmem := (h.isolation.keys q.scope.isolation).mpr ⟨a, ha, hisolation⟩
      exact absurd hmem (getElem?_none.mp hids)

lemma mem_filter_iff {s : BTreeSet Sha256Digest} {p : Sha256Digest → Bool}
    {id : Sha256Digest} : id ∈ s.filter p ↔ id ∈ s ∧ p id = true := by
  rw [mem_filter]
  constructor
  · intro hfiltered
    obtain ⟨hmem, hp⟩ := hfiltered
    rw [get_eq] at hp
    exact ⟨hmem, hp⟩
  · intro hfiltered
    obtain ⟨hmem, hp⟩ := hfiltered
    refine ⟨hmem, ?_⟩
    rw [get_eq]
    exact hp

end

def observedBy (m : ProceduralMemory) (revision : Nat) (id : Sha256Digest) : Bool :=
  (m.attempts[id]?).any fun a => a.observedRevision ≤ revision

omit [Platform] [Elementary] in
lemma observedBy_iff (h : Holds m r) {revision : Nat} (ha : a ∈ r.attempts) :
    m.observedBy revision a.attemptDigest = true ↔ a.observedRevision ≤ revision := by
  rw [observedBy, h.attempt_iff.mpr ⟨ha, rfl⟩, any_some, decide_eq_true_eq]

section

variable (h : Holds m r) (hm' : Holds m' (r.through q.currentRevision))
include h hm'

section

omit [Platform] [Elementary]

lemma inScope_through :
    (m'.inScope q).toList = (m.inScope q).toList.filter (m.observedBy q.currentRevision) := by
  rw [← Std.ExtTreeSet.toList_filter]
  apply congrArg
  apply Std.ExtTreeSet.ext_mem
  intro id
  rw [mem_inScope hm', mem_filter_iff]
  constructor
  · intro hrecord
    obtain ⟨a, ha, hisolation, hid⟩ := hrecord
    subst hid
    obtain ⟨hmem, hle⟩ := ha
    exact ⟨(mem_inScope h).mpr ⟨a, hmem, hisolation, rfl⟩, (observedBy_iff h hmem).mpr hle⟩
  · intro hfiltered
    obtain ⟨hscope, hobserved⟩ := hfiltered
    obtain ⟨a, hmem, hisolation, hid⟩ := (mem_inScope h).mp hscope
    subst hid
    exact ⟨a, ⟨hmem, (observedBy_iff h hmem).mp hobserved⟩, hisolation, rfl⟩

lemma shownCautions_through : m'.shownCautions q = m.shownCautions q := by
  have hpart : values m'.solverRunFailures =
      (values m.solverRunFailures).filter fun f => f.observedRevision ≤ q.currentRevision := by
    have hall : values m'.solverRunFailures = (values m'.solverRunFailures).filter fun f =>
        f.observedRevision ≤ q.currentRevision := by
      rw [eq_comm, List.filter_eq_self]
      intro f hf
      exact decide_eq_true ((enumerates_values hm'.failures).mem f |>.mp hf).2
    rw [hall]
    apply filter_values_congr
    intro digest f hle
    rw [hm'.failure_iff, h.failure_iff]
    constructor
    · intro hrecord
      exact ⟨hrecord.1.1, hrecord.2⟩
    · intro hrecord
      exact ⟨⟨hrecord.1, of_decide_eq_true hle⟩, hrecord.2⟩
  rw [shownCautions, shownCautions, hpart, List.filterMap_filter]
  -- a failure observed later has no caution
  congr 3
  funext f
  by_cases hle : f.observedRevision ≤ q.currentRevision
  · rw [decide_eq_true hle, if_pos rfl]
  · have hlater : q.caution f = none := by
      rw [RetrievalQuery.caution, if_pos (.inr (.inr (Nat.lt_of_not_le hle)))]
    rw [decide_eq_false hle, hlater]
    rfl

/-! ## The theorem -/

lemma isInvalidated_of_through {a : SolverAttempt} (ha : m'.isInvalidated a = true) :
    m.isInvalidated a = true := by
  obtain ⟨d, hd, hinvalidates⟩ := (isInvalidated_iff hm').mp ha
  exact (isInvalidated_iff h).mpr ⟨d, hd.1, hinvalidates⟩

end

/-- An attempt of the revision counts the same, where it is not hidden by later drift
    records only. -/
lemma gather_through (hhidden : m.NotHiddenLater q) {a : SolverAttempt} (ha : a ∈ r.attempts)
    (hisolation : a.isolation = q.scope.isolation) (hle : a.observedRevision ≤ q.currentRevision)
    (accumulators : BTreeMap Sha256Digest AdviceAccumulator) :
    m.gather q accumulators a.attemptDigest = m'.gather q accumulators a.attemptDigest := by
  have hget := h.attempt_iff.mpr ⟨ha, rfl⟩
  have hget' := hm'.attempt_iff.mpr ⟨⟨ha, hle⟩, rfl⟩
  have hnotLater : ¬ a.observedRevision > q.currentRevision := Nat.not_lt_of_le hle
  rw [gather, gather, judge_eq hget, judge_eq hget', if_neg hnotLater, if_neg hnotLater]
  by_cases hthen : m'.isInvalidated a = true
  · rw [if_pos (isInvalidated_of_through h hm' hthen), if_pos hthen]
  · rw [if_neg hthen]
    by_cases hnow : m.isInvalidated a = true
    · rw [if_pos hnow]
      -- hidden now and not then, so it is one that is filtered out anyway
      by_cases hevidence : q.judgeAttempt a = .ok .evidenceFiltered
      · rw [hevidence]
        rfl
      · by_cases happlicability : q.judgeAttempt a = .ok .applicabilityFiltered
        · rw [happlicability]
          rfl
        · obtain ⟨d, hd, hinvalidates⟩ := (isInvalidated_iff h).mp hnow
          obtain ⟨d', hd', hdetected, hinvalidates'⟩ := hhidden a
            (((enumerates_values h.attempts).mem a).mpr ha)
            ⟨hisolation, hle, hevidence, happlicability⟩ d
            (((enumerates_values h.drifts).mem d).mpr hd) hinvalidates
          have hmem' := ((enumerates_values h.drifts).mem d').mp hd'
          exact absurd ((isInvalidated_iff hm').mpr ⟨d', ⟨hmem', hdetected⟩, hinvalidates'⟩) hthen
    · rw [if_neg hnow]

end

lemma gather_later (h : Holds m r) (ha : a ∈ r.attempts)
    (hlater : q.currentRevision < a.observedRevision)
    (accumulators : BTreeMap Sha256Digest AdviceAccumulator) :
    m.gather q accumulators a.attemptDigest = .ok accumulators := by
  have hget := h.attempt_iff.mpr ⟨ha, rfl⟩
  rw [gather, judge_eq hget, if_pos hlater]
  rfl

end

/-! ## A run where a later drift record hides advice -/

namespace MemorySample

attribute [local instance] Platform.reference

@[reducible] def elementary : Elementary where
  exp x :=
    if x.bits = 0xbff0000000000000 then F64.ofParts false 0x3fd78b56362cef38
    else if x.bits = 0xc005555555555555 then F64.ofParts false 0x3fb1c9aade9d7a11
    else one
  ln _ := positiveZero

attribute [local instance] elementary

lemma firstReport_valid : isValidStr
    "2222222222222222222222222222222222222222222222222222222222222222" = true := by
  decide

def firstReport : Sha256Digest := ⟨_, firstReport_valid⟩
def secondReport : Sha256Digest :=
  ⟨"3333333333333333333333333333333333333333333333333333333333333333", by decide⟩
def secondLine : Sha256Digest :=
  ⟨"4444444444444444444444444444444444444444444444444444444444444444", by decide⟩
def firstDigest : Sha256Digest :=
  ⟨"5c3d7993922cec3c20158c61d1525f00b74743d1ef6dcd855073d3e2b5ceab8a", by decide⟩
def secondDigest : Sha256Digest :=
  ⟨"1b887fc14f395e6165074bb364ee70c05f05dc1cc77f9af839b28979ad17f872", by decide⟩
def driftReceipt : Sha256Digest :=
  ⟨"0529111e0a9c9efbb8e710eecb9788c23c352aadfae996da1d6f3c3686ecfe79", by decide⟩

def unitF64 : FiniteF64 := ⟨F64.ofParts false 0x3ff0000000000000, by decide +kernel⟩

def evaluated (line report : Sha256Digest) (revision : Nat) : AttemptProjection where
  schema := .current
  bindings := ⟨capability, ⟨digest, digest, digest⟩⟩
  applicability
  configuration := ⟨.pivotedQr, .direct, none, some unitF64, none⟩
  lineage := ⟨line, 0, none⟩
  observedRevision := revision
  researchValidation := some ⟨report, report, digest, digest, digest, 8⟩
  solverRejectionReceipt := none
  outcome := ⟨.validated, ⟨some unitF64, some true, none⟩, none, none⟩
  appliedCorrection := none

def first : SolverAttempt :=
  { evaluated digest firstReport 1 with attemptDigest := firstDigest }

def second : SolverAttempt :=
  { evaluated secondLine secondReport 2 with attemptDigest := secondDigest }

lemma first_digest : first.calculateDigest = firstDigest := by
  refine digestDomain_eq ?_
  decide +kernel

lemma second_digest : second.calculateDigest = secondDigest := by
  refine digestDomain_eq ?_
  decide +kernel

lemma drift_receipt : observedDriftReceipt firstReport secondReport = driftReceipt := by
  apply hex_injective
  show String.ofList (Sha256.hexChars ((observedDriftEvidenceDomain.toByteArray ++
    (frame firstReport.hex.toByteArray ++ frame secondReport.hex.toByteArray)).data.toList.map
      UInt8.toNat)) = driftReceipt.hex
  have hchars : Sha256.hexChars ((observedDriftEvidenceDomain.toByteArray ++
    (frame firstReport.hex.toByteArray ++ frame secondReport.hex.toByteArray)).data.toList.map
      UInt8.toNat) = Json.quickText driftReceipt.hex := by
    decide +kernel
  rw [hchars, Json.quickText_eq, String.ofList_toList]

lemma evaluated_authentic {line report d : Sha256Digest} {revision : Nat}
    (hrevision : revision ≠ 0) (hreport : isZeroDigest report = false)
    (hd : (evaluated line report revision).calculateDigest = d) :
    authenticate { evaluated line report revision with attemptDigest := d } =
      .ok () := by
  have hvalidation : ResearchValidation.validate ⟨report, report, digest, digest, digest, 8⟩ =
      .ok () := by
    rw [ResearchValidation.validate, failIf_ok]
    simp [hreport, digest_nonzero, maxIndependentEvaluationGroups]
  have hevaluation : AttemptProjection.evaluationInvalid (evaluated line report revision) =
      false := by
    show (!returns (ResearchValidation.validate ⟨report, report, digest, digest, digest, 8⟩)
      (fun _ => true) || digest != digest) = false
    rw [hvalidation]
    simp [returns]
  rw [authenticate]
  simp only [seq_ok, failIf_ok]
  refine ⟨?_, ?_, ?_, ?_, ?_, ?_, ?_, ?_⟩
  · show AttemptBindings.validateNonzero ⟨capability, ⟨digest, digest, digest⟩⟩ = .ok ()
    simp [AttemptBindings.validateNonzero, CapabilityContext.validateNonzero,
      SolverArtifactContext.validateNonzero, capability, digest_nonzero, seq_ok]
  · show applicability.validate = .ok ()
    decide
  · show SolverConfiguration.validateFor ⟨.pivotedQr, .direct, none, some unitF64, none⟩
      applicability = .ok ()
    decide
  · rfl
  · show AttemptOutcome.validate
      ⟨.validated, ⟨some unitF64, some true, none⟩, none, none⟩ = .ok ()
    decide
  · rfl
  · intro hinvalid
    rcases hinvalid with hzero | happlied | hshape | hinvalid
    · exact hrevision hzero
    · cases happlied.2
    · cases hshape
    · have hfalse : (evaluated line report revision).evaluationInvalid = true := hinvalid
      rw [hevaluation] at hfalse
      cases hfalse
  · intro hne
    exact hne hd

lemma first_admitted : new.AdmitsAttempt first where
  authentic := evaluated_authentic (by decide) (by decide) first_digest
  digest := Std.ExtTreeMap.getElem?_empty
  report := by
    intro k v _
    exact Std.ExtTreeMap.getElem?_empty
  receipt := by
    intro receipt _ hmem
    simp [new] at hmem
  design := by
    intro k n _ known hknown
    simp [new] at hknown
  rejection := by
    intro k v _
    exact Std.ExtTreeMap.getElem?_empty
  room := by decide
  lineage := (validateLineage_ok Holds.new).mpr
    ⟨Std.ExtTreeMap.getElem?_empty, .inl ⟨rfl, rfl⟩⟩

def firstMemory : ProceduralMemory := new.insertAttempt first

def firstRecords : Records := Records.none.withAttempt first

lemma first_sound : Sound firstMemory firstRecords := Sound.new.insertAttempt first_admitted

lemma mem_firstRecords {a : SolverAttempt} : a ∈ firstRecords.attempts ↔ a = first := by
  show a ∈ insert first (∅ : Set SolverAttempt) ↔ a = first
  simp

lemma second_admitted : firstMemory.AdmitsAttempt second := by
  have hnew : ∀ {V : Type} (t : BTreeMap Sha256Digest V) (k : Sha256Digest),
      (∀ v, t[k]? ≠ some v) → t[k]? = none := by
    intro V t k h
    exact eq_none_iff_forall_ne_some.mpr h
  refine {
    authentic := evaluated_authentic (by decide) (by decide) second_digest
    digest := ?_, report := ?_, receipt := ?_, design := ?_, rejection := ?_
    room := by decide
    lineage := (validateLineage_ok first_sound.holds).mpr ⟨?_, .inl ⟨rfl, rfl⟩⟩ }
  · apply hnew
    intro a ha
    obtain ⟨hmem, hdigest⟩ := first_sound.holds.attempt_iff.mp ha
    rw [mem_firstRecords.mp hmem] at hdigest
    exact absurd hdigest (by decide)
  · intro k v hentry
    apply hnew
    intro d hd
    obtain ⟨a, ha, hreport⟩ := (first_sound.holds.reports k d).mp hd
    rw [mem_firstRecords.mp ha] at hreport
    have hsecond : secondReport = k := congrArg Prod.fst (some.inj hentry)
    have hfirst : firstReport = k := congrArg Prod.fst (some.inj hreport)
    exact absurd (hfirst.trans hsecond.symm) (by decide)
  · intro receipt hreceipt hmem
    have hsecond : secondReport = receipt := some.inj hreceipt
    rcases (first_sound.holds.evidence receipt).mp hmem with hattempt | hdrift
    · obtain ⟨a, ha, hfirst⟩ := hattempt
      rw [mem_firstRecords.mp ha] at hfirst
      have hfirst : firstReport = receipt := some.inj hfirst
      exact absurd (hfirst.trans hsecond.symm) (by decide)
    · obtain ⟨d, hd, -⟩ := hdrift
      cases hd
  · intro k n hentry known hknown
    obtain ⟨a, ha, hdesign⟩ := (first_sound.holds.designs k known).mp hknown
    rw [mem_firstRecords.mp ha] at hdesign
    have hsecond : 8 = n := congrArg Prod.snd (some.inj hentry)
    have hfirst : 8 = known := congrArg Prod.snd (some.inj hdesign)
    rw [← hfirst, hsecond]
  · intro k v hentry
    cases hentry
  · apply eq_none_iff_forall_ne_some.mpr
    intro d hd
    obtain ⟨a, ha, hplace⟩ := (first_sound.holds.places _ d).mp hd
    rw [mem_firstRecords.mp ha] at hplace
    have hsame : first.lineage.place = second.lineage.place :=
      congrArg Prod.fst (some.inj hplace)
    exact absurd hsame (by decide)

def secondMemory : ProceduralMemory := firstMemory.insertAttempt second

def secondRecords : Records := firstRecords.withAttempt second

lemma second_sound : Sound secondMemory secondRecords :=
  first_sound.insertAttempt second_admitted

def driftScope : DriftScope where
  systemEnvelopeDigest := digest
  capabilityId := capability.capabilityId
  capabilityIrDigest := digest
  baseArtifactDigest := digest
  targetProfileDigest := digest
  candidateDigest := digest
  evaluationDesignDigest := digest
  evaluatorPolicyDigest := digest

/-- The change between the two reports, detected with the second attempt. -/
noncomputable def drift : DriftRecord :=
  let projection : DriftProjection := {
    schema := .current
    scope := driftScope
    kind := .observedFunctionalChange
    detectedRevision := 2
    invalidatesThroughRevision := 2
    previousReportReceipt := firstReport
    currentReportReceipt := secondReport
    evidenceReceiptDigest := driftReceipt }
  { projection with driftDigest := projection.calculateDigest }

lemma drift_admitted : secondMemory.AdmitsDrift secondRecords drift where
  authentic := by
    rw [DriftRecord.authenticate]
    simp only [seq_ok, failIf_ok]
    refine ⟨?_, ?_, ?_, ?_⟩
    · show driftScope.validate = .ok ()
      decide
    · show ¬ (2 = 0 ∨ 2 = 0 ∨ 2 ≠ 2 ∨ firstReport = secondReport ∨ isZeroDigest firstReport ∨
        isZeroDigest secondReport ∨ isZeroDigest driftReceipt)
      decide
    · intro hne
      exact hne rfl
    · intro hne
      exact hne drift_receipt
  digest := Std.ExtTreeMap.getElem?_empty
  founded := ⟨first, mem_insert_of_mem _ (mem_insert _ _), second, mem_insert _ _,
    driftScope, driftScope, rfl, rfl, rfl, rfl, by decide⟩
  receipt := by
    intro hmem
    have hreceipt : drift.evidenceReceiptDigest = driftReceipt := rfl
    rw [hreceipt] at hmem
    rcases (second_sound.holds.evidence driftReceipt).mp hmem with hattempt | hdrift
    · obtain ⟨a, ha, hentry⟩ := hattempt
      rcases mem_insert_iff.mp ha with heq | ha
      · rw [heq] at hentry
        have hsame : secondReport = driftReceipt := some.inj hentry
        exact absurd hsame (by decide)
      · rw [mem_firstRecords.mp ha] at hentry
        have hsame : firstReport = driftReceipt := some.inj hentry
        exact absurd hsame (by decide)
    · obtain ⟨d, hd, -⟩ := hdrift
      cases hd
  room := by decide

/-- Record both attempts, then the change. -/
noncomputable def driftCalls : List MemoryCall :=
  [.recordAttempt first, .recordAttempt second, .recordDrift drift]

lemma history_drift : history driftCalls = secondMemory.insertDrift drift := by
  have hfirst : new.call (.recordAttempt first) = firstMemory := by
    rw [call, first_admitted.recorded, after, firstMemory]
  have hsecond : firstMemory.call (.recordAttempt second) = secondMemory := by
    rw [call, second_admitted.recorded, after, secondMemory]
  have hdrift : secondMemory.call (.recordDrift drift) = secondMemory.insertDrift drift := by
    rw [call, drift_admitted.recorded second_sound.holds, after]
  rw [history, driftCalls, List.foldl_cons, hfirst, List.foldl_cons, hsecond, List.foldl_cons,
    hdrift, List.foldl_nil]

lemma drift_sound : Sound (history driftCalls) (secondRecords.withDrift drift) := by
  rw [history_drift]
  exact second_sound.insertDrift drift_admitted

def word (bits : Nat) (h : (F64.ofParts false bits).isFinite = true) : FiniteF64 :=
  ⟨F64.ofParts false bits, h⟩

def coefficients : RetrievalPolicyProjection where
  schema := .current
  version := 4
  rowWeight := word 0x3fbeb851eb851eb8 (by decide)
  columnWeight := word 0x3fbeb851eb851eb8 (by decide)
  rankWeight := word 0x3fc47ae147ae147b (by decide)
  conditionWeight := word 0x3fc47ae147ae147b (by decide)
  outlierWeight := word 0x3fb999999999999a (by decide)
  sparsityWeight := word 0x3fb999999999999a (by decide)
  noiseWeight := word 0x3fb47ae147ae147b (by decide)
  precisionWeight := word 0x3fb47ae147ae147b (by decide)
  structureWeight := word 0x3fb47ae147ae147b (by decide)
  evidenceRepetitionScale := word 0x4020000000000000 (by decide)
  confidenceScale := word 0x4008000000000000 (by decide)
  positiveThreshold := word 0x3fc3333333333333 (by decide)
  negativeThreshold := ⟨F64.ofParts true 0x3fc3333333333333, by decide +kernel⟩
  singleGroupConfidenceCap := word 0x3fd6666666666666 (by decide)
  negativeAdviceNeverBlocks := true

noncomputable def policy : ProceduralRetrievalPolicy :=
  ⟨coefficients, digestDomain retrievalPolicyDomain (toVec coefficients)⟩

lemma current_policy : ProceduralRetrievalPolicy.current = .ok policy := by
  have h12 : FiniteF64.new (decimal 12 100) = .ok (word 0x3fbeb851eb851eb8 (by decide)) :=
    FiniteF64.new_ok.mpr (by decide +kernel)
  have h16 : FiniteF64.new (decimal 16 100) = .ok (word 0x3fc47ae147ae147b (by decide)) :=
    FiniteF64.new_ok.mpr (by decide +kernel)
  have h10 : FiniteF64.new (decimal 10 100) = .ok (word 0x3fb999999999999a (by decide)) :=
    FiniteF64.new_ok.mpr (by decide +kernel)
  have h8 : FiniteF64.new (decimal 8 100) = .ok (word 0x3fb47ae147ae147b (by decide)) :=
    FiniteF64.new_ok.mpr (by decide +kernel)
  have hscale : FiniteF64.new (decimal 8 1) = .ok (word 0x4020000000000000 (by decide)) :=
    FiniteF64.new_ok.mpr (by decide +kernel)
  have hconfidence : FiniteF64.new (decimal 3 1) = .ok (word 0x4008000000000000 (by decide)) :=
    FiniteF64.new_ok.mpr (by decide +kernel)
  have hpositive : FiniteF64.new (decimal 15 100) =
      .ok (word 0x3fc3333333333333 (by decide)) :=
    FiniteF64.new_ok.mpr (by decide +kernel)
  have hnegative : FiniteF64.new (-decimal 15 100) =
      .ok ⟨F64.ofParts true 0x3fc3333333333333, by decide⟩ :=
    FiniteF64.new_ok.mpr (by decide +kernel)
  have hcap : FiniteF64.new (decimal 35 100) = .ok (word 0x3fd6666666666666 (by decide)) :=
    FiniteF64.new_ok.mpr (by decide +kernel)
  simp only [ProceduralRetrievalPolicy.current, h12, h16, h10, h8, hscale, hconfidence,
    hpositive, hnegative, hcap, ok_bind]
  rfl

/-- Advice for the problem of both attempts, at the revision of the first. -/
noncomputable def query : RetrievalQuery where
  scope := ⟨first.isolation, digest⟩
  applicability
  currentRevision := 1
  transferPolicy := .exactOnly
  maxResults := 8
  retrievalPolicy := policy

lemma query_valid : query.validate = .ok () := by
  rw [RetrievalQuery.validate]
  simp only [seq_ok]
  refine ⟨?_, rfl, ?_, ?_⟩
  · show applicability.validate = .ok ()
    decide
  · rw [ProceduralRetrievalPolicy.validate, current_policy, ok_bind]
    exact failIf_ok.mpr (fun hne => hne rfl)
  · rw [failIf_ok]
    show ¬ (1 = 0 ∨ 8 = 0 ∨ 8 > maxAdviceResults ∨ isZeroDigest digest)
    decide

def contribution : Contribution where
  attemptDigest := firstDigest
  revision := 1
  exactProblem := true
  similarity := one
  evidenceStrength := one - Elementary.exp (-F64.ofNat 8 /
    coefficients.evidenceRepetitionScale.get)
  independentGroupCount := 8
  evidenceSource := .researchValidation
  status := .validated
  positiveUtility := one / (one + unitF64.get)
  failurePenalty := positiveZero
  correction := none

lemma judge_first : ∃ configurationDigest,
    query.judgeAttempt first = .ok (.weighed ⟨configurationDigest, first.configuration, digest,
      contribution⟩) := by
  have hconfiguration : first.configuration.validate = .ok () := by
    decide
  refine ⟨digestDomain configurationDomain (toVec first.configuration), ?_⟩
  have hdigest : first.configuration.digest =
      .ok (digestDomain configurationDomain (toVec first.configuration)) := by
    rw [SolverConfiguration.digest, hconfiguration]
    rfl
  have hweighing : query.weighing first ⟨digest, contribution.evidenceStrength, 8,
      .researchValidation⟩ one = .ok ⟨digestDomain configurationDomain
        (toVec first.configuration), first.configuration, digest, contribution⟩ := by
    rw [RetrievalQuery.weighing, hdigest]
    rfl
  exact RetrievalQuery.judgeAttempt_weighed (by decide) (by decide) rfl rfl hweighing

lemma advise_contribution (configurationDigest : Sha256Digest) :
    ∃ advice, advise query (configurationDigest,
      ⟨some first.configuration, (∅ : BTreeMap Sha256Digest Contribution).insert digest
        contribution⟩) = .ok (some advice) := by
  have hvalues : values ((∅ : BTreeMap Sha256Digest Contribution).insert digest contribution) =
      [contribution] := by
    rw [values, BTreeMap.toList_insert_empty]
    rfl
  have hsize : ((∅ : BTreeMap Sha256Digest Contribution).insert digest contribution).size = 1 := by
    rw [← length_values, hvalues]
    rfl
  apply advise_some first.configuration (AdviceSums.start.add contribution) rfl
  · rw [hvalues]
    rfl
  · decide +kernel
  · show ((AdviceSums.start.add contribution).priorityScore coefficients).isFinite = true
    decide +kernel
  · show ((AdviceSums.start.add contribution).confidence coefficients).isFinite = true
    decide +kernel
  · rw [hsize]
    decide +kernel
  · decide +kernel
  · decide +kernel

lemma shown_history : ((history driftCalls).retrieve query).map shown =
    .ok ([], (history driftCalls).shownCautions query) := by
  have hfold : ((history driftCalls).inScope query).toList.foldlM
      ((history driftCalls).gather query) ∅ = .ok ∅ := by
    have hskip := @foldlM_filter _ _ _ ((history driftCalls).gather query)
      ((history driftCalls).gather query) (fun _ => false)
      ((history driftCalls).inScope query).toList (by
        intro id hid _ accumulators
        obtain ⟨a, ha, -, hdigest⟩ :=
          (mem_inScope drift_sound.holds).mp (mem_toList.mp hid)
        subst hdigest
        rcases mem_insert_iff.mp ha with heq | ha
        · -- the second attempt is observed after the revision
          rw [heq]
          exact gather_later drift_sound.holds (mem_insert _ _) (by decide) accumulators
        · -- the first is invalidated by the change
          rw [mem_firstRecords.mp ha]
          have hmem : first ∈ (secondRecords.withDrift drift).attempts :=
            mem_insert_of_mem _ (mem_insert _ _)
          have hinvalidated : (history driftCalls).isInvalidated first = true := by
            refine (isInvalidated_iff drift_sound.holds).mpr
              ⟨drift, mem_insert _ _, rfl, ?_⟩
            show 1 ≤ 2
            decide
          have hget := drift_sound.holds.attempt_iff.mpr ⟨hmem, rfl⟩
          have hnotLater : ¬ first.observedRevision > query.currentRevision := by
            show ¬ 1 > 1
            decide
          rw [gather, judge_eq hget, if_neg hnotLater, if_pos hinvalidated]
          rfl) (by
        intro id _ hfalse
        cases hfalse) ∅
    rw [hskip, List.filter_eq_nil_iff.mpr (fun _ _ h => by cases h)]
    rfl
  rw [retrieve_shown, query_valid, ok_bind, hfold, ok_bind, shownAdvice_empty]
  rfl

lemma shown_through {m : ProceduralMemory}
    (hm : Holds m ((secondRecords.withDrift drift).through 1)) :
    ∃ advice cautions, (m.retrieve query).map shown = .ok ([advice], cautions) := by
  have hmembers : ∀ a, a ∈ ((secondRecords.withDrift drift).through 1).attempts ↔ a = first := by
    intro a
    constructor
    · intro ha
      obtain ⟨ha, hle⟩ := ha
      rcases mem_insert_iff.mp ha with heq | ha
      · rw [heq] at hle
        exact absurd hle (by decide)
      · exact mem_firstRecords.mp ha
    · intro heq
      rw [heq]
      exact ⟨mem_insert_of_mem _ (mem_insert _ _), by decide⟩
  have hscope : (m.inScope query).toList = [firstDigest] := by
    have hset : m.inScope query = (∅ : BTreeSet Sha256Digest).insert firstDigest := by
      apply ext_mem
      intro id
      rw [mem_inScope hm, BTreeSet.mem_insert_iff]
      constructor
      · intro hrecord
        obtain ⟨a, ha, -, hdigest⟩ := hrecord
        rw [(hmembers a).mp ha] at hdigest
        exact .inl hdigest.symm
      · intro hid
        rcases hid with heq | hnone
        · exact ⟨first, (hmembers first).mpr rfl, rfl, heq.symm⟩
        · simp at hnone
    rw [hset]
    exact Lib.toList_insert_empty firstDigest
  have hvalid : m.isInvalidated first ≠ true := by
    intro hinvalidated
    obtain ⟨d, hd, -⟩ := (isInvalidated_iff hm).mp hinvalidated
    obtain ⟨hd, hle⟩ := hd
    rcases mem_insert_iff.mp hd with heq | hd
    · rw [heq] at hle
      exact absurd hle (by decide)
    · cases hd
  obtain ⟨configurationDigest, hweighed⟩ := judge_first
  have hget := hm.attempt_iff.mpr ⟨(hmembers first).mpr rfl, rfl⟩
  have hjudge : m.judge query firstDigest = query.judgeAttempt first := by
    have hnotLater : ¬ first.observedRevision > query.currentRevision := by
      show ¬ 1 > 1
      decide
    have hjudged := judge_eq (q := query) hget
    rw [if_neg hnotLater, if_neg hvalid] at hjudged
    exact hjudged
  obtain ⟨advice, hadvice⟩ := advise_contribution configurationDigest
  have hgather : m.gather query ∅ firstDigest = .ok ((∅ : BTreeMap Sha256Digest
      AdviceAccumulator).insert configurationDigest ⟨some first.configuration,
        (∅ : BTreeMap Sha256Digest Contribution).insert digest contribution⟩) := by
    rw [gather, hjudge, hweighed, ok_bind]
    show Except.ok (weigh ∅ _) = _
    rw [weigh]
    have hdefault : (∅ : BTreeMap Sha256Digest AdviceAccumulator).getD configurationDigest
        ⟨none, ∅⟩ = ⟨none, ∅⟩ := Std.ExtTreeMap.getD_empty
    rw [hdefault]
    rfl
  refine ⟨advice, m.shownCautions query, ?_⟩
  rw [retrieve_shown, query_valid, ok_bind, hscope, List.foldlM_cons, hgather, ok_bind,
    List.foldlM_nil, pure_bind, shownAdvice, BTreeMap.toList_insert_empty, List.mapM_cons, hadvice]
  show Except.ok (([advice].mergeSort adviceOrder).take 8, m.shownCautions query) = _
  rw [List.mergeSort_singleton]
  rfl

end MemorySample

end ProceduralMemory

end Tidex.Learning
