/-
  Governance.GateExact — the offline gate over exact numbers.
-/
import Tidex.Governance.Promotion
import Tidex.Lib.Binary64Exact

namespace Tidex.Governance

open Tidex.Lib List Option Std.ExtTreeMap Set FiniteF64 F64

/-! ## The loop over any numbers -/

/-- Numbers that a finite double can be read as. -/
class Numbers (A : Type) extends Add A, Sub A, Mul A, Neg A where
  read : FiniteF64 → A
  lt? : A → A → Bool
  le? : A → A → Bool
  isFinite : A → Bool

instance : Numbers F64 where
  read := FiniteF64.get
  lt? := F64.lt?
  le? := F64.le?
  isFinite := F64.isFinite

/-- A double read as the rational number that it stands for. -/
instance : Numbers ℚ where
  read x := x.get.exact
  lt? a b := decide (a < b)
  le? a b := decide (a ≤ b)
  isFinite _ := true

section

variable {A : Type} [Numbers A]

open Numbers

def MetricDirection.orientOf (d : MetricDirection) (value : A) : A :=
  match d with
  | .maximize => value
  | .minimize => -value

def HardInvariant.classifyIntervalOf (i : HardInvariant) (lower upper : A) :
    InvariantIntervalStatus :=
  match i with
  | .atLeast threshold =>
    if lt? upper (read threshold) then .provenViolation
    else if le? (read threshold) lower then .established
    else .notEstablished
  | .atMost threshold =>
    if lt? (read threshold) lower then .provenViolation
    else if le? upper (read threshold) then .established
    else .notEstablished
  | .within minimum maximum =>
    if lt? upper (read minimum) then .provenViolation
    else if lt? (read maximum) lower then .provenViolation
    else if le? (read minimum) lower && le? upper (read maximum) then .established
    else .notEstablished

def hardInvariantStatusOf (multiplier : A) (spec : MetricSpec) (estimate : PairedMetricEstimate) :
    Option (Option InvariantIntervalStatus) :=
  spec.hardInvariant.map fun invariant =>
    estimate.candidateObservedRadius.map fun rawRadius =>
      let radius := multiplier * read rawRadius
      invariant.classifyIntervalOf (read estimate.candidateCenter - radius)
        (read estimate.candidateCenter + radius)

/-- What the loop has found, with the improvements in the numbers that it computes in. -/
structure GateFindings (A : Type) where
  hard : BTreeSet GateReason
  rejected : BTreeSet GateReason
  unknown : BTreeSet GateReason
  conservativeImprovements : BTreeMap MetricId A
  minimumGroups : Nat

def GateFindings.recordHard (acc : GateFindings A) (metricId : MetricId) :
    Option (Option InvariantIntervalStatus) → GateFindings A
  | none | some (some .established) => acc
  | some (some .provenViolation) =>
    { acc with hard := acc.hard.insert (.provenHardViolation metricId) }
  | some (some .notEstablished) =>
    { acc with unknown := acc.unknown.insert (.hardInvariantNotEstablished metricId) }
  | some none => { acc with unknown := acc.unknown.insert (.insufficientGroups metricId) }

def gateMetricOf (report : PairedEvaluationReport) (policy : CandidateGatePolicy)
    (acc : GateFindings A) (entry : MetricId × MetricSpec) : BrainResult (GateFindings A) := do
  let (metricId, spec) := entry
  let multiplier : A := read policy.uncertaintyMultiplier
  let estimate ← okOr report.estimates[metricId]? (integrity "governance_gate_metric_missing")
  let acc := { acc with minimumGroups := min acc.minimumGroups estimate.independentGroups }
  let acc := acc.recordHard metricId (hardInvariantStatusOf multiplier spec estimate)
  if estimate.independentGroups < policy.minimumIndependentGroups then
    return { acc with unknown := acc.unknown.insert (.insufficientGroups metricId) }
  else
    match estimate.pairedEffectObservedRadius with
    | none => return { acc with unknown := acc.unknown.insert (.insufficientGroups metricId) }
    | some rawEffectRadius => do
      let effectRadius := multiplier * read rawEffectRadius
      let oriented := spec.direction.orientOf (read estimate.pairedEffect)
      let conservative := oriented - effectRadius
      failIf (isFinite conservative = false) (.numerical "finite_f64_non_finite")
      let acc := { acc with
        conservativeImprovements := acc.conservativeImprovements.insert metricId conservative }
      let required ← okOr policy.minimumImprovement[metricId]?
        (integrity "governance_gate_threshold_missing")
      if le? (read required) conservative then return acc
      else if lt? (oriented + effectRadius) (read required) then
        return { acc with rejected := acc.rejected.insert (.improvementBelowThreshold metricId) }
      else return { acc with unknown := acc.unknown.insert (.improvementUncertain metricId) }

def GateFindings.disposition (acc : GateFindings A) : CandidateGateDisposition :=
  if ¬acc.hard.isEmpty ∨ ¬acc.rejected.isEmpty then .reject
  else if ¬acc.unknown.isEmpty then .boundedUnknown
  else .advanceCandidate

def gateFindings [Platform] (A : Type) [Numbers A] (specs : List MetricSpec)
    (report : PairedEvaluationReport) (policy : CandidateGatePolicy) :
    BrainResult (GateFindings A) := do
  report.authenticate
  let catalog ← canonicalSpecs specs
  let catalogDigest := Governance.metricCatalogDigest catalog
  failIf (report.metricCatalogDigest ≠ catalogDigest
      ∨ policy.metricCatalogDigest ≠ catalogDigest
      ∨ policy.minimumIndependentGroups < report.minimumRequiredGroups
      ∨ policy.minimumImprovement.size ≠ catalog.size
      ∨ policy.minimumImprovement.keys.any (· ∉ catalog)
      ∨ report.estimates.size ≠ catalog.size
      ∨ report.estimates.keys.any (· ∉ catalog))
    (integrity "governance_gate_metric_binding_mismatch")
  catalog.toList.foldlM (gateMetricOf report policy) ⟨∅, ∅, ∅, ∅, u64Width - 1⟩

end

/-! ## Over doubles it is the gate -/

def GateScan.toFindings (acc : GateScan) : GateFindings F64 where
  hard := acc.hard
  rejected := acc.rejected
  unknown := acc.unknown
  conservativeImprovements := acc.conservativeImprovements.map fun _ value => value.get
  minimumGroups := acc.minimumGroups

lemma hardInvariantStatusOf_eq (multiplier : F64) (spec : MetricSpec)
    (estimate : PairedMetricEstimate) : hardInvariantStatusOf multiplier spec estimate =
      hardInvariantStatus multiplier spec estimate := by
  unfold hardInvariantStatus hardInvariantStatusOf
  cases spec.hardInvariant with
  | none => rfl
  | some invariant => cases invariant <;> rfl

lemma toFindings_recordHard (acc : GateScan) (metricId : MetricId)
    (status : Option (Option InvariantIntervalStatus)) :
    (acc.recordHard metricId status).toFindings = acc.toFindings.recordHard metricId status := by
  cases status with
  | none => rfl
  | some seen =>
    cases seen with
    | none => rfl
    | some status => cases status <;> rfl

lemma map_insert_get (m : BTreeMap MetricId FiniteF64) (k : MetricId) (v : FiniteF64) :
    (m.insert k v).map (fun _ value => value.get) =
      (m.map fun _ value => value.get).insert k v.get := by
  apply Std.ExtTreeMap.ext_getElem?
  intro other
  rw [Std.ExtTreeMap.getElem?_map, Std.ExtTreeMap.getElem?_insert, Std.ExtTreeMap.getElem?_insert,
    Std.ExtTreeMap.getElem?_map]
  split <;> rfl

lemma gateMetricOf_eq (report : PairedEvaluationReport) (policy : CandidateGatePolicy)
    (acc : GateScan) (entry : MetricId × MetricSpec) :
    gateMetricOf report policy acc.toFindings entry =
      (gateMetric report policy acc entry).map GateScan.toFindings := by
  obtain ⟨metricId, spec⟩ := entry
  unfold gateMetricOf gateMetric
  cases hestimate : report.estimates[metricId]? with
  | none =>
    simp only [hestimate]
    rfl
  | some estimate =>
    simp only [hestimate, hardInvariantStatusOf_eq]
    simp only [okOr, ok_bind]
    -- what the hard invariant adds is the same
    have hrecord := toFindings_recordHard
      { acc with minimumGroups := min acc.minimumGroups estimate.independentGroups } metricId
      (hardInvariantStatus policy.uncertaintyMultiplier.get spec estimate)
    generalize GateScan.recordHard _ metricId _ = recorded at hrecord ⊢
    have hfindings : GateFindings.recordHard
        ⟨acc.toFindings.hard, acc.toFindings.rejected, acc.toFindings.unknown,
          acc.toFindings.conservativeImprovements,
          min acc.toFindings.minimumGroups estimate.independentGroups⟩ metricId
        (hardInvariantStatus policy.uncertaintyMultiplier.get spec estimate) =
          recorded.toFindings := hrecord.symm
    rw [show (Numbers.read policy.uncertaintyMultiplier : F64) =
      policy.uncertaintyMultiplier.get from rfl, hfindings]
    by_cases hgroups : estimate.independentGroups < policy.minimumIndependentGroups
    · rw [if_pos hgroups, if_pos hgroups]
      rfl
    · rw [if_neg hgroups, if_neg hgroups]
      cases estimate.pairedEffectObservedRadius with
      | none => rfl
      | some radius =>
        have horient : ∀ value : F64,
            spec.direction.orientOf value = spec.direction.orient value := by
          intro value
          cases spec.direction <;> rfl
        simp only [horient]
        show _ = ((new (spec.direction.orient estimate.pairedEffect.get -
          policy.uncertaintyMultiplier.get * radius.get)) >>= _).map GateScan.toFindings
        show (failIf (isFinite (spec.direction.orient estimate.pairedEffect.get -
          policy.uncertaintyMultiplier.get * radius.get) = false) _ >>= _) = _
        unfold new failIf
        generalize spec.direction.orient estimate.pairedEffect.get -
          policy.uncertaintyMultiplier.get * radius.get = conservative
        by_cases hfinite : conservative.isFinite = true
        · have hkept : ¬conservative.isFinite = false := by
            rw [hfinite]
            decide
          rw [dif_pos hfinite, if_neg hkept, ok_bind, ok_bind]
          cases policy.minimumImprovement[metricId]? with
          | none => rfl
          | some required =>
            have hinsert := map_insert_get recorded.conservativeImprovements metricId
              ⟨conservative, hfinite⟩
            simp only [ok_bind, apply_ite (Except.map GateScan.toFindings)]
            simp only [Except.map, GateScan.toFindings, hinsert, pure, Except.pure]
            rfl
        · rw [dif_neg hfinite, if_pos (Bool.not_eq_true _ ▸ hfinite)]
          rfl

lemma foldlM_gateMetricOf_eq (report : PairedEvaluationReport) (policy : CandidateGatePolicy)
    (entries : List (MetricId × MetricSpec)) (acc : GateScan) :
    entries.foldlM (gateMetricOf report policy) acc.toFindings =
      (entries.foldlM (gateMetric report policy) acc).map GateScan.toFindings := by
  induction entries generalizing acc with
  | nil => rfl
  | cons entry entries ih =>
    rw [foldlM_cons, foldlM_cons, gateMetricOf_eq]
    cases gateMetric report policy acc entry with
    | error e => rfl
    | ok next => exact ih next

/-- Over doubles the loop is the gate: it is accepted when the gate decides, and it has the
    disposition of the decision. -/
lemma decideCandidate_eq [Platform] (specs : List MetricSpec) (report : PairedEvaluationReport)
    (policy : CandidateGatePolicy) :
    (decideCandidate specs report policy).map (fun d => d.disposition) =
      (gateFindings F64 specs report policy).map GateFindings.disposition := by
  unfold decideCandidate gateFindings
  cases report.authenticate with
  | error e => rfl
  | ok u =>
    cases canonicalSpecs specs with
    | error e => rfl
    | ok catalog =>
      simp only [ok_bind, failIf]
      split
      · rfl
      · simp only [ok_bind]
        have hstart : (⟨∅, ∅, ∅, ∅, u64Width - 1⟩ : GateFindings F64) =
            (⟨∅, ∅, ∅, ∅, u64Width - 1⟩ : GateScan).toFindings := by
          unfold GateScan.toFindings
          rfl
        rw [hstart, foldlM_gateMetricOf_eq]
        cases catalog.toList.foldlM (gateMetric report policy) ⟨∅, ∅, ∅, ∅, u64Width - 1⟩ with
        | error e => rfl
        | ok acc =>
          -- sealing does not fail
          unfold CandidateGateDecision.seal CandidateGateDecision.authenticate failIf
          simp only [ne_eq, not_true_eq_false, if_false]
          rfl

/-! ## What the loop finds -/

section

variable {A : Type} [Numbers A] {report : PairedEvaluationReport} {policy : CandidateGatePolicy}

open Numbers

/-- The hard invariant of the metric is violated on the whole interval of the candidate. -/
def HardViolated (A : Type) [Numbers A] (report : PairedEvaluationReport)
    (policy : CandidateGatePolicy) (entry : MetricId × MetricSpec) : Prop :=
  ∃ e, report.estimates[entry.1]? = some e ∧
    hardInvariantStatusOf (read policy.uncertaintyMultiplier : A) entry.2 e =
      some (some .provenViolation)

/-- The metric has its groups, and the largest improvement is too small. -/
def EffectBelow (A : Type) [Numbers A] (report : PairedEvaluationReport)
    (policy : CandidateGatePolicy) (entry : MetricId × MetricSpec) : Prop :=
  ∃ e radius required, report.estimates[entry.1]? = some e ∧
    policy.minimumIndependentGroups ≤ e.independentGroups ∧
    e.pairedEffectObservedRadius = some radius ∧
    policy.minimumImprovement[entry.1]? = some required ∧
    le? (read required) (entry.2.direction.orientOf (read e.pairedEffect : A) -
      read policy.uncertaintyMultiplier * read radius) = false ∧
    lt? (entry.2.direction.orientOf (read e.pairedEffect : A) +
      read policy.uncertaintyMultiplier * read radius) (read required) = true

/-- The metric has its groups, the smallest improvement is large enough, and the hard invariant,
    if there is one, holds on the whole interval of the candidate. -/
def MetricEstablished (A : Type) [Numbers A] (report : PairedEvaluationReport)
    (policy : CandidateGatePolicy) (entry : MetricId × MetricSpec) : Prop :=
  ∃ e radius required, report.estimates[entry.1]? = some e ∧
    policy.minimumIndependentGroups ≤ e.independentGroups ∧
    e.pairedEffectObservedRadius = some radius ∧
    policy.minimumImprovement[entry.1]? = some required ∧
    le? (read required) (entry.2.direction.orientOf (read e.pairedEffect : A) -
      read policy.uncertaintyMultiplier * read radius) = true ∧
    ∀ invariant, entry.2.hardInvariant = some invariant →
      hardInvariantStatusOf (read policy.uncertaintyMultiplier : A) entry.2 e =
        some (some .established)

lemma isEmpty_insert (s : BTreeSet GateReason) (reason : GateReason) :
    (s.insert reason).isEmpty = false := by
  rw [Bool.eq_false_iff]
  intro hempty
  have hnone := Std.ExtTreeSet.isEmpty_iff.mp hempty
  have hmem : reason ∈ s.insert reason := BTreeSet.mem_insert_iff.mpr (.inl rfl)
  rw [hnone] at hmem
  exact Std.ExtTreeSet.not_mem_empty hmem

/-- Nothing was found against the candidate, and nothing was left open. -/
def GateFindings.Clear (acc : GateFindings A) : Prop :=
  acc.hard.isEmpty = true ∧ acc.rejected.isEmpty = true ∧ acc.unknown.isEmpty = true

/-- What one metric adds to what was found. -/
structure StepFindings (acc acc' : GateFindings A) (report : PairedEvaluationReport)
    (policy : CandidateGatePolicy) (entry : MetricId × MetricSpec) : Prop where
  hard : acc'.hard.isEmpty = true ↔ acc.hard.isEmpty = true ∧ ¬HardViolated A report policy entry
  rejected : acc'.rejected.isEmpty = true ↔
    acc.rejected.isEmpty = true ∧ ¬EffectBelow A report policy entry
  clear : acc'.Clear ↔ acc.Clear ∧ MetricEstablished A report policy entry

omit [Numbers A] in
lemma recordHard_spec (acc : GateFindings A) (metricId : MetricId)
    (status : Option (Option InvariantIntervalStatus)) :
    ((acc.recordHard metricId status).hard.isEmpty = true ↔
      acc.hard.isEmpty = true ∧ status ≠ some (some .provenViolation)) ∧
    (acc.recordHard metricId status).rejected = acc.rejected ∧
    ((acc.recordHard metricId status).Clear ↔
      acc.Clear ∧ (status = none ∨ status = some (some .established))) := by
  have hinsert := isEmpty_insert
  cases status with
  | none => simp [GateFindings.recordHard, GateFindings.Clear]
  | some seen =>
    cases seen with
    | none => simp [GateFindings.recordHard, GateFindings.Clear, hinsert]
    | some status =>
      cases status with
      | established => simp [GateFindings.recordHard, GateFindings.Clear]
      | provenViolation => simp [GateFindings.recordHard, GateFindings.Clear, hinsert]
      | notEstablished => simp [GateFindings.recordHard, GateFindings.Clear, hinsert]

/-- A status says nothing bad exactly when an invariant, if there is one, is established. -/
lemma status_clear {multiplier : A} {spec : MetricSpec} {e : PairedMetricEstimate} :
    (hardInvariantStatusOf multiplier spec e = none ∨
      hardInvariantStatusOf multiplier spec e = some (some .established)) ↔
    ∀ invariant, spec.hardInvariant = some invariant →
      hardInvariantStatusOf multiplier spec e = some (some .established) := by
  cases hinvariant : spec.hardInvariant with
  | none =>
    have hnone : hardInvariantStatusOf multiplier spec e = none := by
      unfold hardInvariantStatusOf
      rw [hinvariant]
      rfl
    constructor
    · intro _ invariant hsome
      cases hsome
    · intro _
      exact .inl hnone
  | some invariant =>
    have hsome : hardInvariantStatusOf multiplier spec e ≠ none := by
      unfold hardInvariantStatusOf
      rw [hinvariant]
      exact some_ne_none _
    constructor
    · intro h _ _
      exact h.resolve_left hsome
    · intro h
      exact .inr (h invariant rfl)

variable {entry : MetricId × MetricSpec} {e : PairedMetricEstimate}

section

variable (h : report.estimates[entry.1]? = some e)
include h

lemma hardViolated_iff : HardViolated A report policy entry ↔
    hardInvariantStatusOf (read policy.uncertaintyMultiplier : A) entry.2 e =
      some (some .provenViolation) := by
  simp only [HardViolated, h, some_inj, exists_eq_left']

lemma effectBelow_iff : EffectBelow A report policy entry ↔ ∃ radius required,
    policy.minimumIndependentGroups ≤ e.independentGroups ∧
      e.pairedEffectObservedRadius = some radius ∧
      policy.minimumImprovement[entry.1]? = some required ∧
      le? (read required) (entry.2.direction.orientOf (read e.pairedEffect : A) -
        read policy.uncertaintyMultiplier * read radius) = false ∧
      lt? (entry.2.direction.orientOf (read e.pairedEffect : A) +
        read policy.uncertaintyMultiplier * read radius) (read required) = true := by
  simp only [EffectBelow, h, some_inj, exists_and_left, exists_eq_left']

lemma established_iff : MetricEstablished A report policy entry ↔ ∃ radius required,
    policy.minimumIndependentGroups ≤ e.independentGroups ∧
      e.pairedEffectObservedRadius = some radius ∧
      policy.minimumImprovement[entry.1]? = some required ∧
      le? (read required) (entry.2.direction.orientOf (read e.pairedEffect : A) -
        read policy.uncertaintyMultiplier * read radius) = true ∧
      (hardInvariantStatusOf (read policy.uncertaintyMultiplier : A) entry.2 e = none ∨
        hardInvariantStatusOf (read policy.uncertaintyMultiplier : A) entry.2 e =
          some (some .established)) := by
  simp only [MetricEstablished, status_clear, h, some_inj, exists_and_left, exists_eq_left']

end

/-- What is left open is not clear. -/
lemma clear_iff_of_open {acc acc' : GateFindings A} {reasons : BTreeSet GateReason}
    {reason : GateReason}
    (hopen : acc'.rejected = reasons.insert reason ∨ acc'.unknown = reasons.insert reason)
    (hnot : ¬MetricEstablished A report policy entry) :
    acc'.Clear ↔ acc.Clear ∧ MetricEstablished A report policy entry := by
  have hinsert := isEmpty_insert reasons reason
  constructor
  · intro hclear
    obtain ⟨-, hrejected, hunknown⟩ := hclear
    rcases hopen with hopen | hopen
    · rw [hopen, hinsert] at hrejected
      cases hrejected
    · rw [hopen, hinsert] at hunknown
      cases hunknown
  · intro h
    exact absurd h.2 hnot

lemma gateMetricOf_spec {acc acc' : GateFindings A}
    (h : gateMetricOf report policy acc entry = .ok acc') :
    StepFindings acc acc' report policy entry := by
  obtain ⟨metricId, spec⟩ := entry
  unfold gateMetricOf at h
  simp only [bind_ok, okOr_ok] at h
  obtain ⟨e, hestimate, h⟩ := h
  have hspec := recordHard_spec
    { acc with minimumGroups := min acc.minimumGroups e.independentGroups } metricId
    (hardInvariantStatusOf (read policy.uncertaintyMultiplier : A) spec e)
  generalize GateFindings.recordHard _ metricId _ = recorded at h hspec
  obtain ⟨hhard, hrejected, hclear⟩ := hspec
  have hhard' : recorded.hard.isEmpty = true ↔
      acc.hard.isEmpty = true ∧ ¬HardViolated A report policy (metricId, spec) := by
    rw [hardViolated_iff hestimate]
    exact hhard
  by_cases hgroups : e.independentGroups < policy.minimumIndependentGroups
  · -- too few groups leave the metric open
    rw [if_pos hgroups, pure_ok] at h
    subst h
    refine ⟨hhard', ?_, clear_iff_of_open (.inr rfl) ?_⟩
    · show recorded.rejected.isEmpty = true ↔ _
      rw [hrejected, iff_self_and, effectBelow_iff hestimate]
      intro _ hbelow
      obtain ⟨_, _, hmin, -⟩ := hbelow
      omega
    · rw [established_iff hestimate]
      intro hestablished
      obtain ⟨_, _, hmin, -⟩ := hestablished
      omega
  · rw [if_neg hgroups] at h
    cases hradius : e.pairedEffectObservedRadius with
    | none =>
      -- so does a missing radius
      rw [hradius] at h
      simp only [pure_ok] at h
      subst h
      refine ⟨hhard', ?_, clear_iff_of_open (.inr rfl) ?_⟩
      · show recorded.rejected.isEmpty = true ↔ _
        rw [hrejected, iff_self_and, effectBelow_iff hestimate]
        intro _ hbelow
        obtain ⟨_, _, -, hsome, -⟩ := hbelow
        rw [hradius] at hsome
        cases hsome
      · rw [established_iff hestimate]
        intro hestablished
        obtain ⟨_, _, -, hsome, -⟩ := hestablished
        rw [hradius] at hsome
        cases hsome
    | some radius =>
      rw [hradius] at h
      simp only [bind_ok, okOr_ok] at h
      obtain ⟨_, -, required, hrequired, h⟩ := h
      have hbelow : EffectBelow A report policy (metricId, spec) ↔ _ := effectBelow_iff hestimate
      have hestablished : MetricEstablished A report policy (metricId, spec) ↔ _ :=
        established_iff hestimate
      simp only [hradius, hrequired, some_inj, not_lt.mp hgroups, true_and, exists_and_left,
        exists_eq_left'] at hbelow hestablished
      by_cases hle : le? (read required) (spec.direction.orientOf (read e.pairedEffect : A) -
          read policy.uncertaintyMultiplier * read radius) = true
      · rw [if_pos hle, pure_ok] at h
        subst h
        refine ⟨hhard', ?_, ?_⟩
        · show recorded.rejected.isEmpty = true ↔ _
          rw [hrejected, iff_self_and, hbelow, hle]
          intro _ hb
          cases hb.1
        · show recorded.Clear ↔ _
          rw [hclear, hestablished, hle]
          simp [GateFindings.Clear]
      · rw [if_neg hle] at h
        have hnot : ¬MetricEstablished A report policy (metricId, spec) := by
          rw [hestablished]
          exact fun hm => hle hm.1
        by_cases hlt : lt? (spec.direction.orientOf (read e.pairedEffect : A) +
            read policy.uncertaintyMultiplier * read radius) (read required) = true
        · rw [if_pos hlt, pure_ok] at h
          subst h
          have hb : EffectBelow A report policy (metricId, spec) :=
            hbelow.mpr ⟨Bool.not_eq_true _ ▸ hle, hlt⟩
          refine ⟨hhard', ?_, clear_iff_of_open (.inl rfl) hnot⟩
          show (recorded.rejected.insert _).isEmpty = true ↔ _
          rw [isEmpty_insert]
          simp [hb]
        · rw [if_neg hlt, pure_ok] at h
          subst h
          refine ⟨hhard', ?_, clear_iff_of_open (.inr rfl) hnot⟩
          show recorded.rejected.isEmpty = true ↔ _
          rw [hrejected, iff_self_and, hbelow]
          exact fun _ hb => hlt hb.2

variable {entries : List (MetricId × MetricSpec)}

lemma foldlM_gateMetricOf_spec {acc acc' : GateFindings A}
    (h : entries.foldlM (gateMetricOf report policy) acc = .ok acc') :
    (acc'.hard.isEmpty = true ↔ acc.hard.isEmpty = true ∧
      ∀ entry ∈ entries, ¬HardViolated A report policy entry) ∧
    (acc'.rejected.isEmpty = true ↔ acc.rejected.isEmpty = true ∧
      ∀ entry ∈ entries, ¬EffectBelow A report policy entry) ∧
    (acc'.Clear ↔ acc.Clear ∧ ∀ entry ∈ entries, MetricEstablished A report policy entry) := by
  induction entries generalizing acc with
  | nil =>
    rw [foldlM_nil, pure_ok] at h
    subst h
    simp
  | cons entry entries ih =>
    rw [foldlM_cons, bind_ok] at h
    obtain ⟨middle, hstep, hrest⟩ := h
    have hspec := gateMetricOf_spec hstep
    obtain ⟨hhard, hrejected, hclear⟩ := ih hrest
    rw [hspec.hard] at hhard
    rw [hspec.rejected] at hrejected
    rw [hspec.clear] at hclear
    refine ⟨?_, ?_, ?_⟩
    · rw [hhard, forall_mem_cons, and_assoc]
    · rw [hrejected, forall_mem_cons, and_assoc]
    · rw [hclear, forall_mem_cons, and_assoc]

variable {acc : GateFindings A}

section

omit [Numbers A]

lemma disposition_advance : acc.disposition = .advanceCandidate ↔ acc.Clear := by
  unfold GateFindings.disposition GateFindings.Clear
  cases acc.hard.isEmpty <;> cases acc.rejected.isEmpty <;> cases acc.unknown.isEmpty <;> simp

lemma disposition_reject :
    acc.disposition = .reject ↔ ¬(acc.hard.isEmpty = true ∧ acc.rejected.isEmpty = true) := by
  unfold GateFindings.disposition
  cases acc.hard.isEmpty <;> cases acc.rejected.isEmpty <;> cases acc.unknown.isEmpty <;> simp

end

lemma gateFindings_run [Platform] {specs : List MetricSpec} {catalog : MetricCatalog}
    (hcatalog : canonicalSpecs specs = .ok catalog)
    (h : gateFindings A specs report policy = .ok acc) :
    catalog.toList.foldlM (gateMetricOf report policy) ⟨∅, ∅, ∅, ∅, u64Width - 1⟩ = .ok acc := by
  unfold gateFindings at h
  simp only [bind_ok, hcatalog] at h
  obtain ⟨_, -, c, hc, _, -, hrun⟩ := h
  cases hc
  exact hrun

lemma gateFindings_disposition [Platform] {specs : List MetricSpec} {catalog : MetricCatalog}
    (hcatalog : canonicalSpecs specs = .ok catalog)
    (h : gateFindings A specs report policy = .ok acc) : (acc.disposition = .advanceCandidate ↔
      ∀ entry ∈ catalog.toList, MetricEstablished A report policy entry) ∧
    (acc.disposition = .reject ↔ ∃ entry ∈ catalog.toList,
      HardViolated A report policy entry ∨ EffectBelow A report policy entry) := by
  obtain ⟨hhard, hrejected, hclear⟩ := foldlM_gateMetricOf_spec (gateFindings_run hcatalog h)
  have hempty : (∅ : BTreeSet GateReason).isEmpty = true := rfl
  constructor
  · rw [disposition_advance, hclear]
    exact and_iff_right ⟨hempty, hempty, hempty⟩
  · rw [disposition_reject, hhard, hrejected]
    constructor
    · intro hnot
      by_contra hnone
      apply hnot
      refine ⟨⟨hempty, ?_⟩, hempty, ?_⟩
      · intro entry hentry hviolated
        exact hnone ⟨entry, hentry, .inl hviolated⟩
      · intro entry hentry hbelow
        exact hnone ⟨entry, hentry, .inr hbelow⟩
    · intro hsome hboth
      obtain ⟨entry, hentry, hviolated | hbelow⟩ := hsome
      · exact hboth.1.2 entry hentry hviolated
      · exact hboth.2.2 entry hentry hbelow

lemma gateMetricOf_ok_of_gate (hexact : ∀ a : A, isFinite a = true) {acc acc' : GateFindings F64}
    (h : gateMetricOf report policy acc entry = .ok acc') (exact : GateFindings A) :
    ∃ exact', gateMetricOf report policy exact entry = .ok exact' := by
  obtain ⟨metricId, spec⟩ := entry
  unfold gateMetricOf at h ⊢
  cases hestimate : report.estimates[metricId]? with
  | none =>
    simp only [hestimate] at h
    cases h
  | some e =>
    simp only [hestimate, okOr, ok_bind] at h ⊢
    by_cases hgroups : e.independentGroups < policy.minimumIndependentGroups
    · rw [if_pos hgroups]
      exact ⟨_, rfl⟩
    · rw [if_neg hgroups] at h ⊢
      cases hradius : e.pairedEffectObservedRadius with
      | none => exact ⟨_, rfl⟩
      | some radius =>
        rw [hradius] at h
        simp only [bind_ok] at h
        obtain ⟨_, -, required, hrequired, -⟩ := h
        cases hpolicy : policy.minimumImprovement[metricId]? with
        | none =>
          rw [hpolicy] at hrequired
          cases hrequired
        | some required =>
          simp only [hexact, failIf, Bool.true_eq_false, if_false, ok_bind]
          split
          · exact ⟨_, rfl⟩
          · split
            · exact ⟨_, rfl⟩
            · exact ⟨_, rfl⟩

lemma foldlM_gateMetricOf_ok_of_gate (hexact : ∀ a : A, isFinite a = true)
    {acc acc' : GateFindings F64} (h : entries.foldlM (gateMetricOf report policy) acc = .ok acc')
    (exact : GateFindings A) :
    ∃ exact', entries.foldlM (gateMetricOf report policy) exact = .ok exact' := by
  induction entries generalizing acc exact with
  | nil => exact ⟨exact, rfl⟩
  | cons entry entries ih =>
    rw [foldlM_cons, bind_ok] at h
    obtain ⟨middle, hstep, hrest⟩ := h
    obtain ⟨next, hnext⟩ := gateMetricOf_ok_of_gate hexact hstep exact
    obtain ⟨exact', hexact'⟩ := ih hrest next
    refine ⟨exact', ?_⟩
    rw [foldlM_cons, hnext]
    exact hexact'

lemma gateFindings_ok_of_decideCandidate [Platform] (hexact : ∀ a : A, isFinite a = true)
    {specs : List MetricSpec} {decision : CandidateGateDecision}
    (h : decideCandidate specs report policy = .ok decision) :
    ∃ acc, gateFindings A specs report policy = .ok acc := by
  have hdouble := decideCandidate_eq specs report policy
  rw [h] at hdouble
  cases hgate : gateFindings F64 specs report policy with
  | error e =>
    rw [hgate] at hdouble
    cases hdouble
  | ok acc =>
    unfold gateFindings at hgate ⊢
    simp only [bind_ok] at hgate
    obtain ⟨_, hreport, catalog, hcatalog, _, hbinding, hrun⟩ := hgate
    obtain ⟨exact, hexact'⟩ := foldlM_gateMetricOf_ok_of_gate (A := A) hexact hrun
      ⟨∅, ∅, ∅, ∅, u64Width - 1⟩
    refine ⟨exact, ?_⟩
    simp only [bind_ok]
    exact ⟨_, hreport, catalog, hcatalog, _, hbinding, hexact'⟩

end

/-! ## Intervals of exact values -/

def HardInvariant.Holds : HardInvariant → ℚ → Prop
  | .atLeast threshold, value => threshold.get.exact ≤ value
  | .atMost threshold, value => value ≤ threshold.get.exact
  | .within minimum maximum, value => minimum.get.exact ≤ value ∧ value ≤ maximum.get.exact

def multipliedInterval (policy : CandidateGatePolicy) (center radius : FiniteF64) : Set ℚ :=
  Set.Icc (center.get.exact - policy.uncertaintyMultiplier.get.exact * radius.get.exact)
    (center.get.exact + policy.uncertaintyMultiplier.get.exact * radius.get.exact)

/-- The metric has its groups and both radii that it needs, every effect of its interval is
    large enough, and every value of the candidate keeps the hard invariant. -/
def MetricAdvances (report : PairedEvaluationReport) (policy : CandidateGatePolicy)
    (metricId : MetricId) (spec : MetricSpec) : Prop :=
  ∃ e radius required, report.estimates[metricId]? = some e ∧
    policy.minimumIndependentGroups ≤ e.independentGroups ∧
    e.pairedEffectObservedRadius = some radius ∧
    policy.minimumImprovement[metricId]? = some required ∧
    (∀ effect ∈ multipliedInterval policy e.pairedEffect radius,
      required.get.exact ≤ spec.direction.orientOf effect) ∧
    ∀ invariant, spec.hardInvariant = some invariant →
      ∃ radius, e.candidateObservedRadius = some radius ∧
        ∀ value ∈ multipliedInterval policy e.candidateCenter radius, invariant.Holds value

/-- Every value of the candidate breaks the hard invariant, or the metric has its groups and
    every effect of its interval is too small. -/
def MetricRejects (report : PairedEvaluationReport) (policy : CandidateGatePolicy)
    (metricId : MetricId) (spec : MetricSpec) : Prop :=
  ∃ e, report.estimates[metricId]? = some e ∧
    ((∃ invariant radius, spec.hardInvariant = some invariant ∧
        e.candidateObservedRadius = some radius ∧
        ∀ value ∈ multipliedInterval policy e.candidateCenter radius, ¬invariant.Holds value) ∨
      policy.minimumIndependentGroups ≤ e.independentGroups ∧
      ∃ radius required, e.pairedEffectObservedRadius = some radius ∧
        policy.minimumImprovement[metricId]? = some required ∧
        ∀ effect ∈ multipliedInterval policy e.pairedEffect radius,
          spec.direction.orientOf effect < required.get.exact)

def RadiiNonnegative (report : PairedEvaluationReport) : Prop :=
  ∀ (metricId : MetricId) (e : PairedMetricEstimate), report.estimates[metricId]? = some e →
    (∀ r, e.candidateObservedRadius = some r → 0 ≤ r.get.exact) ∧
    ∀ r, e.pairedEffectObservedRadius = some r → 0 ≤ r.get.exact

/-! ### §4.1. Improvements. -/

section

variable (d : MetricDirection) {center radius required : ℚ} (hradius : 0 ≤ radius)
include hradius

lemma forall_orient_ge : (∀ x ∈ Icc (center - radius) (center + radius), required ≤ d.orientOf x) ↔
    required ≤ d.orientOf center - radius := by
  have hends : center - radius ≤ center + radius := by linarith
  cases d with
  | maximize => exact (le_isGLB_iff (isGLB_Icc hends)).symm
  | minimize =>
    have hneg : ∀ x : ℚ, required ≤ -x ↔ x ≤ -required := fun x => le_neg
    show (∀ x ∈ Icc (center - radius) (center + radius), required ≤ -x) ↔
      required ≤ -center - radius
    simp only [hneg, ← mem_upperBounds, ← isLUB_le_iff (isLUB_Icc hends)]
    constructor
    · intro h
      linarith
    · intro h
      linarith

lemma forall_orient_lt_iff :
    (∀ x ∈ Icc (center - radius) (center + radius), d.orientOf x < required) ↔
      d.orientOf center + radius < required := by
  have hends : center - radius ≤ center + radius := by linarith
  cases d with
  | maximize => exact ((isGreatest_Icc hends).lt_iff).symm
  | minimize =>
    have hneg : ∀ x : ℚ, -x < required ↔ -required < x := fun x => neg_lt
    show (∀ x ∈ Icc (center - radius) (center + radius), -x < required) ↔
      -center + radius < required
    simp only [hneg, ← (isLeast_Icc hends).lt_iff]
    constructor
    · intro h
      linarith
    · intro h
      linarith

end

/-! ### §4.2. Hard invariants. -/

/-- A specification of a catalog has a hard invariant that some value keeps. -/
def HardInvariant.Wf : HardInvariant → Prop
  | .within minimum maximum => minimum.get.exact ≤ maximum.get.exact
  | _ => True

lemma HardInvariant.wf_of_validate {i : HardInvariant} (h : i.validate = .ok ()) : i.Wf := by
  cases i with
  | atLeast threshold => trivial
  | atMost threshold => trivial
  | within minimum maximum =>
    show minimum.get.exact ≤ maximum.get.exact
    unfold HardInvariant.validate at h
    rw [failIf_ok, lt?_iff maximum.finite minimum.finite, not_lt] at h
    exact h

lemma wf_of_canonicalSpecs {specs : List MetricSpec} {catalog : MetricCatalog}
    (h : canonicalSpecs specs = .ok catalog) :
    ∀ (metricId : MetricId) (spec : MetricSpec), catalog[metricId]? = some spec →
      ∀ invariant, spec.hardInvariant = some invariant → invariant.Wf := by
  unfold canonicalSpecs at h
  simp only [bind_ok] at h
  obtain ⟨_, -, hfold⟩ := h
  apply foldlM_ok_induction (fun kept : MetricCatalog =>
    ∀ (metricId : MetricId) (spec : MetricSpec), kept[metricId]? = some spec →
      ∀ invariant, spec.hardInvariant = some invariant → invariant.Wf) _ _ hfold
  · intro metricId spec hnone
    simp at hnone
  · intro c added c' _ hkept hstep metricId spec hspec invariant hinvariant
    unfold insertSpec at hstep
    simp only [bind_ok, pure_ok] at hstep
    obtain ⟨_, hvalid, _, -, hinsert⟩ := hstep
    subst hinsert
    rw [Std.ExtTreeMap.getElem?_insert] at hspec
    split at hspec
    · -- the specification that was added
      cases hspec
      rw [hinvariant] at hvalid
      exact HardInvariant.wf_of_validate hvalid
    · exact hkept metricId spec hspec invariant hinvariant

lemma classify_iff {holds : ℚ → Prop} {lower upper : ℚ} {outside inside : Prop}
    [Decidable outside] [Decidable inside] (hinterval : lower ≤ upper)
    (hall : (∀ v ∈ Icc lower upper, holds v) ↔ inside)
    (hnone : (∀ v ∈ Icc lower upper, ¬holds v) ↔ outside) :
    ((if outside then InvariantIntervalStatus.provenViolation
      else if inside then .established else .notEstablished) = .established ↔
        ∀ v ∈ Icc lower upper, holds v) ∧
    ((if outside then InvariantIntervalStatus.provenViolation
      else if inside then .established else .notEstablished) = .provenViolation ↔
        ∀ v ∈ Icc lower upper, ¬holds v) := by
  have hapart : outside → ¬inside := by
    intro hout hin
    exact hnone.mpr hout lower ⟨le_refl _, hinterval⟩ (hall.mpr hin lower ⟨le_refl _, hinterval⟩)
  rw [hall, hnone]
  by_cases hout : outside
  · simp [hout, hapart hout]
  · by_cases hin : inside
    · simp [hout, hin]
    · simp [hout, hin]

/-- What an interval says about an invariant, over exact numbers. -/
lemma classifyIntervalOf_iff {i : HardInvariant} (hi : i.Wf) {lower upper : ℚ}
    (hinterval : lower ≤ upper) :
    (i.classifyIntervalOf lower upper = .established ↔ ∀ v ∈ Icc lower upper, i.Holds v) ∧
    (i.classifyIntervalOf lower upper = .provenViolation ↔ ∀ v ∈ Icc lower upper, ¬i.Holds v) := by
  cases i with
  | atLeast threshold =>
    have hall : (∀ v ∈ Icc lower upper, threshold.get.exact ≤ v) ↔
        threshold.get.exact ≤ lower :=
      (le_isGLB_iff (isGLB_Icc hinterval)).symm
    have hnone : (∀ v ∈ Icc lower upper, ¬threshold.get.exact ≤ v) ↔
        upper < threshold.get.exact := by
      simp only [not_le, (isGreatest_Icc hinterval).lt_iff, mem_Icc]
    have hclass := classify_iff hinterval hall hnone
    simpa [HardInvariant.classifyIntervalOf, Numbers.lt?, Numbers.le?, Numbers.read,
      HardInvariant.Holds] using hclass
  | atMost threshold =>
    have hall : (∀ v ∈ Icc lower upper, v ≤ threshold.get.exact) ↔
        upper ≤ threshold.get.exact :=
      (isLUB_le_iff (isLUB_Icc hinterval)).symm
    have hnone : (∀ v ∈ Icc lower upper, ¬v ≤ threshold.get.exact) ↔
        threshold.get.exact < lower := by
      simp only [not_le, (isLeast_Icc hinterval).lt_iff, mem_Icc]
    have hclass := classify_iff hinterval hall hnone
    simpa [HardInvariant.classifyIntervalOf, Numbers.lt?, Numbers.le?, Numbers.read,
      HardInvariant.Holds] using hclass
  | within minimum maximum =>
    have hwf : minimum.get.exact ≤ maximum.get.exact := hi
    have hsplit : (HardInvariant.within minimum maximum).classifyIntervalOf lower upper =
        if upper < minimum.get.exact ∨ maximum.get.exact < lower then .provenViolation
        else if minimum.get.exact ≤ lower ∧ upper ≤ maximum.get.exact then .established
        else .notEstablished := by
      simp [HardInvariant.classifyIntervalOf, Numbers.lt?, Numbers.le?, Numbers.read, ite_or]
    rw [hsplit]
    apply classify_iff hinterval
    · show (∀ v ∈ Icc lower upper, v ∈ Icc minimum.get.exact maximum.get.exact) ↔ _
      exact Icc_subset_Icc_iff hinterval
    · constructor
      · intro h
        by_contra hnot
        rw [not_or, not_lt, not_lt] at hnot
        -- the larger of the two lower ends is in both intervals
        apply h (max lower minimum.get.exact)
        · exact ⟨le_max_left _ _, max_le hinterval hnot.1⟩
        · exact ⟨le_max_right _ _, max_le hnot.2 hwf⟩
      · intro h v hv hboth
        obtain habove | hbelow := h
        · exact absurd (hboth.1.trans hv.2) (not_le.mpr habove)
        · exact absurd (hv.1.trans hboth.2) (not_le.mpr hbelow)

/-! ## The dispositions are statements about intervals -/

variable {policy : CandidateGatePolicy}

lemma CandidateGatePolicy.multiplier_nonneg [Platform] {specs : List MetricSpec} {groups : Nat}
    {multiplier : F64} {improvement : BTreeMap MetricId FiniteF64}
    (h : CandidateGatePolicy.new specs groups multiplier improvement = .ok policy) :
    0 ≤ policy.uncertaintyMultiplier.get.exact := by
  unfold CandidateGatePolicy.new at h
  simp only [bind_ok, failIf_ok, pure_ok, not_or, not_not] at h
  obtain ⟨catalog, -, kept, -, _, ⟨-, hbounds, -⟩, hpolicy⟩ := h
  subst hpolicy
  show 0 ≤ kept.get.exact
  rw [← exact_zero]
  exact (le?_iff (by decide) kept.finite).mp hbounds.1

section

variable {report : PairedEvaluationReport} {policy : CandidateGatePolicy} {metricId : MetricId}
  {spec : MetricSpec}

section

variable (hmultiplier : 0 ≤ policy.uncertaintyMultiplier.get.exact)
  (hradii : RadiiNonnegative report)
  (hwf : ∀ invariant, spec.hardInvariant = some invariant → invariant.Wf)
include hmultiplier hradii hwf

lemma hardInvariantStatusOf_iff {e : PairedMetricEstimate} {invariant : HardInvariant}
    (he : report.estimates[metricId]? = some e) (hinvariant : spec.hardInvariant = some invariant) :
    (hardInvariantStatusOf policy.uncertaintyMultiplier.get.exact spec e =
        some (some .established) ↔ ∃ r, e.candidateObservedRadius = some r ∧
          ∀ value ∈ multipliedInterval policy e.candidateCenter r, invariant.Holds value) ∧
    (hardInvariantStatusOf policy.uncertaintyMultiplier.get.exact spec e =
        some (some .provenViolation) ↔ ∃ r, e.candidateObservedRadius = some r ∧
          ∀ value ∈ multipliedInterval policy e.candidateCenter r, ¬invariant.Holds value) := by
  unfold hardInvariantStatusOf
  rw [hinvariant]
  cases hradius : e.candidateObservedRadius with
  | none => simp
  | some r =>
    have hproduct := mul_nonneg hmultiplier ((hradii metricId e he).1 r hradius)
    simp only [map_some, some_inj, exists_eq_left']
    exact classifyIntervalOf_iff (hwf invariant hinvariant)
      ((sub_le_self _ hproduct).trans (le_add_of_nonneg_right hproduct))

lemma metricEstablished_iff : MetricEstablished ℚ report policy (metricId, spec) ↔
      MetricAdvances report policy metricId spec := by
  unfold MetricEstablished MetricAdvances
  apply exists_congr
  intro e
  apply exists_congr
  intro radius
  apply exists_congr
  intro required
  apply and_congr_right
  intro he
  apply and_congr_right
  intro _
  apply and_congr_right
  intro hradius
  apply and_congr_right
  intro _
  have hproduct := mul_nonneg hmultiplier ((hradii metricId e he).2 radius hradius)
  apply and_congr
  · show decide (required.get.exact ≤ spec.direction.orientOf e.pairedEffect.get.exact -
      policy.uncertaintyMultiplier.get.exact * radius.get.exact) = true ↔ _
    rw [decide_eq_true_iff]
    exact (forall_orient_ge spec.direction hproduct).symm
  · apply forall_congr'
    intro invariant
    apply imp_congr_right
    intro hinvariant
    exact (hardInvariantStatusOf_iff hmultiplier hradii hwf he hinvariant).1

/-- A metric is violated or too small exactly when it rejects. -/
lemma metricRejects_iff :
    HardViolated ℚ report policy (metricId, spec) ∨ EffectBelow ℚ report policy (metricId, spec) ↔
      MetricRejects report policy metricId spec := by
  cases he : report.estimates[metricId]? with
  | none => simp [HardViolated, EffectBelow, MetricRejects, he]
  | some e =>
    rw [hardViolated_iff he, effectBelow_iff he]
    simp only [MetricRejects, he, some_inj, exists_eq_left']
    apply or_congr
    · cases hinvariant : spec.hardInvariant with
      | none => simp [hardInvariantStatusOf, hinvariant]
      | some invariant =>
        simp only [some_inj, exists_and_left, exists_eq_left']
        exact (hardInvariantStatusOf_iff hmultiplier hradii hwf he hinvariant).2
    · constructor
      · intro hbelow
        obtain ⟨radius, required, hgroups, hradius, hrequired, -, hlt⟩ := hbelow
        have hproduct := mul_nonneg hmultiplier ((hradii metricId e he).2 radius hradius)
        exact ⟨hgroups, radius, required, hradius, hrequired,
          (forall_orient_lt_iff spec.direction hproduct).mpr (of_decide_eq_true hlt)⟩
      · intro heffects
        obtain ⟨hgroups, radius, required, hradius, hrequired, hall⟩ := heffects
        have hproduct := mul_nonneg hmultiplier ((hradii metricId e he).2 radius hradius)
        have hlt := (forall_orient_lt_iff spec.direction hproduct).mp hall
        refine ⟨radius, required, hgroups, hradius, hrequired, ?_, decide_eq_true hlt⟩
        -- the smallest improvement is too small as well
        apply decide_eq_false
        show ¬required.get.exact ≤ spec.direction.orientOf e.pairedEffect.get.exact -
          policy.uncertaintyMultiplier.get.exact * radius.get.exact
        linarith

end

end

def exactDisposition [Platform] (specs : List MetricSpec) (report : PairedEvaluationReport)
    (policy : CandidateGatePolicy) : BrainResult CandidateGateDisposition :=
  (gateFindings ℚ specs report policy).map GateFindings.disposition

/-- Each disposition as a statement about intervals. -/
lemma disposition_iff [Platform] {specs : List MetricSpec} {report : PairedEvaluationReport}
    {catalog : MetricCatalog} {disposition : CandidateGateDisposition}
    (hmultiplier : 0 ≤ policy.uncertaintyMultiplier.get.exact) (hradii : RadiiNonnegative report)
    (hcatalog : canonicalSpecs specs = .ok catalog)
    (h : exactDisposition specs report policy = .ok disposition) :
    (disposition = .advanceCandidate ↔ ∀ metricId spec, catalog[metricId]? = some spec →
      MetricAdvances report policy metricId spec) ∧
    (disposition = .reject ↔ ∃ metricId spec, catalog[metricId]? = some spec ∧
      MetricRejects report policy metricId spec) := by
  have hwf := wf_of_canonicalSpecs hcatalog
  unfold exactDisposition at h
  cases hfindings : gateFindings ℚ specs report policy with
  | error e =>
    rw [hfindings] at h
    cases h
  | ok acc =>
    rw [hfindings] at h
    cases h
    obtain ⟨hadvance, hreject⟩ := gateFindings_disposition hcatalog hfindings
    simp only [Prod.forall, Prod.exists, mem_toList_iff_getElem?_eq_some] at hadvance hreject
    rw [hadvance, hreject]
    constructor
    · apply forall₃_congr
      intro metricId spec hspec
      exact metricEstablished_iff hmultiplier hradii (hwf metricId spec hspec)
    · apply exists₂_congr
      intro metricId spec
      apply and_congr_right
      intro hspec
      exact metricRejects_iff hmultiplier hradii (hwf metricId spec hspec)

/-! ## More uncertainty -/

def RadiusWider : Option FiniteF64 → Option FiniteF64 → Prop
  | none, none => True
  | some r, some wider => r.get.exact ≤ wider.get.exact
  | _, _ => False

/-- The same report and policy, with larger radii and a larger multiplier. -/
structure Widened (report wider : PairedEvaluationReport)
    (policy widerPolicy : CandidateGatePolicy) : Prop where
  multiplier : policy.uncertaintyMultiplier.get.exact ≤ widerPolicy.uncertaintyMultiplier.get.exact
  groups : widerPolicy.minimumIndependentGroups = policy.minimumIndependentGroups
  improvement : widerPolicy.minimumImprovement = policy.minimumImprovement
  estimates : ∀ (metricId : MetricId) (e' : PairedMetricEstimate),
    wider.estimates[metricId]? = some e' →
    ∃ e, report.estimates[metricId]? = some e ∧
      e'.independentGroups = e.independentGroups ∧
      e'.candidateCenter = e.candidateCenter ∧ e'.pairedEffect = e.pairedEffect ∧
      RadiusWider e.candidateObservedRadius e'.candidateObservedRadius ∧
      RadiusWider e.pairedEffectObservedRadius e'.pairedEffectObservedRadius

section

variable {report wider : PairedEvaluationReport} {policy widerPolicy : CandidateGatePolicy}

lemma radiusWider_some {o : Option FiniteF64} {r' : FiniteF64} (h : RadiusWider o (some r')) :
    ∃ r, o = some r ∧ r.get.exact ≤ r'.get.exact := by
  cases o with
  | none => cases h
  | some r => exact ⟨r, rfl, h⟩

section

variable (hwide : Widened report wider policy widerPolicy)
  (hmultiplier : 0 ≤ policy.uncertaintyMultiplier.get.exact)
include hwide hmultiplier

lemma multipliedInterval_subset {center r r' : FiniteF64} (hr : 0 ≤ r.get.exact)
    (hle : r.get.exact ≤ r'.get.exact) :
    multipliedInterval policy center r ⊆ multipliedInterval widerPolicy center r' := by
  have hproduct := mul_le_mul hwide.multiplier hle hr (hmultiplier.trans hwide.multiplier)
  apply Icc_subset_Icc
  · linarith
  · linarith

lemma metricAdvances_of_widened (hradii : RadiiNonnegative report) {metricId : MetricId}
    {spec : MetricSpec} (h : MetricAdvances wider widerPolicy metricId spec) :
    MetricAdvances report policy metricId spec := by
  obtain ⟨e', radius', required, he', hgroups, hradius', hrequired, heffects, hvalues⟩ := h
  obtain ⟨e, he, hsame, hcenter, heffect, hcandidate, hpaired⟩ := hwide.estimates metricId e' he'
  rw [hradius'] at hpaired
  obtain ⟨radius, hradius, hle⟩ := radiusWider_some hpaired
  rw [hwide.groups, hsame] at hgroups
  rw [hwide.improvement] at hrequired
  refine ⟨e, radius, required, he, hgroups, hradius, hrequired, ?_, ?_⟩
  · intro effect hmem
    apply heffects
    rw [heffect]
    exact multipliedInterval_subset hwide hmultiplier ((hradii metricId e he).2 radius hradius)
      hle hmem
  · intro invariant hinvariant
    obtain ⟨r', hr', hall⟩ := hvalues invariant hinvariant
    rw [hr'] at hcandidate
    obtain ⟨r, hr, hle'⟩ := radiusWider_some hcandidate
    refine ⟨r, hr, ?_⟩
    intro value hmem
    apply hall
    rw [hcenter]
    exact multipliedInterval_subset hwide hmultiplier ((hradii metricId e he).1 r hr) hle' hmem

lemma metricRejects_of_widened (hradii : RadiiNonnegative report) {metricId : MetricId}
    {spec : MetricSpec} (h : MetricRejects wider widerPolicy metricId spec) :
    MetricRejects report policy metricId spec := by
  obtain ⟨e', he', hbad⟩ := h
  obtain ⟨e, he, hsame, hcenter, heffect, hcandidate, hpaired⟩ := hwide.estimates metricId e' he'
  refine ⟨e, he, ?_⟩
  obtain hvalues | heffects := hbad
  · obtain ⟨invariant, r', hinvariant, hr', hnone⟩ := hvalues
    rw [hr'] at hcandidate
    obtain ⟨r, hr, hle⟩ := radiusWider_some hcandidate
    refine .inl ⟨invariant, r, hinvariant, hr, ?_⟩
    intro value hmem
    apply hnone
    rw [hcenter]
    exact multipliedInterval_subset hwide hmultiplier ((hradii metricId e he).1 r hr) hle hmem
  · obtain ⟨hgroups, radius', required, hradius', hrequired, hall⟩ := heffects
    rw [hradius'] at hpaired
    obtain ⟨radius, hradius, hle⟩ := radiusWider_some hpaired
    rw [hwide.groups, hsame] at hgroups
    rw [hwide.improvement] at hrequired
    refine .inr ⟨hgroups, radius, required, hradius, hrequired, ?_⟩
    intro effect hmem
    apply hall
    rw [heffect]
    exact multipliedInterval_subset hwide hmultiplier ((hradii metricId e he).2 radius hradius)
      hle hmem

end

end

/-- **The gate is the interval semantics.** -/
theorem gate_is_interval_semantics [Platform] {specs policySpecs : List MetricSpec}
    {report : PairedEvaluationReport} {groups : Nat} {multiplier : F64}
    {improvement : BTreeMap MetricId FiniteF64} {policy : CandidateGatePolicy}
    {decision : CandidateGateDecision}
    (hpolicy : CandidateGatePolicy.new policySpecs groups multiplier improvement = .ok policy)
    (hradii : RadiiNonnegative report)
    (haccept : decideCandidate specs report policy = .ok decision) :
    ∃ catalog disposition, canonicalSpecs specs = .ok catalog ∧
      exactDisposition specs report policy = .ok disposition ∧
      (disposition = .advanceCandidate ↔ ∀ metricId spec, catalog[metricId]? = some spec →
        MetricAdvances report policy metricId spec) ∧
      (disposition = .reject ↔ ∃ metricId spec, catalog[metricId]? = some spec ∧
        MetricRejects report policy metricId spec) ∧ (disposition = .boundedUnknown ↔
        (¬∀ metricId spec, catalog[metricId]? = some spec →
          MetricAdvances report policy metricId spec) ∧
        ¬∃ metricId spec, catalog[metricId]? = some spec ∧
          MetricRejects report policy metricId spec) ∧
      ∀ (wider : PairedEvaluationReport) (widerPolicy : CandidateGatePolicy)
        (widerDisposition : CandidateGateDisposition), Widened report wider policy widerPolicy →
        exactDisposition specs wider widerPolicy = .ok widerDisposition →
        (widerDisposition = .advanceCandidate → disposition = .advanceCandidate) ∧
        (widerDisposition = .reject → disposition = .reject) := by
  have hmultiplier := CandidateGatePolicy.multiplier_nonneg hpolicy
  obtain ⟨acc, hacc⟩ := gateFindings_ok_of_decideCandidate (A := ℚ) (fun _ => rfl) haccept
  have hexact : exactDisposition specs report policy = .ok acc.disposition := by
    unfold exactDisposition
    rw [hacc]
    rfl
  cases hcatalog : canonicalSpecs specs with
  | error e =>
    unfold gateFindings at hacc
    rw [hcatalog] at hacc
    simp only [bind_ok] at hacc
    obtain ⟨_, -, _, hnone, -⟩ := hacc
    cases hnone
  | ok catalog =>
    obtain ⟨hadvance, hreject⟩ := disposition_iff hmultiplier hradii hcatalog hexact
    refine ⟨catalog, acc.disposition, rfl, hexact, hadvance, hreject, ?_, ?_⟩
    · rw [← hadvance, ← hreject]
      cases acc.disposition <;> simp
    · intro wider widerPolicy widerDisposition hwide hwider
      have hwiderMultiplier : 0 ≤ widerPolicy.uncertaintyMultiplier.get.exact :=
        hmultiplier.trans hwide.multiplier
      have hwiderRadii : RadiiNonnegative wider := by
        intro metricId e' he'
        obtain ⟨e, he, -, -, -, hcandidate, hpaired⟩ := hwide.estimates metricId e' he'
        constructor
        · intro r' hr'
          rw [hr'] at hcandidate
          obtain ⟨r, hr, hle⟩ := radiusWider_some hcandidate
          exact ((hradii metricId e he).1 r hr).trans hle
        · intro r' hr'
          rw [hr'] at hpaired
          obtain ⟨r, hr, hle⟩ := radiusWider_some hpaired
          exact ((hradii metricId e he).2 r hr).trans hle
      obtain ⟨hadvance', hreject'⟩ := disposition_iff hwiderMultiplier hwiderRadii hcatalog hwider
      constructor
      · intro h
        apply hadvance.mpr
        intro metricId spec hspec
        exact metricAdvances_of_widened hwide hmultiplier hradii
          (hadvance'.mp h metricId spec hspec)
      · intro h
        obtain ⟨metricId, spec, hspec, hbad⟩ := hreject'.mp h
        exact hreject.mpr
          ⟨metricId, spec, hspec, metricRejects_of_widened hwide hmultiplier hradii hbad⟩

namespace Sample

attribute [local instance] Platform.reference

noncomputable def builtGatePolicy : CandidateGatePolicy :=
  { gatePolicy with
    policyDigest := .fromProjection _ gatePolicyDomain
      (.obj [("metric_catalog_digest", toJson (metricCatalogDigest catalog)),
        ("minimum_independent_groups", toJson 2), ("uncertainty_multiplier", toJson finiteOne),
        ("minimum_improvement", toJson regression)]) }

lemma builtGatePolicy_new :
    CandidateGatePolicy.new specs 2 (ofNat 1) regression = .ok builtGatePolicy := by
  simp only [CandidateGatePolicy.new, bind_ok, failIf_ok, pure_ok, new_ok]
  exact ⟨catalog, catalog_eq, finiteOne, rfl, (), by decide +kernel, rfl⟩

lemma gateReport_radii : RadiiNonnegative gateReport := by
  have hzero : finiteZero.get.exact = 0 := exact_zero
  intro metricId e he
  have hestimates : gateReport.estimates =
      (∅ : BTreeMap MetricId PairedMetricEstimate).insert quality estimate := rfl
  rw [hestimates, Std.ExtTreeMap.getElem?_insert] at he
  split at he
  · cases he
    constructor
    · intro r hr
      cases hr
      rw [hzero]
    · intro r hr
      cases hr
      rw [hzero]
  · simp at he

lemma gateReport_decided :
    ∃ decision, decideCandidate specs gateReport builtGatePolicy = .ok decision := by
  obtain ⟨acc, hscan, -⟩ := returns_iff.mp reports_scanned.2.1
  have hbound : builtGatePolicy.minimumImprovement.size = catalog.size ∧
      ¬builtGatePolicy.minimumImprovement.keys.any (· ∉ catalog) = true ∧
      gateReport.estimates.size = catalog.size ∧
      ¬gateReport.estimates.keys.any (· ∉ catalog) = true := by decide +kernel
  have hdecided : ∃ d, decideCandidate specs gateReport builtGatePolicy = .ok d ∧ _ :=
    decideCandidate_ok (sealedReport_authentic secondEvidence ⟨13, 14, by decide⟩) catalog_eq
      (by
        simp only [not_or, not_not, ne_eq]
        exact ⟨rfl, rfl, Nat.lt_irrefl 2, hbound⟩) hscan
  obtain ⟨decision, hdecision, -⟩ := hdecided
  exact ⟨decision, hdecision⟩

/-- An improvement by one, with nothing to lose, over its exact values. -/
theorem gateReport_intervals : ∃ disposition,
    exactDisposition specs gateReport builtGatePolicy = .ok disposition ∧
      (disposition = .advanceCandidate ↔ ∀ metricId spec, catalog[metricId]? = some spec →
        MetricAdvances gateReport builtGatePolicy metricId spec) := by
  obtain ⟨decision, hdecision⟩ := gateReport_decided
  obtain ⟨c, disposition, hc, hexact, hadvance, -⟩ :=
    gate_is_interval_semantics builtGatePolicy_new gateReport_radii hdecision
  rw [catalog_eq] at hc
  cases hc
  exact ⟨disposition, hexact, hadvance⟩

end Sample

end Tidex.Governance
