/-
  Materialization.Selection — the ranking of materialization backends.
-/
import Tidex.Foundation.Authority
import Tidex.Lib.Ascending
import Mathlib.Data.Finset.Card
import Mathlib.Tactic.Linarith

namespace Tidex.Materialization

open Tidex.Lib List Sha256Digest

/-! ## Evaluations and policies -/

inductive MaterializationStrategy where
  | receiverCoordinates
  | lowRank
  | denseDelta
  | sparseDelta
  | activationSteering
  | routing
  | externalMemory
  | newModule
  | hybrid
  deriving DecidableEq

inductive ComparativeControl where
  | unmodifiedReceiver
  | denseDelta
  | conventionalLowRank
  | wrongCapabilityIr
  | randomDelta
  | meanCapability
  | nearestCapability
  | alternativeBackend
  | nonTargetPreservation
  | sparseDelta
  | activationSteering
  deriving DecidableEq

def minRequiredControls : Finset ComparativeControl :=
  {.unmodifiedReceiver, .wrongCapabilityIr, .randomDelta, .meanCapability, .nearestCapability,
    .alternativeBackend, .nonTargetPreservation}

def minimumControlsForStrategy : MaterializationStrategy → Finset ComparativeControl
  | .denseDelta => {.denseDelta}
  | .lowRank => {.conventionalLowRank}
  | .sparseDelta => {.sparseDelta}
  | .activationSteering => {.activationSteering}
  | _ => ∅

/-- What a candidate was measured to do, in exact numbers. -/
structure BackendEvaluation where
  schema : String
  candidateSha256 : Sha256Digest
  strategy : MaterializationStrategy
  functionalScore : ℚ
  functionalCiLower : ℚ
  preservationScore : ℚ
  identityMargin : ℚ
  numericalStability : ℚ
  normalizedRisk : ℚ
  latencyMicros : Nat
  residentBytes : Nat
  completedControls : Finset ComparativeControl

structure BackendSelectionPolicy where
  schema : String
  minimumFunctionalCiLower : ℚ
  minimumPreservationScore : ℚ
  minimumIdentityMargin : ℚ
  minimumNumericalStability : ℚ
  maximumNormalizedRisk : ℚ
  maximumLatencyMicros : Nat
  maximumResidentBytes : Nat
  functionalWeight : ℚ
  preservationWeight : ℚ
  stabilityWeight : ℚ
  riskWeight : ℚ
  latencyWeight : ℚ
  memoryWeight : ℚ
  requiredControls : Finset ComparativeControl
  allowHybrid : Bool
  minimumHybridComplementarity : ℚ

structure PairwiseComplementarity where
  firstCandidateSha256 : Sha256Digest
  secondCandidateSha256 : Sha256Digest
  heldOutGain : ℚ
  preservationDelta : ℚ

structure RankedBackend where
  candidateSha256 : Sha256Digest
  strategy : MaterializationStrategy
  utility : ℚ
  paretoOptimal : Bool

structure BackendSelectionReceipt where
  schema : String
  policySha256 : Sha256Digest
  evidenceSha256 : Sha256Digest
  ranked : List RankedBackend
  selectedStrategy : MaterializationStrategy
  selectedCandidates : List Sha256Digest
  manifestSha256 : Sha256Digest

/-- The digests over the serialized policy, evidence and unsigned receipt. -/
class SelectionDigests where
  policy : BackendSelectionPolicy → Sha256Digest
  evidence : List BackendEvaluation → List PairwiseComplementarity → Sha256Digest
  receipt : BackendSelectionReceipt → Sha256Digest

/-- A value between two bounds. -/
def Within (low high v : ℚ) : Prop := low ≤ v ∧ v ≤ high

instance (low high v : ℚ) : Decidable (Within low high v) := inferInstanceAs (Decidable (_ ∧ _))

namespace BackendSelectionPolicy

def weights (p : BackendSelectionPolicy) : List ℚ :=
  [p.functionalWeight, p.preservationWeight, p.stabilityWeight, p.riskWeight, p.latencyWeight,
    p.memoryWeight]

def validate (p : BackendSelectionPolicy) : BrainResult Unit :=
  failIf (p.schema ≠ "tidex.backend_selection_policy/v1"
      ∨ (∃ v ∈ [p.minimumFunctionalCiLower, p.minimumPreservationScore,
          p.minimumNumericalStability, p.maximumNormalizedRisk, p.minimumHybridComplementarity],
        ¬Within 0 1 v)
      ∨ ¬Within 0 1 p.minimumIdentityMargin
      ∨ p.maximumLatencyMicros = 0 ∨ p.maximumResidentBytes = 0
      ∨ (∃ v ∈ p.weights, v < 0) ∨ p.weights.sum ≤ 0
      ∨ ¬minRequiredControls ⊆ p.requiredControls)
    (invalid "backend_selection_policy_invalid")

end BackendSelectionPolicy

def validateEvaluation (e : BackendEvaluation) : BrainResult Unit :=
  failIf (e.schema ≠ "tidex.backend_evaluation/v1"
      ∨ e.candidateSha256 = zero
      ∨ e.functionalScore < e.functionalCiLower
      ∨ (∃ v ∈ [e.functionalScore, e.functionalCiLower, e.preservationScore,
          e.numericalStability, e.normalizedRisk], ¬Within 0 1 v)
      ∨ ¬Within 0 1 e.identityMargin
      ∨ e.latencyMicros = 0 ∨ e.residentBytes = 0
      ∨ e.completedControls = ∅ ∨ 64 < e.completedControls.card)
    (invalid "backend_evaluation_invalid")

def hasRequiredControls (policy : BackendSelectionPolicy) (e : BackendEvaluation) : Bool :=
  decide (policy.requiredControls ∪ minimumControlsForStrategy e.strategy ⊆ e.completedControls)

def dominates (a b : BackendEvaluation) : Bool :=
  let noWorse := b.functionalCiLower ≤ a.functionalCiLower
    ∧ b.preservationScore ≤ a.preservationScore ∧ b.numericalStability ≤ a.numericalStability
    ∧ a.normalizedRisk ≤ b.normalizedRisk ∧ a.latencyMicros ≤ b.latencyMicros
    ∧ a.residentBytes ≤ b.residentBytes
  let better := b.functionalCiLower < a.functionalCiLower
    ∨ b.preservationScore < a.preservationScore ∨ b.numericalStability < a.numericalStability
    ∨ a.normalizedRisk < b.normalizedRisk ∨ a.latencyMicros < b.latencyMicros
    ∨ a.residentBytes < b.residentBytes
  decide noWorse && decide better

/-! ## The selection -/

def checkEvaluation (ids : List Sha256Digest) (e : BackendEvaluation) :
    BrainResult (List Sha256Digest) := do
  validateEvaluation e
  failIf (e.candidateSha256 ∈ ids) (invalid "backend_evaluation_duplicate")
  return e.candidateSha256 :: ids

def digestLe (a b : Sha256Digest) : Bool := (compare a b).isLE

def strategyOf (evaluations : List BackendEvaluation) (id : Sha256Digest) :
    Option MaterializationStrategy :=
  (evaluations.find? fun e => e.candidateSha256 = id).map (·.strategy)

def PairwiseComplementarity.ordered (pair : PairwiseComplementarity) : PairwiseComplementarity :=
  if digestLe pair.firstCandidateSha256 pair.secondCandidateSha256 then pair
  else { pair with
    firstCandidateSha256 := pair.secondCandidateSha256
    secondCandidateSha256 := pair.firstCandidateSha256 }

def PairwiseComplementarity.ids (pair : PairwiseComplementarity) : Sha256Digest × Sha256Digest :=
  (pair.firstCandidateSha256, pair.secondCandidateSha256)

def checkPair (evaluations : List BackendEvaluation) (ids : List Sha256Digest)
    (done : List PairwiseComplementarity) (listed : PairwiseComplementarity) :
    BrainResult (List PairwiseComplementarity) := do
  let pair := listed.ordered
  failIf (pair.firstCandidateSha256 = pair.secondCandidateSha256
      ∨ pair.firstCandidateSha256 ∉ ids ∨ pair.secondCandidateSha256 ∉ ids
      ∨ strategyOf evaluations pair.firstCandidateSha256 =
          strategyOf evaluations pair.secondCandidateSha256
      ∨ pair.ids ∈ done.map (·.ids)
      ∨ ¬Within 0 1 pair.heldOutGain ∨ ¬Within (-1) 1 pair.preservationDelta)
    (invalid "backend_complementarity_invalid")
  return done ++ [pair]

/-- The order of two pairs by their candidates. -/
def pairLe (a b : PairwiseComplementarity) : Bool :=
  ((compare a.firstCandidateSha256 b.firstCandidateSha256).then
    (compare a.secondCandidateSha256 b.secondCandidateSha256)).isLE

/-- What an evaluation must meet to be ranked. -/
def Admits (policy : BackendSelectionPolicy) (e : BackendEvaluation) : Prop :=
  policy.minimumFunctionalCiLower ≤ e.functionalCiLower
    ∧ policy.minimumPreservationScore ≤ e.preservationScore
    ∧ policy.minimumIdentityMargin ≤ e.identityMargin
    ∧ policy.minimumNumericalStability ≤ e.numericalStability
    ∧ e.normalizedRisk ≤ policy.maximumNormalizedRisk
    ∧ e.latencyMicros ≤ policy.maximumLatencyMicros
    ∧ e.residentBytes ≤ policy.maximumResidentBytes
    ∧ hasRequiredControls policy e = true

instance (policy : BackendSelectionPolicy) (e : BackendEvaluation) :
    Decidable (Admits policy e) := inferInstanceAs (Decidable (_ ∧ _))

def utility (policy : BackendSelectionPolicy) (e : BackendEvaluation) : ℚ :=
  (policy.functionalWeight * e.functionalCiLower
      + policy.preservationWeight * e.preservationScore
      + policy.stabilityWeight * e.numericalStability
      + policy.riskWeight * (1 - e.normalizedRisk)
      + policy.latencyWeight * (1 - e.latencyMicros / policy.maximumLatencyMicros)
      + policy.memoryWeight * (1 - e.residentBytes / policy.maximumResidentBytes))
    / policy.weights.sum

def rankOf (policy : BackendSelectionPolicy) (admitted : List BackendEvaluation)
    (e : BackendEvaluation) : RankedBackend where
  candidateSha256 := e.candidateSha256
  strategy := e.strategy
  utility := utility policy e
  paretoOptimal := !admitted.any fun other =>
    decide (other.candidateSha256 ≠ e.candidateSha256) && dominates other e

/-- The greater utility first, and of equal ones the smaller digest. -/
def RankLe (a b : RankedBackend) : Prop :=
  b.utility < a.utility
    ∨ b.utility = a.utility ∧ digestLe a.candidateSha256 b.candidateSha256 = true

instance (a b : RankedBackend) : Decidable (RankLe a b) := inferInstanceAs (Decidable (_ ∨ _))

def u64Width : Nat := 2 ^ 64

/-- Two evaluations that can be used together. -/
def Combines (policy : BackendSelectionPolicy) (first second : BackendEvaluation) : Prop :=
  first.strategy ≠ second.strategy
    ∧ first.latencyMicros + second.latencyMicros < u64Width
    ∧ first.latencyMicros + second.latencyMicros ≤ policy.maximumLatencyMicros
    ∧ first.residentBytes + second.residentBytes < u64Width
    ∧ first.residentBytes + second.residentBytes ≤ policy.maximumResidentBytes

instance (policy : BackendSelectionPolicy) (first second : BackendEvaluation) :
    Decidable (Combines policy first second) := inferInstanceAs (Decidable (_ ∧ _))

/-- A pair that may be selected as a hybrid. -/
def Eligible (policy : BackendSelectionPolicy) (evaluations admitted : List BackendEvaluation)
    (pair : PairwiseComplementarity) : Prop :=
  Within 0 1 pair.heldOutGain ∧ Within (-1) 1 pair.preservationDelta
    ∧ policy.minimumHybridComplementarity ≤ pair.heldOutGain
    ∧ 0 ≤ pair.preservationDelta
    ∧ pair.firstCandidateSha256 ∈ admitted.map (·.candidateSha256)
    ∧ pair.secondCandidateSha256 ∈ admitted.map (·.candidateSha256)
    ∧ pair.firstCandidateSha256 ≠ pair.secondCandidateSha256
    ∧ ∃ first ∈ evaluations.find? fun e => e.candidateSha256 = pair.firstCandidateSha256,
        ∃ second ∈ evaluations.find? fun e => e.candidateSha256 = pair.secondCandidateSha256,
          Combines policy first second

instance (policy : BackendSelectionPolicy) (evaluations admitted : List BackendEvaluation)
    (pair : PairwiseComplementarity) : Decidable (Eligible policy evaluations admitted pair) :=
  inferInstanceAs (Decidable (_ ∧ _))

/-- Whether a later pair takes the place of an earlier one. -/
def Improves (a b : PairwiseComplementarity) : Prop :=
  a.heldOutGain < b.heldOutGain
    ∨ a.heldOutGain = b.heldOutGain ∧ (a.preservationDelta < b.preservationDelta
      ∨ a.preservationDelta = b.preservationDelta ∧ pairLe b a = true)

instance (a b : PairwiseComplementarity) : Decidable (Improves a b) :=
  inferInstanceAs (Decidable (_ ∨ _))

/-- The best of some pairs: of equal ones the last. -/
def maxPair : List PairwiseComplementarity → Option PairwiseComplementarity
  | [] => none
  | pair :: rest => some (rest.foldl (fun best pair => if Improves best pair then pair else best)
      pair)

/-- The hybrid of the best eligible pair, or else the first of the ranking. -/
def chosen (policy : BackendSelectionPolicy) (evaluations : List BackendEvaluation)
    (complementarity : List PairwiseComplementarity) (first : RankedBackend) :
    MaterializationStrategy × List Sha256Digest :=
  let admitted := evaluations.filter fun e => Admits policy e
  let bestPair := if policy.allowHybrid then
    maxPair (complementarity.filter fun pair => Eligible policy evaluations admitted pair) else none
  match bestPair with
  | some pair => (.hybrid, [pair.firstCandidateSha256, pair.secondCandidateSha256].insertionSort
      fun a b => digestLe a b = true)
  | none => (first.strategy, [first.candidateSha256])

def selectMaterializationBackend [SelectionDigests] (evaluations : List BackendEvaluation)
    (complementarity : List PairwiseComplementarity) (policy : BackendSelectionPolicy) :
    BrainResult BackendSelectionReceipt := do
  policy.validate
  failIf (evaluations.isEmpty ∨ 1024 < evaluations.length)
    (invalid "backend_evaluation_cardinality_invalid")
  let ids ← evaluations.foldlM checkEvaluation []
  failIf (4096 < complementarity.length) (invalid "backend_complementarity_limit")
  let evaluations := evaluations.insertionSort fun a b =>
    digestLe a.candidateSha256 b.candidateSha256 = true
  let complementarity ← complementarity.foldlM (checkPair evaluations ids) []
  let complementarity := complementarity.insertionSort fun a b => pairLe a b = true
  let admitted := evaluations.filter fun e => Admits policy e
  let ranked := (admitted.map (rankOf policy admitted)).insertionSort RankLe
  let first ← okOr ranked.head? (integrity "no_backend_passed_comparative_gates")
  let selected := chosen policy evaluations complementarity first
  let unsigned : BackendSelectionReceipt := {
    schema := "tidex.backend_selection_receipt/v1"
    policySha256 := SelectionDigests.policy policy
    evidenceSha256 := SelectionDigests.evidence evaluations complementarity
    ranked := ranked
    selectedStrategy := selected.1
    selectedCandidates := selected.2
    manifestSha256 := zero }
  return { unsigned with manifestSha256 := SelectionDigests.receipt unsigned }

/-! ## Utility and dominance -/

variable {policy : BackendSelectionPolicy} {a b : BackendEvaluation}
  {evaluations : List BackendEvaluation} {complementarity : List PairwiseComplementarity}
  {receipt : BackendSelectionReceipt}

/-- A backend that dominates has no less utility, and more where every weight counts. -/
lemma utility_le_of_dominates (hvalid : policy.validate = .ok ()) (h : dominates a b = true) :
    utility policy b ≤ utility policy a ∧
      ((∀ w ∈ policy.weights, 0 < w) → utility policy b < utility policy a) := by
  unfold BackendSelectionPolicy.validate at hvalid
  simp only [failIf_ok, not_or, not_exists, not_and, not_lt, not_le] at hvalid
  obtain ⟨-, -, -, hlatency, hresident, hnonneg, hsum, -⟩ := hvalid
  have hlatencyPos : (0 : ℚ) < policy.maximumLatencyMicros := by
    exact_mod_cast Nat.pos_of_ne_zero hlatency
  have hresidentPos : (0 : ℚ) < policy.maximumResidentBytes := by
    exact_mod_cast Nat.pos_of_ne_zero hresident
  unfold dominates at h
  simp only [Bool.and_eq_true, decide_eq_true_eq] at h
  obtain ⟨⟨h₁, h₂, h₃, h₄, h₅, h₆⟩, hbetter⟩ := h
  have hquotient : ∀ {m n : Nat} {max : ℚ}, 0 < max → m ≤ n → (m : ℚ) / max ≤ n / max :=
    fun hmax hle => div_le_div_of_nonneg_right (Nat.cast_le.mpr hle) hmax.le
  have hquotientLt : ∀ {m n : Nat} {max : ℚ}, 0 < max → m < n → (m : ℚ) / max < n / max :=
    fun hmax hlt => div_lt_div_of_pos_right (Nat.cast_lt.mpr hlt) hmax
  have g₅ := hquotient hlatencyPos h₅
  have g₆ := hquotient hresidentPos h₆
  simp only [BackendSelectionPolicy.weights, forall_mem_cons, not_mem_nil,
    IsEmpty.forall_iff, implies_true, and_true] at hnonneg ⊢
  obtain ⟨w₁, w₂, w₃, w₄, w₅, w₆⟩ := hnonneg
  have t₁ := mul_le_mul_of_nonneg_left h₁ w₁
  have t₂ := mul_le_mul_of_nonneg_left h₂ w₂
  have t₃ := mul_le_mul_of_nonneg_left h₃ w₃
  have t₄ := mul_le_mul_of_nonneg_left h₄ w₄
  have t₅ := mul_le_mul_of_nonneg_left g₅ w₅
  have t₆ := mul_le_mul_of_nonneg_left g₆ w₆
  unfold utility
  refine ⟨div_le_div_of_nonneg_right (by linarith) hsum.le, ?_⟩
  rintro ⟨p₁, p₂, p₃, p₄, p₅, p₆⟩
  refine div_lt_div_of_pos_right ?_ hsum
  rcases hbetter with hlt | hlt | hlt | hlt | hlt | hlt
  · linarith [mul_lt_mul_of_pos_left hlt p₁]
  · linarith [mul_lt_mul_of_pos_left hlt p₂]
  · linarith [mul_lt_mul_of_pos_left hlt p₃]
  · linarith [mul_lt_mul_of_pos_left hlt p₄]
  · linarith [mul_lt_mul_of_pos_left (hquotientLt hlatencyPos hlt) p₅]
  · linarith [mul_lt_mul_of_pos_left (hquotientLt hresidentPos hlt) p₆]

lemma rankLe_head {ranked : List RankedBackend} {first : RankedBackend}
    (h : (ranked.insertionSort RankLe).head? = some first) :
    first ∈ ranked ∧ ∀ other ∈ ranked, other = first ∨ RankLe first other := by
  have htotal : Std.Total RankLe := by
    constructor
    intro x y
    unfold RankLe
    rcases lt_trichotomy x.utility y.utility with hlt | heq | hgt
    · exact .inr (.inl hlt)
    · rcases Bool.or_eq_true_iff.mp (isLE_total x.candidateSha256 y.candidateSha256) with hle | hle
      · exact .inl (.inr ⟨heq.symm, hle⟩)
      · exact .inr (.inr ⟨heq, hle⟩)
    · exact .inl (.inl hgt)
  have htrans : IsTrans RankedBackend RankLe := by
    constructor
    intro x y z hxy hyz
    rcases hxy with hxy | ⟨hxy, hle⟩
    · rcases hyz with hyz | ⟨hyz, -⟩
      · exact .inl (hyz.trans hxy)
      · exact .inl (hyz ▸ hxy)
    · rcases hyz with hyz | ⟨hyz, hle'⟩
      · exact .inl (hxy ▸ hyz)
      · exact .inr ⟨hyz.trans hxy, Std.TransCmp.isLE_trans hle hle'⟩
  obtain ⟨rest, h⟩ := head?_eq_some_iff.mp h
  have hsorted := pairwise_insertionSort RankLe ranked
  rw [h, pairwise_cons] at hsorted
  have hmem : ∀ other, other ∈ ranked ↔ other = first ∨ other ∈ rest := by
    intro other
    rw [← mem_cons, ← h, mem_insertionSort]
  refine ⟨(hmem first).mpr (.inl rfl), ?_⟩
  intro other hother
  exact ((hmem other).mp hother).imp_right (hsorted.1 other)

lemma maxPair_spec {pairs : List PairwiseComplementarity} {best : PairwiseComplementarity}
    (h : maxPair pairs = some best) :
    best ∈ pairs ∧ ∀ pair ∈ pairs, pair.heldOutGain ≤ best.heldOutGain := by
  have hfold : ∀ (rest : List PairwiseComplementarity) (start : PairwiseComplementarity),
      let best := rest.foldl (fun best pair => if Improves best pair then pair else best) start
      best ∈ start :: rest ∧ ∀ pair ∈ start :: rest, pair.heldOutGain ≤ best.heldOutGain := by
    intro rest
    induction rest with
    | nil => intro start; simp
    | cons pair rest ih =>
      intro start
      obtain ⟨hmem, hmax⟩ := ih (if Improves start pair then pair else start)
      simp only [foldl_cons, forall_mem_cons] at hmem hmax ⊢
      obtain ⟨hstart, hrest⟩ := hmax
      by_cases himproves : Improves start pair
      · rw [if_pos himproves] at hmem hstart hrest ⊢
        have hle : start.heldOutGain ≤ pair.heldOutGain := by
          rcases himproves with hlt | ⟨heq, -⟩
          · exact hlt.le
          · exact heq.le
        exact ⟨mem_cons_of_mem _ hmem, hle.trans hstart, hstart, hrest⟩
      · rw [if_neg himproves] at hmem hstart hrest ⊢
        have hle : pair.heldOutGain ≤ start.heldOutGain := by
          by_contra hlt
          exact himproves (.inl (not_le.mp hlt))
        refine ⟨?_, hstart, hle.trans hstart, hrest⟩
        rcases mem_cons.mp hmem with heq | hmem
        · rw [heq]
          exact mem_cons_self
        · exact mem_cons_of_mem _ (mem_cons_of_mem _ hmem)
  cases pairs with
  | nil => cases h
  | cons pair rest =>
    rw [← Option.some.inj h]
    exact hfold rest pair

/-! ## What is selected -/

lemma foldlM_checkEvaluation {ids ids' : List Sha256Digest}
    (h : evaluations.foldlM checkEvaluation ids = .ok ids') (hids : ids.Nodup) :
    (ids ++ evaluations.map (·.candidateSha256)).Nodup := by
  induction evaluations generalizing ids with
  | nil => simpa using hids
  | cons e evaluations ih =>
    rw [foldlM_cons, bind_ok] at h
    obtain ⟨next, hnext, hrest⟩ := h
    simp only [checkEvaluation, seq_ok, failIf_ok, pure_ok] at hnext
    obtain ⟨-, hnew, rfl⟩ := hnext
    have hperm : (ids ++ (e :: evaluations).map (·.candidateSha256)).Perm
        ((e.candidateSha256 :: ids) ++ evaluations.map (·.candidateSha256)) :=
      perm_middle
    rw [hperm.nodup_iff]
    exact ih hrest (nodup_cons.mpr ⟨hnew, hids⟩)

@[simp] lemma PairwiseComplementarity.heldOutGain_ordered (pair : PairwiseComplementarity) :
    pair.ordered.heldOutGain = pair.heldOutGain := by
  unfold PairwiseComplementarity.ordered
  split <;> rfl

@[simp] lemma PairwiseComplementarity.preservationDelta_ordered
    (pair : PairwiseComplementarity) : pair.ordered.preservationDelta = pair.preservationDelta := by
  unfold PairwiseComplementarity.ordered
  split <;> rfl

lemma foldlM_checkPair {ids : List Sha256Digest} {done pairs : List PairwiseComplementarity}
    (h : complementarity.foldlM (checkPair evaluations ids) done = .ok pairs) :
    pairs = done ++ complementarity.map (·.ordered) ∧ ∀ listed ∈ complementarity,
      Within 0 1 listed.heldOutGain ∧ Within (-1) 1 listed.preservationDelta := by
  induction complementarity generalizing done with
  | nil =>
    rw [foldlM_nil, pure_ok] at h
    simp [h]
  | cons listed complementarity ih =>
    rw [foldlM_cons, bind_ok] at h
    obtain ⟨next, hnext, hrest⟩ := h
    simp only [checkPair, seq_ok, pure_ok, failIf_ok, not_or, not_not,
      PairwiseComplementarity.heldOutGain_ordered,
      PairwiseComplementarity.preservationDelta_ordered] at hnext
    obtain ⟨⟨-, -, -, -, -, hgain, hdelta⟩, rfl⟩ := hnext
    obtain ⟨hpairs, hwithin⟩ := ih hrest
    rw [hpairs, append_assoc]
    exact ⟨rfl, forall_mem_cons.mpr ⟨⟨hgain, hdelta⟩, hwithin⟩⟩

lemma Combines.symm (h : Combines policy a b) : Combines policy b a := by
  obtain ⟨hstrategy, hlatency, hlatency', hresident, hresident'⟩ := h
  exact ⟨hstrategy.symm, by omega, by omega, by omega, by omega⟩

/-- Two of the admitted evaluations that a pair lists and that can be used together. -/
structure Lists (policy : BackendSelectionPolicy) (admitted : List BackendEvaluation)
    (pair : PairwiseComplementarity) (first second : BackendEvaluation) : Prop where
  first_mem : first ∈ admitted
  second_mem : second ∈ admitted
  first_id : pair.firstCandidateSha256 = first.candidateSha256
  second_id : pair.secondCandidateSha256 = second.candidateSha256
  combines : Combines policy first second

variable {admitted : List BackendEvaluation} {pair : PairwiseComplementarity}

lemma exists_lists_ordered : (∃ first second, Lists policy admitted pair.ordered first second) ↔
      ∃ first second, Lists policy admitted pair first second := by
  unfold PairwiseComplementarity.ordered
  split
  · rfl
  · constructor <;>
    · intro h
      obtain ⟨a, b, h⟩ := h
      exact ⟨b, a, h.second_mem, h.first_mem, h.second_id, h.first_id, h.combines.symm⟩

lemma eligible_iff {sorted : List BackendEvaluation} (hperm : sorted.Perm evaluations)
    (hnodup : (sorted.map (·.candidateSha256)).Nodup) (hgain : Within 0 1 pair.heldOutGain)
    (hdelta : Within (-1) 1 pair.preservationDelta) :
    Eligible policy sorted (sorted.filter fun e => Admits policy e) pair ↔
      policy.minimumHybridComplementarity ≤ pair.heldOutGain ∧ 0 ≤ pair.preservationDelta ∧
        ∃ first second, Lists policy (evaluations.filter fun e => Admits policy e) pair
          first second := by
  have hmem : ∀ e ∈ evaluations.filter (fun e => Admits policy e), e ∈ sorted := by
    intro e he
    exact hperm.mem_iff.mpr (mem_of_mem_filter he)
  have hfind : ∀ e ∈ evaluations.filter (fun e => Admits policy e),
      sorted.find? (fun other => other.candidateSha256 = e.candidateSha256) = some e := by
    intro e he
    exact find?_key hnodup (hmem e he)
  have hids := fun id => ((hperm.filter fun e => Admits policy e).map
    (·.candidateSha256)).mem_iff (a := id)
  unfold Eligible
  rw [hids, hids]
  constructor
  · intro h
    obtain ⟨-, -, hminimum, hnonneg, hfirst, hsecond, -, hcombines⟩ := h
    obtain ⟨a, ha, haid⟩ := mem_map.mp hfirst
    obtain ⟨b, hb, hbid⟩ := mem_map.mp hsecond
    rw [← haid, ← hbid, hfind a ha, hfind b hb] at hcombines
    simp only [Option.mem_some_iff, exists_eq_left'] at hcombines
    exact ⟨hminimum, hnonneg, a, b, ha, hb, haid.symm, hbid.symm, hcombines⟩
  · intro h
    obtain ⟨hminimum, hnonneg, a, b, h⟩ := h
    rw [h.first_id, h.second_id, hfind a h.first_mem, hfind b h.second_mem]
    refine ⟨hgain, hdelta, hminimum, hnonneg, mem_map_of_mem h.first_mem,
      mem_map_of_mem h.second_mem, ?_, a, rfl, b, rfl, h.combines⟩
    intro heq
    have hsame := inj_on_of_nodup_map hnodup (hmem a h.first_mem) (hmem b h.second_mem) heq
    exact h.combines.1 (by rw [hsame])

/-- What is chosen: a hybrid with the most gain of the pairs that preserve, or the first. -/
lemma chosen_spec {sorted : List BackendEvaluation} (hperm : sorted.Perm evaluations)
    (hnodup : (sorted.map (·.candidateSha256)).Nodup) {pairs : List PairwiseComplementarity}
    (hpairs : pairs.Perm (complementarity.map (·.ordered))) (hwithin : ∀ listed ∈ complementarity,
      Within 0 1 listed.heldOutGain ∧ Within (-1) 1 listed.preservationDelta)
    (first : RankedBackend) :
    chosen policy sorted pairs first = (first.strategy, [first.candidateSha256]) ∨
      (chosen policy sorted pairs first).1 = .hybrid ∧ ∃ pair ∈ complementarity, ∃ a b,
        Lists policy (evaluations.filter fun e => Admits policy e) pair a b ∧
        0 ≤ pair.preservationDelta ∧
        (chosen policy sorted pairs first).2.Perm [a.candidateSha256, b.candidateSha256] ∧
        ∀ other ∈ complementarity,
          (∃ c d, Lists policy (evaluations.filter fun e => Admits policy e) other c d) →
          0 ≤ other.preservationDelta → other.heldOutGain ≤ pair.heldOutGain := by
  have heligible : ∀ listed ∈ complementarity,
      (Eligible policy sorted (sorted.filter fun e => Admits policy e) listed.ordered ↔
        policy.minimumHybridComplementarity ≤ listed.heldOutGain ∧
          0 ≤ listed.preservationDelta ∧ ∃ a b,
            Lists policy (evaluations.filter fun e => Admits policy e) listed a b) := by
    intro listed hlisted
    obtain ⟨hgain, hdelta⟩ := hwithin listed hlisted
    rw [← PairwiseComplementarity.heldOutGain_ordered] at hgain ⊢
    rw [← PairwiseComplementarity.preservationDelta_ordered] at hdelta ⊢
    rw [← exists_lists_ordered]
    exact eligible_iff hperm hnodup hgain hdelta
  unfold chosen
  simp only
  split
  · next pair hbest =>
    refine .inr ⟨rfl, ?_⟩
    split at hbest
    · obtain ⟨hmem, hmax⟩ := maxPair_spec hbest
      obtain ⟨hmem, hpair⟩ := mem_filter.mp hmem
      obtain ⟨listed, hlisted, rfl⟩ := mem_map.mp (hpairs.mem_iff.mp hmem)
      obtain ⟨hminimum, hdelta, a, b, hlists⟩ :=
        (heligible listed hlisted).mp (of_decide_eq_true hpair)
      refine ⟨listed, hlisted, a, b, hlists, hdelta, ?_, ?_⟩
      · rw [← hlists.first_id, ← hlists.second_id]
        refine (perm_insertionSort _ _).trans ?_
        unfold PairwiseComplementarity.ordered
        split
        · rfl
        · exact Perm.swap _ _ []
      · intro other hother hlistsOther hnonneg
        by_contra hlt
        have hbetter := (heligible other hother).mpr
          ⟨hminimum.trans (not_le.mp hlt).le, hnonneg, hlistsOther⟩
        have hle := hmax other.ordered (mem_filter.mpr
          ⟨hpairs.mem_iff.mpr (mem_map_of_mem hother), decide_eq_true hbetter⟩)
        rw [PairwiseComplementarity.heldOutGain_ordered,
          PairwiseComplementarity.heldOutGain_ordered] at hle
        exact hlt hle
    · cases hbest
  · exact .inl rfl

/-- **The first of the ranking is dominated by nothing**, unless by what differs only where no
    weight counts; a hybrid has the most gain of the pairs that preserve. -/
theorem select_undominated [SelectionDigests]
    (h : selectMaterializationBackend evaluations complementarity policy = .ok receipt) :
    ∃ first, receipt.ranked.head? = some first ∧
      ∃ e ∈ evaluations, Admits policy e ∧ e.candidateSha256 = first.candidateSha256 ∧
        (first.paretoOptimal = true ↔
          ∀ other ∈ evaluations, Admits policy other → dominates other e = false) ∧
        (∀ other ∈ evaluations, Admits policy other → dominates other e = true →
          utility policy other = utility policy e ∧
            digestLe e.candidateSha256 other.candidateSha256 = true) ∧
        ((∀ w ∈ policy.weights, 0 < w) → first.paretoOptimal = true) ∧
        ((receipt.selectedStrategy, receipt.selectedCandidates) =
            (e.strategy, [e.candidateSha256]) ∨
          receipt.selectedStrategy = .hybrid ∧ ∃ pair ∈ complementarity, ∃ a b,
            Lists policy (evaluations.filter fun e => Admits policy e) pair a b ∧
            0 ≤ pair.preservationDelta ∧
            receipt.selectedCandidates.Perm [a.candidateSha256, b.candidateSha256] ∧
            ∀ other ∈ complementarity,
              (∃ c d, Lists policy (evaluations.filter fun e => Admits policy e) other c d) →
              0 ≤ other.preservationDelta → other.heldOutGain ≤ pair.heldOutGain) := by
  unfold selectMaterializationBackend at h
  rw [seq_ok, seq_ok, bind_ok] at h
  obtain ⟨hvalid, -, ids, hids, h⟩ := h
  rw [seq_ok, bind_ok] at h
  obtain ⟨-, pairs, hpairs, h⟩ := h
  rw [bind_ok] at h
  obtain ⟨first, hfirst, h⟩ := h
  rw [pure_ok] at h
  rw [okOr_ok] at hfirst
  subst h
  obtain ⟨sorted, hsorted⟩ : ∃ sorted, sorted = evaluations.insertionSort fun a b =>
    digestLe a.candidateSha256 b.candidateSha256 = true := ⟨_, rfl⟩
  have hperm : sorted.Perm evaluations := by
    rw [hsorted]
    exact perm_insertionSort _ _
  rw [← hsorted] at hpairs hfirst ⊢
  have hdistinct := foldlM_checkEvaluation hids nodup_nil
  rw [nil_append] at hdistinct
  have hnodup := (hperm.map (·.candidateSha256)).nodup_iff.mpr hdistinct
  obtain ⟨hordered, hwithin⟩ := foldlM_checkPair hpairs
  rw [nil_append] at hordered
  have hadmitted : ∀ e, e ∈ sorted.filter (fun e => Admits policy e) ↔
      e ∈ evaluations ∧ Admits policy e := by
    intro e
    rw [mem_filter, hperm.mem_iff, decide_eq_true_eq]
  refine ⟨first, hfirst, ?_⟩
  obtain ⟨hranked, hbest⟩ := rankLe_head hfirst
  obtain ⟨e, he, rfl⟩ := mem_map.mp hranked
  obtain ⟨hmem, hadmits⟩ := (hadmitted e).mp he
  have hequal : ∀ other ∈ evaluations, Admits policy other → dominates other e = true →
      other.candidateSha256 ≠ e.candidateSha256 ∧ utility policy other = utility policy e ∧
        digestLe e.candidateSha256 other.candidateSha256 = true := by
    intro other hother hadmitsOther hdominates
    have hle := (utility_le_of_dominates hvalid hdominates).1
    have hne : other.candidateSha256 ≠ e.candidateSha256 := by
      intro heq
      rw [inj_on_of_nodup_map hdistinct hother hmem heq] at hdominates
      simp [dominates] at hdominates
    rcases hbest _ (mem_map_of_mem ((hadmitted other).mpr ⟨hother, hadmitsOther⟩)) with
      heq | hlt | ⟨heq, hdigest⟩
    · exact absurd (congrArg RankedBackend.candidateSha256 heq) hne
    · exact absurd hle (not_le.mpr hlt)
    · exact ⟨hne, heq, hdigest⟩
  have hpareto : (rankOf policy (sorted.filter fun e => Admits policy e) e).paretoOptimal = true ↔
      ∀ other ∈ evaluations, Admits policy other → dominates other e = false := by
    unfold rankOf
    rw [Bool.not_eq_true', any_eq_false]
    constructor
    · intro hnone other hother hadmitsOther
      rw [← Bool.not_eq_true]
      intro hdominates
      have hne := (hequal other hother hadmitsOther hdominates).1
      exact hnone other ((hadmitted other).mpr ⟨hother, hadmitsOther⟩) (by simp [hne, hdominates])
    · intro hnone other hother
      obtain ⟨hother, hadmitsOther⟩ := (hadmitted other).mp hother
      simp [hnone other hother hadmitsOther]
  refine ⟨e, hmem, hadmits, rfl, hpareto, ?_, ?_, ?_⟩
  · intro other hother hadmitsOther hdominates
    exact (hequal other hother hadmitsOther hdominates).2
  · intro hweights
    rw [hpareto]
    intro other hother hadmitsOther
    rw [← Bool.not_eq_true]
    intro hdominates
    have hlt := (utility_le_of_dominates hvalid hdominates).2 hweights
    rw [(hequal other hother hadmitsOther hdominates).2.1] at hlt
    exact absurd hlt (lt_irrefl _)
  · exact chosen_spec hperm hnodup (hordered ▸ perm_insertionSort _ _) hwithin _

/-! ## Two backends that differ in latency -/

def digestOf (n : Fin 10) : Sha256Digest :=
  ⟨String.ofList (List.replicate 64 (Nat.digitChar n)), by revert n; decide +kernel⟩

@[reducible] def constantDigests : SelectionDigests where
  policy _ := zero
  evidence _ _ := zero
  receipt _ := zero

def weighing (latencyWeight : ℚ) : BackendSelectionPolicy where
  schema := "tidex.backend_selection_policy/v1"
  minimumFunctionalCiLower := 0
  minimumPreservationScore := 0
  minimumIdentityMargin := 0
  minimumNumericalStability := 0
  maximumNormalizedRisk := 1
  maximumLatencyMicros := 100
  maximumResidentBytes := 100
  functionalWeight := 1
  preservationWeight := 1
  stabilityWeight := 1
  riskWeight := 1
  latencyWeight := latencyWeight
  memoryWeight := 1
  requiredControls := minRequiredControls
  allowHybrid := true
  minimumHybridComplementarity := 0

def measured (n : Fin 10) (latencyMicros : Nat) : BackendEvaluation where
  schema := "tidex.backend_evaluation/v1"
  candidateSha256 := digestOf n
  strategy := .routing
  functionalScore := 1
  functionalCiLower := 1
  preservationScore := 1
  identityMargin := 1
  numericalStability := 1
  normalizedRisk := 0
  latencyMicros := latencyMicros
  residentBytes := 10
  completedControls := minRequiredControls

def flags : BrainResult BackendSelectionReceipt → List Bool
  | .ok receipt => receipt.ranked.map (·.paretoOptimal)
  | .error _ => []

attribute [local instance] constantDigests

theorem quick_undominated : ∃ receipt,
    selectMaterializationBackend [measured 1 20, measured 2 10] [] (weighing 1) = .ok receipt ∧
      ∃ first, receipt.ranked.head? = some first ∧ first.paretoOptimal = true := by
  have hflags : flags (selectMaterializationBackend [measured 1 20, measured 2 10] []
      (weighing 1)) = [true, false] := by
    decide +kernel
  cases hselect : selectMaterializationBackend [measured 1 20, measured 2 10] []
      (weighing 1) with
  | error e =>
    rw [hselect] at hflags
    cases hflags
  | ok receipt =>
    obtain ⟨first, hfirst, e, -, -, -, -, -, hpareto, -⟩ := select_undominated hselect
    exact ⟨receipt, rfl, first, hfirst, hpareto (by decide +kernel)⟩

/-- **Where latency has no weight**, a backend that another one dominates comes first. -/
theorem slow_first : ¬∀ (evaluations : List BackendEvaluation)
    (complementarity : List PairwiseComplementarity) (policy : BackendSelectionPolicy)
    (receipt : BackendSelectionReceipt),
      selectMaterializationBackend evaluations complementarity policy = .ok receipt →
      ∀ first, receipt.ranked.head? = some first → first.paretoOptimal = true := by
  intro hclaim
  have hflags : flags (selectMaterializationBackend [measured 1 20, measured 2 10] []
      (weighing 0)) = [false, true] := by
    decide +kernel
  cases hselect : selectMaterializationBackend [measured 1 20, measured 2 10] []
      (weighing 0) with
  | error e =>
    rw [hselect] at hflags
    cases hflags
  | ok receipt =>
    rw [hselect] at hflags
    cases hranked : receipt.ranked with
    | nil => simp [flags, hranked] at hflags
    | cons first rest =>
      have hpareto := hclaim _ _ _ receipt hselect first (by rw [hranked]; rfl)
      simp [flags, hranked, hpareto] at hflags

end Tidex.Materialization
