/-
  Materialization.Universality — the measurement of universality N.
-/
import Tidex.Governance.AdapterTypes
import Tidex.Materialization.Selection
import Mathlib.Analysis.Real.Sqrt

namespace Tidex.Materialization

open Tidex.Lib List Sha256Digest BTreeMap

/-! ## Protocols and trials -/

def maxTrials : Nat := 1000000
def maxIdBytes : Nat := 4096

def validLabel (value : String) : Bool :=
  !value.toList.isEmpty && decide (value.utf8ByteSize ≤ maxIdBytes)
    && !value.toList.head?.any isWhitespace && !value.toList.getLast?.any isWhitespace
    && !value.toList.any isControl

/-- What a capability must show, in exact numbers. -/
structure UniversalityProtocol where
  schema : String
  minimumCalibrationCapabilities : Nat
  minimumHeldOutCapabilities : Nat
  minimumReceiversPerCapability : Nat
  minimumReceiverFamiliesPerCapability : Nat
  minimumSeedsPerCapability : Nat
  minimumTaskFamiliesPerCapability : Nat
  scope : String
  requireUnseenReceiver : Bool
  minimumTargetScore : ℚ
  minimumPreservationScore : ℚ
  minimumIdentityMargin : ℚ
  minimumSuccessProbability : ℚ
  confidenceZ : ℚ

def UniversalityProtocol.validate (p : UniversalityProtocol) : BrainResult Unit :=
  failIf (p.schema ≠ "tidex.universality_protocol/v1"
      ∨ p.minimumCalibrationCapabilities = 0 ∨ p.minimumHeldOutCapabilities = 0
      ∨ p.minimumReceiversPerCapability = 0 ∨ p.minimumReceiverFamiliesPerCapability = 0
      ∨ p.minimumSeedsPerCapability = 0 ∨ p.minimumTaskFamiliesPerCapability = 0
      ∨ validLabel p.scope = false
      ∨ (∃ v ∈ [p.minimumTargetScore, p.minimumPreservationScore, p.minimumSuccessProbability],
        ¬Within 0 1 v)
      ∨ p.minimumSuccessProbability = 0 ∨ ¬Within 0 1 p.minimumIdentityMargin
      ∨ ¬Within 0 8 p.confidenceZ ∨ p.confidenceZ = 0)
    (invalid "universality_protocol_invalid")

structure UniversalityTrial where
  schema : String
  trialId : String
  capabilityId : String
  taskFamilyId : String
  receiverId : String
  receiverFamilyId : String
  seed : Nat
  capabilityWasCalibration : Bool
  receiverWasCalibration : Bool
  targetOptimizerSteps : Nat
  targetScore : ℚ
  preservationScore : ℚ
  wrongIrScore : ℚ
  randomDeltaScore : ℚ
  unmodifiedReceiverScore : ℚ
  deriving DecidableEq

namespace UniversalityTrial

def validate (t : UniversalityTrial) : BrainResult Unit :=
  failIf (t.schema ≠ "tidex.universality_trial/v1"
      ∨ (∃ value ∈ [t.trialId, t.capabilityId, t.taskFamilyId, t.receiverId, t.receiverFamilyId],
        validLabel value = false)
      ∨ ∃ v ∈ [t.targetScore, t.preservationScore, t.wrongIrScore, t.randomDeltaScore,
          t.unmodifiedReceiverScore], ¬Within 0 1 v)
    (invalid "universality_trial_invalid")

def passes (protocol : UniversalityProtocol) (t : UniversalityTrial) : Bool :=
  let strongestControl := max (max t.wrongIrScore t.randomDeltaScore) t.unmodifiedReceiverScore
  !t.capabilityWasCalibration && decide (t.targetOptimizerSteps = 0
    ∧ protocol.minimumTargetScore ≤ t.targetScore
    ∧ protocol.minimumPreservationScore ≤ t.preservationScore
    ∧ protocol.minimumIdentityMargin ≤ t.targetScore - strongestControl)

/-- The order of two trials by their design and their name. -/
def notAfter (a b : UniversalityTrial) : Bool :=
  ((compare a.capabilityId b.capabilityId).then ((compare a.taskFamilyId b.taskFamilyId).then
    ((compare a.receiverId b.receiverId).then ((compare a.seed b.seed).then
      (compare a.trialId b.trialId))))).isLE

def receiverIdentity (t : UniversalityTrial) : String × Bool :=
  (t.receiverFamilyId, t.receiverWasCalibration)

def designUnit (t : UniversalityTrial) : String × String × String × Nat :=
  (t.capabilityId, t.taskFamilyId, t.receiverId, t.seed)

end UniversalityTrial

def checkTrial (calibrationCapabilities : Finset String) (seen : List UniversalityTrial)
    (trial : UniversalityTrial) : BrainResult (List UniversalityTrial) := do
  trial.validate
  failIf (trial.trialId ∈ seen.map (·.trialId)) (invalid "universality_trial_duplicate")
  failIf ((seen.find? fun prior => prior.receiverId = trial.receiverId).any fun prior =>
      decide (prior.receiverIdentity ≠ trial.receiverIdentity))
    (integrity "universality_receiver_relabelled")
  failIf (trial.designUnit ∈ seen.map (·.designUnit)) (invalid "universality_design_unit_reused")
  failIf (trial.capabilityWasCalibration ≠ decide (trial.capabilityId ∈ calibrationCapabilities))
    (integrity "universality_calibration_label_mismatch")
  return trial :: seen

def canonicalTrials (trials : List UniversalityTrial) : List UniversalityTrial :=
  trials.insertionSort fun a b => a.notAfter b = true

def heldOutGroups (calibrationCapabilities : Finset String) (trials : List UniversalityTrial)
    (protocol : UniversalityProtocol) : BrainResult (BTreeMap String (List UniversalityTrial)) := do
  protocol.validate
  failIf (calibrationCapabilities.card < protocol.minimumCalibrationCapabilities
      ∨ trials.isEmpty ∨ maxTrials < trials.length
      ∨ ∃ value ∈ calibrationCapabilities, validLabel value = false)
    (invalid "universality_evidence_cardinality_invalid")
  let trials := canonicalTrials trials
  let _ ← trials.foldlM (checkTrial calibrationCapabilities) []
  let observed := (trials.filter (·.capabilityWasCalibration)).map (·.capabilityId)
  let groups := groupBy UniversalityTrial.capabilityId
    (trials.filter fun trial => !trial.capabilityWasCalibration)
  failIf (∃ capability ∈ calibrationCapabilities, capability ∉ observed)
    (invalid "universality_calibration_evidence_missing")
  failIf (groups.size < protocol.minimumHeldOutCapabilities)
    (invalid "universality_held_out_coverage_insufficient")
  return groups

/-! ## Bounds and evidence -/

class SquareRoot (K : Type) where
  sqrt : K → K

section

variable (K : Type) [Field K] [LinearOrder K] [SquareRoot K]

def wilsonLower (successes total : Nat) (z : ℚ) : K :=
  if total = 0 then 0
  else
    let n : K := total
    let p : K := successes / n
    let z2 : K := z * z
    max 0 (min 1 ((p + z2 / ((2 : Nat) * n)
      - z * SquareRoot.sqrt ((p * (1 - p) + z2 / ((4 : Nat) * n)) / n)) / (1 + z2 / n)))

section

variable {α : Type} [DecidableEq α] (key : UniversalityTrial → α)
  (protocol : UniversalityProtocol) (group : List UniversalityTrial)

/-- The bound of the trials of a group that have one key. -/
def subgroupWilson (k : α) : K :=
  let subgroup := group.filter fun trial => key trial = k
  wilsonLower K (subgroup.countP (·.passes protocol)) subgroup.length protocol.confidenceZ

def minimumGroupWilson : K :=
  ((group.map key).dedup.map (subgroupWilson K key protocol group)).foldl min 1

def distinct : Nat := (group.map key).dedup.length

def UniversalityProtocol.successful : List UniversalityTrial := group.filter (·.passes protocol)

/-- There are enough keys, and enough with a success. -/
def UniversalityProtocol.Covers (minimum : Nat) : Prop :=
  minimum ≤ distinct key group ∧ minimum ≤ distinct key (protocol.successful group)

instance (minimum : Nat) : Decidable (protocol.Covers key group minimum) :=
  inferInstanceAs (Decidable (_ ∧ _))

/-- When the trials of a capability are admitted. -/
def UniversalityProtocol.Admits : Prop :=
  0 < (protocol.successful group).length
    ∧ protocol.Covers (·.receiverId) group protocol.minimumReceiversPerCapability
    ∧ protocol.Covers (·.receiverFamilyId) group protocol.minimumReceiverFamiliesPerCapability
    ∧ protocol.Covers (·.taskFamilyId) group protocol.minimumTaskFamiliesPerCapability
    ∧ protocol.Covers (·.seed) group protocol.minimumSeedsPerCapability
    ∧ (protocol.requireUnseenReceiver = true →
      (∃ t ∈ group, t.receiverWasCalibration = false)
        ∧ ∃ t ∈ protocol.successful group, t.receiverWasCalibration = false)
    ∧ (protocol.minimumSuccessProbability : K)
      ≤ wilsonLower K (protocol.successful group).length group.length protocol.confidenceZ
    ∧ (protocol.minimumSuccessProbability : K) ≤ minimumGroupWilson K (·.receiverId) protocol group
    ∧ (protocol.minimumSuccessProbability : K)
      ≤ minimumGroupWilson K (·.receiverFamilyId) protocol group
    ∧ (protocol.minimumSuccessProbability : K)
      ≤ minimumGroupWilson K (·.taskFamilyId) protocol group

instance : Decidable (protocol.Admits K group) := inferInstanceAs (Decidable (_ ∧ _))

structure CapabilityUniversalityEvidence where
  capabilityId : String
  trials : Nat
  successes : Nat
  receivers : Nat
  receiverFamilies : Nat
  taskFamilies : Nat
  seeds : Nat
  includesUnseenReceiver : Bool
  successfulReceivers : Nat
  successfulReceiverFamilies : Nat
  successfulTaskFamilies : Nat
  successfulSeeds : Nat
  unseenReceiverSuccesses : Nat
  successRate : K
  wilsonLowerBound : K
  minimumReceiverWilsonLowerBound : K
  minimumReceiverFamilyWilsonLowerBound : K
  minimumTaskFamilyWilsonLowerBound : K
  admitted : Bool

structure UniversalityEvidenceReceipt where
  schema : String
  protocolSha256 : Sha256Digest
  trialsSha256 : Sha256Digest
  calibrationCapabilityCount : Nat
  heldOutCapabilityCount : Nat
  universalityN : Nat
  globalSuccessRate : K
  globalWilsonLowerBound : K
  capabilities : List (CapabilityUniversalityEvidence K)
  manifestSha256 : Sha256Digest

/-- The digests over the serialized protocol, trials and unsigned receipt. -/
class UniversalityDigests where
  protocol : UniversalityProtocol → Sha256Digest
  trials : Finset String → List UniversalityTrial → Sha256Digest
  receipt : UniversalityEvidenceReceipt K → Sha256Digest

def evidenceOf (capabilityId : String) : CapabilityUniversalityEvidence K :=
  let successful := protocol.successful group
  { capabilityId := capabilityId
    trials := group.length
    successes := successful.length
    receivers := distinct (·.receiverId) group
    receiverFamilies := distinct (·.receiverFamilyId) group
    taskFamilies := distinct (·.taskFamilyId) group
    seeds := distinct (·.seed) group
    includesUnseenReceiver := group.any fun t => !t.receiverWasCalibration
    successfulReceivers := distinct (·.receiverId) successful
    successfulReceiverFamilies := distinct (·.receiverFamilyId) successful
    successfulTaskFamilies := distinct (·.taskFamilyId) successful
    successfulSeeds := distinct (·.seed) successful
    unseenReceiverSuccesses := successful.countP fun t => !t.receiverWasCalibration
    successRate := successful.length / group.length
    wilsonLowerBound := wilsonLower K successful.length group.length protocol.confidenceZ
    minimumReceiverWilsonLowerBound := minimumGroupWilson K (·.receiverId) protocol group
    minimumReceiverFamilyWilsonLowerBound :=
      minimumGroupWilson K (·.receiverFamilyId) protocol group
    minimumTaskFamilyWilsonLowerBound := minimumGroupWilson K (·.taskFamilyId) protocol group
    admitted := decide (protocol.Admits K group) }

end

variable [UniversalityDigests K]

def receiptOf (calibrationCapabilities : Finset String) (trials : List UniversalityTrial)
    (protocol : UniversalityProtocol) (groups : BTreeMap String (List UniversalityTrial)) :
    UniversalityEvidenceReceipt K :=
  let capabilities := groups.toList.map fun entry => evidenceOf K protocol entry.2 entry.1
  let globalSuccesses : Nat := (capabilities.map (·.successes)).sum
  let globalTrials : Nat := (capabilities.map (·.trials)).sum
  let unsigned : UniversalityEvidenceReceipt K := {
    schema := "tidex.universality_evidence_receipt/v2"
    protocolSha256 := UniversalityDigests.protocol K protocol
    trialsSha256 := UniversalityDigests.trials K calibrationCapabilities (canonicalTrials trials)
    calibrationCapabilityCount := calibrationCapabilities.card
    heldOutCapabilityCount := capabilities.length
    universalityN := (capabilities.filter (·.admitted)).length
    globalSuccessRate := globalSuccesses / globalTrials
    globalWilsonLowerBound := wilsonLower K globalSuccesses globalTrials protocol.confidenceZ
    capabilities := capabilities
    manifestSha256 := zero }
  { unsigned with manifestSha256 := UniversalityDigests.receipt unsigned }

def measureUniversalityN (calibrationCapabilities : Finset String)
    (trials : List UniversalityTrial) (protocol : UniversalityProtocol) :
    BrainResult (UniversalityEvidenceReceipt K) := do
  let groups ← heldOutGroups calibrationCapabilities trials protocol
  return receiptOf K calibrationCapabilities trials protocol groups

end

/-! ## What is admitted -/

def trialsOf (trials : List UniversalityTrial) (id : String) : List UniversalityTrial :=
  (canonicalTrials trials).filter fun trial => trial.capabilityId = id

variable {K : Type} [Field K] [LinearOrder K] [SquareRoot K]
  {calibration : Finset String} {trials : List UniversalityTrial} {protocol : UniversalityProtocol}

lemma foldlM_checkTrial {rest seen seen' : List UniversalityTrial}
    (h : rest.foldlM (checkTrial calibration) seen = .ok seen') :
    ∀ t ∈ rest, t.capabilityWasCalibration = decide (t.capabilityId ∈ calibration) := by
  induction rest generalizing seen with
  | nil => simp
  | cons t rest ih =>
    rw [foldlM_cons, bind_ok] at h
    obtain ⟨next, hnext, hrest⟩ := h
    simp only [checkTrial, seq_ok, failIf_ok, not_not] at hnext
    obtain ⟨-, -, -, -, hlabel, -⟩ := hnext
    exact forall_mem_cons.mpr ⟨hlabel, ih hrest⟩

variable {groups : BTreeMap String (List UniversalityTrial)} {id : String}

lemma label_of_groups (h : heldOutGroups calibration trials protocol = .ok groups) :
    ∀ t ∈ canonicalTrials trials,
      t.capabilityWasCalibration = decide (t.capabilityId ∈ calibration) := by
  unfold heldOutGroups at h
  simp only [bind_ok] at h
  obtain ⟨_, -, _, -, _, hfold, -⟩ := h
  exact foldlM_checkTrial hfold

lemma label_of_held_out (h : heldOutGroups calibration trials protocol = .ok groups)
    (hid : id ∉ calibration) : ∀ t ∈ trialsOf trials id, t.capabilityWasCalibration = false := by
  intro t ht
  obtain ⟨hmem, heq⟩ := mem_filter.mp ht
  rw [label_of_groups h t hmem, of_decide_eq_true heq, decide_eq_false hid]

/-- The groups are the trials of the held-out capabilities. -/
lemma heldOutGroups_iff (h : heldOutGroups calibration trials protocol = .ok groups)
    {group : List UniversalityTrial} :
    groups[id]? = some group ↔ group ≠ [] ∧ id ∉ calibration ∧ group = trialsOf trials id := by
  have hlabel := label_of_groups h
  unfold heldOutGroups at h
  simp only [bind_ok, pure_ok] at h
  obtain ⟨_, -, _, -, _, -, _, -, _, -, rfl⟩ := h
  rw [groupBy_eq_some, filter_filter]
  have hsame : (canonicalTrials trials).filter
      (fun t => decide (t.capabilityId = id) && !t.capabilityWasCalibration) =
        (canonicalTrials trials).filter
          fun t => decide (t.capabilityId = id) && decide (id ∉ calibration) := by
    apply filter_congr
    intro t ht
    rw [hlabel t ht]
    by_cases heq : t.capabilityId = id <;> simp [heq]
  rw [hsame]
  by_cases hid : id ∈ calibration <;> simp [hid, trialsOf]

/-- No subgroup of the trials fails that has the key of one of them. -/
def Clears (K : Type) [Field K] [LinearOrder K] [SquareRoot K] {α : Type} [DecidableEq α]
    (key : UniversalityTrial → α) (protocol : UniversalityProtocol)
    (group : List UniversalityTrial) : Prop :=
  ∀ t ∈ group,
    (protocol.minimumSuccessProbability : K) ≤ subgroupWilson K key protocol group (key t)

/-- What an admission promises. -/
structure NothingHidden (K : Type) [Field K] [LinearOrder K] [SquareRoot K]
    (calibration : Finset String) (protocol : UniversalityProtocol) (id : String)
    (group : List UniversalityTrial) : Prop where
  held_out : id ∉ calibration
  uncalibrated : ∀ t ∈ group, t.capabilityWasCalibration = false
  receivers : protocol.Covers (·.receiverId) group protocol.minimumReceiversPerCapability
  families :
    protocol.Covers (·.receiverFamilyId) group protocol.minimumReceiverFamiliesPerCapability
  tasks : protocol.Covers (·.taskFamilyId) group protocol.minimumTaskFamiliesPerCapability
  seeds : protocol.Covers (·.seed) group protocol.minimumSeedsPerCapability
  receiver_clears : Clears K (·.receiverId) protocol group
  family_clears : Clears K (·.receiverFamilyId) protocol group
  task_clears : Clears K (·.taskFamilyId) protocol group
  seed_clears : Clears K (·.seed) protocol group

lemma clears_of_le {α : Type} [DecidableEq α] {key : UniversalityTrial → α}
    {group : List UniversalityTrial} (h : (protocol.minimumSuccessProbability : K) ≤
      minimumGroupWilson K key protocol group) : Clears K key protocol group := by
  have hfold : ∀ (bounds : List K) (start m : K), m ≤ bounds.foldl min start →
      m ≤ start ∧ ∀ bound ∈ bounds, m ≤ bound := by
    intro bounds
    induction bounds with
    | nil =>
      intro start m hle
      simpa using hle
    | cons bound bounds ih =>
      intro start m hle
      obtain ⟨hmin, hall⟩ := ih _ m hle
      exact ⟨hmin.trans (min_le_left _ _),
        forall_mem_cons.mpr ⟨hmin.trans (min_le_right _ _), hall⟩⟩
  intro t ht
  exact (hfold _ _ _ h).2 _ (mem_map_of_mem (mem_dedup.mpr (mem_map_of_mem ht)))

variable [UniversalityDigests K] {receipt : UniversalityEvidenceReceipt K}

lemma mem_capabilities (h : measureUniversalityN K calibration trials protocol = .ok receipt)
    (e : CapabilityUniversalityEvidence K) : e ∈ receipt.capabilities ↔ ∃ id,
      trialsOf trials id ≠ [] ∧ id ∉ calibration ∧
        evidenceOf K protocol (trialsOf trials id) id = e := by
  unfold measureUniversalityN at h
  simp only [bind_ok, pure_ok] at h
  obtain ⟨groups, hgroups, rfl⟩ := h
  unfold receiptOf
  simp only [mem_map, Prod.exists, mem_toList_iff, heldOutGroups_iff hgroups]
  constructor
  · intro h
    obtain ⟨id, group, ⟨hne, hid, rfl⟩, he⟩ := h
    exact ⟨id, hne, hid, he⟩
  · intro h
    obtain ⟨id, hne, hid, he⟩ := h
    exact ⟨id, _, ⟨hne, hid, rfl⟩, he⟩

structure Promised (calibration : Finset String) (trials : List UniversalityTrial)
    (protocol : UniversalityProtocol) (receipt : UniversalityEvidenceReceipt K) : Prop where
  admitted : ∀ e ∈ receipt.capabilities, e.admitted = true →
    NothingHidden K calibration protocol e.capabilityId (trialsOf trials e.capabilityId) ∧
      e.trials = (trialsOf trials e.capabilityId).length
  count : receipt.universalityN = (receipt.capabilities.filter (·.admitted)).length

noncomputable instance : SquareRoot ℝ := ⟨Real.sqrt⟩

@[reducible] def noDigests : UniversalityDigests ℝ where
  protocol _ := zero
  trials _ _ := zero
  receipt _ := zero

def lenient : UniversalityProtocol where
  schema := "tidex.universality_protocol/v1"
  minimumCalibrationCapabilities := 1
  minimumHeldOutCapabilities := 1
  minimumReceiversPerCapability := 1
  minimumReceiverFamiliesPerCapability := 1
  minimumSeedsPerCapability := 1
  minimumTaskFamiliesPerCapability := 1
  scope := "s"
  requireUnseenReceiver := false
  minimumTargetScore := 1
  minimumPreservationScore := 1
  minimumIdentityMargin := 1
  minimumSuccessProbability := 1 / 10
  confidenceZ := 1

def scored (capabilityId : String) (seed : Fin 10) (targetScore : ℚ) : UniversalityTrial where
  schema := "tidex.universality_trial/v1"
  trialId := String.ofList [Nat.digitChar seed]
  capabilityId := capabilityId
  taskFamilyId := "r"
  receiverId := "r"
  receiverFamilyId := "r"
  seed := seed
  capabilityWasCalibration := decide (capabilityId = "base")
  receiverWasCalibration := false
  targetOptimizerSteps := 0
  targetScore := targetScore
  preservationScore := 1
  wrongIrScore := 0
  randomDeltaScore := 0
  unmodifiedReceiverScore := 0

def twoSeeds : List UniversalityTrial := [scored "skill" 1 1, scored "skill" 2 0, scored "base" 3 1]

attribute [local instance] noDigests

lemma twoSeeds_measured :
    ∃ receipt, measureUniversalityN ℝ {"base"} twoSeeds lenient = .ok receipt := by
  have hok : (heldOutGroups {"base"} twoSeeds lenient).toOption.isSome = true := by
    decide +kernel
  unfold measureUniversalityN
  cases hgroups : heldOutGroups {"base"} twoSeeds lenient with
  | error e =>
    rw [hgroups] at hok
    cases hok
  | ok groups => exact ⟨_, rfl⟩

lemma wilsonLower_half : ((1 / 10 : ℚ) : ℝ) ≤ wilsonLower ℝ 1 2 1 := by
  have hsqrt : Real.sqrt (3 / 16) ≤ 1 / 2 := by
    rw [Real.sqrt_le_left (by norm_num)]
    norm_num
  unfold wilsonLower
  simp only [OfNat.ofNat_ne_zero, if_false, Rat.cast_one, Nat.cast_one, Nat.cast_ofNat]
  refine le_max_of_le_right (le_min (by norm_num) ?_)
  have harg : ((1 : ℝ) / 2 * (1 - 1 / 2) + 1 * 1 / (4 * 2)) / 2 = 3 / 16 := by norm_num
  show _ ≤ (_ - 1 * Real.sqrt _) / _
  rw [harg, le_div_iff₀ (by norm_num)]
  push_cast
  linarith

def skillTrials : List UniversalityTrial := [scored "skill" 1 1, scored "skill" 2 0]

lemma trialsOf_twoSeeds : trialsOf twoSeeds "skill" = skillTrials := by decide +kernel

lemma subgroupWilson_skill {α : Type} [DecidableEq α] {key : UniversalityTrial → α} {k : α}
    {subgroup : List UniversalityTrial} (h : skillTrials.filter (fun t => key t = k) = subgroup)
    {n : Nat} (hcount : subgroup.countP (·.passes lenient) = n) :
    subgroupWilson ℝ key lenient skillTrials k = wilsonLower ℝ n subgroup.length 1 := by
  unfold subgroupWilson
  simp only [h, hcount]
  rfl

lemma minimum_skill {key : UniversalityTrial → String}
    (h : skillTrials.filter (fun t => key t = "r") = skillTrials)
    (hkeys : (skillTrials.map key).dedup = ["r"]) :
    ((1 / 10 : ℚ) : ℝ) ≤ minimumGroupWilson ℝ key lenient skillTrials := by
  unfold minimumGroupWilson
  rw [hkeys]
  show _ ≤ min 1 (subgroupWilson ℝ key lenient skillTrials "r")
  rw [subgroupWilson_skill h (by decide +kernel : skillTrials.countP (·.passes lenient) = 1)]
  exact le_min (by norm_num) wilsonLower_half

lemma admits_skill : lenient.Admits ℝ skillTrials := by
  have hcount : (lenient.successful skillTrials).length = 1 := by decide +kernel
  refine ⟨by decide +kernel, by decide +kernel, by decide +kernel, by decide +kernel,
    by decide +kernel, ?_, ?_, minimum_skill (by decide) (by decide),
    minimum_skill (by decide) (by decide), minimum_skill (by decide) (by decide)⟩
  · intro hunseen
    cases hunseen
  · rw [hcount]
    exact wilsonLower_half

end Tidex.Materialization
