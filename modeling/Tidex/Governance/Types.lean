/-
  Governance.Types — what candidate governance is stated about.

  Typed identifiers, sealed digests, metric specifications with their hard invariants,
  observation windows, and the paired evaluation report.
-/
import Tidex.Foundation.Finite

namespace Tidex.Governance

open Tidex.Lib

/-! ## Limits -/

def maxIdBytes : Nat := 128
def maxMetrics : Nat := 128
def maxGroups : Nat := 65536
def maxTrajectoryPoints : Nat := 4096
def maxCanaryStages : Nat := 32
def perMillion : Nat := 1000000
def u64Width : Nat := 18446744073709551616

def windows2 {α : Type} (l : List α) : List (α × α) := l.zip l.tail

/-! ## Identifiers -/

def isIdByte (c : Char) : Bool :=
  c.isDigit || ('a' ≤ c && c ≤ 'z') || ('A' ≤ c && c ≤ 'Z')
    || c == '-' || c == '_' || c == '.' || c == ':'

/-- Whether two dots follow each other. -/
def hasDoubleDot : List Char → Bool
  | '.' :: '.' :: _ => true
  | _ :: rest => hasDoubleDot rest
  | [] => false

def isValidId (value : String) : Bool :=
  !(value.toList.isEmpty
    || value.utf8ByteSize > maxIdBytes
    || value.toList.head? == some '.'
    || value.toList.getLast? == some '.'
    || hasDoubleDot value.toList
    || !value.toList.all isIdByte)

inductive IdKind where
  | metric
  | variant
  | evidence
  | trajectory
  | independenceGroup
  | pair
  | canarySubject
  deriving DecidableEq

/-- An identifier of one kind. -/
structure TypedId (k : IdKind) where
  str : String
  valid : isValidId str = true
  deriving DecidableEq

abbrev MetricId := TypedId .metric
abbrev VariantId := TypedId .variant
abbrev EvidenceId := TypedId .evidence
abbrev IndependenceGroupId := TypedId .independenceGroup
abbrev PairId := TypedId .pair
abbrev CanarySubjectId := TypedId .canarySubject

namespace TypedId

variable {k : IdKind}

lemma str_injective : Function.Injective (str (k := k)) := by
  intro a b h
  cases a
  cases b
  cases h
  rfl

instance : Ord (TypedId k) := ordBy str
instance : Std.TransOrd (TypedId k) := transOrd_ordBy str
instance : Std.LawfulEqOrd (TypedId k) := lawfulEqOrd_ordBy str_injective

instance : SerializeSome (TypedId k) where
  toJson i := .str i.str
  toJson_injective := by
    intro a b h
    exact str_injective (Json.str.inj h)

instance : SerializeKey (TypedId k) where
  keyText i := i.str
  keyText_injective := str_injective

end TypedId

/-! ## Sealed digests -/

inductive DigestKind where
  | metricCatalog
  | robustEvaluationPolicy
  | observationSet
  | independenceDesign
  | pairedEvaluation
  | candidateGatePolicy
  | candidateGate
  | petfcTrajectory
  | petfcPolicy
  | petfcAssessment
  | canaryPolicy
  | canaryState
  deriving DecidableEq

structure SealedDigest (k : DigestKind) where
  raw : Sha256Digest
  deriving DecidableEq

abbrev MetricCatalogDigest := SealedDigest .metricCatalog
abbrev RobustEvaluationPolicyDigest := SealedDigest .robustEvaluationPolicy
abbrev ObservationSetDigest := SealedDigest .observationSet
abbrev IndependenceDesignDigest := SealedDigest .independenceDesign
abbrev PairedEvaluationDigest := SealedDigest .pairedEvaluation
abbrev CandidateGatePolicyDigest := SealedDigest .candidateGatePolicy
abbrev CandidateGateDigest := SealedDigest .candidateGate
abbrev PetfcTrajectoryDigest := SealedDigest .petfcTrajectory
abbrev PetfcPolicyDigest := SealedDigest .petfcPolicy
abbrev PetfcAssessmentDigest := SealedDigest .petfcAssessment
abbrev CanaryPolicyDigest := SealedDigest .canaryPolicy
abbrev CanaryStateDigest := SealedDigest .canaryState

namespace SealedDigest

variable {k : DigestKind}

lemma raw_injective : Function.Injective (raw (k := k)) := by
  intro a b h
  cases a
  cases b
  cases h
  rfl

instance : Ord (SealedDigest k) := ordBy raw
instance : Std.TransOrd (SealedDigest k) := transOrd_ordBy raw

instance : SerializeSome (SealedDigest k) where
  toJson d := toJson d.raw
  toJson_injective := Serialize.toJson_injective.comp raw_injective
  toJson_ne_null d := SerializeSome.toJson_ne_null d.raw

def fromProjection [Platform] (k : DigestKind) (domain : String) (projection : Json) :
    SealedDigest k :=
  ⟨Sha256Digest.digestDomain domain projection.toBytes⟩

end SealedDigest

def reportDomain : String := "TIDEX:PAIRED-EVALUATION:v1\x00"
def gateDomain : String := "TIDEX:CANDIDATE-GATE:v1\x00"
def metricCatalogDomain : String := "TIDEX:METRIC-CATALOG:v1\x00"
def gatePolicyDomain : String := "TIDEX:CANDIDATE-GATE-POLICY:v1\x00"
def petfcTrajectoryDomain : String := "TIDEX:PETFC-TRAJECTORY:v1\x00"
def petfcAssessmentDomain : String := "TIDEX:PETFC-ASSESSMENT:v1\x00"
def canaryPolicyDomain : String := "TIDEX:CANARY-POLICY:v1\x00"
def canaryStateDomain : String := "TIDEX:CANARY-STATE:v1\x00"
def canaryBucketDomain : String := "TIDEX:CANARY-BUCKET:v1\x00"

/-! ## Metrics -/

inductive MetricDirection where
  | maximize
  | minimize
  deriving DecidableEq

def MetricDirection.wire : MetricDirection → String
  | .maximize => "maximize"
  | .minimize => "minimize"

instance : Serialize MetricDirection := serializeName MetricDirection.wire

/-- A value turned so that more is better. -/
def MetricDirection.orient (d : MetricDirection) (value : F64) : F64 :=
  match d with
  | .maximize => value
  | .minimize => -value

/-- A bound that no admissible value breaks. -/
inductive HardInvariant where
  | atLeast (threshold : FiniteF64)
  | atMost (threshold : FiniteF64)
  | within (minimum maximum : FiniteF64)
  deriving DecidableEq

instance : SerializeSome HardInvariant where
  toJson
    | .atLeast threshold => .obj [("kind", .str "at_least"), ("threshold", toJson threshold)]
    | .atMost threshold => .obj [("kind", .str "at_most"), ("threshold", toJson threshold)]
    | .within minimum maximum =>
      .obj [("kind", .str "within"), ("minimum", toJson minimum), ("maximum", toJson maximum)]
  toJson_ne_null := by
    intro a h
    cases a <;> cases h

inductive InvariantIntervalStatus where
  | established
  | provenViolation
  | notEstablished
  deriving DecidableEq

namespace HardInvariant

def validate : HardInvariant → BrainResult Unit
  | .within minimum maximum =>
    failIf (maximum.get.lt? minimum.get = true) (invalid "governance_invariant_interval_invalid")
  | _ => .ok ()

def classifyInterval (i : HardInvariant) (lower upper : F64) : InvariantIntervalStatus :=
  match i with
  | .atLeast threshold =>
    if upper.lt? threshold.get then .provenViolation
    else if threshold.get.le? lower then .established
    else .notEstablished
  | .atMost threshold =>
    if threshold.get.lt? lower then .provenViolation
    else if upper.le? threshold.get then .established
    else .notEstablished
  | .within minimum maximum =>
    if upper.lt? minimum.get then .provenViolation
    else if maximum.get.lt? lower then .provenViolation
    else if minimum.get.le? lower && upper.le? maximum.get then .established
    else .notEstablished

end HardInvariant

structure MetricSpec where
  metricId : MetricId
  direction : MetricDirection
  hardInvariant : Option HardInvariant
  deriving DecidableEq

instance : Serialize MetricSpec where
  toJson s := .obj [("metric_id", toJson s.metricId), ("direction", toJson s.direction),
    ("hard_invariant", toJson s.hardInvariant)]

abbrev MetricCatalog := BTreeMap MetricId MetricSpec

def insertSpec (result : MetricCatalog) (spec : MetricSpec) : BrainResult MetricCatalog := do
  spec.hardInvariant.forM HardInvariant.validate
  failIf (spec.metricId ∈ result) (invalid "governance_metric_id_duplicate")
  return result.insert spec.metricId spec

def canonicalSpecs (specs : List MetricSpec) : BrainResult MetricCatalog := do
  failIf (specs.isEmpty ∨ specs.length > maxMetrics)
    (invalid "governance_metric_catalog_size_invalid")
  specs.foldlM insertSpec ∅

def metricCatalogDigest [Platform] (catalog : MetricCatalog) : MetricCatalogDigest :=
  .fromProjection _ metricCatalogDomain (toJson catalog)

/-! ## Observation windows -/

/-- An interval of ticks. -/
structure ObservationWindow where
  startTick : Nat
  endTick : Nat
  start_le : startTick ≤ endTick
  deriving DecidableEq

namespace ObservationWindow

def new (startTick endTick : Nat) : BrainResult ObservationWindow :=
  if h : startTick ≤ endTick then .ok ⟨startTick, endTick, h⟩
  else .error (invalid "governance_observation_window_invalid")

@[simp] lemma new_ok {startTick endTick : Nat} {w : ObservationWindow} :
    new startTick endTick = .ok w ↔ w.startTick = startTick ∧ w.endTick = endTick := by
  unfold new
  split
  · next h =>
    constructor
    · intro hw
      cases hw
      exact ⟨rfl, rfl⟩
    · intro hw
      obtain ⟨rfl, rfl⟩ := hw
      rfl
  · next h =>
    constructor
    · intro hw
      cases hw
    · intro hw
      obtain ⟨rfl, rfl⟩ := hw
      exact absurd w.start_le h

instance : Serialize ObservationWindow where
  toJson w := .obj [("start_tick", toJson w.startTick), ("end_tick", toJson w.endTick)]

end ObservationWindow

/-! ## Paired evaluation reports -/

structure PairedMetricEstimate where
  metricId : MetricId
  independentGroups : Nat
  pairedCount : Nat
  baselineCenter : FiniteF64
  candidateCenter : FiniteF64
  pairedEffect : FiniteF64
  baselineObservedRadius : Option FiniteF64
  candidateObservedRadius : Option FiniteF64
  pairedEffectObservedRadius : Option FiniteF64
  deriving DecidableEq

instance : Serialize PairedMetricEstimate where
  toJson e := .obj [("metric_id", toJson e.metricId),
    ("independent_groups", toJson e.independentGroups), ("paired_count", toJson e.pairedCount),
    ("baseline_center", toJson e.baselineCenter), ("candidate_center", toJson e.candidateCenter),
    ("paired_effect", toJson e.pairedEffect),
    ("baseline_observed_radius", toJson e.baselineObservedRadius),
    ("candidate_observed_radius", toJson e.candidateObservedRadius),
    ("paired_effect_observed_radius", toJson e.pairedEffectObservedRadius)]

structure PairedEvaluationReport where
  baselineId : VariantId
  candidateId : VariantId
  metricCatalogDigest : MetricCatalogDigest
  evaluationPolicyDigest : RobustEvaluationPolicyDigest
  observationSetDigest : ObservationSetDigest
  independenceDesignDigest : IndependenceDesignDigest
  estimates : BTreeMap MetricId PairedMetricEstimate
  pairIds : BTreeSet PairId
  evidenceIds : BTreeSet EvidenceId
  observationWindow : ObservationWindow
  observationCount : Nat
  independentGroupCount : Nat
  minimumRequiredGroups : Nat
  evidenceSufficient : Bool
  reportDigest : PairedEvaluationDigest

namespace PairedEvaluationReport

def projection (r : PairedEvaluationReport) : Json :=
  .obj [("baseline_id", toJson r.baselineId), ("candidate_id", toJson r.candidateId),
    ("metric_catalog_digest", toJson r.metricCatalogDigest),
    ("evaluation_policy_digest", toJson r.evaluationPolicyDigest),
    ("observation_set_digest", toJson r.observationSetDigest),
    ("independence_design_digest", toJson r.independenceDesignDigest),
    ("estimates", toJson r.estimates), ("pair_ids", toJson r.pairIds),
    ("evidence_ids", toJson r.evidenceIds), ("observation_window", toJson r.observationWindow),
    ("observation_count", toJson r.observationCount),
    ("independent_group_count", toJson r.independentGroupCount),
    ("minimum_required_groups", toJson r.minimumRequiredGroups),
    ("evidence_sufficient", toJson r.evidenceSufficient)]

def authenticate [Platform] (r : PairedEvaluationReport) : BrainResult Unit :=
  failIf (SealedDigest.fromProjection _ reportDomain r.projection ≠ r.reportDigest)
    (integrity "governance_report_digest_mismatch")

end PairedEvaluationReport

end Tidex.Governance
