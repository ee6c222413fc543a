/-
  Learning.Retrieval — advice from the records of a procedural memory.

  A query names a scope, a problem and a revision.
-/
import Tidex.Learning.Memory

namespace Tidex.Learning

open Tidex.Lib Sha256Digest BTreeMap

/-- The exponential and the natural logarithm of the platform, whose last digits the
    language leaves open. -/
class Elementary where
  exp : F64 → F64
  ln : F64 → F64

/-! ## Numbers -/

def decimal (n d : Nat) : F64 := F64.round false (n * F64.unit) d

def epsilon : F64 := F64.ofParts false 0x3cb0000000000000

def one : F64 := F64.ofNat 1
def two : F64 := F64.ofNat 2
def positiveZero : F64 := F64.zero false

/-- The smaller of two numbers, or the one that is a number. -/
def minimum (x y : F64) : F64 :=
  if x.isNaN then y else if y.isNaN then x else if y.lt? x then y else x

/-! ## Queries -/

/-- What historical records are interpreted with. -/
structure RetrievalPolicyProjection where
  schema : ProceduralSchema
  version : Nat
  rowWeight : FiniteF64
  columnWeight : FiniteF64
  rankWeight : FiniteF64
  conditionWeight : FiniteF64
  outlierWeight : FiniteF64
  sparsityWeight : FiniteF64
  noiseWeight : FiniteF64
  precisionWeight : FiniteF64
  structureWeight : FiniteF64
  evidenceRepetitionScale : FiniteF64
  confidenceScale : FiniteF64
  positiveThreshold : FiniteF64
  negativeThreshold : FiniteF64
  singleGroupConfidenceCap : FiniteF64
  negativeAdviceNeverBlocks : Bool
  deriving DecidableEq

instance : Serialize RetrievalPolicyProjection where
  toJson p := .obj [("schema", toJson p.schema), ("version", toJson p.version),
    ("row_weight", toJson p.rowWeight), ("column_weight", toJson p.columnWeight),
    ("rank_weight", toJson p.rankWeight), ("condition_weight", toJson p.conditionWeight),
    ("outlier_weight", toJson p.outlierWeight), ("sparsity_weight", toJson p.sparsityWeight),
    ("noise_weight", toJson p.noiseWeight), ("precision_weight", toJson p.precisionWeight),
    ("structure_weight", toJson p.structureWeight),
    ("evidence_repetition_scale", toJson p.evidenceRepetitionScale),
    ("confidence_scale", toJson p.confidenceScale),
    ("positive_threshold", toJson p.positiveThreshold),
    ("negative_threshold", toJson p.negativeThreshold),
    ("single_group_confidence_cap", toJson p.singleGroupConfidenceCap),
    ("negative_advice_never_blocks", toJson p.negativeAdviceNeverBlocks)]

def retrievalPolicyDomain : String := "TIDEX:PROCEDURAL-RETRIEVAL-POLICY:v4\x00"

/-- A policy under the digest of its coefficients. -/
structure ProceduralRetrievalPolicy where
  projection : RetrievalPolicyProjection
  digest : Sha256Digest
  deriving DecidableEq

/-- Whether a problem other than the queried one may be advised from. -/
inductive ProblemTransferPolicy where
  | exactOnly
  | featureBounded (minimumSimilarity : FiniteF64)

structure RetrievalScope where
  isolation : IsolationKey
  problemDigest : Sha256Digest

structure RetrievalQuery where
  scope : RetrievalScope
  applicability : Applicability
  currentRevision : Nat
  transferPolicy : ProblemTransferPolicy
  maxResults : Nat
  retrievalPolicy : ProceduralRetrievalPolicy

def ProceduralRetrievalPolicy.current [Platform] : BrainResult ProceduralRetrievalPolicy := do
  let projection : RetrievalPolicyProjection := {
    schema := .current
    version := 4
    rowWeight := ← FiniteF64.new (decimal 12 100)
    columnWeight := ← FiniteF64.new (decimal 12 100)
    rankWeight := ← FiniteF64.new (decimal 16 100)
    conditionWeight := ← FiniteF64.new (decimal 16 100)
    outlierWeight := ← FiniteF64.new (decimal 10 100)
    sparsityWeight := ← FiniteF64.new (decimal 10 100)
    noiseWeight := ← FiniteF64.new (decimal 8 100)
    precisionWeight := ← FiniteF64.new (decimal 8 100)
    structureWeight := ← FiniteF64.new (decimal 8 100)
    evidenceRepetitionScale := ← FiniteF64.new (decimal 8 1)
    confidenceScale := ← FiniteF64.new (decimal 3 1)
    positiveThreshold := ← FiniteF64.new (decimal 15 100)
    negativeThreshold := ← FiniteF64.new (-decimal 15 100)
    singleGroupConfidenceCap := ← FiniteF64.new (decimal 35 100)
    negativeAdviceNeverBlocks := true }
  return ⟨projection, digestDomain retrievalPolicyDomain (toVec projection)⟩

def ProceduralRetrievalPolicy.validate [Platform] (p : ProceduralRetrievalPolicy) :
    BrainResult Unit := do
  let expected ← current
  failIf (p ≠ expected) (integrity "procedural_retrieval_policy_not_current")

def ProblemTransferPolicy.validate : ProblemTransferPolicy → BrainResult Unit
  | .exactOnly => .ok ()
  | .featureBounded minimumSimilarity =>
    failIf (unitInterval minimumSimilarity = false
        ∨ F64.eq? minimumSimilarity.get positiveZero = true
        ∨ isCanonicalFinite minimumSimilarity = false)
      (invalid "procedural_transfer_similarity_invalid")

def RetrievalQuery.validate [Platform] (q : RetrievalQuery) : BrainResult Unit := do
  q.applicability.validate
  q.transferPolicy.validate
  q.retrievalPolicy.validate
  failIf (q.currentRevision = 0 ∨ q.maxResults = 0 ∨ q.maxResults > maxAdviceResults
      ∨ isZeroDigest q.scope.problemDigest)
    (invalid "procedural_retrieval_query_invalid")

/-! ## Similarity -/

section

variable [Elementary]

def logarithmicRatio (left right : Nat) : F64 :=
  Elementary.exp (-(Elementary.ln (F64.ofNat left) - Elementary.ln (F64.ofNat right)).abs / two)

def ratioSimilarity (leftNumerator leftDenominator rightNumerator rightDenominator : Nat) :
    F64 :=
  let left := F64.ofNat leftNumerator / F64.ofNat leftDenominator
  let right := F64.ofNat rightNumerator / F64.ofNat rightDenominator
  (one - (left - right).abs).clamp positiveZero one

/-- A fraction that both sides measured adds its part. -/
def addOptionalUnitSimilarity (weightedScore weight : F64) (left right : Option FiniteF64) :
    F64 :=
  match left, right with
  | some left, some right => weightedScore + weight * (one - (left.get - right.get).abs)
  | _, _ => weightedScore

def sameScore (same : Bool) : F64 := if same then one else positiveZero

/-- What two contexts have in common; a missing measurement earns nothing. -/
def weightedScore (left right : Applicability) (p : RetrievalPolicyProjection) : F64 :=
  let rowScore := logarithmicRatio left.dimensions.rows right.dimensions.rows
  let columnScore := logarithmicRatio left.dimensions.columns right.dimensions.columns
  let precisionScore := sameScore (left.profile.precision == right.profile.precision)
  let structureScore := sameScore (left.profile.structure_ == right.profile.structure_)
  let score := p.rowWeight.get * rowScore + p.columnWeight.get * columnScore
    + p.precisionWeight.get * precisionScore + p.structureWeight.get * structureScore
  let score :=
    match left.dimensions.estimatedEffectiveRank, right.dimensions.estimatedEffectiveRank with
    | some leftRank, some rightRank =>
      score + p.rankWeight.get * ratioSimilarity
        leftRank (min left.dimensions.rows left.dimensions.columns)
        rightRank (min right.dimensions.rows right.dimensions.columns)
    | _, _ => score
  let score :=
    match left.statistics.log10Condition, right.statistics.log10Condition with
    | some leftCondition, some rightCondition =>
      score + p.conditionWeight.get
        * Elementary.exp (-(leftCondition.get - rightCondition.get).abs / two)
    | _, _ => score
  let score := addOptionalUnitSimilarity score p.outlierWeight.get
    left.statistics.outlierFraction right.statistics.outlierFraction
  let score := addOptionalUnitSimilarity score p.sparsityWeight.get
    left.statistics.observedSparsity right.statistics.observedSparsity
  addOptionalUnitSimilarity score p.noiseWeight.get
    left.statistics.noiseFraction right.statistics.noiseFraction

def applicabilitySimilarity (left right : Applicability) (policy : ProceduralRetrievalPolicy) :
    BrainResult F64 := do
  left.validate
  right.validate
  let p := policy.projection
  match left.profile.executionSemantics == right.profile.executionSemantics with
  | false => return positiveZero
  | true =>
    let score := weightedScore left right p
    let totalWeight := p.rowWeight.get + p.columnWeight.get + p.rankWeight.get
      + p.conditionWeight.get + p.outlierWeight.get + p.sparsityWeight.get + p.noiseWeight.get
      + p.precisionWeight.get + p.structureWeight.get
    failIf (totalWeight.le? positiveZero = true ∨ score.isFinite = false)
      (.numerical "procedural_similarity_weight_invalid")
    return (score / totalWeight).clamp positiveZero one

end

/-! ## What an attempt contributes -/

def FailureSeverity.penalty : FailureSeverity → F64
  | .recoverable => decimal 55 100
  | .serious => decimal 8 10
  | .hardInvariant => one

/-- The utility of an attempt that advanced, by its residual. -/
def OutcomeMetrics.positiveUtility (m : OutcomeMetrics) : Option F64 :=
  match m.independentGateAdvanced, m.solverRelativeResidual with
  | some true, some residual => some (one / (one + residual.get))
  | _, _ => none

inductive ContributionEvidence where
  | researchValidation
  | solverRejection

/-- What an attempt adds to the advice on its configuration. -/
structure Contribution where
  attemptDigest : Sha256Digest
  revision : Nat
  exactProblem : Bool
  similarity : F64
  evidenceStrength : F64
  independentGroupCount : Nat
  evidenceSource : ContributionEvidence
  status : AttemptStatus
  positiveUtility : F64
  failurePenalty : F64
  correction : Option CorrectionKind

/-- A contribution, with the configuration and the design it counts under. -/
structure Weighing where
  configurationDigest : Sha256Digest
  configuration : SolverConfiguration
  evidenceDesign : Sha256Digest
  contribution : Contribution

/-- What became of an attempt in scope. -/
inductive Verdict where
  | applicabilityFiltered
  | driftFiltered
  | evidenceFiltered
  | weighed (w : Weighing)

/-- The design, strength and source of the evidence of an attempt. -/
structure EvidenceBasis where
  design : Sha256Digest
  strength : F64
  independentGroupCount : Nat
  source : ContributionEvidence

def SolverConfiguration.digest [Platform] (c : SolverConfiguration) :
    BrainResult Sha256Digest := do
  c.validate
  return digestDomain configurationDomain (toVec c)

namespace RetrievalQuery

variable [Platform] [Elementary]

def exactProblem (q : RetrievalQuery) (a : SolverAttempt) : Bool :=
  a.bindings.solver.problemDigest == q.scope.problemDigest

def evidenceBasis (q : RetrievalQuery) (a : SolverAttempt) : Option EvidenceBasis :=
  match a.researchValidation, a.solverRejectionReceipt, q.exactProblem a with
  | some evaluation, none, _ => some {
      design := evaluation.evaluationDesignDigest
      strength := one - Elementary.exp (-F64.ofNat evaluation.independentGroupCount
        / q.retrievalPolicy.projection.evidenceRepetitionScale.get)
      independentGroupCount := evaluation.independentGroupCount
      source := .researchValidation }
  | none, some receipt, true => some {
      design := digestDomain evaluationDesignDomain receipt.hex.toByteArray
      strength := one / two
      independentGroupCount := 0
      source := .solverRejection }
  | _, _, _ => none

/-- How alike the problem of an attempt is, if it is alike enough. -/
def similarity (q : RetrievalQuery) (a : SolverAttempt) : BrainResult (Option F64) :=
  match q.exactProblem a with
  | true => return some one
  | false =>
    match q.transferPolicy with
    | .exactOnly => return none
    | .featureBounded minimumSimilarity => do
      let similarity ← applicabilitySimilarity a.applicability q.applicability q.retrievalPolicy
      match similarity.lt? minimumSimilarity.get with
      | true => return none
      | false => return some similarity

def utility (a : SolverAttempt) : BrainResult F64 :=
  match a.outcome.status with
  | .validated =>
    okOr a.outcome.metrics.positiveUtility (integrity "procedural_validated_metrics_incomplete")
  | .rejected | .failed | .inconclusive => return positiveZero

def weighing (q : RetrievalQuery) (a : SolverAttempt) (basis : EvidenceBasis)
    (similarity : F64) : BrainResult Weighing := do
  let configurationDigest ← a.configuration.digest
  let positiveUtility ← utility a
  return {
    configurationDigest
    configuration := a.configuration
    evidenceDesign := basis.design
    contribution := {
      attemptDigest := a.attemptDigest
      revision := a.observedRevision
      exactProblem := q.exactProblem a
      similarity
      evidenceStrength := basis.strength
      independentGroupCount := basis.independentGroupCount
      evidenceSource := basis.source
      status := a.outcome.status
      positiveUtility
      failurePenalty := (a.outcome.failure.map (·.severity.penalty)).getD positiveZero
      correction := a.outcome.correction.bind fun correction =>
        if correction.status ≠ .refuted then some correction.kind else none } }

def judgeAttempt (q : RetrievalQuery) (a : SolverAttempt) : BrainResult Verdict :=
  if a.configuration.family = .externalProposal then return .evidenceFiltered
  else if a.outcome.status = .inconclusive then return .evidenceFiltered
  else
    match q.evidenceBasis a with
    | none => return .evidenceFiltered
    | some basis => do
      match ← q.similarity a with
      | none => return .applicabilityFiltered
      | some similarity => return .weighed (← q.weighing a basis similarity)

lemma judgeAttempt_weighed {q : RetrievalQuery} {a : SolverAttempt} {basis : EvidenceBasis}
    {s : F64} {w : Weighing} (hfamily : a.configuration.family ≠ .externalProposal)
    (hstatus : a.outcome.status ≠ .inconclusive) (hbasis : q.evidenceBasis a = some basis)
    (hsimilarity : q.similarity a = .ok (some s)) (hweighing : q.weighing a basis s = .ok w) :
    q.judgeAttempt a = .ok (.weighed w) := by
  rw [judgeAttempt, if_neg hfamily, if_neg hstatus, hbasis]
  simp only [hsimilarity, hweighing, ok_bind]
  rfl

end RetrievalQuery

/-! ## Advice -/

/-- What was weighed under one configuration, one contribution a design. -/
structure AdviceAccumulator where
  configuration : Option SolverConfiguration
  contributions : BTreeMap Sha256Digest Contribution

/-- A later contribution replaces an earlier one, and of two at one revision the one with
    the smaller digest stays. -/
def Contribution.replaces (c : Contribution) : Option Contribution → Bool
  | none => true
  | some existing =>
    existing.revision < c.revision
      || (c.revision == existing.revision && compare c.attemptDigest existing.attemptDigest == .lt)

def AdviceAccumulator.add (acc : AdviceAccumulator) (w : Weighing) : AdviceAccumulator where
  configuration := acc.configuration.or (some w.configuration)
  contributions :=
    if w.contribution.replaces acc.contributions[w.evidenceDesign]? then
      acc.contributions.insert w.evidenceDesign w.contribution
    else acc.contributions

inductive AdviceDisposition where
  | prioritizeExploration
  | observeAsControl
  | deprioritizeButRetainControl

inductive AdviceReason where
  | exactProblemEvidence
  | boundedFeatureTransfer
  | researchValidatedOutcome
  | researchNegativeOutcome
  | solverRejectedCandidate
  | correctionObserved
  | distinctResearchGroups

instance : Ord AdviceReason := ordBy AdviceReason.ctorIdx
instance : Std.TransOrd AdviceReason := transOrd_ordBy AdviceReason.ctorIdx
instance : Ord CorrectionKind := ordBy CorrectionKind.ctorIdx
instance : Std.TransOrd CorrectionKind := transOrd_ordBy CorrectionKind.ctorIdx

structure AdviceExplanation where
  conservativelyCountedIndependentGroups : Nat
  validatedAttempts : Nat
  negativeAttempts : Nat
  meanContextSimilarity : FiniteF64
  positiveWeight : FiniteF64
  negativeWeight : FiniteF64
  reasons : BTreeSet AdviceReason
  suggestedCorrections : BTreeSet CorrectionKind

structure ProceduralAdvice where
  retrievalPolicyDigest : Sha256Digest
  configurationDigest : Sha256Digest
  configuration : SolverConfiguration
  disposition : AdviceDisposition
  priorityScore : FiniteF64
  confidence : FiniteF64
  explanation : AdviceExplanation

/-- The sums over the contributions of a configuration. -/
structure AdviceSums where
  positiveWeight : F64
  negativeWeight : F64
  utilitySum : F64
  similaritySum : F64
  validatedAttempts : Nat
  negativeAttempts : Nat
  exactCount : Nat
  conservativeGroupCount : Nat
  confidenceEvidence : F64
  reasons : BTreeSet AdviceReason
  corrections : BTreeSet CorrectionKind

def AdviceSums.start : AdviceSums where
  positiveWeight := positiveZero
  negativeWeight := positiveZero
  utilitySum := positiveZero
  similaritySum := positiveZero
  validatedAttempts := 0
  negativeAttempts := 0
  exactCount := 0
  conservativeGroupCount := 0
  confidenceEvidence := positiveZero
  reasons := ∅
  corrections := ∅

def AdviceSums.addContext (s : AdviceSums) (c : Contribution) : AdviceSums :=
  let confidenceUnits :=
    match c.evidenceSource with
    | .researchValidation => F64.ofNat c.independentGroupCount
    | .solverRejection => one
  { s with
    conservativeGroupCount := max s.conservativeGroupCount c.independentGroupCount
    confidenceEvidence := s.confidenceEvidence.max (c.similarity * confidenceUnits)
    similaritySum := s.similaritySum + c.similarity
    exactCount := if c.exactProblem then s.exactCount + 1 else s.exactCount }

def AdviceSums.addOutcome (s : AdviceSums) (c : Contribution) : AdviceSums :=
  let weight := c.similarity * c.evidenceStrength
  match c.status with
  | .validated =>
    { s with
      validatedAttempts := s.validatedAttempts + 1
      positiveWeight := s.positiveWeight + weight
      utilitySum := s.utilitySum + weight * c.positiveUtility
      reasons := s.reasons.insert .researchValidatedOutcome }
  | .rejected | .failed =>
    { s with
      negativeAttempts := s.negativeAttempts + 1
      negativeWeight := s.negativeWeight + weight
      utilitySum := s.utilitySum - weight * c.failurePenalty
      reasons := s.reasons.insert
        (match c.evidenceSource with
        | .researchValidation => .researchNegativeOutcome
        | .solverRejection => .solverRejectedCandidate) }
  | .inconclusive => s

def AdviceSums.addCorrection (s : AdviceSums) (c : Contribution) : AdviceSums :=
  match c.correction with
  | some correction =>
    { s with
      corrections := s.corrections.insert correction
      reasons := s.reasons.insert .correctionObserved }
  | none => s

def AdviceSums.add (s : AdviceSums) (c : Contribution) : AdviceSums :=
  ((s.addContext c).addOutcome c).addCorrection c

def AdviceSums.allReasons (s : AdviceSums) (contributions : Nat) : BTreeSet AdviceReason :=
  let reasons := if s.exactCount > 0 then s.reasons.insert .exactProblemEvidence else s.reasons
  let reasons :=
    if s.exactCount < contributions then reasons.insert .boundedFeatureTransfer else reasons
  if s.conservativeGroupCount ≥ 2 then reasons.insert .distinctResearchGroups else reasons

def AdviceSums.confidence [Elementary] (s : AdviceSums) (p : RetrievalPolicyProjection) : F64 :=
  let confidence := (one - Elementary.exp (-s.confidenceEvidence / p.confidenceScale.get)).clamp
    positiveZero one
  if s.conservativeGroupCount ≤ 1 then minimum confidence p.singleGroupConfidenceCap.get
  else confidence

def AdviceSums.signedEvidence (s : AdviceSums) : F64 :=
  (s.utilitySum / (s.positiveWeight + s.negativeWeight)).clamp (-one) one

def AdviceSums.disposition (s : AdviceSums) (p : RetrievalPolicyProjection) :
    AdviceDisposition :=
  if s.negativeAttempts = 0 ∧ p.positiveThreshold.get.lt? s.signedEvidence = true then
    .prioritizeExploration
  else if s.signedEvidence.lt? p.negativeThreshold.get = true then .deprioritizeButRetainControl
  else .observeAsControl

def AdviceSums.priorityScore [Elementary] (s : AdviceSums) (p : RetrievalPolicyProjection) :
    F64 :=
  ((s.signedEvidence + one) * decimal 5 10 * s.confidence p).clamp positiveZero one

/-- The advice on a configuration, if anything was weighed. -/
def advise [Elementary] (q : RetrievalQuery) (entry : Sha256Digest × AdviceAccumulator) :
    BrainResult (Option ProceduralAdvice) :=
  let accumulator := entry.2
  match accumulator.configuration with
  | none => return none
  | some configuration =>
    let p := q.retrievalPolicy.projection
    let groupCount := accumulator.contributions.size
    let sums := (values accumulator.contributions).foldl AdviceSums.add .start
    let totalWeight := sums.positiveWeight + sums.negativeWeight
    match totalWeight.le? epsilon with
    | true => return none
    | false => do
      return some {
        retrievalPolicyDigest := q.retrievalPolicy.digest
        configurationDigest := entry.1
        configuration
        disposition := sums.disposition p
        priorityScore := ← FiniteF64.new (sums.priorityScore p)
        confidence := ← FiniteF64.new (sums.confidence p)
        explanation := {
          conservativelyCountedIndependentGroups := sums.conservativeGroupCount
          validatedAttempts := sums.validatedAttempts
          negativeAttempts := sums.negativeAttempts
          meanContextSimilarity := ← FiniteF64.new (sums.similaritySum / F64.ofNat groupCount)
          positiveWeight := ← FiniteF64.new sums.positiveWeight
          negativeWeight := ← FiniteF64.new sums.negativeWeight
          reasons := sums.allReasons groupCount
          suggestedCorrections := sums.corrections } }

lemma advise_some [Elementary] {q : RetrievalQuery} {entry : Sha256Digest × AdviceAccumulator}
    (configuration : SolverConfiguration) (sums : AdviceSums)
    (hconfiguration : entry.2.configuration = some configuration)
    (hsums : (values entry.2.contributions).foldl AdviceSums.add .start = sums)
    (hweight : (sums.positiveWeight + sums.negativeWeight).le? epsilon = false)
    (hpriority : (sums.priorityScore q.retrievalPolicy.projection).isFinite = true)
    (hconfidence : (sums.confidence q.retrievalPolicy.projection).isFinite = true) (hsimilarity :
      (sums.similaritySum / F64.ofNat entry.2.contributions.size).isFinite = true)
    (hpositive : sums.positiveWeight.isFinite = true)
    (hnegative : sums.negativeWeight.isFinite = true) :
    ∃ advice, advise q entry = .ok (some advice) := by
  have hnew : ∀ {x : F64} (h : x.isFinite = true), FiniteF64.new x = .ok ⟨x, h⟩ := by
    intro x h
    exact FiniteF64.new_ok.mpr rfl
  simp only [advise, hconfiguration, hsums, hweight, hnew hpriority, hnew hconfidence,
    hnew hsimilarity, hnew hpositive, hnew hnegative, ok_bind]
  exact ⟨_, rfl⟩

/-! ## Retrieval -/

structure SolverRunCaution where
  runReceiptDigest : Sha256Digest
  observedRevision : Nat
  outcome : SolverRunFailureOutcome
  disposition : AdviceDisposition

structure RetrievalReport where
  advice : List ProceduralAdvice
  solverRunCautions : List SolverRunCaution
  consideredRecords : Nat
  scopeFilteredRecords : Nat
  evidenceFilteredRecords : Nat
  driftFilteredRecords : Nat
  applicabilityFilteredRecords : Nat
  solverRunFailureFilteredRecords : Nat

def SolverRunFailureRecord.isolation (f : SolverRunFailureRecord) : IsolationKey where
  systemEnvelopeDigest := f.capability.systemEnvelopeDigest
  capabilityId := f.capability.capabilityId
  capabilityIrDigest := f.capability.capabilityIrDigest
  baseArtifactDigest := f.capability.baseArtifactDigest
  targetProfileDigest := f.capability.targetProfileDigest
  solverPolicyDigest := f.solverPolicyDigest

def RetrievalQuery.caution (q : RetrievalQuery) (f : SolverRunFailureRecord) :
    Option SolverRunCaution :=
  if f.isolation ≠ q.scope.isolation ∨ f.problemDigest ≠ q.scope.problemDigest
      ∨ f.observedRevision > q.currentRevision then none
  else some {
    runReceiptDigest := f.runReceiptDigest
    observedRevision := f.observedRevision
    outcome := f.outcome
    disposition :=
      match f.outcome with
      | .rejected _ => .deprioritizeButRetainControl
      | .boundedUnknown _ => .observeAsControl }

def cautionOrder (left right : SolverRunCaution) : Bool :=
  ((compare right.observedRevision left.observedRevision).then
    (compare left.runReceiptDigest right.runReceiptDigest)).isLE

/-- Highest priority first, and by configuration. -/
def adviceOrder (left right : ProceduralAdvice) : Bool :=
  ((compare right.priorityScore.get.totalKey left.priorityScore.get.totalKey).then
    (compare left.configurationDigest right.configurationDigest)).isLE

/-- The counts of a retrieval and what it weighed. -/
structure Tally where
  consideredRecords : Nat
  evidenceFilteredRecords : Nat
  driftFilteredRecords : Nat
  applicabilityFilteredRecords : Nat
  accumulators : BTreeMap Sha256Digest AdviceAccumulator

def Tally.start : Tally := ⟨0, 0, 0, 0, ∅⟩

/-- Enter a weighing under its configuration. -/
def weigh (accumulators : BTreeMap Sha256Digest AdviceAccumulator) (w : Weighing) :
    BTreeMap Sha256Digest AdviceAccumulator :=
  accumulators.insert w.configurationDigest
    ((accumulators.getD w.configurationDigest ⟨none, ∅⟩).add w)

def Tally.count (t : Tally) (v : Verdict) : Tally :=
  let t := { t with consideredRecords := t.consideredRecords + 1 }
  match v with
  | .applicabilityFiltered =>
    { t with applicabilityFilteredRecords := t.applicabilityFilteredRecords + 1 }
  | .driftFiltered => { t with driftFilteredRecords := t.driftFilteredRecords + 1 }
  | .evidenceFiltered => { t with evidenceFilteredRecords := t.evidenceFilteredRecords + 1 }
  | .weighed w => { t with accumulators := weigh t.accumulators w }

namespace ProceduralMemory

def isInvalidated (m : ProceduralMemory) (a : SolverAttempt) : Bool :=
  (DriftScope.fromAttempt a).any fun driftScope =>
    (m.invalidatedThrough[driftScope]?).any fun revision => revision ≥ a.observedRevision

variable [Platform] [Elementary]

def judge (m : ProceduralMemory) (q : RetrievalQuery) (attemptId : Sha256Digest) :
    BrainResult Verdict := do
  let a ← okOr m.attempts[attemptId]? (integrity "procedural_derived_index_dangling")
  if a.observedRevision > q.currentRevision then return .applicabilityFiltered
  else if m.isInvalidated a then return .driftFiltered
  else q.judgeAttempt a

lemma judge_eq {m : ProceduralMemory} {q : RetrievalQuery} {attemptId : Sha256Digest}
    {a : SolverAttempt} (h : m.attempts[attemptId]? = some a) : m.judge q attemptId =
      if a.observedRevision > q.currentRevision then .ok .applicabilityFiltered
      else if m.isInvalidated a then .ok .driftFiltered else q.judgeAttempt a := by
  rw [judge, h]
  rfl

def considered (m : ProceduralMemory) (q : RetrievalQuery) (t : Tally)
    (attemptId : Sha256Digest) : BrainResult Tally := do
  let verdict ← m.judge q attemptId
  return t.count verdict

def retrieve (m : ProceduralMemory) (q : RetrievalQuery) : BrainResult RetrievalReport := do
  q.validate
  let cautions := (values m.solverRunFailures).filterMap q.caution
  let report : RetrievalReport := {
    advice := []
    solverRunCautions := (cautions.mergeSort cautionOrder).take q.maxResults
    consideredRecords := 0
    scopeFilteredRecords := m.attempts.size
    evidenceFilteredRecords := 0
    driftFilteredRecords := 0
    applicabilityFilteredRecords := 0
    solverRunFailureFilteredRecords := m.solverRunFailures.size - cautions.length }
  match m.attemptsByIsolation[q.scope.isolation]? with
  | none => return report
  | some attemptIds =>
    let tally ← attemptIds.toList.foldlM (m.considered q) .start
    let advice ← tally.accumulators.toList.mapM (advise q)
    return { report with
      advice := (advice.reduceOption.mergeSort adviceOrder).take q.maxResults
      consideredRecords := tally.consideredRecords
      scopeFilteredRecords := m.attempts.size - attemptIds.size
      evidenceFilteredRecords := tally.evidenceFilteredRecords
      driftFilteredRecords := tally.driftFilteredRecords
      applicabilityFilteredRecords := tally.applicabilityFilteredRecords }

end ProceduralMemory

end Tidex.Learning
