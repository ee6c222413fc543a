/-
  Capability.Capacity — sealed packages of observed donor behaviour.
-/
import Tidex.Foundation.Names
import Tidex.Foundation.Reference

namespace Tidex.Capability

open Tidex.Lib List Sha256Digest BTreeSet
open Tidex.Knowledge (isAsciiAlphanumeric)

/-! ## Labels and texts -/

def maxObservations : Nat := 4096
def maxInterventions : Nat := 4096
def maxContracts : Nat := 256
def maxObligations : Nat := 256
def maxStringBytes : Nat := 4096
def maxPriorResults : Nat := 256
def maxCandidates : Nat := 256

/-- A dotted ASCII name of at most 128 bytes. -/
def isLabel (value : String) : Bool :=
  !(value.toList.isEmpty
    || value.utf8ByteSize > 128
    || value.toList.head? == some '.'
    || !value.toList.all (fun c => isAsciiAlphanumeric c || c == '-' || c == '_' || c == '.')
    || (value.toList.splitOn '.').any List.isEmpty)

def validateLabel (value label : String) : BrainResult Unit :=
  failIf (isLabel value = false) (invalid (label ++ "_invalid"))

/-- Text that is there and not too long. -/
def isBoundedText (value : String) : Bool :=
  !(value.toList.isEmpty || value.utf8ByteSize > maxStringBytes)

def validateBoundedText (value label : String) : BrainResult Unit :=
  failIf (isBoundedText value = false) (invalid (label ++ "_invalid"))

@[simp] lemma validateLabel_ok {value label : String} {u : Unit} :
    validateLabel value label = .ok u ↔ isLabel value = true := by
  rw [validateLabel, failIf_ok, Bool.not_eq_false]

@[simp] lemma validateBoundedText_ok {value label : String} {u : Unit} :
    validateBoundedText value label = .ok u ↔ isBoundedText value = true := by
  rw [validateBoundedText, failIf_ok, Bool.not_eq_false]

/-! ## What a donor was shown and did -/

inductive AuthenticatedCapacitySchema where
  | v1

def AuthenticatedCapacitySchema.wire : AuthenticatedCapacitySchema → String
  | .v1 => "tidex.authenticated_capacity/v1"

instance : Serialize AuthenticatedCapacitySchema :=
  serializeName AuthenticatedCapacitySchema.wire

inductive DonorKind where
  | fixtureProcedureSelector
  | gpemV2Recommend
  | measuredClosedLinearMap

def DonorKind.wire : DonorKind → String
  | .fixtureProcedureSelector => "fixture_procedure_selector"
  | .gpemV2Recommend => "gpem_v2_recommend"
  | .measuredClosedLinearMap => "measured_closed_linear_map"

instance : Serialize DonorKind := serializeName DonorKind.wire

/-- Whether the evidence of a package is enough to decide on. -/
inductive PackageCompleteness where
  | sufficientForResidencyHandoff
  | insufficient
  deriving DecidableEq

def PackageCompleteness.wire : PackageCompleteness → String
  | .sufficientForResidencyHandoff => "sufficient_for_residency_handoff"
  | .insufficient => "insufficient"

instance : Serialize PackageCompleteness := serializeName PackageCompleteness.wire

inductive DonorActionKind where
  | select
  | explore
  deriving DecidableEq

def DonorActionKind.wire : DonorActionKind → String
  | .select => "select"
  | .explore => "explore"

instance : Serialize DonorActionKind := serializeName DonorActionKind.wire

/-- The outcome observed for a procedure before. -/
structure PriorProcedureResult where
  procedureId : String
  outcome : String

instance : Serialize PriorProcedureResult where
  toJson r := .obj [("procedure_id", toJson r.procedureId), ("outcome", toJson r.outcome)]

/-- What the donor was shown. -/
structure SelectorStimulus where
  context : String
  priorResults : List PriorProcedureResult
  candidateProcedures : List String

instance : Serialize SelectorStimulus where
  toJson s := .obj [("context", toJson s.context), ("prior_results", toJson s.priorResults),
    ("candidate_procedures", toJson s.candidateProcedures)]

/-- What the donor did: a selection names a procedure, an exploration none. -/
structure DonorAction where
  kind : DonorActionKind
  selectedProcedureId : Option String

instance : Serialize DonorAction where
  toJson a := .obj [("kind", toJson a.kind),
    ("selected_procedure_id", toJson a.selectedProcedureId)]

def DonorAction.verify (a : DonorAction) : BrainResult Unit :=
  match a.kind with
  | .select => do
    let id ← okOr a.selectedProcedureId (integrity "donor_action_select_missing_id")
    validateLabel id "selected_procedure_id"
  | .explore =>
    failIf (a.selectedProcedureId.isSome) (integrity "donor_action_explore_has_selection")

def SelectorStimulus.domain : String := "TIDEX:SELECTOR-STIMULUS:v1\x00"
def observationDomain : String := "TIDEX:CAPACITY-OBSERVATION:v1\x00"
def interventionDomain : String := "TIDEX:CAPACITY-INTERVENTION:v1\x00"
def packageDomain : String := "TIDEX:AUTHENTICATED-CAPACITY:v1\x00"

structure CapacityObservation where
  observationId : ObservationId
  stimulus : SelectorStimulus
  stimulusSha256 : Sha256Digest
  donorAction : DonorAction
  measuredOutcome : Option String
  observationSha256 : Sha256Digest

instance : Serialize CapacityObservation where
  toJson o := .obj [("observation_id", toJson o.observationId), ("stimulus", toJson o.stimulus),
    ("stimulus_sha256", toJson o.stimulusSha256), ("donor_action", toJson o.donorAction),
    ("measured_outcome", toJson o.measuredOutcome),
    ("observation_sha256", toJson o.observationSha256)]

inductive InterventionKind where
  | ablateBestPrior
  | coldStartPriors
  | swapTopPriorOutcomes

def InterventionKind.wire : InterventionKind → String
  | .ablateBestPrior => "ablate_best_prior"
  | .coldStartPriors => "cold_start_priors"
  | .swapTopPriorOutcomes => "swap_top_prior_outcomes"

instance : Serialize InterventionKind := serializeName InterventionKind.wire

/-- An observation made again with one thing changed. -/
structure CapacityIntervention where
  kind : InterventionKind
  baselineObservationSha256 : Sha256Digest
  intervenedObservation : CapacityObservation
  note : String
  interventionSha256 : Sha256Digest

instance : Serialize CapacityIntervention where
  toJson i := .obj [("kind", toJson i.kind),
    ("baseline_observation_sha256", toJson i.baselineObservationSha256),
    ("intervened_observation", toJson i.intervenedObservation), ("note", toJson i.note),
    ("intervention_sha256", toJson i.interventionSha256)]

inductive FunctionalContractStatus where
  | supported
  | unsupported
  | insufficientEvidence
  deriving DecidableEq

def FunctionalContractStatus.wire : FunctionalContractStatus → String
  | .supported => "supported"
  | .unsupported => "unsupported"
  | .insufficientEvidence => "insufficient_evidence"

instance : Serialize FunctionalContractStatus := serializeName FunctionalContractStatus.wire

/-- A functional predicate, its status and the observations it cites. -/
structure FunctionalContractClaim where
  claimId : String
  predicate : String
  status : FunctionalContractStatus
  supportingObservationSha256 : List Sha256Digest

instance : Serialize FunctionalContractClaim where
  toJson c := .obj [("claim_id", toJson c.claimId), ("predicate", toJson c.predicate),
    ("status", toJson c.status),
    ("supporting_observation_sha256", toJson c.supportingObservationSha256)]

/-- Where the evidence came from. -/
structure CapacityProvenance where
  acquisitionId : Option AcquisitionId
  captureReceiptSha256 : Option Sha256Digest
  donorLocator : Option String

instance : Serialize CapacityProvenance where
  toJson p := .obj [("acquisition_id", toJson p.acquisitionId),
    ("capture_receipt_sha256", toJson p.captureReceiptSha256),
    ("donor_locator", toJson p.donorLocator)]

def CapacityProvenance.verify (p : CapacityProvenance) : BrainResult Unit := do
  match p.donorLocator with
  | some locator => validateBoundedText locator "donor_locator"
  | none => .ok ()
  match p.captureReceiptSha256 with
  | some receipt =>
    failIf (receipt = zero) (integrity "capacity_provenance_capture_receipt_draft")
  | none => .ok ()

/-- The package: the evidence, the contracts, and what they amount to. -/
structure AuthenticatedCapacityPackage where
  schema : AuthenticatedCapacitySchema
  capacityKey : String
  donorKind : DonorKind
  provenance : CapacityProvenance
  observations : List CapacityObservation
  interventions : List CapacityIntervention
  contracts : List FunctionalContractClaim
  completeness : PackageCompleteness
  obligations : List String
  manifestSha256 : Sha256Digest

instance : Serialize AuthenticatedCapacityPackage where
  toJson p := .obj [("schema", toJson p.schema), ("capacity_key", toJson p.capacityKey),
    ("donor_kind", toJson p.donorKind), ("provenance", toJson p.provenance),
    ("observations", toJson p.observations), ("interventions", toJson p.interventions),
    ("contracts", toJson p.contracts), ("completeness", toJson p.completeness),
    ("obligations", toJson p.obligations), ("manifest_sha256", toJson p.manifestSha256)]

/-! ## Sealing and verifying the parts -/

section

variable [Platform]

def SelectorStimulus.canonicalDigest (s : SelectorStimulus) : Sha256Digest :=
  digestDomain SelectorStimulus.domain (toVec s)

namespace CapacityObservation

def calculateDigest (o : CapacityObservation) : Sha256Digest :=
  digestDomain observationDomain
    (toVec { o with observationSha256 := zero })

def verify (o : CapacityObservation) : BrainResult Unit := do
  o.donorAction.verify
  failIf (o.stimulus.canonicalDigest ≠ o.stimulusSha256)
    (integrity "capacity_observation_stimulus_digest_mismatch")
  failIf (o.observationSha256 = zero ∨ o.calculateDigest ≠ o.observationSha256)
    (integrity "capacity_observation_digest_mismatch")

/-- What sealing asks of a selection: that the procedure was one to choose from. -/
def validateSelection (stimulus : SelectorStimulus) (donorAction : DonorAction) :
    BrainResult Unit :=
  match donorAction.kind with
  | .select => do
    let selected ← okOr donorAction.selectedProcedureId
      (integrity "donor_action_select_missing_id")
    failIf (selected ∉ stimulus.candidateProcedures)
      (invalid "selected_procedure_not_in_candidates")
  | .explore => .ok ()

end CapacityObservation

namespace CapacityIntervention

def calculateDigest (i : CapacityIntervention) : Sha256Digest :=
  digestDomain interventionDomain
    (toVec { i with interventionSha256 := zero })

def verify (i : CapacityIntervention) : BrainResult Unit := do
  i.intervenedObservation.verify
  failIf (i.interventionSha256 = zero ∨ i.calculateDigest ≠ i.interventionSha256)
    (integrity "capacity_intervention_digest_mismatch")

end CapacityIntervention

/-! ## The package -/

def deriveCompleteness (observations : List CapacityObservation)
    (interventions : List CapacityIntervention) (contracts : List FunctionalContractClaim) :
    PackageCompleteness :=
  let hasSelect := observations.any fun item => item.donorAction.kind == .select
  let hasExplore := observations.any fun item => item.donorAction.kind == .explore
  let supported := (contracts.filter fun claim => claim.status == .supported).length
  if observations.length ≥ 2 && hasSelect && hasExplore && !interventions.isEmpty
      && supported ≥ 2 then
    .sufficientForResidencyHandoff
  else .insufficient

def packagePath (root : String) (digest : Sha256Digest) : String :=
  root ++ "/state/acquisitions/authenticated-capacity/by-sha/" ++ digest.hex ++ ".json"

namespace AuthenticatedCapacityPackage

def calculateDigest (p : AuthenticatedCapacityPackage) : Sha256Digest :=
  digestDomain packageDomain (toVec { p with manifestSha256 := zero })

def verify (p : AuthenticatedCapacityPackage) : BrainResult Unit := do
  p.provenance.verify
  failIf (p.observations.isEmpty = true) (integrity "authenticated_capacity_observations_empty")
  forM p.observations CapacityObservation.verify
  forM p.interventions CapacityIntervention.verify
  failIf (p.manifestSha256 = zero ∨ p.calculateDigest ≠ p.manifestSha256)
    (integrity "authenticated_capacity_digest_mismatch")
  failIf (deriveCompleteness p.observations p.interventions p.contracts ≠ p.completeness)
    (integrity "authenticated_capacity_completeness_mismatch")

def acceptObservation (seen : BTreeSet Sha256Digest) (o : CapacityObservation) :
    BrainResult (BTreeSet Sha256Digest) := do
  o.verify
  BTreeSet.insertOnce CapacityObservation.observationSha256
    (invalid "authenticated_capacity_observation_duplicate") seen o

def acceptIntervention (seen : BTreeSet Sha256Digest) (i : CapacityIntervention) :
    BrainResult Unit := do
  i.verify
  failIf (i.baselineObservationSha256 ∉ seen) (invalid "intervention_baseline_unknown")

def acceptContract (seen : BTreeSet Sha256Digest) (interventions : List CapacityIntervention)
    (c : FunctionalContractClaim) : BrainResult Unit := do
  validateLabel c.claimId "functional_claim_id"
  validateBoundedText c.predicate "functional_predicate"
  forM c.supportingObservationSha256 fun support =>
    failIf (support ∉ seen ∧
        ¬ ∃ i ∈ interventions, i.intervenedObservation.observationSha256 = support)
      (invalid "functional_claim_support_unknown")

/-- The package before it has a digest. -/
def draft (capacityKey : String) (donorKind : DonorKind) (provenance : CapacityProvenance)
    (observations : List CapacityObservation) (interventions : List CapacityIntervention)
    (contracts : List FunctionalContractClaim) (obligations : List String) :
    AuthenticatedCapacityPackage where
  schema := .v1
  capacityKey := capacityKey
  donorKind := donorKind
  provenance := provenance
  observations := observations
  interventions := interventions
  contracts := contracts
  completeness := deriveCompleteness observations interventions contracts
  obligations := obligations
  manifestSha256 := zero

/-- Check every part, derive the completeness, and put the package under its digest. -/
def sealed (capacityKey : String) (donorKind : DonorKind) (provenance : CapacityProvenance)
    (observations : List CapacityObservation) (interventions : List CapacityIntervention)
    (contracts : List FunctionalContractClaim) (obligations : List String) :
    BrainResult AuthenticatedCapacityPackage := do
  validateLabel capacityKey "capacity_key"
  provenance.verify
  failIf (observations.isEmpty = true ∨ observations.length > maxObservations)
    (invalid "authenticated_capacity_observations_invalid")
  failIf (interventions.length > maxInterventions)
    (invalid "authenticated_capacity_interventions_limit")
  failIf (contracts.length > maxContracts) (invalid "authenticated_capacity_contracts_limit")
  failIf (obligations.length > maxObligations)
    (invalid "authenticated_capacity_obligations_limit")
  forM obligations fun obligation => validateBoundedText obligation "capacity_obligation"
  let seen ← observations.foldlM acceptObservation ∅
  forM interventions (acceptIntervention seen)
  forM contracts (acceptContract seen interventions)
  let unsigned := draft capacityKey donorKind provenance observations interventions contracts
    obligations
  let package := { unsigned with manifestSha256 := unsigned.calculateDigest }
  package.verify
  return package

/-- Read the package that is stored under a digest. -/
def loadAndAuthenticate (root : String) (fs : PrivateRoot) (digest : Sha256Digest) :
    BrainResult AuthenticatedCapacityPackage := do
  failIf (digest = zero) (integrity "authenticated_capacity_digest_draft")
  let bytes ← fs.content (packagePath root digest)
  let package ← fromSlice AuthenticatedCapacityPackage bytes
  package.verify
  failIf (package.manifestSha256 ≠ digest)
    (integrity "authenticated_capacity_loaded_digest_mismatch")
  return package

end AuthenticatedCapacityPackage

/-! ## What the two validators accept -/

namespace AuthenticatedCapacityPackage

variable {p : AuthenticatedCapacityPackage}

lemma verify_ok : p.verify = .ok () ↔
    p.provenance.verify = .ok () ∧ p.observations.isEmpty = false ∧
      (∀ o ∈ p.observations, o.verify = .ok ()) ∧ (∀ i ∈ p.interventions, i.verify = .ok ()) ∧
      (p.manifestSha256 ≠ zero ∧ p.calculateDigest = p.manifestSha256) ∧
      deriveCompleteness p.observations p.interventions p.contracts = p.completeness := by
  rw [verify]
  simp only [seq_ok, failIf_ok, forM_ok, Bool.not_eq_true, not_or, ne_eq, not_not]

/-- Every observation of the package: those made plainly and those made under an
    intervention. -/
def everyObservation (p : AuthenticatedCapacityPackage) : List CapacityObservation :=
  p.observations ++ p.interventions.map (·.intervenedObservation)

def Observes (p : AuthenticatedCapacityPackage) (digest : Sha256Digest) : Prop :=
  ∃ o ∈ p.everyObservation, o.observationSha256 = digest

structure SealingChecks (p : AuthenticatedCapacityPackage) : Prop where
  key : isLabel p.capacityKey = true
  observations : p.observations.length ≤ maxObservations
  interventions : p.interventions.length ≤ maxInterventions
  contracts : p.contracts.length ≤ maxContracts
  obligations : p.obligations.length ≤ maxObligations
  texts : ∀ obligation ∈ p.obligations, isBoundedText obligation = true
  distinct : (p.observations.map (·.observationSha256)).Nodup
  baselines : ∀ i ∈ p.interventions,
    i.baselineObservationSha256 ∈ p.observations.map (·.observationSha256)
  claims : ∀ c ∈ p.contracts, isLabel c.claimId = true ∧ isBoundedText c.predicate = true
  cites : ∀ c ∈ p.contracts, ∀ support ∈ c.supportingObservationSha256, p.Observes support

omit [Platform] in
lemma observes_iff {digest : Sha256Digest} : p.Observes digest ↔
    digest ∈ p.observations.map (·.observationSha256) ∨
      ∃ i ∈ p.interventions, i.intervenedObservation.observationSha256 = digest := by
  simp only [Observes, everyObservation, mem_append, mem_map, or_and_right, exists_or,
    exists_exists_and_eq_and]

/-- The pass over the observations succeeds on authentic ones of distinct digests, and
    then has seen them all. -/
lemma foldlM_acceptObservation_ok {os : List CapacityObservation}
    {seen : BTreeSet Sha256Digest} : os.foldlM acceptObservation ∅ = .ok seen ↔
      (∀ o ∈ os, o.verify = .ok ()) ∧ (os.map (·.observationSha256)).Nodup ∧
        ∀ d, d ∈ seen ↔ d ∈ os.map (·.observationSha256) := by
  have hstep : acceptObservation = fun seen o => CapacityObservation.verify o >>= fun _ =>
      insertOnce CapacityObservation.observationSha256
        (invalid "authenticated_capacity_observation_duplicate") seen o := rfl
  rw [hstep, foldlM_seq_ok, foldlM_insertOnce_ok_iff]

omit [Platform] in
lemma acceptContract_ok {seen : BTreeSet Sha256Digest} {is : List CapacityIntervention}
    {c : FunctionalContractClaim} : acceptContract seen is c = .ok () ↔
      isLabel c.claimId = true ∧ isBoundedText c.predicate = true ∧
        ∀ support ∈ c.supportingObservationSha256, support ∈ seen ∨
          ∃ i ∈ is, i.intervenedObservation.observationSha256 = support := by
  rw [acceptContract]
  simp only [seq_ok, validateLabel_ok, validateBoundedText_ok, forM_ok,
    failIf_ok, not_and, not_not, or_iff_not_imp_left]

/-- Sealing returns a package exactly when it verifies and meets the sealing checks. -/
lemma sealed_ok : (∃ key donorKind provenance observations interventions contracts
      obligations, sealed key donorKind provenance observations interventions contracts
        obligations = .ok p) ↔ p.verify = .ok () ∧ p.SealingChecks := by
  constructor
  · intro h
    obtain ⟨key, donorKind, provenance, os, is, cs, obligations, h⟩ := h
    rw [sealed] at h
    simp only [seq_ok, bind_ok (x := foldlM _ _ _), validateLabel_ok,
      failIf_ok, forM_ok, validateBoundedText_ok, pure_ok, not_or, not_lt,
      gt_iff_lt, foldlM_acceptObservation_ok, acceptContract_ok] at h
    obtain ⟨hkey, -, ⟨-, hos⟩, his, hcs, hobligations, htexts, seen, ⟨-, hnodup, hseen⟩,
      hinterventions, hcontracts, hverify, heq⟩ := h
    subst heq
    refine ⟨hverify, ⟨hkey, hos, his, hcs, hobligations, htexts, hnodup, ?_, ?_, ?_⟩⟩
    · intro i hi
      have haccept := hinterventions i hi
      rw [acceptIntervention, seq_ok, failIf_ok, not_not] at haccept
      exact (hseen _).mp haccept.2
    · intro c hc
      exact ⟨(hcontracts c hc).1, (hcontracts c hc).2.1⟩
    · intro c hc support hsupport
      refine observes_iff.mpr ?_
      rcases (hcontracts c hc).2.2 support hsupport with hplain | hintervened
      · exact .inl ((hseen support).mp hplain)
      · exact .inr hintervened
  · intro h
    obtain ⟨hverify, hchecks⟩ := h
    refine ⟨p.capacityKey, p.donorKind, p.provenance, p.observations, p.interventions,
      p.contracts, p.obligations, ?_⟩
    obtain ⟨hprovenance, hne, hos, his, hdigest, hcompleteness⟩ := verify_ok.mp hverify
    obtain ⟨seen, hseen⟩ := foldlM_insertOnce_ok
      (invalid "authenticated_capacity_observation_duplicate") ∅ hchecks.distinct (by simp)
    have hmem : ∀ d, d ∈ seen ↔ d ∈ p.observations.map (·.observationSha256) :=
      (foldlM_insertOnce_ok_iff.mp hseen).2
    rw [sealed]
    simp only [seq_ok, bind_ok (x := foldlM _ _ _), validateLabel_ok,
      failIf_ok, forM_ok, validateBoundedText_ok, pure_ok, not_or, not_lt,
      gt_iff_lt, foldlM_acceptObservation_ok, acceptContract_ok, Bool.not_eq_true]
    -- the draft with its digest is the package itself
    have hdraft : (draft p.capacityKey p.donorKind p.provenance p.observations p.interventions
        p.contracts p.obligations).calculateDigest = p.calculateDigest := by
      rw [calculateDigest, draft, hcompleteness]
      rfl
    have hself : { draft p.capacityKey p.donorKind p.provenance p.observations p.interventions
        p.contracts p.obligations with manifestSha256 := p.calculateDigest } = p := by
      rw [draft, hcompleteness, hdigest.2]
    refine ⟨hchecks.key, hprovenance, ⟨hne, hchecks.observations⟩, hchecks.interventions,
      hchecks.contracts, hchecks.obligations, hchecks.texts, seen,
      ⟨hos, hchecks.distinct, hmem⟩, ?_, ?_, ?_, ?_⟩
    · intro i hi
      rw [acceptIntervention, seq_ok, failIf_ok, not_not]
      exact ⟨his i hi, (hmem _).mpr (hchecks.baselines i hi)⟩
    · intro c hc
      refine ⟨(hchecks.claims c hc).1, (hchecks.claims c hc).2, ?_⟩
      intro support hsupport
      rcases observes_iff.mp (hchecks.cites c hc support hsupport) with hplain | hintervened
      · exact .inl ((hmem support).mpr hplain)
      · exact .inr hintervened
    · rw [hdraft, hself]
      exact hverify
    · rw [hdraft, hself]

/-! ## What loading proves -/

lemma loadAndAuthenticate_ok {root : String} {fs : PrivateRoot} {digest : Sha256Digest} :
    loadAndAuthenticate root fs digest = .ok p ↔
      digest ≠ zero ∧ p.verify = .ok () ∧ p.manifestSha256 = digest ∧
        ∃ bytes, fs.content (packagePath root digest) = .ok bytes ∧
          fromSlice AuthenticatedCapacityPackage bytes = .ok p := by
  rw [loadAndAuthenticate]
  simp only [seq_ok, bind_ok (x := PrivateRoot.content _ _),
    bind_ok (x := fromSlice _ _), failIf_ok, pure_ok, ne_eq, not_not]
  constructor
  · intro h
    obtain ⟨hdraft, bytes, hbytes, package, hdecode, hverify, hdigest, heq⟩ := h
    subst heq
    exact ⟨hdraft, hverify, hdigest, bytes, hbytes, hdecode⟩
  · intro h
    obtain ⟨hdraft, hverify, hdigest, bytes, hbytes, hdecode⟩ := h
    exact ⟨hdraft, bytes, hbytes, p, hdecode, hverify, hdigest, rfl⟩

omit [Platform] in
structure WithinLimits (p : AuthenticatedCapacityPackage) : Prop where
  observations : p.observations.length ≤ maxObservations
  interventions : p.interventions.length ≤ maxInterventions
  contracts : p.contracts.length ≤ maxContracts
  obligations : p.obligations.length ≤ maxObligations
  support : ∀ c ∈ p.contracts, c.supportingObservationSha256.length ≤ maxObservations
  priorResults : ∀ o ∈ p.everyObservation, o.stimulus.priorResults.length ≤ maxPriorResults
  candidates : ∀ o ∈ p.everyObservation,
    o.stimulus.candidateProcedures.length ≤ maxCandidates

def IsSupported (p : AuthenticatedCapacityPackage) (c : FunctionalContractClaim) : Prop :=
  c.status = .supported ∧ ∃ support ∈ c.supportingObservationSha256, p.Observes support

/-- What sealing a package would have required of it, and what its contracts and its
    completeness then mean. -/
structure ProvesSealing (p : AuthenticatedCapacityPackage) : Prop where
  sealed : ∃ key donorKind provenance observations interventions contracts obligations,
    AuthenticatedCapacityPackage.sealed key donorKind provenance observations interventions
      contracts obligations = .ok p
  distinct : (p.observations.map (·.observationSha256)).Nodup
  baselines : ∀ i ∈ p.interventions, ∃ o ∈ p.observations,
    o.observationSha256 = i.baselineObservationSha256
  selected : ∀ o ∈ p.everyObservation, o.donorAction.kind = .select →
    ∃ id ∈ o.stimulus.candidateProcedures, o.donorAction.selectedProcedureId = some id
  limits : p.WithinLimits
  supported : ∀ c ∈ p.contracts, c.status = .supported → p.IsSupported c
  handoff : p.completeness = .sufficientForResidencyHandoff →
    ∃ c ∈ p.contracts, ∃ c' ∈ p.contracts, c.claimId ≠ c'.claimId ∧ p.IsSupported c ∧
      p.IsSupported c'

def supportedClaims (p : AuthenticatedCapacityPackage) : List String :=
  (p.contracts.filter fun c => c.status == .supported).map (·.claimId)

/-- The rules that verifying a package leaves out. -/
structure KeepsSealingRules (p : AuthenticatedCapacityPackage) : Prop where
  checks : p.SealingChecks
  support : ∀ c ∈ p.contracts, c.supportingObservationSha256.length ≤ maxObservations
  stimuli : ∀ o ∈ p.everyObservation, o.stimulus.priorResults.length ≤ maxPriorResults ∧
    o.stimulus.candidateProcedures.length ≤ maxCandidates
  selections : ∀ o ∈ p.everyObservation,
    CapacityObservation.validateSelection o.stimulus o.donorAction = .ok ()
  cited : ∀ c ∈ p.contracts, c.status = .supported → c.supportingObservationSha256 ≠ []
  claims : p.completeness = .sufficientForResidencyHandoff →
    ∃ name ∈ p.supportedClaims, ∃ name' ∈ p.supportedClaims, name ≠ name'

section

omit [Platform]

lemma validateSelection_ok {stimulus : SelectorStimulus} {donorAction : DonorAction} :
    CapacityObservation.validateSelection stimulus donorAction = .ok () ↔
      (donorAction.kind = .select →
        ∃ id ∈ stimulus.candidateProcedures, donorAction.selectedProcedureId = some id) := by
  rw [CapacityObservation.validateSelection]
  cases donorAction.kind with
  | explore => simp
  | select =>
    simp only [bind_ok, okOr_ok, failIf_ok, not_not, true_implies]
    constructor
    · intro h
      obtain ⟨id, hid, hmem⟩ := h
      exact ⟨id, hmem, hid⟩
    · intro h
      obtain ⟨id, hmem, hid⟩ := h
      exact ⟨id, hid, hmem⟩

lemma isSupported_of_cited (h : p.KeepsSealingRules) {c : FunctionalContractClaim}
    (hc : c ∈ p.contracts) (hstatus : c.status = .supported) : p.IsSupported c := by
  refine ⟨hstatus, ?_⟩
  obtain ⟨support, hsupport⟩ := exists_mem_of_ne_nil _ (h.cited c hc hstatus)
  exact ⟨support, hsupport, h.checks.cites c hc support hsupport⟩

lemma mem_supportedClaims {name : String} : name ∈ p.supportedClaims ↔
    ∃ c ∈ p.contracts, c.status = .supported ∧ c.claimId = name := by
  simp only [supportedClaims, mem_map, mem_filter, beq_iff_eq, and_assoc]

end

/-- **Loading a package proves what sealing it would have required exactly when the package
    keeps the rules that verifying leaves out.** -/
theorem load_provesSealing {root : String} {fs : PrivateRoot} {digest : Sha256Digest}
    (hload : loadAndAuthenticate root fs digest = .ok p) :
    p.ProvesSealing ↔ p.KeepsSealingRules := by
  obtain ⟨-, hverify, -, -⟩ := loadAndAuthenticate_ok.mp hload
  constructor
  · intro h
    obtain ⟨-, hchecks⟩ := sealed_ok.mp h.sealed
    refine ⟨hchecks, h.limits.support, ?_, ?_, ?_, ?_⟩
    · intro o ho
      exact ⟨h.limits.priorResults o ho, h.limits.candidates o ho⟩
    · intro o ho
      exact validateSelection_ok.mpr (h.selected o ho)
    · intro c hc hstatus
      obtain ⟨-, support, hsupport, -⟩ := h.supported c hc hstatus
      exact ne_nil_of_mem hsupport
    · intro hsufficient
      obtain ⟨c, hc, c', hc', hne, hsupported, hsupported'⟩ := h.handoff hsufficient
      exact ⟨c.claimId, mem_supportedClaims.mpr ⟨c, hc, hsupported.1, rfl⟩, c'.claimId,
        mem_supportedClaims.mpr ⟨c', hc', hsupported'.1, rfl⟩, hne⟩
  · intro h
    refine ⟨sealed_ok.mpr ⟨hverify, h.checks⟩, h.checks.distinct, ?_, ?_, ?_, ?_, ?_⟩
    · intro i hi
      exact mem_map.mp (h.checks.baselines i hi)
    · intro o ho
      exact validateSelection_ok.mp (h.selections o ho)
    · exact ⟨h.checks.observations, h.checks.interventions, h.checks.contracts,
        h.checks.obligations, h.support, fun o ho => (h.stimuli o ho).1,
        fun o ho => (h.stimuli o ho).2⟩
    · intro c hc hstatus
      exact isSupported_of_cited h hc hstatus
    · intro hsufficient
      obtain ⟨name, hname, name', hname', hne⟩ := h.claims hsufficient
      obtain ⟨c, hc, hstatus, rfl⟩ := mem_supportedClaims.mp hname
      obtain ⟨c', hc', hstatus', rfl⟩ := mem_supportedClaims.mp hname'
      exact ⟨c, hc, c', hc', hne, isSupported_of_cited h hc hstatus,
        isSupported_of_cited h hc' hstatus'⟩

end AuthenticatedCapacityPackage

end

/-! ## A package that is loaded and could not have been sealed -/

namespace CapacitySample

attribute [local instance] Platform.reference

def stimulusDigest : Sha256Digest :=
  ⟨"28117e03bd469ba5bb1eca6211c428764c5460eebedddba1229eab00e5d44db3", by decide⟩
def observationDigest : Sha256Digest :=
  ⟨"02c6421eda2ad3d435b4cdcb967f8df8cceed638fad09111f38ac8fe325ec9c1", by decide⟩
def plainDigest : Sha256Digest :=
  ⟨"786b3c4b28b310b8e203e171ec071f6409d950ae90663090ef715132aafdba7f", by decide⟩
def citingDigest : Sha256Digest :=
  ⟨"5a668d54a0a9d41d3094c3fc554d78819d249b105e39e369832223d9603cda02", by decide⟩
lemma unseen_valid : isValidStr
    "1111111111111111111111111111111111111111111111111111111111111111" = true := by
  decide

def unseenDigest : Sha256Digest := ⟨_, unseen_valid⟩

def stimulus : SelectorStimulus := ⟨"route:novel", [], ["proc.alpha"]⟩

def observation : CapacityObservation where
  observationId := ⟨"obs.explore-01", by decide⟩
  stimulus := stimulus
  stimulusSha256 := stimulusDigest
  donorAction := ⟨.explore, none⟩
  measuredOutcome := none
  observationSha256 := observationDigest

def package (contracts : List FunctionalContractClaim) (digest : Sha256Digest) :
    AuthenticatedCapacityPackage where
  schema := .v1
  capacityKey := "capacity"
  donorKind := .fixtureProcedureSelector
  provenance := ⟨none, none, none⟩
  observations := [observation]
  interventions := []
  contracts := contracts
  completeness := .insufficient
  obligations := []
  manifestSha256 := digest

def plain : AuthenticatedCapacityPackage := package [] plainDigest

def unseen : FunctionalContractClaim := ⟨"claim", "explores", .supported, [unseenDigest]⟩

def citing : AuthenticatedCapacityPackage := package [unseen] citingDigest

lemma sample_digests : stimulus.canonicalDigest = stimulusDigest ∧
    observation.calculateDigest = observationDigest ∧ plain.calculateDigest = plainDigest ∧
    citing.calculateDigest = citingDigest := by
  refine ⟨digestDomain_eq ?_, digestDomain_eq ?_, digestDomain_eq ?_, digestDomain_eq ?_⟩
  · decide +kernel
  · decide +kernel
  · decide +kernel
  · decide +kernel

lemma stimulus_digest : stimulus.canonicalDigest = stimulusDigest := sample_digests.1

lemma observation_digest : observation.calculateDigest = observationDigest :=
  sample_digests.2.1

lemma plain_digest : plain.calculateDigest = plainDigest := sample_digests.2.2.1

lemma citing_digest : citing.calculateDigest = citingDigest := sample_digests.2.2.2

lemma verify_observation : observation.verify = .ok () := by
  rw [CapacityObservation.verify]
  simp only [seq_ok, failIf_ok, not_or, not_not]
  exact ⟨rfl, stimulus_digest, by decide, observation_digest⟩

lemma verify_package {contracts : List FunctionalContractClaim} {digest : Sha256Digest}
    (hdigest : (package contracts digest).calculateDigest = digest)
    (hsealed : digest ≠ zero) : (package contracts digest).verify = .ok () := by
  rw [AuthenticatedCapacityPackage.verify_ok]
  refine ⟨rfl, rfl, ?_, ?_, ⟨hsealed, hdigest⟩, ?_⟩
  · intro o ho
    rw [mem_singleton.mp ho]
    exact verify_observation
  · intro i hi
    cases hi
  · simp [deriveCompleteness, package]

def holding (p : AuthenticatedCapacityPackage) : PrivateRoot where
  content path :=
    if path = packagePath "/private" p.manifestSha256 then .ok (toVec p)
    else .error (.io .notFound)
  capabilityBundle := fun _ => .error .json

lemma load_package {p : AuthenticatedCapacityPackage} (hverify : p.verify = .ok ())
    (hsealed : p.manifestSha256 ≠ zero) :
    AuthenticatedCapacityPackage.loadAndAuthenticate "/private" (holding p) p.manifestSha256 =
      .ok p := by
  refine AuthenticatedCapacityPackage.loadAndAuthenticate_ok.mpr
    ⟨hsealed, hverify, rfl, toVec p, ?_, ?_⟩
  · exact if_pos rfl
  · exact fromSlice_toVec (decodesCanonical_reference p)

lemma not_observes_unseen : ¬ citing.Observes unseenDigest := by
  intro h
  obtain ⟨o, ho, heq⟩ := h
  have hobservation : o = observation := mem_singleton.mp ho
  rw [hobservation] at heq
  revert heq
  decide

/-- **A package is loaded whose supported contract cites no observation of it**, and which
    no sealing returns. -/
theorem citing_loaded :
    AuthenticatedCapacityPackage.loadAndAuthenticate "/private" (holding citing) citingDigest =
        .ok citing ∧ (¬ ∃ key donorKind provenance observations interventions contracts obligations,
        AuthenticatedCapacityPackage.sealed key donorKind provenance observations interventions
          contracts obligations = .ok citing) ∧ ¬ citing.ProvesSealing := by
  refine ⟨load_package (verify_package citing_digest (by decide)) (by decide), ?_, ?_⟩
  · intro h
    obtain ⟨-, hchecks⟩ := AuthenticatedCapacityPackage.sealed_ok.mp h
    exact not_observes_unseen
      (hchecks.cites unseen mem_cons_self unseenDigest mem_cons_self)
  · intro h
    obtain ⟨-, support, hsupport, hobserves⟩ := h.supported unseen mem_cons_self rfl
    rw [mem_singleton.mp hsupport] at hobserves
    exact not_observes_unseen hobserves

/-- A package without contracts keeps every rule. -/
theorem plain_provesSealing : plain.ProvesSealing := by
  refine (AuthenticatedCapacityPackage.load_provesSealing
    (load_package (verify_package plain_digest (by decide)) (by decide))).mpr ?_
  refine ⟨⟨by decide, by decide, by decide, by decide, by decide, ?_, by decide, ?_, ?_, ?_⟩,
    ?_, ?_, ?_, ?_, ?_⟩
  · intro obligation h
    cases h
  · intro i h
    cases h
  · intro c h
    cases h
  · intro c h
    cases h
  · intro c h
    cases h
  · intro o ho
    rw [mem_singleton.mp ho]
    decide
  · intro o ho
    rw [mem_singleton.mp ho]
    rfl
  · intro c h
    cases h
  · intro h
    cases h

end CapacitySample

end Tidex.Capability
