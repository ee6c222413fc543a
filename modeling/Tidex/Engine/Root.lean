/-
  Engine.Root — the private root as the engine reads it.
-/
import Tidex.Foundation.Pretty

namespace Tidex.Engine

open Tidex.Lib Sha256Digest

/-! ## Files and directories -/

def maxEngineJsonBytes : Nat := 256 * 1024 * 1024
def maxObservationRecordBytes : Nat := 64 * 1024 * 1024

/-- The private root with the names in each of its directories, or the error that
    opening a directory gives. -/
structure EngineRoot extends PrivateRoot where
  names : String → BrainResult (BTreeSet String)

inductive EngineDigestKind where
  | canonicalEngineHead
  | corpus
  | evidenceBundle
  | memory
  | report
  | skillBank
  deriving DecidableEq

structure EngineDigest (k : EngineDigestKind) where
  raw : Sha256Digest
  deriving DecidableEq

abbrev CanonicalEngineHeadDigest := EngineDigest .canonicalEngineHead
abbrev CorpusDigest := EngineDigest .corpus
abbrev EvidenceBundleDigest := EngineDigest .evidenceBundle
abbrev MemoryDigest := EngineDigest .memory
abbrev ReportDigest := EngineDigest .report
abbrev SkillBankDigest := EngineDigest .skillBank

instance {k : EngineDigestKind} : SerializeSome (EngineDigest k) where
  toJson d := toJson d.raw
  toJson_ne_null d := SerializeSome.toJson_ne_null d.raw

def parseSha256Digest (value : String) : BrainResult Sha256Digest :=
  if h : isValidStr value = true then .ok ⟨value, h⟩
  else .error (invalid "sha256_digest_invalid")

/-- A record of the corpus: what it is called, and its document. -/
class ObservationRecord (α : Type) extends Serialize α where
  observationId : α → String

section

variable [Platform]

/-- The lower-case hexadecimal SHA-256 of a value's canonical bytes. -/
def digestJson {α : Type} [Serialize α] (a : α) : String :=
  (digestBytes (toVec a)).hex

/-! ## Observations -/

section

variable (Observation : Type) [ObservationRecord Observation]

def observationsPath : String := "state/observations"

def digestPrefix (digest : String) (n : Nat) : String :=
  String.ofList (digest.toList.take n)

def hasJsonExtension (name : String) : Bool :=
  ".json".toList.isSuffixOf name.toList && decide (5 < name.toList.length)

def loadObservation (s : EngineRoot)
    (acc : List Observation × BTreeSet String × BTreeSet String) (name : String) :
    BrainResult (List Observation × BTreeSet String × BTreeSet String) := do
  let (out, ids, digests) := acc
  let bytes ← readUntrustedPrivateFileBounded s.toPrivateRoot (observationsPath ++ "/" ++ name)
    maxObservationRecordBytes
  let observation ← fromSlice Observation bytes
  let id := ObservationRecord.observationId observation
  let digest := digestJson observation
  failIf (name ≠ id ++ "-" ++ digestPrefix digest 16 ++ ".json" ∨ id ∈ ids ∨ digest ∈ digests)
    (integrity "persisted_observation_identity_invalid")
  return (out ++ [observation], ids.insert id, digests.insert digest)

/-- A file that may be among the observations. -/
def observationEntry (s : EngineRoot) (name : String) : BrainResult Unit := do
  failIf (¬hasJsonExtension name) (integrity "persisted_observations_entry_invalid")
  let _ ← s.content (observationsPath ++ "/" ++ name)
  return ()

def loadPersistedObservations (s : EngineRoot) : BrainResult (List Observation) :=
  match s.names observationsPath with
  | .error (.io .notFound) => .ok []
  | .error e => .error e
  | .ok names => do
    names.toList.forM (observationEntry s)
    let (out, _, _) ← names.toList.foldlM (loadObservation Observation s) ([], ∅, ∅)
    return out

variable {Observation}

def observationSetDigest (observations : List Observation) : CorpusDigest :=
  let digests : BTreeSet String := .ofList (observations.map digestJson)
  ⟨digestBytes (toVec digests.toList)⟩

variable (Observation)

def liveCorpus (s : EngineRoot) : BrainResult (Option CorpusDigest × Nat) := do
  let observations ← loadPersistedObservations Observation s
  return if observations.isEmpty then (none, 0)
    else (some (observationSetDigest observations), observations.length)

end

/-! ## Pointers -/

def bankPath : String := "state/skill_bank.json"
def memoryPath : String := "state/memory/current.json"
def sleepStatePath : String := "state/sleep_state.json"
def sleepEvidencePath : String := "state/sleep_evidence/current.json"
def inflightPath : String := "state/corpus_transitions/inflight"

def optionalPointerDigest (s : EngineRoot) (path : String) : BrainResult (Option Sha256Digest) :=
  match readUntrustedPrivateFileBounded s.toPrivateRoot path maxEngineJsonBytes with
  | .ok bytes => .ok (some (digestBytes bytes))
  | .error (.io .notFound) => .ok none
  | .error e => .error e

def liveSleep (s : EngineRoot) : BrainResult (Option (Option String × Option ReportDigest)) :=
  match readUntrustedPrivateFileBounded s.toPrivateRoot sleepStatePath maxEngineJsonBytes with
  | .ok bytes => do
    let state ← fromSlice Json bytes
    failIf (state.getStr "schema" ≠ some "tidex.sleep_state/v5")
      (integrity "canonical_engine_head_sleep_state_schema_invalid")
    match state.getStr "report_sha256" with
    | none => return some (state.getStr "certification_status", none)
    | some text => do
      let digest ← parseSha256Digest text
      return some (state.getStr "certification_status", some ⟨digest⟩)
  | .error (.io .notFound) => .ok none
  | .error e => .error e

def inflightName (key : Option Sha256Digest) (name : String) :
    BrainResult (Option Sha256Digest) := do
  let parsed ← parseSha256Digest name
  failIf key.isSome (integrity "learning_finalization_inflight_transition_ambiguous")
  return some parsed

def incompleteTransitionOperationKey (s : EngineRoot) : BrainResult (Option Sha256Digest) :=
  match s.names inflightPath with
  | .error (.io .notFound) => .ok none
  | .error e => .error e
  | .ok names => names.toList.foldlM inflightName none

/-! ## The readers look at nothing else -/

/-- Two stores with the same directories, observations and pointers. -/
structure SameLive (s t : EngineRoot) : Prop where
  names : t.names = s.names
  observation : ∀ name, t.content (observationsPath ++ "/" ++ name) =
    s.content (observationsPath ++ "/" ++ name)
  bank : t.content bankPath = s.content bankPath
  memory : t.content memoryPath = s.content memoryPath
  sleepState : t.content sleepStatePath = s.content sleepStatePath
  sleepEvidence : t.content sleepEvidencePath = s.content sleepEvidencePath

omit [Platform] in
lemma readUntrusted_congr {fs fs' : PrivateRoot} {path : String}
    (h : fs'.content path = fs.content path) (maxBytes : Nat) :
    readUntrustedPrivateFileBounded fs' path maxBytes =
      readUntrustedPrivateFileBounded fs path maxBytes := by
  unfold readUntrustedPrivateFileBounded
  rw [h]

variable {s t : EngineRoot}

lemma optionalPointerDigest_congr {path : String} (h : t.content path = s.content path) :
    optionalPointerDigest t path = optionalPointerDigest s path := by
  unfold optionalPointerDigest
  rw [readUntrusted_congr h]

namespace SameLive

lemma liveSleep_eq (h : SameLive s t) : liveSleep t = liveSleep s := by
  unfold liveSleep
  rw [readUntrusted_congr h.sleepState]

omit [Platform] in
lemma incompleteTransition_eq (h : SameLive s t) :
    incompleteTransitionOperationKey t = incompleteTransitionOperationKey s := by
  unfold incompleteTransitionOperationKey
  rw [h.names]

variable (Observation : Type) [ObservationRecord Observation]

lemma loadPersistedObservations_eq (h : SameLive s t) :
    loadPersistedObservations Observation t = loadPersistedObservations Observation s := by
  have hentry : observationEntry t = observationEntry s := by
    funext name
    unfold observationEntry
    rw [h.observation]
  have hload : loadObservation Observation t = loadObservation Observation s := by
    funext acc name
    unfold loadObservation
    rw [readUntrusted_congr (h.observation name)]
  unfold loadPersistedObservations
  rw [h.names, hentry, hload]

lemma liveCorpus_eq (h : SameLive s t) : liveCorpus Observation t = liveCorpus Observation s := by
  unfold liveCorpus
  rw [loadPersistedObservations_eq Observation h]

end SameLive

end

end Tidex.Engine
