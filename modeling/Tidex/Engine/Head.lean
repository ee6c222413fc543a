/-
  Engine.Head — the canonical head and its publication.
-/
import Tidex.Engine.Root
import Tidex.Lib.Durable
import Tidex.Lib.PathText

namespace Tidex.Engine

open Tidex.Lib List Function Durable Sha256Digest

/-! ## Heads -/

def canonicalEngineHeadSchema : String := "tidex.canonical_engine_head/v1"
def canonicalEngineHeadDomain : String := "TIDEX:CANONICAL-ENGINE-HEAD:v1\x00"
def canonicalEngineHeadMaxBytes : Nat := 1 <<< 20
def hardMaxEngineRevision : Nat := 1048576

structure CanonicalEngineHead where
  schema : String
  revision : Nat
  parentRevision : Option Nat
  parentDigest : Option CanonicalEngineHeadDigest
  corpusDigest : Option CorpusDigest
  observationCount : Nat
  activeBankSha256 : Option SkillBankDigest
  memorySha256 : Option MemoryDigest
  sleepStateSha256 : Option Sha256Digest
  evidenceBundleSha256 : Option EvidenceBundleDigest
  reconstructionReportSha256 : Option ReportDigest
  certificationStatus : Option String
  incompleteTransition : Option Sha256Digest
  manifestDigest : CanonicalEngineHeadDigest
  deriving DecidableEq

instance : Serialize CanonicalEngineHead where
  toJson h := .obj [("schema", toJson h.schema), ("revision", toJson h.revision),
    ("parent_revision", toJson h.parentRevision), ("parent_digest", toJson h.parentDigest),
    ("corpus_digest", toJson h.corpusDigest), ("observation_count", toJson h.observationCount),
    ("active_bank_sha256", toJson h.activeBankSha256), ("memory_sha256", toJson h.memorySha256),
    ("sleep_state_sha256", toJson h.sleepStateSha256),
    ("evidence_bundle_sha256", toJson h.evidenceBundleSha256),
    ("reconstruction_report_sha256", toJson h.reconstructionReportSha256),
    ("certification_status", toJson h.certificationStatus),
    ("incomplete_transition", toJson h.incompleteTransition),
    ("manifest_digest", toJson h.manifestDigest)]

/-- What an advance does with the marker of an unfinished transition. -/
inductive HeadIncomplete where
  | preserve
  | set (key : Sha256Digest)
  | clear

section

variable [Platform]

namespace CanonicalEngineHead

def calculateDigest (h : CanonicalEngineHead) : CanonicalEngineHeadDigest :=
  ⟨digestDomain canonicalEngineHeadDomain
    (toVec { h with manifestDigest := ⟨zero⟩ })⟩

def checkShape (h : CanonicalEngineHead) : BrainResult Unit := do
  failIf (h.revision > hardMaxEngineRevision)
    (integrity "canonical_engine_head_revision_limit_exceeded")
  failIf (h.observationCount > 0 ∧ h.corpusDigest.isNone)
    (integrity "canonical_engine_head_corpus_digest_missing")
  match h.parentRevision, h.parentDigest with
  | some parentRevision, some _ =>
    failIf (parentRevision + 1 ≠ h.revision)
      (integrity "canonical_engine_head_revision_not_monotonic")
  | _, _ =>
    failIf (h.revision ≠ 0 ∨ h.parentRevision.isSome ∨ h.parentDigest.isSome)
      (integrity "canonical_engine_head_genesis_invalid")

end CanonicalEngineHead

def CanonicalEngineHead.seal (h : CanonicalEngineHead) : BrainResult CanonicalEngineHead := do
  let h := { h with schema := canonicalEngineHeadSchema }
  h.checkShape
  return { h with manifestDigest := h.calculateDigest }

namespace CanonicalEngineHead

def authenticate (h : CanonicalEngineHead) : BrainResult Unit := do
  failIf (h.schema ≠ canonicalEngineHeadSchema ∨ h.manifestDigest ≠ h.calculateDigest)
    (integrity "canonical_engine_head_not_authentic")
  let _ ← h.seal
  return ()

end CanonicalEngineHead

/-! ## Reading heads -/

def canonicalEngineHeadPath : String := "state/canonical_engine_head.json"

def canonicalEngineHeadHistoryPath (digest : CanonicalEngineHeadDigest) : String :=
  "state/canonical_engine_heads/by-sha/" ++ digest.raw.hex ++ ".json"

def canonicalHeadCompareAndSwapMatches (expected current : Option CanonicalEngineHead) : Bool :=
  match expected, current with
  | none, none => true
  | some expected, some actual => expected.manifestDigest = actual.manifestDigest
  | _, _ => false

def loadCanonicalHeadIfPresent (s : EngineRoot) : BrainResult (Option CanonicalEngineHead) :=
  match readUntrustedPrivateFileBounded s.toPrivateRoot canonicalEngineHeadPath
    canonicalEngineHeadMaxBytes with
  | .error (.io .notFound) => .ok none
  | .error e => .error e
  | .ok bytes => do
    let head ← fromSlice CanonicalEngineHead bytes
    head.authenticate
    return some head

def loadHistoricalHead (s : EngineRoot) (digest : CanonicalEngineHeadDigest) :
    BrainResult CanonicalEngineHead := do
  let head ← readPrivateJson CanonicalEngineHead s.toPrivateRoot
    (canonicalEngineHeadHistoryPath digest) canonicalEngineHeadMaxBytes
  head.authenticate
  return head

section

variable (Observation : Type) [ObservationRecord Observation]

def verifyParent (s : EngineRoot) (head : CanonicalEngineHead) : BrainResult Unit :=
  match head.parentDigest with
  | none => .ok ()
  | some parentDigest => do
    let parent ← loadHistoricalHead s parentDigest
    failIf (parent.manifestDigest ≠ parentDigest
        ∨ some parent.revision ≠ head.parentRevision
        ∨ parent.revision + 1 ≠ head.revision)
      (integrity "canonical_engine_head_parent_history_mismatch")

def verifySleep (s : EngineRoot) (head : CanonicalEngineHead) : BrainResult Unit := do
  match ← liveSleep s with
  | some (certificationStatus, reportSha256) =>
    failIf (head.certificationStatus ≠ certificationStatus
        ∨ head.reconstructionReportSha256 ≠ reportSha256)
      (integrity "canonical_engine_head_sleep_authority_mismatch")
  | none =>
    failIf head.certificationStatus.isSome
      (integrity "canonical_engine_head_certification_without_sleep_state")

/-- Compare the current head with its history, its parent and the live state. -/
def verifyCurrentCanonicalEngineHead (s : EngineRoot) : BrainResult CanonicalEngineHead := do
  let head ← okOr (← loadCanonicalHeadIfPresent s) (integrity "canonical_engine_head_missing")
  let historical ← loadHistoricalHead s head.manifestDigest
  failIf (historical ≠ head) (integrity "canonical_engine_head_history_current_mismatch")
  verifyParent s head
  let (corpusDigest, observationCount) ← liveCorpus Observation s
  let activeBankSha256 ← optionalPointerDigest s bankPath
  let memorySha256 ← optionalPointerDigest s memoryPath
  let sleepStateSha256 ← optionalPointerDigest s sleepStatePath
  let evidenceBundleSha256 ← optionalPointerDigest s sleepEvidencePath
  let incompleteTransition ← incompleteTransitionOperationKey s
  failIf (head.corpusDigest ≠ corpusDigest
      ∨ head.observationCount ≠ observationCount
      ∨ head.activeBankSha256 ≠ activeBankSha256.map .mk
      ∨ head.memorySha256 ≠ memorySha256.map .mk
      ∨ head.sleepStateSha256 ≠ sleepStateSha256
      ∨ head.evidenceBundleSha256 ≠ evidenceBundleSha256.map .mk
      ∨ head.incompleteTransition ≠ incompleteTransition)
    (integrity "canonical_engine_head_live_authority_mismatch")
  verifySleep s head
  return head

/-- The head that the live state makes, with what the caller supplies where the sleep
    state says nothing. -/
def snapshotCanonicalEngineHead (revision : Nat) (parent : Option CanonicalEngineHead)
    (incompleteTransition : Option Sha256Digest) (certificationStatus : Option String)
    (reconstructionReportSha256 : Option ReportDigest) (s : EngineRoot) :
    BrainResult CanonicalEngineHead := do
  let (corpusDigest, observationCount) ← liveCorpus Observation s
  let sleep ← liveSleep s
  let activeBankSha256 ← optionalPointerDigest s bankPath
  let memorySha256 ← optionalPointerDigest s memoryPath
  let sleepStateSha256 ← optionalPointerDigest s sleepStatePath
  let evidenceBundleSha256 ← optionalPointerDigest s sleepEvidencePath
  CanonicalEngineHead.seal
    { schema := canonicalEngineHeadSchema
      revision := revision
      parentRevision := parent.map (·.revision)
      parentDigest := parent.map (·.manifestDigest)
      corpusDigest := corpusDigest
      observationCount := observationCount
      activeBankSha256 := activeBankSha256.map .mk
      memorySha256 := memorySha256.map .mk
      sleepStateSha256 := sleepStateSha256
      evidenceBundleSha256 := evidenceBundleSha256.map .mk
      reconstructionReportSha256 := (sleep.bind Prod.snd).or reconstructionReportSha256
      certificationStatus := (sleep.bind Prod.fst).or certificationStatus
      incompleteTransition := incompleteTransition
      manifestDigest := ⟨zero⟩ }

/-! ## Publishing -/

def EngineRoot.writeNewPrivate (s : EngineRoot) (path : String) (bytes : ByteArray) :
    BrainResult (EngineRoot × Unit) := do
  let (fs, _) ← Tidex.writeNewPrivate s.toPrivateRoot path bytes
  return ({ s with toPrivateRoot := fs }, ())

def EngineRoot.replacePrivateFileAtomic (s : EngineRoot) (path : String) (bytes : ByteArray) :
    EngineRoot :=
  { s with toPrivateRoot := Tidex.replacePrivateFileAtomic s.toPrivateRoot path bytes }

/-- Read a head back from the history, where it was just stored. -/
def verifyPersistedHead (head : CanonicalEngineHead) (s : EngineRoot) : BrainResult Unit := do
  let persisted ← readPrivateJson CanonicalEngineHead s.toPrivateRoot
    (canonicalEngineHeadHistoryPath head.manifestDigest) canonicalEngineHeadMaxBytes
  persisted.authenticate
  failIf (persisted ≠ head) (integrity "canonical_engine_head_history_content_mismatch")

def persistCanonicalEngineHeadHistory (head : CanonicalEngineHead) :
    Durable EngineRoot BrainError Unit := do
  head.authenticate
  write fun s => s.writeNewPrivate
    (canonicalEngineHeadHistoryPath head.manifestDigest) (serializePrettyLine head)
  read (verifyPersistedHead head)

def persistCurrentHistory : Option CanonicalEngineHead → Durable EngineRoot BrainError Unit
  | some current => persistCanonicalEngineHeadHistory current
  | none => pure ()

def publishCanonicalHead (expected : Option CanonicalEngineHead) (next : CanonicalEngineHead) :
    Durable EngineRoot BrainError Unit := do
  next.authenticate
  let current ← read loadCanonicalHeadIfPresent
  failIf (¬canonicalHeadCompareAndSwapMatches expected current)
    (integrity "canonical_engine_head_compare_and_swap_conflict")
  persistCurrentHistory current
  persistCanonicalEngineHeadHistory next
  write fun s =>
    .ok (s.replacePrivateFileAtomic canonicalEngineHeadPath (serializePrettyLine next), ())
  let _ ← read (verifyCurrentCanonicalEngineHead Observation)
  return ()

def nextRevision : Option CanonicalEngineHead → Nat
  | some head => head.revision + 1
  | none => 0

def HeadIncomplete.marker (expected : Option CanonicalEngineHead) :
    HeadIncomplete → Option Sha256Digest
  | .preserve => expected.bind (·.incompleteTransition)
  | .set key => some key
  | .clear => none

/-- What an advance reads before its first effect: the present head and the next. -/
def prepareAdvance (incomplete : HeadIncomplete) (certificationStatus : Option String)
    (reconstructionReportSha256 : Option ReportDigest) (s : EngineRoot) :
    BrainResult (Option CanonicalEngineHead × CanonicalEngineHead) := do
  let expected ← loadCanonicalHeadIfPresent s
  let revision := nextRevision expected
  failIf (revision > hardMaxEngineRevision)
    (integrity "canonical_engine_head_revision_limit_exceeded")
  let next ← snapshotCanonicalEngineHead Observation revision expected
    (incomplete.marker expected) certificationStatus
    (reconstructionReportSha256.or (expected.bind (·.reconstructionReportSha256))) s
  return (expected, next)

def advanceCanonicalEngineHead (incomplete : HeadIncomplete)
    (certificationStatus : Option String) (reconstructionReportSha256 : Option ReportDigest) :
    Durable EngineRoot BrainError CanonicalEngineHead := do
  let (expected, next) ← read
    (prepareAdvance Observation incomplete certificationStatus reconstructionReportSha256)
  publishCanonicalHead Observation expected next
  return next

end

/-! ## Authentic heads -/

namespace CanonicalEngineHead

variable {h h' : CanonicalEngineHead}

lemma authenticate_ok : h.authenticate = .ok () ↔
    h.schema = canonicalEngineHeadSchema ∧ h.manifestDigest = h.calculateDigest ∧
      h.checkShape = .ok () := by
  unfold authenticate CanonicalEngineHead.seal
  simp only [bind_ok, failIf_ok, pure_ok, not_or, not_not, ne_eq]
  constructor
  · intro hauthentic
    obtain ⟨_, ⟨hschema, hdigest⟩, _, ⟨_, hshape, -⟩, -⟩ := hauthentic
    rw [← hschema] at hshape
    exact ⟨hschema, hdigest, hshape⟩
  · intro hauthentic
    obtain ⟨hschema, hdigest, hshape⟩ := hauthentic
    refine ⟨(), ⟨hschema, hdigest⟩, _, ⟨(), ?_, rfl⟩, trivial⟩
    rw [← hschema]
    exact hshape

lemma seal_ok (hseal : h.seal = .ok h') :
    h' = { h with
      schema := canonicalEngineHeadSchema
      manifestDigest := { h with schema := canonicalEngineHeadSchema }.calculateDigest } ∧
    h'.authenticate = .ok () := by
  unfold CanonicalEngineHead.seal at hseal
  simp only [bind_ok, pure_ok] at hseal
  obtain ⟨_, hshape, rfl⟩ := hseal
  exact ⟨rfl, authenticate_ok.mpr ⟨rfl, rfl, hshape⟩⟩

end CanonicalEngineHead

/-! ## Stores that differ in the history -/

section

omit [Platform]

lemma historyPath_ne_headPath (d : CanonicalEngineHeadDigest) :
    canonicalEngineHeadHistoryPath d ≠ canonicalEngineHeadPath := by
  unfold canonicalEngineHeadHistoryPath
  rw [String.append_assoc]
  exact append_ne (by decide +kernel) _

lemma historyPath_injective : Injective canonicalEngineHeadHistoryPath := by
  intro a b h
  have hhex : a.raw.hex = b.raw.hex := append_left_cancel (append_right_cancel h)
  cases a
  cases b
  exact congrArg EngineDigest.mk (hex_injective hhex)

end

/-- The second store has what the first has, and perhaps more heads in its history. -/
structure MoreHistory (s t : EngineRoot) : Prop where
  names_eq : t.names = s.names
  content_eq : ∀ p, t.content p = s.content p ∨
    (s.content p = .error (.io .notFound) ∧ ∃ head : CanonicalEngineHead,
      p = canonicalEngineHeadHistoryPath head.manifestDigest ∧
        t.content p = .ok (serializePrettyLine head))

variable {s t u : EngineRoot} {head next : CanonicalEngineHead}

namespace MoreHistory

section

omit [Platform]

lemma refl (s : EngineRoot) : MoreHistory s s :=
  ⟨rfl, fun _ => .inl rfl⟩

lemma trans (hst : MoreHistory s t) (htu : MoreHistory t u) : MoreHistory s u := by
  refine ⟨htu.names_eq.trans hst.names_eq, ?_⟩
  intro p
  rcases htu.content_eq p with hp | ⟨hp, hline⟩
  · rw [hp]
    exact hst.content_eq p
  · rcases hst.content_eq p with hp' | ⟨hp', -⟩
    · exact .inr ⟨hp' ▸ hp, hline⟩
    · exact .inr ⟨hp', hline⟩

lemma content_of_ne (h : MoreHistory s t) {p : String}
    (hp : ∀ d, p ≠ canonicalEngineHeadHistoryPath d) : t.content p = s.content p := by
  rcases h.content_eq p with heq | ⟨-, head, hpath, -⟩
  · exact heq
  · exact absurd hpath (hp _)

lemma content_of_ok (h : MoreHistory s t) {p : String} {bytes : ByteArray}
    (hp : s.content p = .ok bytes) : t.content p = .ok bytes := by
  rcases h.content_eq p with heq | ⟨hmissing, -⟩
  · rw [heq, hp]
  · rw [hp] at hmissing
    cases hmissing

lemma content_headPath (h : MoreHistory s t) :
    t.content canonicalEngineHeadPath = s.content canonicalEngineHeadPath :=
  h.content_of_ne fun d heq => historyPath_ne_headPath d heq.symm

end

lemma load_eq (h : MoreHistory s t) :
    loadCanonicalHeadIfPresent t = loadCanonicalHeadIfPresent s := by
  unfold loadCanonicalHeadIfPresent readUntrustedPrivateFileBounded
  rw [h.content_headPath]

end MoreHistory

omit [Platform] in
lemma content_replace (path : String) (bytes : ByteArray) :
    (s.replacePrivateFileAtomic path bytes).content = update s.content path (.ok bytes) :=
  rfl

def InHistory (s : EngineRoot) (head : CanonicalEngineHead) : Prop :=
  loadHistoricalHead s head.manifestDigest = .ok head

lemma inHistory_iff : InHistory s head ↔
    (∃ bytes, s.content (canonicalEngineHeadHistoryPath head.manifestDigest) = .ok bytes ∧
      bytes.size ≤ canonicalEngineHeadMaxBytes ∧
      Platform.fromSlice CanonicalEngineHead bytes = some head) ∧ head.authenticate = .ok () := by
  unfold InHistory loadHistoricalHead
  simp only [bind_ok, readPrivateJson_ok, pure_ok]
  constructor
  · intro h
    obtain ⟨head', hread, _, hauthentic, rfl⟩ := h
    exact ⟨hread, hauthentic⟩
  · intro h
    exact ⟨head, h.1, (), h.2, rfl⟩

lemma InHistory.more (h : InHistory s head) (hst : MoreHistory s t) : InHistory t head := by
  obtain ⟨⟨bytes, hcontent, hrest⟩, hauthentic⟩ := inHistory_iff.mp h
  exact inHistory_iff.mpr ⟨⟨bytes, hst.content_of_ok hcontent, hrest⟩, hauthentic⟩

lemma InHistory.replace (h : InHistory s head) (bytes : ByteArray) :
    InHistory (s.replacePrivateFileAtomic canonicalEngineHeadPath bytes) head := by
  obtain ⟨⟨existing, hcontent, hrest⟩, hauthentic⟩ := inHistory_iff.mp h
  refine inHistory_iff.mpr ⟨⟨existing, ?_, hrest⟩, hauthentic⟩
  rw [content_replace, update_of_ne (historyPath_ne_headPath _), hcontent]

/-! ## What each step of a publication does -/

lemma writeNewPrivate_engine_ok {path : String} {bytes : ByteArray} {v : Unit}
    (h : s.writeNewPrivate path bytes = .ok (t, v)) :
    (s.content path = .error (.io .notFound) ∧ t.names = s.names ∧
        t.content = update s.content path (.ok bytes)) ∨
      (t = s ∧ ∃ existing, s.content path = .ok existing ∧
        digestBytes existing = digestBytes bytes) := by
  simp only [EngineRoot.writeNewPrivate, bind_ok, pure_ok, Prod.mk.injEq] at h
  obtain ⟨⟨fs, _⟩, hwrite, rfl, -⟩ := h
  rcases writeNewPrivate_ok hwrite with ⟨hmissing, rfl⟩ | ⟨rfl, hexisting⟩
  · exact .inl ⟨hmissing, rfl, rfl⟩
  · exact .inr ⟨rfl, hexisting⟩

lemma writeNewPrivate_engine_new {path : String} {bytes : ByteArray}
    (h : s.content path = .error (.io .notFound)) :
    ∃ t, s.writeNewPrivate path bytes = .ok (t, ()) ∧
      t.content = update s.content path (.ok bytes) := by
  unfold EngineRoot.writeNewPrivate
  rw [writeNewPrivate_new h]
  exact ⟨_, rfl, rfl⟩

lemma writeNewPrivate_engine_same {path : String} {bytes existing : ByteArray}
    (h : s.content path = .ok existing) (hsame : digestBytes existing = digestBytes bytes) :
    s.writeNewPrivate path bytes = .ok (s, ()) := by
  unfold EngineRoot.writeNewPrivate
  rw [writeNewPrivate_same h hsame]
  rfl

lemma moreHistory_of_write {v : Unit}
    (h : s.writeNewPrivate (canonicalEngineHeadHistoryPath head.manifestDigest)
      (serializePrettyLine head) = .ok (t, v)) : MoreHistory s t := by
  rcases writeNewPrivate_engine_ok h with ⟨hmissing, hnames, hcontent⟩ | ⟨rfl, -⟩
  · refine ⟨hnames, ?_⟩
    intro p
    by_cases hp : p = canonicalEngineHeadHistoryPath head.manifestDigest
    · subst hp
      refine .inr ⟨hmissing, head, rfl, ?_⟩
      rw [hcontent, update_self]
    · refine .inl ?_
      rw [hcontent, update_of_ne hp]
  · exact MoreHistory.refl t

/-- Wherever the storing of a head stops, the store has only more history. -/
lemma persist_keeps (head : CanonicalEngineHead) :
    Keeps MoreHistory (persistCanonicalEngineHeadHistory head) := by
  unfold persistCanonicalEngineHeadHistory
  refine .bind MoreHistory.trans (.liftM MoreHistory.refl _) fun _ => ?_
  refine .bind MoreHistory.trans (.write MoreHistory.refl fun s t _ h => moreHistory_of_write h)
    fun _ => ?_
  exact .read MoreHistory.refl _

lemma verifyPersistedHead_ok (hauthentic : head.authenticate = .ok ()) :
    verifyPersistedHead head s = .ok () ↔ InHistory s head := by
  rw [inHistory_iff, and_iff_left hauthentic]
  unfold verifyPersistedHead
  simp only [bind_ok, readPrivateJson_ok, failIf_ok, not_not, ne_eq]
  constructor
  · intro h
    obtain ⟨persisted, hread, _, -, rfl⟩ := h
    exact hread
  · intro h
    exact ⟨head, h, (), hauthentic, rfl⟩

/-- A head is stored exactly when its slot takes it and gives it back. -/
lemma persist_ok (hauthentic : head.authenticate = .ok ()) :
    (persistCanonicalEngineHeadHistory head).result s = .ok () ↔
      ∃ t, s.writeNewPrivate (canonicalEngineHeadHistoryPath head.manifestDigest)
        (serializePrettyLine head) = .ok (t, ()) ∧ InHistory t head := by
  unfold persistCanonicalEngineHeadHistory
  simp only [result_bind_ok, result_liftM, final_liftM,
    result_read, hauthentic, true_and, exists_const]
  constructor
  · intro h
    obtain ⟨_, hwrite, hverify⟩ := h
    obtain ⟨t, ht⟩ := result_write_ok.mp hwrite
    rw [(write_ok ht).2.1] at hverify
    exact ⟨t, ht, (verifyPersistedHead_ok hauthentic).mp hverify⟩
  · intro h
    obtain ⟨t, hwrite, hhistory⟩ := h
    refine ⟨(), result_write_ok.mpr ⟨t, hwrite⟩, ?_⟩
    rw [(write_ok hwrite).2.1]
    exact (verifyPersistedHead_ok hauthentic).mpr hhistory

lemma persist_final (hauthentic : head.authenticate = .ok ())
    (hwrite : s.writeNewPrivate (canonicalEngineHeadHistoryPath head.manifestDigest)
      (serializePrettyLine head) = .ok (t, ())) :
    (persistCanonicalEngineHeadHistory head).final s = t := by
  have hfirst : (liftM head.authenticate : Durable EngineRoot BrainError Unit).result s =
      .ok () := hauthentic
  unfold persistCanonicalEngineHeadHistory
  rw [final_bind_of_ok hfirst, final_liftM, final_bind_of_ok (write_ok hwrite).1,
    (write_ok hwrite).2.1, final_read]

lemma persistCurrent_keeps (current : Option CanonicalEngineHead) :
    Keeps MoreHistory (persistCurrentHistory current) := by
  cases current with
  | none => exact .pure MoreHistory.refl _
  | some head => exact persist_keeps head

lemma load_authentic (h : loadCanonicalHeadIfPresent s = .ok (some head)) :
    head.authenticate = .ok () := by
  unfold loadCanonicalHeadIfPresent at h
  cases hread : readUntrustedPrivateFileBounded s.toPrivateRoot canonicalEngineHeadPath
      canonicalEngineHeadMaxBytes with
  | ok bytes =>
    simp only [hread, bind_ok, pure_ok, Option.some.injEq] at h
    obtain ⟨_, -, _, hauthentic, rfl⟩ := h
    exact hauthentic
  | error e =>
    rw [hread] at h
    cases e with
    | io kind => cases kind <;> simp at h
    | _ => simp at h

lemma persistCurrent_ok {current : Option CanonicalEngineHead}
    (hload : loadCanonicalHeadIfPresent s = .ok current)
    (h : (persistCurrentHistory current).result s = .ok ()) :
    ∀ c, current = some c → InHistory ((persistCurrentHistory current).final s) c := by
  intro c hc
  subst hc
  have hauthentic := load_authentic hload
  obtain ⟨u, hwrite, hhistory⟩ := (persist_ok hauthentic).mp h
  show InHistory ((persistCanonicalEngineHeadHistory c).final s) c
  rw [persist_final hauthentic hwrite]
  exact hhistory

/-! ## What an advance does -/

section

variable {Observation : Type} [ObservationRecord Observation]

/-- The store after both heads are in the history, before the pointer is replaced. -/
structure Staged (s mid : EngineRoot) (expected : Option CanonicalEngineHead)
    (next : CanonicalEngineHead) : Prop where
  more : MoreHistory s mid
  parent : ∀ c, expected = some c → InHistory mid c
  next_stored : InHistory mid next

/-- The store after the pointer is replaced. -/
def published (mid : EngineRoot) (next : CanonicalEngineHead) : EngineRoot :=
  mid.replacePrivateFileAtomic canonicalEngineHeadPath (serializePrettyLine next)

def After (s : EngineRoot) (expected : Option CanonicalEngineHead) (next : CanonicalEngineHead)
    (t : EngineRoot) : Prop :=
  ∃ mid, Staged s mid expected next ∧ t = published mid next

/-- A publication of the head that follows the present one writes history until it
    replaces the pointer, and nothing after. -/
lemma publish_switches {expected : Option CanonicalEngineHead}
    (hload : loadCanonicalHeadIfPresent s = .ok expected) (hnext : next.authenticate = .ok ()) :
    Switches (MoreHistory s) (After s expected next)
      ((publishCanonicalHead Observation expected next).states s) := by
  have hrefl : ∀ t ∈ [s], MoreHistory s t := by
    intro t ht
    rw [mem_singleton.mp ht]
    exact MoreHistory.refl s
  unfold publishCanonicalHead
  refine .bind hrefl fun _ _ => ?_
  refine .bind hrefl fun current hcurrent => ?_
  rw [final_liftM, result_read, hload] at hcurrent
  cases hcurrent
  refine .bind hrefl fun _ _ => ?_
  refine .bind (persistCurrent_keeps expected s) fun _ hparent => ?_
  have hmore := (persistCurrent_keeps expected).final s
  have hstored := persistCurrent_ok hload hparent
  refine .bind (fun t ht => hmore.trans (persist_keeps next _ t ht)) fun _ hpersist => ?_
  obtain ⟨mid, hwrite, hhistory⟩ := (persist_ok hnext).mp hpersist
  have hmid : MoreHistory s mid := hmore.trans (moreHistory_of_write hwrite)
  have hstaged : Staged s mid expected next :=
    ⟨hmid, fun c hc => (hstored c hc).more (moreHistory_of_write hwrite), hhistory⟩
  have hfinal := persist_final hnext hwrite
  -- what follows the replacement only reads
  rw [Silent.states_bind fun _ => .bind (.read _) fun _ => .pure _, hfinal, (write_ok rfl).2.2]
  refine ⟨[mid], [published mid next], rfl, ?_, ?_⟩
  · intro t ht
    rw [mem_singleton.mp ht]
    exact hmid
  · intro t ht
    rw [mem_singleton.mp ht]
    exact ⟨mid, hstaged, rfl⟩

/-- The pointer that a publication leaves reads back as the new head. -/
lemma load_published {mid : EngineRoot} (hdecodes : DecodesPretty next)
    (hsize : (serializePrettyLine next).size ≤ canonicalEngineHeadMaxBytes)
    (hauthentic : next.authenticate = .ok ()) :
    loadCanonicalHeadIfPresent (published mid next) = .ok (some next) := by
  have hread : readUntrustedPrivateFileBounded (published mid next).toPrivateRoot
      canonicalEngineHeadPath canonicalEngineHeadMaxBytes = .ok (serializePrettyLine next) := by
    refine readUntrustedPrivateFileBounded_ok.mpr ⟨?_, hsize⟩
    show (published mid next).content canonicalEngineHeadPath = _
    rw [published, content_replace, update_self]
  unfold loadCanonicalHeadIfPresent
  rw [hread]
  show (do
    let head ← fromSlice CanonicalEngineHead (serializePrettyLine next)
    head.authenticate
    return some head) = _
  rw [fromSlice_serializePrettyLine hdecodes, ok_bind, hauthentic]
  rfl

/-- What sealing a snapshot gives: an authentic successor of the parent. -/
lemma snapshot_ok {revision : Nat} {parent : Option CanonicalEngineHead}
    {incompleteTransition : Option Sha256Digest} {certificationStatus : Option String}
    {report : Option ReportDigest}
    (h : snapshotCanonicalEngineHead Observation revision parent incompleteTransition
      certificationStatus report s = .ok next) : ∃ corpus sleep bank memory sleepState evidence,
      liveCorpus Observation s = .ok corpus ∧ liveSleep s = .ok sleep ∧
      optionalPointerDigest s bankPath = .ok bank ∧
      optionalPointerDigest s memoryPath = .ok memory ∧
      optionalPointerDigest s sleepStatePath = .ok sleepState ∧
      optionalPointerDigest s sleepEvidencePath = .ok evidence ∧
      next.revision = revision ∧ next.parentRevision = parent.map (·.revision) ∧
      next.parentDigest = parent.map (·.manifestDigest) ∧ next.corpusDigest = corpus.1 ∧
      next.observationCount = corpus.2 ∧ next.activeBankSha256 = bank.map .mk ∧
      next.memorySha256 = memory.map .mk ∧ next.sleepStateSha256 = sleepState ∧
      next.evidenceBundleSha256 = evidence.map .mk ∧
      next.reconstructionReportSha256 = (sleep.bind Prod.snd).or report ∧
      next.certificationStatus = (sleep.bind Prod.fst).or certificationStatus ∧
      next.incompleteTransition = incompleteTransition ∧ next.authenticate = .ok () := by
  simp only [snapshotCanonicalEngineHead, bind_ok] at h
  obtain ⟨corpus, hcorpus, sleep, hsleep, bank, hbank, memory, hmemory, sleepState, hsleepState,
    evidence, hevidence, hseal⟩ := h
  obtain ⟨rfl, hauthentic⟩ := CanonicalEngineHead.seal_ok hseal
  exact ⟨corpus, sleep, bank, memory, sleepState, evidence, hcorpus, hsleep, hbank, hmemory,
    hsleepState, hevidence, rfl, rfl, rfl, rfl, rfl, rfl, rfl, rfl, rfl, rfl, rfl, rfl, hauthentic⟩

/-- The second head follows the first: the genesis, or one revision later with its digest. -/
def Follows (expected : Option CanonicalEngineHead) (next : CanonicalEngineHead) : Prop :=
  next.revision = nextRevision expected ∧
    next.parentRevision = expected.map (·.revision) ∧
    next.parentDigest = expected.map (·.manifestDigest)

variable {incomplete : HeadIncomplete} {certificationStatus : Option String}
  {report : Option ReportDigest} {expected : Option CanonicalEngineHead}

/-- What an advance prepares: the head to expect, and an authentic successor. -/
lemma prepareAdvance_ok (h : prepareAdvance Observation incomplete certificationStatus report s =
      .ok (expected, next)) :
    loadCanonicalHeadIfPresent s = .ok expected ∧ nextRevision expected ≤ hardMaxEngineRevision ∧
      snapshotCanonicalEngineHead Observation (nextRevision expected) expected
        (incomplete.marker expected) certificationStatus
        (report.or (expected.bind (·.reconstructionReportSha256))) s = .ok next ∧
      Follows expected next ∧ next.authenticate = .ok () := by
  simp only [prepareAdvance, bind_ok, failIf_ok, pure_ok, Prod.mk.injEq] at h
  obtain ⟨_, hload, _, hlimit, _, hsnapshot, rfl, rfl⟩ := h
  obtain ⟨_, _, _, _, _, _, -, -, -, -, -, -, hrevision, hparentRevision, hparentDigest, -, -, -, -,
    -, -, -, -, -, hauthentic⟩ := snapshot_ok hsnapshot
  exact ⟨hload, not_lt.mp hlimit, hsnapshot, ⟨hrevision, hparentRevision, hparentDigest⟩,
    hauthentic⟩

/-- What an advance can leave behind, wherever it stops: more history only, or, from
    the replacement of the pointer on, the head that follows the present one. -/
lemma advance_switches (Observation : Type) [ObservationRecord Observation]
    (incomplete : HeadIncomplete) (certificationStatus : Option String)
    (report : Option ReportDigest) (s : EngineRoot) :
    (∀ t ∈ (advanceCanonicalEngineHead Observation incomplete certificationStatus
        report).states s, MoreHistory s t) ∨
      ∃ expected next, loadCanonicalHeadIfPresent s = .ok expected ∧ Follows expected next ∧
        next.authenticate = .ok () ∧ Switches (MoreHistory s) (After s expected next)
          ((advanceCanonicalEngineHead Observation incomplete certificationStatus
            report).states s) := by
  unfold advanceCanonicalEngineHead
  cases hprepare : prepareAdvance Observation incomplete certificationStatus report s with
  | error e =>
    refine .inl ?_
    intro t ht
    rcases mem_states_bind.mp ht with ht | ⟨_, hok, -⟩
    · rw [mem_singleton.mp ht]
      exact MoreHistory.refl s
    · rw [result_read, hprepare] at hok
      cases hok
  | ok prepared =>
    obtain ⟨expected, next⟩ := prepared
    obtain ⟨hload, -, -, hfollows, hauthentic⟩ := prepareAdvance_ok hprepare
    refine .inr ⟨expected, next, hload, hfollows, hauthentic, ?_⟩
    refine .bind (fun t ht => ?_) fun prepared hprepared => ?_
    · rw [mem_singleton.mp ht]
      exact MoreHistory.refl s
    · rw [result_read, hprepare] at hprepared
      cases hprepared
      rw [final_read, Silent.states_bind fun _ => .pure _]
      exact publish_switches hload hauthentic

end

end

end Tidex.Engine
