/-
  Engine.HeadAdvance — when an advance that fails has changed nothing.
-/
import Tidex.Engine.Head

namespace Tidex.Engine

open Tidex.Lib List Function Durable Json Sha256Digest

section

variable [Platform]

/-! ## Slots of the history -/

def SlotAccepts (s : EngineRoot) (head : CanonicalEngineHead) : Prop :=
  let path := canonicalEngineHeadHistoryPath head.manifestDigest
  (s.content path = .error (.io .notFound) ∧
      (serializePrettyLine head).size ≤ canonicalEngineHeadMaxBytes) ∨
    ∃ bytes, s.content path = .ok bytes ∧ bytes.size ≤ canonicalEngineHeadMaxBytes ∧
      Platform.fromSlice CanonicalEngineHead bytes = some head ∧
      digestBytes bytes = digestBytes (serializePrettyLine head)

variable {s t mid : EngineRoot} {head next : CanonicalEngineHead}
  {expected : Option CanonicalEngineHead}

lemma persist_ok_iff_slotAccepts (hauthentic : head.authenticate = .ok ())
    (hdecodes : DecodesPretty head) :
    (persistCanonicalEngineHeadHistory head).result s = .ok () ↔ SlotAccepts s head := by
  rw [persist_ok hauthentic]
  constructor
  · intro h
    obtain ⟨t, hwrite, hstored⟩ := h
    obtain ⟨⟨bytes, hcontent, hsize, hread⟩, -⟩ := inHistory_iff.mp hstored
    rcases writeNewPrivate_engine_ok hwrite with
      ⟨hmissing, -, hupdate⟩ | ⟨rfl, existing, hexisting, hsame⟩
    · rw [hupdate, update_self, Except.ok.injEq] at hcontent
      rw [← hcontent] at hsize
      exact .inl ⟨hmissing, hsize⟩
    · rw [hexisting, Except.ok.injEq] at hcontent
      subst hcontent
      exact .inr ⟨existing, hexisting, hsize, hread, hsame⟩
  · intro h
    rcases h with ⟨hmissing, hsize⟩ | ⟨bytes, hcontent, hsize, hread, hsame⟩
    · obtain ⟨t, hwrite, hupdate⟩ := writeNewPrivate_engine_new hmissing
      refine ⟨t, hwrite, inHistory_iff.mpr ⟨⟨_, ?_, hsize, hdecodes⟩, hauthentic⟩⟩
      rw [hupdate, update_self]
    · exact ⟨s, writeNewPrivate_engine_same hcontent hsame,
        inHistory_iff.mpr ⟨⟨bytes, hcontent, hsize, hread⟩, hauthentic⟩⟩

lemma slotAccepts_congr
    (hcontent : t.content (canonicalEngineHeadHistoryPath head.manifestDigest) =
      s.content (canonicalEngineHeadHistoryPath head.manifestDigest)) :
    SlotAccepts t head ↔ SlotAccepts s head := by
  simp only [SlotAccepts, hcontent]

lemma content_otherSlot {bytes : ByteArray} {c d : CanonicalEngineHeadDigest}
    (hwrite : s.writeNewPrivate (canonicalEngineHeadHistoryPath c) bytes = .ok (t, ()))
    (hne : c ≠ d) :
    t.content (canonicalEngineHeadHistoryPath d) = s.content (canonicalEngineHeadHistoryPath d) := by
  rcases writeNewPrivate_engine_ok hwrite with ⟨-, -, hupdate⟩ | ⟨rfl, -⟩
  · rw [hupdate, update_of_ne]
    exact fun heq => hne (historyPath_injective heq).symm
  · rfl

/-- Both heads can be stored: their slots take them, and are different slots. -/
def Publishable (s : EngineRoot) (expected : Option CanonicalEngineHead)
    (next : CanonicalEngineHead) : Prop :=
  (∀ c, expected = some c → SlotAccepts s c ∧ c.manifestDigest ≠ next.manifestDigest) ∧
    SlotAccepts s next

/-- Both heads are stored exactly when they can be. -/
lemma persist_both (hdecodes : ∀ a : CanonicalEngineHead, DecodesPretty a)
    (hload : loadCanonicalHeadIfPresent s = .ok expected) (hfollows : Follows expected next)
    (hnext : next.authenticate = .ok ()) : ((persistCurrentHistory expected).result s = .ok () ∧
        (persistCanonicalEngineHeadHistory next).result
          ((persistCurrentHistory expected).final s) = .ok ()) ↔ Publishable s expected next := by
  cases expected with
  | none =>
    show (_ ∧ (persistCanonicalEngineHeadHistory next).result s = .ok ()) ↔ _
    rw [persist_ok_iff_slotAccepts hnext (hdecodes next)]
    constructor
    · intro h
      refine ⟨?_, h.2⟩
      intro c hc
      cases hc
    · intro h
      exact ⟨rfl, h.2⟩
  | some c =>
    have hc := load_authentic hload
    show ((persistCanonicalEngineHeadHistory c).result s = .ok () ∧
      (persistCanonicalEngineHeadHistory next).result
        ((persistCanonicalEngineHeadHistory c).final s) = .ok ()) ↔ _
    rw [persist_ok_iff_slotAccepts hnext (hdecodes next)]
    have hdifferent : c ≠ next := by
      intro heq
      have hrevision := hfollows.1
      rw [← heq] at hrevision
      simp [nextRevision] at hrevision
    constructor
    · intro h
      obtain ⟨hpersist, hslot⟩ := h
      obtain ⟨u, hwrite, hstored⟩ := (persist_ok hc).mp hpersist
      rw [persist_final hc hwrite] at hslot
      have hdigest : c.manifestDigest ≠ next.manifestDigest := by
        intro heq
        -- the slot now holds the present head, which is not the next one
        obtain ⟨⟨bytes, hcontent, -, hread⟩, -⟩ := inHistory_iff.mp hstored
        rw [heq] at hcontent
        rcases hslot with ⟨hmissing, -⟩ | ⟨bytes', hcontent', -, hread', -⟩
        · rw [hmissing] at hcontent
          cases hcontent
        · rw [hcontent, Except.ok.injEq] at hcontent'
          subst hcontent'
          rw [hread, Option.some.injEq] at hread'
          exact hdifferent hread'
      have hsame := content_otherSlot hwrite hdigest
      refine ⟨?_, (slotAccepts_congr hsame).mp hslot⟩
      intro c' hc'
      cases hc'
      exact ⟨(persist_ok_iff_slotAccepts hc (hdecodes c)).mp hpersist, hdigest⟩
    · intro h
      obtain ⟨hslot, hdigest⟩ := h.1 c rfl
      have hpersist := (persist_ok_iff_slotAccepts hc (hdecodes c)).mpr hslot
      obtain ⟨u, hwrite, -⟩ := (persist_ok hc).mp hpersist
      have hsame := content_otherSlot hwrite hdigest
      refine ⟨hpersist, ?_⟩
      rw [persist_final hc hwrite]
      exact (slotAccepts_congr hsame).mpr h.2

/-! ## Before the replacement, or at it -/

section

variable (Observation : Type) [ObservationRecord Observation]

omit [Platform] in
lemma compareAndSwap_self (expected : Option CanonicalEngineHead) :
    canonicalHeadCompareAndSwapMatches expected expected = true := by
  cases expected <;> simp [canonicalHeadCompareAndSwapMatches]

/-- The publication of the head after the present one is its storing of both heads, and
    then the replacement and the comparison. -/
lemma publish_eq (hload : loadCanonicalHeadIfPresent s = .ok expected)
    (hnext : next.authenticate = .ok ()) :
    publishCanonicalHead Observation expected next s =
      (do
        persistCurrentHistory expected
        persistCanonicalEngineHeadHistory next
        write fun s =>
          .ok (s.replacePrivateFileAtomic canonicalEngineHeadPath (serializePrettyLine next), ())
        let _ ← read (verifyCurrentCanonicalEngineHead Observation)
        return () : Durable EngineRoot BrainError Unit) s := by
  have hmatch : failIf (¬canonicalHeadCompareAndSwapMatches expected expected = true)
      (integrity "canonical_engine_head_compare_and_swap_conflict") = .ok () :=
    failIf_ok.mpr (not_not.mpr (compareAndSwap_self expected))
  unfold publishCanonicalHead
  rw [bind_liftM_of_ok hnext, bind_read_of_ok hload, bind_liftM_of_ok hmatch]

section

variable (hdecodes : ∀ a : CanonicalEngineHead, DecodesPretty a)
  (hload : loadCanonicalHeadIfPresent s = .ok expected) (hfollows : Follows expected next)
  (hnext : next.authenticate = .ok ())
include hdecodes hload hfollows hnext

/-- Where the heads cannot both be stored, the publication stops before the pointer. -/
lemma publish_stops (hblocked : ¬Publishable s expected next) :
    (∃ e, (publishCanonicalHead Observation expected next).result s = .error e) ∧
      MoreHistory s ((publishCanonicalHead Observation expected next).final s) := by
  rw [← persist_both hdecodes hload hfollows hnext, not_and] at hblocked
  have heq := publish_eq Observation hload hnext
  rw [result_congr heq, final_congr heq]
  have hfirst := (persistCurrent_keeps expected).final s
  cases hcurrent : (persistCurrentHistory expected).result s with
  | error e =>
    rw [result_bind_of_error hcurrent, final_bind_of_error hcurrent]
    exact ⟨⟨e, rfl⟩, hfirst⟩
  | ok _ =>
    rw [result_bind_of_ok hcurrent, final_bind_of_ok hcurrent]
    have hsecond := hfirst.trans ((persist_keeps next).final _)
    cases hpersist : (persistCanonicalEngineHeadHistory next).result
        ((persistCurrentHistory expected).final s) with
    | error e =>
      rw [result_bind_of_error hpersist, final_bind_of_error hpersist]
      exact ⟨⟨e, rfl⟩, hsecond⟩
    | ok _ => exact absurd hpersist (hblocked hcurrent)

/-- Where they can, it replaces the pointer and then compares. -/
lemma publish_reaches (h : Publishable s expected next) : ∃ mid, Staged s mid expected next ∧
      (publishCanonicalHead Observation expected next).final s = published mid next ∧
      (publishCanonicalHead Observation expected next).result s =
        (verifyCurrentCanonicalEngineHead Observation (published mid next)).map fun _ => () := by
  obtain ⟨hcurrent, hpersist⟩ := (persist_both hdecodes hload hfollows hnext).mpr h
  obtain ⟨mid, hwrite, hstored⟩ := (persist_ok hnext).mp hpersist
  have hfinal := persist_final hnext hwrite
  have hmore := (persistCurrent_keeps expected).final s
  refine ⟨mid, ⟨hmore.trans (moreHistory_of_write hwrite), ?_, hstored⟩, ?_, ?_⟩
  · intro c hc
    exact (persistCurrent_ok hload hcurrent c hc).more (moreHistory_of_write hwrite)
  · rw [final_congr (publish_eq Observation hload hnext), final_bind_of_ok hcurrent,
      final_bind_of_ok hpersist, hfinal,
      Silent.final_bind fun _ => .bind (.read _) fun _ => .pure _]
    rfl
  · rw [result_congr (publish_eq Observation hload hnext), result_bind_of_ok hcurrent,
      result_bind_of_ok hpersist, hfinal, result_bind_of_ok (write_ok rfl).1, (write_ok rfl).2.1]
    show ((read (verifyCurrentCanonicalEngineHead Observation) >>= fun _ => pure () :
      Durable EngineRoot BrainError Unit)).result (published mid next) = _
    have hread : (read (verifyCurrentCanonicalEngineHead
        Observation)).result (published mid next) =
      verifyCurrentCanonicalEngineHead Observation (published mid next) := rfl
    cases hverify : verifyCurrentCanonicalEngineHead Observation (published mid next) with
    | error e =>
      rw [result_bind_of_error (hread.trans hverify)]
      rfl
    | ok head =>
      rw [result_bind_of_ok (hread.trans hverify)]
      rfl

end

end

/-! ## What the comparison decides -/

section

variable {Observation : Type} [ObservationRecord Observation]

omit [Platform] in
lemma historyPath_apart {path : String}
    (h : apart "state/canonical_engine_heads/by-sha/" path = true) (d : CanonicalEngineHeadDigest) :
    path ≠ canonicalEngineHeadHistoryPath d := by
  unfold canonicalEngineHeadHistoryPath
  rw [String.append_assoc]
  exact fun heq => append_ne h _ heq.symm

lemma Staged.sameLive (h : Staged s mid expected next) : SameLive s (published mid next) := by
  have hpath : ∀ path, path ≠ canonicalEngineHeadPath →
      (∀ d, path ≠ canonicalEngineHeadHistoryPath d) →
      (published mid next).content path = s.content path := by
    intro path hhead hhistory
    rw [published, content_replace, update_of_ne hhead]
    exact h.more.content_of_ne hhistory
  refine ⟨h.more.names_eq, ?_, ?_, ?_, ?_, ?_⟩
  · intro name
    have hhead : observationsPath ++ "/" ++ name ≠ canonicalEngineHeadPath := by
      rw [String.append_assoc]
      exact append_ne (by decide +kernel) _
    refine hpath _ hhead ?_
    intro d heq
    unfold canonicalEngineHeadHistoryPath at heq
    rw [String.append_assoc, String.append_assoc] at heq
    exact append_ne_append (by decide +kernel) _ _ heq
  · exact hpath _ (by decide +kernel) (historyPath_apart (by decide +kernel))
  · exact hpath _ (by decide +kernel) (historyPath_apart (by decide +kernel))
  · exact hpath _ (by decide +kernel) (historyPath_apart (by decide +kernel))
  · exact hpath _ (by decide +kernel) (historyPath_apart (by decide +kernel))

/-- What the live pointers must be for a head to be current. -/
def LiveAgrees (Observation : Type) [ObservationRecord Observation] (s : EngineRoot)
    (head : CanonicalEngineHead) : Prop :=
  ∃ corpus bank memory sleepState evidence,
    liveCorpus Observation s = .ok corpus ∧ optionalPointerDigest s bankPath = .ok bank ∧
    optionalPointerDigest s memoryPath = .ok memory ∧
    optionalPointerDigest s sleepStatePath = .ok sleepState ∧
    optionalPointerDigest s sleepEvidencePath = .ok evidence ∧
    incompleteTransitionOperationKey s = .ok head.incompleteTransition ∧
    head.corpusDigest = corpus.1 ∧ head.observationCount = corpus.2 ∧
    head.activeBankSha256 = bank.map .mk ∧ head.memorySha256 = memory.map .mk ∧
    head.sleepStateSha256 = sleepState ∧ head.evidenceBundleSha256 = evidence.map .mk

/-- What it takes for a head to be verified as the current one. -/
lemma verify_ok : verifyCurrentCanonicalEngineHead Observation s = .ok head ↔
      loadCanonicalHeadIfPresent s = .ok (some head) ∧ InHistory s head ∧
        verifyParent s head = .ok () ∧ LiveAgrees Observation s head ∧
        verifySleep s head = .ok () := by
  unfold verifyCurrentCanonicalEngineHead LiveAgrees InHistory
  simp only [bind_ok, okOr_ok, failIf_ok, pure_ok, not_or, not_not, ne_eq]
  constructor
  · intro h
    obtain ⟨_, hload, _, rfl, _, hhistory, _, rfl, _, hparent, corpus, hcorpus, bank, hbank,
      memory, hmemory, sleepState, hsleepState, evidence, hevidence, key, hkey, _,
      ⟨h1, h2, h3, h4, h5, h6, h7⟩, _, hsleep, rfl⟩ := h
    refine ⟨hload, hhistory, hparent, ?_, hsleep⟩
    exact ⟨corpus, bank, memory, sleepState, evidence, hcorpus, hbank, hmemory, hsleepState,
      hevidence, h7 ▸ hkey, h1, h2, h3, h4, h5, h6⟩
  · intro h
    obtain ⟨hload, hhistory, hparent, ⟨corpus, bank, memory, sleepState, evidence, hcorpus, hbank,
      hmemory, hsleepState, hevidence, hkey, h1, h2, h3, h4, h5, h6⟩, hsleep⟩ := h
    exact ⟨_, hload, _, rfl, _, hhistory, (), rfl, (), hparent, corpus, hcorpus, bank, hbank,
      memory, hmemory, sleepState, hsleepState, evidence, hevidence, _, hkey, (),
      ⟨h1, h2, h3, h4, h5, h6, rfl⟩, (), hsleep, rfl⟩

/-- What the caller says of the sleep state is what the sleep state says, or it says
    nothing where the sleep state is silent. -/
def SleepAgrees (certificationStatus : Option String) (report : Option ReportDigest) :
    Option (Option String × Option ReportDigest) → Prop
  | none => certificationStatus = none
  | some (live, liveReport) => (live = none → certificationStatus = none) ∧
      (liveReport = none → report = none)

omit [Platform] in
lemma or_eq_left_iff {α : Type} {a b : Option α} : a.or b = a ↔ (a = none → b = none) := by
  cases a <;> simp

lemma verifySleep_ok {sleep : Option (Option String × Option ReportDigest)}
    {certificationStatus : Option String} {report : Option ReportDigest}
    (hsleep : liveSleep s = .ok sleep)
    (hcertification : head.certificationStatus = (sleep.bind Prod.fst).or certificationStatus)
    (hreport : head.reconstructionReportSha256 = (sleep.bind Prod.snd).or report) :
    verifySleep s head = .ok () ↔ SleepAgrees certificationStatus report sleep := by
  unfold verifySleep
  rw [hsleep]
  cases sleep with
  | none =>
    show failIf _ _ = _ ↔ certificationStatus = none
    rw [failIf_ok, hcertification]
    simp
  | some sleep =>
    show failIf _ _ = _ ↔ (sleep.1 = none → _) ∧ (sleep.2 = none → _)
    rw [failIf_ok, hcertification, hreport, ← or_eq_left_iff, ← or_eq_left_iff]
    simp [not_or]

lemma verifyParent_published (h : Staged s mid expected next) (hfollows : Follows expected next) :
    verifyParent (published mid next) next = .ok () := by
  obtain ⟨hrevision, hparentRevision, hparentDigest⟩ := hfollows
  unfold verifyParent
  rw [hparentDigest]
  cases expected with
  | none => rfl
  | some c =>
    have hparent : InHistory (published mid next) c := (h.parent c rfl).replace _
    show (do
      let parent ← loadHistoricalHead (published mid next) c.manifestDigest
      failIf _ _) = _
    rw [hparent, ok_bind, failIf_ok, hparentRevision, hrevision]
    simp [nextRevision]

lemma load_published_size (h : loadCanonicalHeadIfPresent (published mid next) = .ok (some head)) :
    (serializePrettyLine next).size ≤ canonicalEngineHeadMaxBytes := by
  unfold loadCanonicalHeadIfPresent at h
  cases hread : readUntrustedPrivateFileBounded (published mid next).toPrivateRoot
      canonicalEngineHeadPath canonicalEngineHeadMaxBytes with
  | error e =>
    rw [hread] at h
    cases e with
    | io kind => cases kind <;> simp at h
    | _ => simp at h
  | ok bytes =>
    obtain ⟨hcontent, hsize⟩ := readUntrustedPrivateFileBounded_ok.mp hread
    have hline : (published mid next).content canonicalEngineHeadPath =
        .ok (serializePrettyLine next) := by
      rw [published, content_replace, update_self]
    rw [show (published mid next).toPrivateRoot.content canonicalEngineHeadPath =
      .ok (serializePrettyLine next) from hline, Except.ok.injEq] at hcontent
    rw [hcontent]
    exact hsize

/-- What an advance asks for agrees with what is live. -/
structure Agrees (s : EngineRoot) (incomplete : HeadIncomplete)
    (certificationStatus : Option String) (report : Option ReportDigest)
    (expected : Option CanonicalEngineHead) (next : CanonicalEngineHead) : Prop where
  size : (serializePrettyLine next).size ≤ canonicalEngineHeadMaxBytes
  marker : incompleteTransitionOperationKey s = .ok (incomplete.marker expected)
  sleep : ∀ sleep, liveSleep s = .ok sleep →
    SleepAgrees certificationStatus (report.or (expected.bind (·.reconstructionReportSha256))) sleep

variable {incomplete : HeadIncomplete} {certificationStatus : Option String}
  {report : Option ReportDigest}

/-- The head just published is verified exactly when the request agrees with what is
    live. -/
lemma verify_published (head : CanonicalEngineHead) (hdecodes : DecodesPretty next)
    (hprepare : prepareAdvance Observation incomplete certificationStatus report s =
      .ok (expected, next)) (hstaged : Staged s mid expected next) :
    verifyCurrentCanonicalEngineHead Observation (published mid next) = .ok head ↔
      head = next ∧ Agrees s incomplete certificationStatus report expected next := by
  obtain ⟨-, -, hsnapshot, hfollows, hauthentic⟩ := prepareAdvance_ok hprepare
  obtain ⟨corpus, sleep, bank, memory, sleepState, evidence, hcorpus, hsleep, hbank, hmemory,
    hsleepState, hevidence, -, -, -, h1, h2, h3, h4, h5, h6, hreport, hcertification, hmarker,
    -⟩ := snapshot_ok hsnapshot
  have hlive := hstaged.sameLive
  have hstored : InHistory (published mid next) next := hstaged.next_stored.replace _
  have hsleepIff := verifySleep_ok (hlive.liveSleep_eq.trans hsleep) hcertification hreport
  rw [verify_ok]
  constructor
  · intro h
    obtain ⟨hload, -, -, hagrees, hverifySleep⟩ := h
    have hsize := load_published_size hload
    rw [load_published hdecodes hsize hauthentic, Except.ok.injEq, Option.some.injEq] at hload
    subst hload
    refine ⟨rfl, hsize, ?_, ?_⟩
    · obtain ⟨_, _, _, _, _, -, -, -, -, -, hkey, -⟩ := hagrees
      rw [← hlive.incompleteTransition_eq, hkey, hmarker]
    · intro sleep' hsleep'
      rw [hsleep, Except.ok.injEq] at hsleep'
      subst hsleep'
      exact hsleepIff.mp hverifySleep
  · intro h
    obtain ⟨rfl, hsize, hkey, hagrees⟩ := h
    refine ⟨load_published hdecodes hsize hauthentic, hstored,
      verifyParent_published hstaged hfollows, ?_, hsleepIff.mpr (hagrees sleep hsleep)⟩
    refine ⟨corpus, bank, memory, sleepState, evidence, ?_, ?_, ?_, ?_, ?_, ?_, h1, h2, h3, h4, h5,
      h6⟩
    · rw [hlive.liveCorpus_eq Observation, hcorpus]
    · rw [optionalPointerDigest_congr hlive.bank, hbank]
    · rw [optionalPointerDigest_congr hlive.memory, hmemory]
    · rw [optionalPointerDigest_congr hlive.sleepState, hsleepState]
    · rw [optionalPointerDigest_congr hlive.sleepEvidence, hevidence]
    · rw [hlive.incompleteTransition_eq, hkey, hmarker]

end

/-! ## When an advance that fails has changed nothing -/

section

variable (Observation : Type) [ObservationRecord Observation]

/-- A failing advance leaves the head's file as it was; a successful one returns the
    current head, which follows the previous one and is verified. -/
def AdvanceAtomic (s : EngineRoot) (incomplete : HeadIncomplete)
    (certificationStatus : Option String) (report : Option ReportDigest) : Prop :=
  let advance := advanceCanonicalEngineHead Observation incomplete certificationStatus report
  (∀ e, advance.result s = .error e →
      (advance.final s).content canonicalEngineHeadPath = s.content canonicalEngineHeadPath) ∧
    ∀ head, advance.result s = .ok head →
      loadCanonicalHeadIfPresent (advance.final s) = .ok (some head) ∧
        (∃ previous, loadCanonicalHeadIfPresent s = .ok previous ∧ Follows previous head) ∧
        verifyCurrentCanonicalEngineHead Observation (advance.final s) = .ok head

variable {Observation} {incomplete : HeadIncomplete} {certificationStatus : Option String}
  {report : Option ReportDigest}

lemma published_content_ne (hdecodes : DecodesPretty next)
    (hload : loadCanonicalHeadIfPresent s = .ok expected) (hfollows : Follows expected next) :
    (published mid next).content canonicalEngineHeadPath ≠ s.content canonicalEngineHeadPath := by
  intro heq
  have hline : s.content canonicalEngineHeadPath = .ok (serializePrettyLine next) := by
    rw [← heq, published, content_replace, update_self]
  unfold loadCanonicalHeadIfPresent at hload
  by_cases hsize : (serializePrettyLine next).size ≤ canonicalEngineHeadMaxBytes
  · rw [readUntrustedPrivateFileBounded_ok.mpr ⟨hline, hsize⟩] at hload
    simp only [fromSlice_serializePrettyLine hdecodes, ok_bind, bind_ok, pure_ok] at hload
    obtain ⟨_, -, rfl⟩ := hload
    have hrevision := hfollows.1
    simp [nextRevision] at hrevision
  · have hlimit : readUntrustedPrivateFileBounded s.toPrivateRoot canonicalEngineHeadPath
        canonicalEngineHeadMaxBytes = .error (invalid "private_file_read_limit_exceeded") := by
      unfold readUntrustedPrivateFileBounded
      rw [hline, ok_bind, failIf, if_pos (not_le.mp hsize)]
      rfl
    rw [hlimit] at hload
    cases hload

lemma advance_of_prepared
    (hprepare : prepareAdvance Observation incomplete certificationStatus report s =
      .ok (expected, next)) :
    (advanceCanonicalEngineHead Observation incomplete certificationStatus report).result s =
        ((publishCanonicalHead Observation expected next).result s).map (fun _ => next) ∧
      (advanceCanonicalEngineHead Observation incomplete certificationStatus report).final s =
        (publishCanonicalHead Observation expected next).final s := by
  have heq : advanceCanonicalEngineHead Observation incomplete certificationStatus report s =
      (publishCanonicalHead Observation expected next >>= fun _ => pure next) s := by
    unfold advanceCanonicalEngineHead
    rw [bind_read_of_ok hprepare]
  refine ⟨?_, ?_⟩
  · rw [result_congr heq]
    cases hpublish : (publishCanonicalHead Observation expected next).result s with
    | error e => rw [result_bind_of_error hpublish]; rfl
    | ok _ => rw [result_bind_of_ok hpublish]; rfl
  · rw [final_congr heq, Silent.final_bind fun _ => .pure _]

lemma advance_of_unprepared {e : BrainError}
    (hprepare : prepareAdvance Observation incomplete certificationStatus report s = .error e) :
    (advanceCanonicalEngineHead Observation incomplete certificationStatus report).result s =
        .error e ∧
      (advanceCanonicalEngineHead Observation incomplete certificationStatus report).final s =
        s := by
  have hread : (read (prepareAdvance Observation incomplete certificationStatus
      report)).result s = .error e := hprepare
  unfold advanceCanonicalEngineHead
  rw [result_bind_of_error hread, final_bind_of_error hread]
  exact ⟨rfl, rfl⟩

section

variable (hdecodes : ∀ a : CanonicalEngineHead, DecodesPretty a)
  (hprepare : prepareAdvance Observation incomplete certificationStatus report s = .ok (expected, next))
include hdecodes hprepare

/-- An advance that can store its heads does as it should exactly where its request
    agrees with what is live. -/
lemma atomic_iff_of_publishable (hpublishable : Publishable s expected next) :
    AdvanceAtomic Observation s incomplete certificationStatus report ↔
      Agrees s incomplete certificationStatus report expected next := by
  obtain ⟨hload, -, -, hfollows, hauthentic⟩ := prepareAdvance_ok hprepare
  obtain ⟨hresult, hfinal⟩ := advance_of_prepared hprepare
  obtain ⟨mid, hstaged, hreached, hverified⟩ :=
    publish_reaches Observation hdecodes hload hfollows hauthentic hpublishable
  have hiff := fun head => verify_published head (hdecodes next) hprepare hstaged
  unfold AdvanceAtomic
  dsimp only
  rw [hresult, hfinal, hverified, hreached]
  constructor
  · intro h
    cases hverify : verifyCurrentCanonicalEngineHead Observation (published mid next) with
    | error e =>
      -- the pointer is replaced already when the comparison fails
      rw [hverify] at h
      exact absurd (h.1 e rfl) (published_content_ne (hdecodes next) hload hfollows)
    | ok head => exact ((hiff head).mp hverify).2
  · intro h
    have hverify := (hiff next).mpr ⟨rfl, h⟩
    rw [hverify]
    refine ⟨?_, ?_⟩
    · intro e he
      cases he
    · intro head hhead
      cases hhead
      exact ⟨(verify_ok.mp hverify).1, ⟨expected, hload, hfollows⟩, rfl⟩

lemma atomic_of_blocked (hblocked : ¬Publishable s expected next) :
    AdvanceAtomic Observation s incomplete certificationStatus report := by
  obtain ⟨hload, -, -, hfollows, hauthentic⟩ := prepareAdvance_ok hprepare
  obtain ⟨hresult, hfinal⟩ := advance_of_prepared hprepare
  obtain ⟨⟨e, herror⟩, hmore⟩ :=
    publish_stops Observation hdecodes hload hfollows hauthentic hblocked
  unfold AdvanceAtomic
  dsimp only
  rw [hresult, hfinal, herror]
  refine ⟨fun _ _ => hmore.content_headPath, ?_⟩
  intro head hhead
  cases hhead

end

lemma atomic_of_unprepared {e : BrainError}
    (hprepare : prepareAdvance Observation incomplete certificationStatus report s = .error e) :
    AdvanceAtomic Observation s incomplete certificationStatus report := by
  obtain ⟨hresult, hfinal⟩ := advance_of_unprepared hprepare
  unfold AdvanceAtomic
  dsimp only
  rw [hresult, hfinal]
  refine ⟨fun _ _ => rfl, ?_⟩
  intro head hhead
  cases hhead

/-- **When an advance that fails has changed nothing**: exactly where, if the next head
    can be stored at all, what the request asks for agrees with what is live. -/
theorem advance_changes_nothing_iff (hdecodes : ∀ a : CanonicalEngineHead, DecodesPretty a)
    (s : EngineRoot) (incomplete : HeadIncomplete) (certificationStatus : Option String)
    (report : Option ReportDigest) :
    AdvanceAtomic Observation s incomplete certificationStatus report ↔
      ∀ expected next, prepareAdvance Observation incomplete certificationStatus report s =
          .ok (expected, next) → Publishable s expected next →
        Agrees s incomplete certificationStatus report expected next := by
  cases hprepare : prepareAdvance Observation incomplete certificationStatus report s with
  | error e =>
    refine ⟨?_, fun _ => atomic_of_unprepared hprepare⟩
    intro _ expected next heq
    cases heq
  | ok prepared =>
    obtain ⟨expected, next⟩ := prepared
    by_cases hpublishable : Publishable s expected next
    · rw [atomic_iff_of_publishable hdecodes hprepare hpublishable]
      constructor
      · intro h expected' next' heq _
        cases heq
        exact h
      · intro h
        exact h expected next rfl hpublishable
    · refine ⟨?_, fun _ => atomic_of_blocked hdecodes hprepare hpublishable⟩
      intro _ expected' next' heq hcan
      cases heq
      exact absurd hcan hpublishable

end

end

/-! ## The first head of an empty store -/

namespace Sample

/-- A record with nothing but a name. -/
structure Record where
  id : String

instance : ObservationRecord Record where
  toJson r := .str r.id
  observationId r := r.id

def emptyRoot : EngineRoot where
  content _ := .error (.io .notFound)
  capabilityBundle _ := .error (.io .notFound)
  names _ := .error (.io .notFound)

def genesisDraft (marker : Option Sha256Digest) : CanonicalEngineHead where
  schema := canonicalEngineHeadSchema
  revision := 0
  parentRevision := none
  parentDigest := none
  corpusDigest := none
  observationCount := 0
  activeBankSha256 := none
  memorySha256 := none
  sleepStateSha256 := none
  evidenceBundleSha256 := none
  reconstructionReportSha256 := none
  certificationStatus := none
  incompleteTransition := marker
  manifestDigest := ⟨zero⟩

section

variable [Platform]

def genesis (marker : Option Sha256Digest) : CanonicalEngineHead :=
  { genesisDraft marker with manifestDigest := (genesisDraft marker).calculateDigest }

lemma prepareAdvance_emptyRoot (incomplete : HeadIncomplete) :
    prepareAdvance Record incomplete none none emptyRoot =
      .ok (none, genesis (incomplete.marker none)) := by
  rfl

def fixedMembers : List (String × Json) :=
  [("schema", toJson canonicalEngineHeadSchema), ("revision", .num 0), ("parent_revision", .null),
    ("parent_digest", .null), ("corpus_digest", .null), ("observation_count", .num 0),
    ("active_bank_sha256", .null), ("memory_sha256", .null), ("sleep_state_sha256", .null),
    ("evidence_bundle_sha256", .null), ("reconstruction_report_sha256", .null),
    ("certification_status", .null)]

def genesisMembers (marker : Option Sha256Digest) : List (String × Json) :=
  fixedMembers ++ [("incomplete_transition", toJson marker),
    ("manifest_digest", toJson (genesisDraft marker).calculateDigest.raw)]

def memberSize (m : String × Json) : Nat :=
  textSize (quote m.1) + textSize (renderPretty 1 m.2)

omit [Platform] in
lemma memberSize_digest_le (k : String) (d : Sha256Digest) :
    memberSize (k, toJson d) ≤ 12 * k.toList.length + 772 := by
  have hkey := textSize_quote_le k
  have hvalue := textSize_quote_le d.hex
  rw [d.length_hex] at hvalue
  show textSize (quote k) + textSize (renderPretty 1 (.str d.hex)) ≤ _
  rw [renderPretty]
  omega

lemma memberSize_genesis_le (marker : Option Sha256Digest) :
    ∀ m ∈ genesisMembers marker, memberSize m ≤ 1100 := by
  have hfixed : (fixedMembers.all fun m => decide (memberSize m ≤ 1100)) = true := by
    decide +kernel
  intro m hm
  rcases mem_append.mp hm with hm | hm
  · exact of_decide_eq_true (all_eq_true.mp hfixed m hm)
  · rcases mem_cons.mp hm with rfl | hm
    · cases marker with
      | none => decide +kernel
      | some d =>
        exact (memberSize_digest_le "incomplete_transition" d).trans (by decide +kernel)
    · rw [mem_singleton.mp hm]
      exact (memberSize_digest_le "manifest_digest" _).trans (by decide +kernel)

lemma size_genesis_le (marker : Option Sha256Digest) :
    (serializePrettyLine (genesis marker)).size ≤ canonicalEngineHeadMaxBytes := by
  have hjson : toJson (genesis marker) = .obj (genesisMembers marker) := rfl
  have hmembers := prettyMembersSize_le 0 1100 (genesisMembers marker)
    (memberSize_genesis_le marker)
  have hobject := textSize_renderPretty_obj_le 0 (genesisMembers marker)
  have hlimit : canonicalEngineHeadMaxBytes = 1048576 := by decide
  have hcount : (genesisMembers marker).length = 14 := rfl
  rw [serializePrettyLine, hjson, size_toPrettyLineBytes, hlimit]
  rw [hcount] at hmembers
  omega

lemma publishable_genesis (marker : Option Sha256Digest) :
    Publishable emptyRoot none (genesis marker) := by
  refine ⟨?_, .inl ⟨rfl, size_genesis_le marker⟩⟩
  intro c hc
  cases hc

lemma agrees_emptyRoot (incomplete : HeadIncomplete) :
    Agrees emptyRoot incomplete none none none (genesis (incomplete.marker none)) ↔
      incomplete.marker none = none := by
  have hkey : incompleteTransitionOperationKey emptyRoot = .ok none := rfl
  constructor
  · intro h
    have hmarker := h.marker
    rw [hkey, Except.ok.injEq] at hmarker
    exact hmarker.symm
  · intro h
    refine ⟨size_genesis_le _, by rw [hkey, h], ?_⟩
    intro sleep hsleep
    have hnone : liveSleep emptyRoot = .ok none := rfl
    rw [hnone, Except.ok.injEq] at hsleep
    subst hsleep
    rfl

lemma first_advance (hdecodes : ∀ a : CanonicalEngineHead, DecodesPretty a) :
    let advance := advanceCanonicalEngineHead Record .clear none none
    advance.result emptyRoot = .ok (genesis none) ∧
      loadCanonicalHeadIfPresent (advance.final emptyRoot) = .ok (some (genesis none)) := by
  have hprepare := prepareAdvance_emptyRoot .clear
  obtain ⟨hload, -, -, hfollows, hauthentic⟩ := prepareAdvance_ok hprepare
  obtain ⟨mid, hstaged, hfinal, hresult⟩ :=
    publish_reaches Record hdecodes hload hfollows hauthentic (publishable_genesis none)
  have hverify := (verify_published _ (hdecodes _) hprepare hstaged).mpr
    ⟨rfl, (agrees_emptyRoot .clear).mpr rfl⟩
  obtain ⟨hresult', hfinal'⟩ := advance_of_prepared hprepare
  refine ⟨?_, ?_⟩
  · rw [hresult', hresult, hverify]
    rfl
  · rw [hfinal', hfinal]
    exact (verify_ok.mp hverify).1

end

attribute [local instance] Platform.serde

/-- The first head of an empty store, under no marker, is published as it should be. -/
theorem first_advance_atomic : AdvanceAtomic Record emptyRoot .clear none none := by
  refine (advance_changes_nothing_iff decodesPretty_serde emptyRoot .clear none none).mpr ?_
  intro expected next hprepare _
  rw [prepareAdvance_emptyRoot] at hprepare
  cases hprepare
  exact (agrees_emptyRoot .clear).mpr rfl

/-- **A marker for a transition that is not there is published before it is refused.** -/
theorem marked_advance_not_atomic :
    ¬AdvanceAtomic Record emptyRoot (.set Sha256Digest.zero) none none := by
  have hprepare := prepareAdvance_emptyRoot (.set zero)
  rw [atomic_iff_of_publishable decodesPretty_serde hprepare (publishable_genesis _),
    agrees_emptyRoot]
  intro h
  cases h

end Sample

end Tidex.Engine
