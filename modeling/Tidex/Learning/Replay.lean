/-
  Learning.Replay — a memory is rebuilt from its own records.
-/
import Tidex.Learning.Reducer
import Tidex.Foundation.Reference

namespace Tidex.Learning

open Tidex.Lib List Option Set
open Tidex.Lib.BTreeMap

namespace ProceduralMemory

section

variable [Platform] {m m' : ProceduralMemory} {r : Records}

/-! ## Lawful records -/

/-- What the records of a memory satisfy, whatever order they came in. -/
structure Lawful (r : Records) : Prop where
  attemptsAuthentic : ∀ a ∈ r.attempts, a.authenticate = .ok ()
  failuresAuthentic : ∀ f ∈ r.failures, f.authenticate = .ok ()
  driftsAuthentic : ∀ d ∈ r.drifts, d.authenticate = .ok ()
  /-- An evaluation receipt is used by one attempt. -/
  evaluations : ∀ a ∈ r.attempts, ∀ b ∈ r.attempts, ∀ receipt,
    a.evaluationReceipt = some receipt → b.evaluationReceipt = some receipt → a = b
  driftReceipts : ∀ d ∈ r.drifts, ∀ e ∈ r.drifts,
    d.evidenceReceiptDigest = e.evidenceReceiptDigest → d = e
  /-- No receipt is used by both. -/
  apart : ∀ a ∈ r.attempts, ∀ d ∈ r.drifts, a.evaluationReceipt ≠ some d.evidenceReceiptDigest
  rooted : ∀ a ∈ r.attempts, Rooted r.attempts a
  founded : ∀ d ∈ r.drifts, Founded r.attempts d

namespace Lawful

lemma none : Lawful Records.none := by
  constructor <;> simp [Records.none]

lemma withAttempt (h : Lawful r) (hm : Holds m r) {a : SolverAttempt}
    (hadmits : m.AdmitsAttempt a) : Lawful (r.withAttempt a) where
  attemptsAuthentic := by
    intro b hb
    rcases mem_insert_iff.mp hb with heq | hb
    · rw [heq]
      exact hadmits.authentic
    · exact h.attemptsAuthentic b hb
  failuresAuthentic := h.failuresAuthentic
  driftsAuthentic := h.driftsAuthentic
  evaluations := by
    -- a receipt of an attempt that was there is registered, so the new one is another
    have hnew : ∀ b ∈ r.attempts, ∀ receipt, a.evaluationReceipt = some receipt →
        b.evaluationReceipt ≠ some receipt := by
      intro b hb receipt ha hreceipt
      exact hadmits.receipt receipt ha ((hm.evidence receipt).mpr (.inl ⟨b, hb, hreceipt⟩))
    intro b hb c hc receipt hbreceipt hcreceipt
    rcases mem_insert_iff.mp hb with heqb | hb
    · rcases mem_insert_iff.mp hc with heqc | hc
      · rw [heqb, heqc]
      · rw [heqb] at hbreceipt
        exact absurd hcreceipt (hnew c hc receipt hbreceipt)
    · rcases mem_insert_iff.mp hc with heqc | hc
      · rw [heqc] at hcreceipt
        exact absurd hbreceipt (hnew b hb receipt hcreceipt)
      · exact h.evaluations b hb c hc receipt hbreceipt hcreceipt
  driftReceipts := h.driftReceipts
  apart := by
    intro b hb d hd hreceipt
    rcases mem_insert_iff.mp hb with heq | hb
    · rw [heq] at hreceipt
      exact hadmits.receipt _ hreceipt ((hm.evidence _).mpr (.inr ⟨d, hd, rfl⟩))
    · exact h.apart b hb d hd hreceipt
  rooted := by
    intro b hb
    have hsub : r.attempts ⊆ insert a r.attempts := subset_insert a r.attempts
    rcases mem_insert_iff.mp hb with heq | hb
    · rw [heq]
      exact ((validateLineage_ok hm).mp hadmits.lineage).2.mono hsub
    · exact (h.rooted b hb).mono hsub
  founded := by
    intro d hd
    exact (h.founded d hd).mono (subset_insert a r.attempts)

lemma withFailure (h : Lawful r) {f : SolverRunFailureRecord}
    (hadmits : m.AdmitsFailure f) : Lawful (r.withFailure f) where
  attemptsAuthentic := h.attemptsAuthentic
  failuresAuthentic := by
    intro g hg
    rcases mem_insert_iff.mp hg with heq | hg
    · rw [heq]
      exact hadmits.authentic
    · exact h.failuresAuthentic g hg
  driftsAuthentic := h.driftsAuthentic
  evaluations := h.evaluations
  driftReceipts := h.driftReceipts
  apart := h.apart
  rooted := h.rooted
  founded := h.founded

lemma withDrift (h : Lawful r) (hm : Holds m r) {d : DriftRecord}
    (hadmits : m.AdmitsDrift r d) : Lawful (r.withDrift d) where
  attemptsAuthentic := h.attemptsAuthentic
  failuresAuthentic := h.failuresAuthentic
  driftsAuthentic := by
    intro e he
    rcases mem_insert_iff.mp he with heq | he
    · rw [heq]
      exact hadmits.authentic
    · exact h.driftsAuthentic e he
  evaluations := h.evaluations
  driftReceipts := by
    have hnew : ∀ e ∈ r.drifts, e.evidenceReceiptDigest ≠ d.evidenceReceiptDigest := by
      intro e he heq
      exact hadmits.receipt ((hm.evidence _).mpr (.inr ⟨e, he, heq⟩))
    intro e he e' he' heq
    rcases mem_insert_iff.mp he with hed | he
    · rcases mem_insert_iff.mp he' with hed' | he'
      · rw [hed, hed']
      · rw [hed] at heq
        exact absurd heq.symm (hnew e' he')
    · rcases mem_insert_iff.mp he' with hed' | he'
      · rw [hed'] at heq
        exact absurd heq (hnew e he)
      · exact h.driftReceipts e he e' he' heq
  apart := by
    intro a ha e he hreceipt
    rcases mem_insert_iff.mp he with heq | he
    · rw [heq] at hreceipt
      exact hadmits.receipt ((hm.evidence _).mpr (.inl ⟨a, ha, hreceipt⟩))
    · exact h.apart a ha e he hreceipt
  rooted := h.rooted
  founded := by
    intro e he
    rcases mem_insert_iff.mp he with heq | he
    · rw [heq]
      exact hadmits.founded
    · exact h.founded e he

end Lawful

/-! ## Histories -/

/-- Some of the records of a memory. -/
structure Among (part r : Records) : Prop where
  attempts : part.attempts ⊆ r.attempts
  failures : part.failures ⊆ r.failures
  drifts : part.drifts ⊆ r.drifts

/-- A memory of lawful records, within the limits. -/
structure Sound (m : ProceduralMemory) (r : Records) : Prop where
  holds : Holds m r
  lawful : Lawful r
  attemptsRoom : m.attempts.size ≤ maxAttempts
  failuresRoom : m.solverRunFailures.size ≤ maxSolverRunFailures
  driftsRoom : m.driftRecords.size ≤ maxDriftRecords

omit [Platform] in
lemma after_induction {result : BrainResult (ProceduralMemory × RecordDisposition)}
    (P : ProceduralMemory → Prop) (hsame : P m)
    (hstep : ∀ m' disposition, result = .ok (m', disposition) → P m') : P (m.after result) := by
  cases result with
  | error e => exact hsame
  | ok value =>
    obtain ⟨m', disposition⟩ := value
    exact hstep m' disposition rfl

namespace Sound

lemma new : Sound ProceduralMemory.new Records.none where
  holds := Holds.new
  lawful := Lawful.none
  attemptsRoom := Nat.zero_le _
  failuresRoom := Nat.zero_le _
  driftsRoom := Nat.zero_le _

lemma insertAttempt (h : Sound m r) {a : SolverAttempt} (hadmits : m.AdmitsAttempt a) :
    Sound (m.insertAttempt a) (r.withAttempt a) where
  holds := h.holds.insertAttempt hadmits
  lawful := h.lawful.withAttempt h.holds hadmits
  attemptsRoom := by
    have hsize := size_insert_new (v := a) (getElem?_none.mp hadmits.digest)
    have hroom := hadmits.room
    show (m.attempts.insert a.attemptDigest a).size ≤ maxAttempts
    omega
  failuresRoom := h.failuresRoom
  driftsRoom := h.driftsRoom

lemma insertFailure (h : Sound m r) {f : SolverRunFailureRecord}
    (hadmits : m.AdmitsFailure f) : Sound (m.insertFailure f) (r.withFailure f) where
  holds := h.holds.insertFailure hadmits
  lawful := h.lawful.withFailure hadmits
  attemptsRoom := h.attemptsRoom
  failuresRoom := by
    have hsize := size_insert_new (v := f) (getElem?_none.mp hadmits.digest)
    have hroom := hadmits.room
    show (m.solverRunFailures.insert f.failureDigest f).size ≤ maxSolverRunFailures
    omega
  driftsRoom := h.driftsRoom

lemma insertDrift (h : Sound m r) {d : DriftRecord} (hadmits : m.AdmitsDrift r d) :
    Sound (m.insertDrift d) (r.withDrift d) where
  holds := h.holds.insertDrift hadmits
  lawful := h.lawful.withDrift h.holds hadmits
  attemptsRoom := h.attemptsRoom
  failuresRoom := h.failuresRoom
  driftsRoom := by
    have hsize := size_insert_new (v := d) (getElem?_none.mp hadmits.digest)
    have hroom := hadmits.room
    show (m.driftRecords.insert d.driftDigest d).size ≤ maxDriftRecords
    omega

/-- A call keeps the records there are, and keeps them lawful. -/
lemma call (h : Sound m r) (c : MemoryCall) : ∃ r', Sound (m.call c) r' ∧ Among r r' := by
  have hsame : ∃ r', Sound m r' ∧ Among r r' := ⟨r, h, subset_rfl, subset_rfl, subset_rfl⟩
  cases c with
  | recordAttempt a =>
    apply after_induction (fun m => ∃ r', Sound m r' ∧ Among r r') hsame
    intro m' disposition hrecord
    rcases recordAttempt_cases hrecord with hpresent | hentered
    · rw [hpresent.2]
      exact hsame
    · obtain ⟨-, hm', hadmits⟩ := hentered
      rw [hm']
      exact ⟨_, h.insertAttempt hadmits, Set.subset_insert _ _, subset_rfl, subset_rfl⟩
  | recordSolverRunFailure f =>
    apply after_induction (fun m => ∃ r', Sound m r' ∧ Among r r') hsame
    intro m' disposition hrecord
    rcases recordSolverRunFailure_cases hrecord with hpresent | hentered
    · rw [hpresent.2]
      exact hsame
    · obtain ⟨-, hm', hadmits⟩ := hentered
      rw [hm']
      exact ⟨_, h.insertFailure hadmits, subset_rfl, Set.subset_insert _ _, subset_rfl⟩
  | deriveFunctionalChange binding previous current => exact hsame
  | recordDrift d =>
    apply after_induction (fun m => ∃ r', Sound m r' ∧ Among r r') hsame
    intro m' disposition hrecord
    rcases recordDrift_cases h.holds hrecord with hpresent | hentered
    · rw [hpresent.2]
      exact hsame
    · obtain ⟨-, hm', hadmits⟩ := hentered
      rw [hm']
      exact ⟨_, h.insertDrift hadmits, subset_rfl, subset_rfl, Set.subset_insert _ _⟩

lemma calls (h : Sound m r) (calls : List MemoryCall) :
    ∃ r', Sound (calls.foldl ProceduralMemory.call m) r' ∧ Among r r' := by
  induction calls generalizing m r with
  | nil => exact ⟨r, h, subset_rfl, subset_rfl, subset_rfl⟩
  | cons c calls ih =>
    obtain ⟨r₁, h₁, hfirst⟩ := h.call c
    obtain ⟨r₂, h₂, hrest⟩ := ih h₁
    exact ⟨r₂, h₂, hfirst.attempts.trans hrest.attempts, hfirst.failures.trans hrest.failures,
      hfirst.drifts.trans hrest.drifts⟩

end Sound

lemma history_sound (calls : List MemoryCall) : ∃ r, Sound (history calls) r := by
  obtain ⟨r, h, -⟩ := Sound.new.calls calls
  exact ⟨r, h⟩

/-! ## What is admitted again -/

/-- Some of the records, with all that they rest on. -/
structure Closed (part r : Records) : Prop extends Among part r where
  rooted : ∀ a ∈ part.attempts, Rooted part.attempts a
  founded : ∀ d ∈ part.drifts, Founded part.attempts d

lemma Lawful.closed (h : Lawful r) : Closed r r where
  attempts := subset_rfl
  failures := subset_rfl
  drifts := subset_rfl
  rooted := h.rooted
  founded := h.founded

variable {part : Records}

/-- An attempt of a sound memory is admitted to a memory over some of its records, the
    parent among them. -/
lemma Sound.admitsAttempt (h : Sound m r) (hpart : Holds m' part) (hamong : Among part r)
    {a : SolverAttempt} (ha : a ∈ r.attempts) (hnew : a ∉ part.attempts)
    (hrooted : Rooted part.attempts a) (hroom : m'.attempts.size < maxAttempts) :
    m'.AdmitsAttempt a := by
  -- an attempt of the part with the digest of `a` would be `a`
  have hother : ∀ b ∈ part.attempts, b.attemptDigest ≠ a.attemptDigest := by
    intro b hb heq
    have hab := h.holds.attempt_ext (hamong.attempts hb) ha heq
    rw [hab] at hb
    exact hnew hb
  refine {
    authentic := h.lawful.attemptsAuthentic a ha
    digest := ?_, report := ?_, receipt := ?_, design := ?_, rejection := ?_
    room := hroom
    lineage := (validateLineage_ok hpart).mpr ⟨?_, hrooted⟩ }
  · apply h.holds.attempts.fresh hpart.attempts hamong.attempts ha rfl
    intro b hb hentry
    exact hother b hb (congrArg Prod.fst (some.inj hentry))
  · intro k v hentry
    apply h.holds.reports.fresh hpart.reports hamong.attempts ha hentry
    intro b hb hbentry
    obtain ⟨evaluation, -, hpair⟩ := map_eq_some_iff.mp hentry
    obtain ⟨evaluation', -, hpair'⟩ := map_eq_some_iff.mp hbentry
    exact hother b hb (congrArg Prod.snd (hpair'.trans hpair.symm))
  · intro receipt hreceipt hmem
    rcases (hpart.evidence receipt).mp hmem with hattempt | hdrift
    · obtain ⟨b, hb, hbreceipt⟩ := hattempt
      have hab := h.lawful.evaluations b (hamong.attempts hb) a ha receipt hbreceipt hreceipt
      rw [hab] at hb
      exact hnew hb
    · obtain ⟨d, hd, hdreceipt⟩ := hdrift
      rw [← hdreceipt] at hreceipt
      exact h.lawful.apart a ha d (hamong.drifts hd) hreceipt
  · intro k n hentry known hknown
    obtain ⟨b, hb, hbentry⟩ := (hpart.designs k known).mp hknown
    exact h.holds.designs.functional (hamong.attempts hb) ha hbentry hentry
  · intro k v hentry
    apply h.holds.rejections.fresh hpart.rejections hamong.attempts ha hentry
    intro b hb hbentry
    obtain ⟨receipt, -, hpair⟩ := map_eq_some_iff.mp hentry
    obtain ⟨receipt', -, hpair'⟩ := map_eq_some_iff.mp hbentry
    exact hother b hb (congrArg Prod.snd (hpair'.trans hpair.symm))
  · apply h.holds.places.fresh hpart.places hamong.attempts ha rfl
    intro b hb hentry
    exact hother b hb (congrArg Prod.snd (some.inj hentry))

lemma Sound.admitsFailure (h : Sound m r) (hpart : Holds m' part) (hamong : Among part r)
    {f : SolverRunFailureRecord} (hf : f ∈ r.failures) (hnew : f ∉ part.failures)
    (hroom : m'.solverRunFailures.size < maxSolverRunFailures) : m'.AdmitsFailure f := by
  have hother : ∀ g ∈ part.failures, g.failureDigest ≠ f.failureDigest := by
    intro g hg heq
    have hfg := h.holds.failure_ext (hamong.failures hg) hf heq
    rw [hfg] at hg
    exact hnew hg
  refine { authentic := h.lawful.failuresAuthentic f hf, digest := ?_, run := ?_, room := hroom }
  · apply h.holds.failures.fresh hpart.failures hamong.failures hf rfl
    intro g hg hentry
    exact hother g hg (congrArg Prod.fst (some.inj hentry))
  · apply h.holds.runs.fresh hpart.runs hamong.failures hf rfl
    intro g hg hentry
    exact hother g hg (congrArg Prod.snd (some.inj hentry))

lemma Sound.admitsDrift (h : Sound m r) (hpart : Holds m' part) (hamong : Among part r)
    {d : DriftRecord} (hd : d ∈ r.drifts) (hnew : d ∉ part.drifts)
    (hfounded : Founded part.attempts d) (hroom : m'.driftRecords.size < maxDriftRecords) :
    m'.AdmitsDrift part d := by
  refine { authentic := h.lawful.driftsAuthentic d hd, digest := ?_, founded := hfounded
           receipt := ?_, room := hroom }
  · apply h.holds.drifts.fresh hpart.drifts hamong.drifts hd rfl
    intro e he hentry
    have heq : e.driftDigest = d.driftDigest := congrArg Prod.fst (some.inj hentry)
    have hde := h.holds.drift_ext (hamong.drifts he) hd heq
    rw [hde] at he
    exact hnew he
  · intro hmem
    rcases (hpart.evidence _).mp hmem with hattempt | hdrift
    · obtain ⟨a, ha, hareceipt⟩ := hattempt
      exact h.lawful.apart a (hamong.attempts ha) d hd hareceipt
    · obtain ⟨e, he, hereceipt⟩ := hdrift
      have hde := h.lawful.driftReceipts e (hamong.drifts he) d hd hereceipt
      rw [hde] at he
      exact hnew he

/-! ## Rebuilding -/

/-- A list of the members of a set, each once. -/
structure Enumerates {α : Type} (xs : List α) (s : Set α) : Prop where
  nodup : xs.Nodup
  mem : ∀ x, x ∈ xs ↔ x ∈ s

variable {α : Type} {s : Set α}

omit [Platform] in
lemma Enumerates.perm {xs ys : List α} (h : Enumerates xs s) (hperm : ys.Perm xs) :
    Enumerates ys s where
  nodup := hperm.nodup_iff.mpr h.nodup
  mem := by
    intro x
    rw [hperm.mem_iff, h.mem x]

variable {t : BTreeMap Sha256Digest α} {key : α → Sha256Digest}

omit [Platform] in
lemma length_le_size {xs : List α} (hxs : xs.Nodup) (hsub : ∀ x ∈ xs, x ∈ s)
    (ht : Indexes t (fun x => some (key x, x)) s) : xs.length ≤ t.size := by
  rw [← length_values]
  apply (subperm_of_subset hxs _).length_le
  intro x hx
  exact mem_values.mpr ⟨key x, (ht _ _).mpr ⟨x, hsub x hx, rfl⟩⟩

instance : Std.TransCmp replayOrder :=
  inferInstanceAs (Std.TransCmp (compareLex (compareOn fun a : SolverAttempt => a.lineage.lineageId)
    (compareLex (compareOn fun a : SolverAttempt => a.lineage.ordinal)
      (compareOn SolverAttempt.attemptDigest))))

section

omit [Platform]

lemma replayOrder_total (a b : SolverAttempt) :
    ((replayOrder a b).isLE || (replayOrder b a).isLE) = true := by
  by_cases h : (replayOrder a b).isLE = true
  · rw [h, Bool.true_or]
  · have hlt := Std.OrientedCmp.lt_of_not_isLE h
    rw [hlt, Bool.or_eq_true]
    exact .inr rfl

lemma replayOrder_parent {parent child : SolverAttempt}
    (h : continuesLineage parent child = true) : (replayOrder child parent).isLE = false := by
  obtain ⟨hid, hordinal, -⟩ := continuesLineage_ordinal h
  have hlater : compare child.lineage.ordinal parent.lineage.ordinal = .gt := by
    rw [Nat.compare_eq_gt]
    omega
  have hsame : compare child.lineage.lineageId parent.lineage.lineageId = .eq := by
    rw [hid]
    exact Std.ReflCmp.compare_self
  rw [replayOrder, hsame, hlater]
  rfl

/-- Rule of a loop that enters every record of a list. -/
lemma foldlM_recorded {α : Type} {record : ProceduralMemory → α →
      BrainResult (ProceduralMemory × RecordDisposition)}
    (enter : ProceduralMemory → α → ProceduralMemory) (size : ProceduralMemory → Nat)
    {xs : List α} {s : Set α} (hlist : Enumerates xs s) {start : ProceduralMemory}
    (P : Set α → ProceduralMemory → Prop) (hstart : P ∅ start) (hempty : size start = 0)
    (hstep : ∀ done x m, done ++ [x] <+: xs → P {y | y ∈ done} m → size m = done.length →
      record m x = .ok (enter m x, .inserted) ∧ P (insert x {y | y ∈ done}) (enter m x) ∧
        size (enter m x) = size m + 1) :
    ∃ m, xs.foldlM (recorded record) start = .ok m ∧ P s m := by
  have hnil : {y : α | y ∈ ([] : List α)} = ∅ := by
    ext y
    simp
  have hloop : ∃ m, xs.foldlM (recorded record) start = .ok m ∧ P {y | y ∈ xs} m ∧
      size m = xs.length := by
    refine foldlM_ok_of_prefix (fun done m => P {y | y ∈ done} m ∧ size m = done.length) ?_ ?_
    · rw [hnil]
      exact ⟨hstart, hempty⟩
    · intro done x m hpart hinv
      obtain ⟨hP, hsize⟩ := hinv
      obtain ⟨hrecord, hP', hsize'⟩ := hstep done x m hpart hP hsize
      refine ⟨enter m x, ?_, ?_, ?_⟩
      · rw [recorded, hrecord]
        rfl
      · rw [setOf_mem_append]
        exact hP'
      · rw [length_append, length_singleton, ← hsize]
        exact hsize'
  obtain ⟨m, hfold, hP, -⟩ := hloop
  have hmembers : {y | y ∈ xs} = s := ext hlist.mem
  rw [hmembers] at hP
  exact ⟨m, hfold, hP⟩

end

variable {attempts : List SolverAttempt}

lemma Sound.replayAttempts (h : Sound m r) (hclosed : Closed part r)
    (hlist : Enumerates attempts part.attempts)
    (hsorted : attempts.Pairwise fun a b => (replayOrder a b).isLE = true) :
    ∃ m', attempts.foldlM (recorded recordAttempt) ProceduralMemory.new = .ok m' ∧
      Holds m' ⟨part.attempts, ∅, ∅⟩ := by
  have hsize := length_le_size hlist.nodup
    (fun a ha => hclosed.attempts ((hlist.mem a).mp ha)) h.holds.attempts
  have hroom := h.attemptsRoom
  apply foldlM_recorded ProceduralMemory.insertAttempt (fun m => m.attempts.size) hlist
    (fun done m => Holds m ⟨done, ∅, ∅⟩) Holds.new rfl
  intro done a m' hpart hm' hlength
  obtain ⟨hdone, ha, hnew, hlt⟩ := prefix_next hpart hlist.nodup
  have hamember := (hlist.mem a).mp ha
  have hamong : Among ⟨{b | b ∈ done}, ∅, ∅⟩ r := {
    attempts := fun b hb => hclosed.attempts ((hlist.mem b).mp (hdone b hb))
    failures := empty_subset _
    drifts := empty_subset _ }
  -- the parent sorts strictly before its child, so it was entered
  have hrooted : Rooted {b | b ∈ done} a := by
    rcases hclosed.rooted a hamember with hfirst | hlater
    · exact .inl hfirst
    · obtain ⟨parent, hparent, hdigest, hcontinues, happlied⟩ := hlater
      have hne : parent ≠ a := by
        intro heq
        have hordinal := (continuesLineage_ordinal hcontinues).2.1
        rw [heq] at hordinal
        omega
      have hmem := mem_done_of_lt hpart hsorted ((hlist.mem parent).mpr hparent)
        (replayOrder_parent hcontinues) hne
      exact .inr ⟨parent, hmem, hdigest, hcontinues, happlied⟩
  have hadmits := h.admitsAttempt hm' hamong (hclosed.attempts hamember) hnew hrooted (by omega)
  exact ⟨hadmits.recorded, hm'.insertAttempt hadmits,
    size_insert_new (getElem?_none.mp hadmits.digest)⟩

variable {failures : List SolverRunFailureRecord}

lemma Sound.replayFailures (h : Sound m r) (hclosed : Closed part r)
    (hlist : Enumerates failures part.failures) (hstart : Holds m' ⟨part.attempts, ∅, ∅⟩)
    (hempty : m'.solverRunFailures.size = 0) :
    ∃ m₂, failures.foldlM (recorded recordSolverRunFailure) m' = .ok m₂ ∧
      Holds m₂ ⟨part.attempts, part.failures, ∅⟩ := by
  have hsize := length_le_size hlist.nodup
    (fun f hf => hclosed.failures ((hlist.mem f).mp hf)) h.holds.failures
  have hroom := h.failuresRoom
  apply foldlM_recorded ProceduralMemory.insertFailure (fun m => m.solverRunFailures.size) hlist
    (fun done m => Holds m ⟨part.attempts, done, ∅⟩) hstart hempty
  intro done f m₁ hpart hm₁ hlength
  obtain ⟨hdone, hf, hnew, hlt⟩ := prefix_next hpart hlist.nodup
  have hamong : Among ⟨part.attempts, {g | g ∈ done}, ∅⟩ r := {
    attempts := hclosed.attempts
    failures := fun g hg => hclosed.failures ((hlist.mem g).mp (hdone g hg))
    drifts := empty_subset _ }
  have hadmits := h.admitsFailure hm₁ hamong (hclosed.failures ((hlist.mem f).mp hf)) hnew
    (by omega)
  exact ⟨hadmits.recorded, hm₁.insertFailure hadmits,
    size_insert_new (getElem?_none.mp hadmits.digest)⟩

lemma Sound.replayDrifts (h : Sound m r) (hclosed : Closed part r)
    {drifts : List DriftRecord} (hlist : Enumerates drifts part.drifts)
    (hstart : Holds m' ⟨part.attempts, part.failures, ∅⟩) (hempty : m'.driftRecords.size = 0) :
    ∃ m₂, drifts.foldlM (recorded recordDrift) m' = .ok m₂ ∧ Holds m₂ part := by
  have hsize := length_le_size hlist.nodup
    (fun d hd => hclosed.drifts ((hlist.mem d).mp hd)) h.holds.drifts
  have hroom := h.driftsRoom
  apply foldlM_recorded ProceduralMemory.insertDrift (fun m => m.driftRecords.size) hlist
    (fun done m => Holds m ⟨part.attempts, part.failures, done⟩) hstart hempty
  intro done d m₁ hpart hm₁ hlength
  obtain ⟨hdone, hd, hnew, hlt⟩ := prefix_next hpart hlist.nodup
  have hdmember := (hlist.mem d).mp hd
  have hamong : Among ⟨part.attempts, part.failures, {e | e ∈ done}⟩ r := {
    attempts := hclosed.attempts
    failures := hclosed.failures
    drifts := fun e he => hclosed.drifts ((hlist.mem e).mp (hdone e he)) }
  have hadmits := h.admitsDrift hm₁ hamong (hclosed.drifts hdmember) hnew
    (hclosed.founded d hdmember) (by omega)
  exact ⟨hadmits.recorded hm₁, hm₁.insertDrift hadmits,
    size_insert_new (getElem?_none.mp hadmits.digest)⟩

omit [Platform] in
lemma size_eq_zero_of_empty (h : Indexes t (fun x => some (key x, x)) ∅) : t.size = 0 := by
  have heq := h.unique Indexes.empty
  rw [heq]
  rfl

/-- Some of the records of a memory, with all that they rest on, are rebuilt into the
    memory over them, in whatever order they are given. -/
lemma Sound.rebuild (h : Sound m r) (hclosed : Closed part r) {drifts : List DriftRecord}
    (hattempts : Enumerates attempts part.attempts) (hfailures : Enumerates failures part.failures)
    (hdrifts : Enumerates drifts part.drifts) :
    ∃ m', rebuildWithSolverFailures attempts failures drifts = .ok m' ∧ Holds m' part := by
  -- the lists are within the limits, as the memory is
  have hattemptsSize := length_le_size hattempts.nodup
    (fun a ha => hclosed.attempts ((hattempts.mem a).mp ha)) h.holds.attempts
  have hfailuresSize := length_le_size hfailures.nodup
    (fun f hf => hclosed.failures ((hfailures.mem f).mp hf)) h.holds.failures
  have hdriftsSize := length_le_size hdrifts.nodup
    (fun d hd => hclosed.drifts ((hdrifts.mem d).mp hd)) h.holds.drifts
  have hattemptsRoom := h.attemptsRoom
  have hfailuresRoom := h.failuresRoom
  have hdriftsRoom := h.driftsRoom
  -- sorted, they are lists of the same records
  have hsorted := @pairwise_mergeSort _ (fun left right => (replayOrder left right).isLE)
    (fun a b c hab hbc => Std.TransCmp.isLE_trans hab hbc)
    replayOrder_total attempts
  obtain ⟨m₁, hfold₁, hm₁⟩ := h.replayAttempts hclosed
    (hattempts.perm (mergeSort_perm attempts _)) hsorted
  obtain ⟨m₂, hfold₂, hm₂⟩ := h.replayFailures hclosed
    (hfailures.perm (mergeSort_perm failures fun left right =>
      (compare left.failureDigest right.failureDigest).isLE)) hm₁
    (size_eq_zero_of_empty hm₁.failures)
  obtain ⟨m₃, hfold₃, hm₃⟩ := h.replayDrifts hclosed
    (hdrifts.perm (mergeSort_perm drifts fun left right =>
      (compare left.driftDigest right.driftDigest).isLE)) hm₂
    (size_eq_zero_of_empty hm₂.drifts)
  refine ⟨m₃, ?_, hm₃⟩
  rw [rebuildWithSolverFailures, seq_ok, seq_ok]
  refine ⟨failIf_ok.mpr (by omega), failIf_ok.mpr (by omega), ?_⟩
  rw [bind_ok]
  refine ⟨m₁, hfold₁, ?_⟩
  rw [bind_ok]
  exact ⟨m₂, hfold₂, hfold₃⟩

omit [Platform] in
lemma enumerates_values (h : Indexes t (fun x => some (key x, x)) s) :
    Enumerates (values t) s where
  nodup := by
    apply Nodup.of_map key
    apply nodup_map_values
    intro k x hx
    obtain ⟨y, -, hentry⟩ := (h k x).mp hx
    cases hentry
    rfl
  mem := by
    intro x
    rw [mem_values]
    constructor
    · intro hvalue
      obtain ⟨k, hk⟩ := hvalue
      obtain ⟨y, hy, hentry⟩ := (h k x).mp hk
      cases hentry
      exact hy
    · intro hx
      exact ⟨key x, (h _ _).mpr ⟨x, hx, rfl⟩⟩

/-- The records that a memory keeps. -/
def records (m : ProceduralMemory) : Records where
  attempts := {a | a ∈ values m.attempts}
  failures := {f | f ∈ values m.solverRunFailures}
  drifts := {d | d ∈ values m.driftRecords}

omit [Platform] in
lemma Holds.records_eq (h : Holds m r) : m.records = r := by
  have hattempts := Set.ext (enumerates_values h.attempts).mem
  have hfailures := Set.ext (enumerates_values h.failures).mem
  have hdrifts := Set.ext (enumerates_values h.drifts).mem
  cases r
  cases hattempts
  cases hfailures
  cases hdrifts
  rfl

/-- **A memory only grows, rests on its own records and is determined by them**: what a history
    has recorded stays, word for word, whatever calls follow it; the parent of an attempt and
    the attempts of a drift are there; and two histories of the same records, in whatever
    order, have left the same memory, every index of it included. -/
theorem history_grows (calls more : List MemoryCall) :
    Closed (history calls).records (history calls).records ∧
      Among (history calls).records (history (calls ++ more)).records ∧
      ((history calls).records = (history more).records ↔ history calls = history more) := by
  obtain ⟨r, h, -⟩ := Sound.new.calls calls
  obtain ⟨r', h', hgrows⟩ := h.calls more
  obtain ⟨s, hs, -⟩ := Sound.new.calls more
  rw [history, history, history, foldl_append, h.holds.records_eq, h'.holds.records_eq,
    hs.holds.records_eq]
  refine ⟨h.lawful.closed, hgrows, ?_, ?_⟩
  · intro hrecords
    rw [← hrecords] at hs
    exact h.holds.unique hs.holds
  · intro hmemory
    rw [← h.holds.records_eq, ← hs.holds.records_eq, hmemory]

end

namespace MemorySample

attribute [local instance] Platform.reference

lemma digest_valid : Sha256Digest.isValidStr
    "1111111111111111111111111111111111111111111111111111111111111111" = true := by
  decide

lemma alpha_valid : isValidCapabilityId "alpha" = true := by
  decide

def digest : Sha256Digest := ⟨_, digest_valid⟩

def capability : CapabilityContext where
  systemEnvelopeDigest := digest
  capabilityId := ⟨"alpha", alpha_valid⟩
  capabilityIrDigest := digest
  baseArtifactDigest := digest
  targetProfileDigest := digest

def applicability : Applicability where
  dimensions := ⟨2, 2, none, 0⟩
  statistics := ⟨none, none, none, none⟩
  profile := ⟨.float64, .dense, .pureTensor⟩

/-- A run that ended for want of a backend. -/
noncomputable def failure : SolverRunFailureRecord :=
  let projection : SolverRunFailureProjection := {
    schema := .current
    capability
    problemDigest := digest
    solverPolicyDigest := digest
    applicability
    subject := .portfolio
    outcome := .boundedUnknown .backendUnavailable
    observedRevision := 1
    deterministicWorkUnits := none
    runReceiptDigest := digest }
  { projection with failureDigest := projection.calculateDigest }

lemma digest_nonzero : isZeroDigest digest = false := by
  decide

lemma failure_admitted : new.AdmitsFailure failure where
  authentic := by
    rw [SolverRunFailureRecord.authenticate, seq_ok, seq_ok, seq_ok]
    refine ⟨?_, ?_, ?_, ?_⟩
    · simp [failure, capability, CapabilityContext.validateNonzero, digest_nonzero]
    · simp [failure, digest_nonzero]
    · show applicability.validate = .ok ()
      decide
    · rw [failIf_ok, not_not]
      rfl
  digest := Std.ExtTreeMap.getElem?_empty
  run := Std.ExtTreeMap.getElem?_empty
  room := by decide

lemma history_failure :
    history [.recordSolverRunFailure failure] = new.insertFailure failure := by
  rw [history, foldl_cons, call, failure_admitted.recorded, after, foldl_nil]

end MemorySample

end ProceduralMemory

end Tidex.Learning
