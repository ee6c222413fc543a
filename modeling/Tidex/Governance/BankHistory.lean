/-
  Governance.BankHistory — a history that verifies goes on verifying.
-/
import Tidex.Governance.BankRecovery

namespace Tidex.Bank

open Tidex.Lib List Relation Durable BTreeMap Sha256Digest

abbrev Journal := List (AdapterBankRevisionCommit × PrivateFileReference)

structure AdapterBankHistoryStatus where
  revision : Nat
  index : Option PrivateFileReference
  verifiedRevisionCount : Nat
  registeredAdapterCount : Nat
  activeAdapterCount : Nat
  revokedAdapterCount : Nat

variable [Platform]

/-! ## The audit -/

def checkChain (last : Option (AdapterBankRevisionCommit × PrivateFileReference))
    (commit : AdapterBankRevisionCommit) : BrainResult Unit :=
  match last with
  | none => .ok ()
  | some (previous, previousReference) =>
    failIf (commit.previousCommit ≠ some previousReference ∨
      commit.previousIndex ≠ some previous.index) (integrity "adapter_bank_revision_chain_invalid")

def readNext (bank : AdapterBank) (commits : Journal) (revision : Nat) : BrainResult Journal := do
  let (commit, reference) ← readRevisionCommit bank revision
  checkChain commits.getLast? commit
  return commits ++ [(commit, reference)]

def authenticateRevisionJournal (bank : AdapterBank) : BrainResult Journal := do
  let revisions ← journalRevisions bank
  revisions.foldlM (readNext bank) []

section

variable [FractionText] (w : World)

/-- The loop back from the last snapshot, with the digests of the snapshots it has seen. -/
def walkHistory (bank : AdapterBank) (journal : Journal) :
    Nat → List Sha256Digest → PrivateFileReference → Nat → BrainResult Nat
  | 0, _, _, _ => .error (integrity "adapter_bank_history_invalid")
  | steps + 1, visited, cursor, expected => do
    failIf (cursor.sha256 ∈ visited) (integrity "adapter_bank_history_invalid")
    let snapshot ← authenticateSnapshot w bank cursor
    failIf (snapshot.revision ≠ expected) (integrity "adapter_bank_history_revision_gap")
    let (commit, _) ← okOr journal[expected - 1]? (integrity "adapter_bank_history_commit_missing")
    failIf (commit.index ≠ cursor) (integrity "adapter_bank_history_commit_index_mismatch")
    if expected = 1 then do
      failIf (snapshot.parent ≠ none) (integrity "adapter_bank_history_genesis_parent")
      return visited.length + 1
    else do
      let parent ← okOr snapshot.parent (integrity "adapter_bank_history_parent_missing")
      walkHistory bank journal steps (cursor.sha256 :: visited) parent (expected - 1)

def followCommit (bank : AdapterBank) (parent : AdapterIndexSnapshot × Option PrivateFileReference)
    (entry : AdapterBankRevisionCommit × PrivateFileReference) :
    BrainResult (AdapterIndexSnapshot × Option PrivateFileReference) := do
  let snapshot ← authenticateSnapshot w bank entry.1.index
  validateSnapshotTransition w bank parent.2 parent.1 snapshot
  return (snapshot, some entry.1.index)

def verifyHistory (bank : AdapterBank) : BrainResult AdapterBankHistoryStatus := do
  let journal ← authenticateRevisionJournal bank
  let (snapshot, reference) ← current w bank
  match reference with
  | none => return ⟨0, none, 0, 0, 0, 0⟩
  | some cursor => do
    let count ← walkHistory w bank journal maxHistoryRevisions [] cursor snapshot.revision
    failIf (count ≠ journal.length) (integrity "adapter_bank_history_journal_length_mismatch")
    let _ ← journal.foldlM (followCommit w bank) (emptySnapshot, none)
    return ⟨snapshot.revision, reference, count, snapshot.entries.length, snapshot.active.length,
      snapshot.revocations.length⟩

end

/-! ## The journal -/

variable {bank t : AdapterBank} {journal : Journal}

lemma readNext_ok {commits : Journal} {revision : Nat} :
    readNext bank commits revision = .ok journal ↔ ∃ c, CommitOk bank revision c ∧
      checkChain commits.getLast? c = .ok () ∧
      journal = commits ++ [(c, commitReference bank c)] := by
  unfold readNext
  simp only [bind_ok, pure_ok, Prod.exists, readRevisionCommit_ok]
  apply exists_congr
  intro c
  constructor
  · intro h
    obtain ⟨_, ⟨hc, rfl⟩, _, hlink, rfl⟩ := h
    exact ⟨hc, hlink, rfl⟩
  · intro h
    obtain ⟨hc, hlink, rfl⟩ := h
    exact ⟨_, ⟨hc, rfl⟩, (), hlink, rfl⟩

lemma journal_last {tip : Option (AdapterBankRevisionCommit × PrivateFileReference)}
    (h : authenticateRevisionJournal bank = .ok journal)
    (htip : authenticateRevisionTip bank = .ok tip) : journal.getLast? = tip := by
  unfold authenticateRevisionJournal at h
  rw [bind_ok] at h
  obtain ⟨revisions, hjournal, hfold⟩ := h
  have hlast : (revisions = [] ∧ journal = []) ∨ ∃ revision c, revisions.getLast? = some revision ∧
      CommitOk bank revision c ∧ journal.getLast? = some (c, commitReference bank c) := by
    refine foldlM_ok_prefix_induction (fun seen (journal : Journal) => (seen = [] ∧ journal = []) ∨
      ∃ revision c, seen.getLast? = some revision ∧ CommitOk bank revision c ∧
        journal.getLast? = some (c, commitReference bank c)) (.inl ⟨rfl, rfl⟩) ?_ hfold
    intro seen revision commits journal _ hstep
    obtain ⟨c, hc, -, rfl⟩ := readNext_ok.mp hstep
    exact .inr ⟨revision, c, getLast?_concat, hc, getLast?_concat⟩
  obtain ⟨_, hsame, htip⟩ := authenticateRevisionTip_ok.mp htip
  cases hjournal.symm.trans hsame
  rcases hlast with ⟨rfl, rfl⟩ | ⟨revision, c, hend, hc, hlast⟩
  · exact htip.symm
  · rw [hend] at htip
    obtain ⟨c', hc', -, rfl⟩ := htip
    cases hc.stored.symm.trans hc'.stored
    exact hlast

variable [FractionText] {w : World} {s : AdapterIndexSnapshot}
  {reference : Option PrivateFileReference}

/-! ## The walk back -/

/-- What the loop over the commits knows of the journal that it has done: the snapshot it has come
    to, and that the walk from there comes back to the first one. -/
structure Walked (w : World) (bank : AdapterBank) (journal : Journal) (s : AdapterIndexSnapshot)
    (reference : Option PrivateFileReference) : Prop where
  revision : s.revision = journal.length
  last : reference = journal.getLast?.map (·.1.index)
  authentic : parentSnapshot w bank reference = .ok s
  back : ∀ cursor more steps visited, reference = some cursor → journal.length ≤ steps →
    (∀ d ∈ visited, ∀ s', bank.indexes[d]? = some s' → journal.length < s'.revision) →
      walkHistory w bank (journal ++ more) steps visited cursor journal.length =
        .ok (visited.length + journal.length)

lemma Walked.next {parent : AdapterIndexSnapshot}
    {entry : AdapterBankRevisionCommit × PrivateFileReference}
    (h : Walked w bank journal parent reference)
    (hsnapshot : authenticateSnapshot w bank entry.1.index = .ok s)
    (htransition : validateSnapshotTransition w bank reference parent s = .ok ()) :
    Walked w bank (journal ++ [entry]) s (some entry.1.index) := by
  obtain ⟨hrevision, hparent, -⟩ := extends_of_transition htransition
  rw [h.revision] at hrevision
  constructor
  · rw [hrevision, length_append, length_singleton]
  · rw [getLast?_concat]
    rfl
  · exact hsnapshot
  · intro cursor more steps visited hcursor hsteps hvisited
    cases hcursor
    rw [length_append, length_singleton] at hsteps hvisited ⊢
    obtain ⟨steps, rfl⟩ : ∃ n, steps = n + 1 := ⟨steps - 1, by omega⟩
    have hfile := (authenticateSnapshot_ok.mp hsnapshot).2.1
    have hnew : entry.1.index.sha256 ∉ visited := by
      intro hmem
      have hlater := hvisited _ hmem s hfile
      omega
    have hentry : (journal ++ [entry] ++ more)[journal.length + 1 - 1]? = some entry := by
      simp
    simp only [walkHistory, hsnapshot, hentry, bind_ok, failIf_ok, okOr_ok, not_not, ne_eq,
      hrevision, ok_bind]
    refine ⟨(), hnew, (), trivial, entry, rfl, (), rfl, ?_⟩
    cases hreference : reference with
    | none =>
      -- the first snapshot
      have hlast := h.last
      rw [hreference] at hlast
      have hfirst : journal = [] := getLast?_eq_none_iff.mp (Option.map_eq_none_iff.mp hlast.symm)
      subst hfirst
      rw [if_pos (show ([] : Journal).length + 1 = 1 from rfl), hparent, hreference]
      rfl
    | some cursor =>
      have hsome : ¬journal.length + 1 = 1 := by
        intro hone
        have hlast := h.last
        rw [length_eq_zero_iff.mp (Nat.succ.inj hone), hreference] at hlast
        cases hlast
      rw [if_neg hsome, hparent, hreference, append_assoc]
      show walkHistory w bank (journal ++ ([entry] ++ more)) steps _ cursor journal.length = _
      rw [h.back cursor _ steps _ hreference (by omega), length_cons]
      · congr 1
        omega
      · intro d hd s' hs'
        rcases mem_cons.mp hd with rfl | hd
        · rw [hfile] at hs'
          cases hs'
          omega
        · have hlater := hvisited d hd s' hs'
          omega

lemma walked_of_fold (h : journal.foldlM (followCommit w bank) (emptySnapshot, none) =
      .ok (s, reference)) : Walked w bank journal s reference := by
  refine foldlM_ok_prefix_induction
    (fun seen (last : AdapterIndexSnapshot × Option PrivateFileReference) =>
      Walked w bank seen last.1 last.2) ?_ ?_ h
  · refine ⟨rfl, rfl, rfl, ?_⟩
    intro cursor _ _ _ hnone
    cases hnone
  · intro seen entry parent child hparent hstep
    unfold followCommit at hstep
    simp only [bind_ok, pure_ok] at hstep
    obtain ⟨snapshot, hsnapshot, _, htransition, rfl⟩ := hstep
    exact hparent.next hsnapshot htransition

/-! ## Verified histories -/

/-- The journal authenticates, and its commits lead from the empty bank to what the bank opens
    on. -/
structure Audited (w : World) (bank : AdapterBank) (journal : Journal) (s : AdapterIndexSnapshot)
    (reference : Option PrivateFileReference) : Prop where
  authentic : authenticateRevisionJournal bank = .ok journal
  opens : current w bank = .ok (s, reference)
  follows : journal.foldlM (followCommit w bank) (emptySnapshot, none) = .ok (s, reference)

def statusOf (s : AdapterIndexSnapshot) (reference : Option PrivateFileReference) :
    AdapterBankHistoryStatus :=
  ⟨s.revision, reference, s.revision, s.entries.length, s.active.length, s.revocations.length⟩

/-- The walk back finds nothing that the loop over the commits does not. -/
lemma verifyHistory_ok {status : AdapterBankHistoryStatus} : verifyHistory w bank = .ok status ↔
    ∃ journal s reference, Audited w bank journal s reference ∧ status = statusOf s reference := by
  unfold verifyHistory
  simp only [bind_ok, Prod.exists]
  apply exists_congr
  intro journal
  constructor
  · intro h
    obtain ⟨hjournal, s, reference, hcurrent, h⟩ := h
    obtain ⟨tip, htip, hreference, hparent, -⟩ := current_ok hcurrent
    have hlast := journal_last hjournal htip
    refine ⟨s, reference, ?_⟩
    cases reference with
    | none =>
      cases hparent
      cases tip with
      | some p => cases hreference
      | none =>
        rw [getLast?_eq_none_iff] at hlast
        subst hlast
        cases h
        exact ⟨⟨hjournal, hcurrent, rfl⟩, rfl⟩
    | some cursor =>
      simp only [bind_ok, failIf_ok, pure_ok, not_not, ne_eq] at h
      obtain ⟨count, -, _, hcount, ⟨last, lastReference⟩, hfold, rfl⟩ := h
      have hwalked := walked_of_fold hfold
      have hsame : lastReference = some cursor := by
        rw [hwalked.last, hlast, hreference]
        cases tip <;> rfl
      subst hsame
      cases hwalked.authentic.symm.trans hparent
      refine ⟨⟨hjournal, hcurrent, hfold⟩, ?_⟩
      rw [hcount, ← hwalked.revision]
      rfl
  · intro h
    obtain ⟨s, reference, haudited, rfl⟩ := h
    refine ⟨haudited.authentic, s, reference, haudited.opens, ?_⟩
    have hwalked := walked_of_fold haudited.follows
    cases reference with
    | none =>
      cases hwalked.authentic
      rfl
    | some cursor =>
      obtain ⟨tip, htip, hreference, -, hrevision⟩ := current_ok haudited.opens
      cases tip with
      | none => cases hreference
      | some p =>
        have hbounded : journal.length ≤ maxHistoryRevisions := by
          rw [← hwalked.revision, show s.revision = p.1.revision from Nat.succ.inj hrevision]
          exact (tip_committed htip).1.bounded
        have hback := hwalked.back cursor [] maxHistoryRevisions [] rfl hbounded
          (forall_mem_nil _)
        rw [append_nil, length_nil, Nat.zero_add] at hback
        simp only [bind_ok, failIf_ok, pure_ok, not_not, ne_eq]
        rw [hwalked.revision]
        refine ⟨_, hback, (), rfl, _, haudited.follows, ?_⟩
        rw [statusOf, hwalked.revision]

lemma followCommit_persists (h : Grows bank t)
    (parent : AdapterIndexSnapshot × Option PrivateFileReference)
    (entry : AdapterBankRevisionCommit × PrivateFileReference) :
    Persists (followCommit w bank parent entry) (followCommit w t parent entry) := by
  unfold followCommit
  apply Persists.bind (authenticateSnapshot_persists h _) fun _ _ => ?_
  exact Persists.bind (transition_persists h _ _ _) fun _ _ => Persists.refl _

omit [FractionText] in
lemma readNext_persists (h : Grows bank t) (commits : Journal) (revision : Nat) :
    Persists (readNext bank commits revision) (readNext t commits revision) := by
  unfold readNext
  apply Persists.bind (readRevisionCommit_persists h _)
  exact fun _ _ => Persists.refl _

lemma Audited.still (h : Audited w bank journal s reference) (hstill : Still bank t) :
    Audited w t journal s reference := by
  obtain ⟨hquiet, hhead⟩ := hstill
  constructor
  · have hpersists : Persists (authenticateRevisionJournal bank) (authenticateRevisionJournal t) := by
      unfold authenticateRevisionJournal journalRevisions
      rw [hquiet.journal]
      refine Persists.after fun revisions => ?_
      exact Persists.foldlM (readNext_persists hquiet.toGrows) _ _
    exact hpersists _ h.authentic
  · exact current_of_quiet hquiet hhead _ h.opens
  · exact Persists.foldlM (followCommit_persists hquiet.toGrows) _ _ _ h.follows

lemma Audited.appends {parent : AdapterIndexSnapshot} (h : Audited w bank journal parent reference)
    (happends : Appends w bank t s) :
    ∃ last, Audited w t (journal ++ [last]) s (some (indexReference bank s)) := by
  have hgrows := happends.grows
  obtain ⟨tip, hpublishable, hcommits⟩ := happends.commit
  obtain ⟨hlink, hrevision, htransition⟩ := happends.follows h.opens
  have hopens := current_of_appends happends h.opens
  have hcommit := commitOk_next hpublishable hgrows hcommits happends.index
  have hlast := journal_last h.authentic hpublishable.authentic
  refine ⟨(commitOf bank tip s, commitReference t (commitOf bank tip s)), ?_, hopens, ?_⟩
  · obtain ⟨n, hkeys, hnext⟩ := journal_numbers hpublishable.authentic
    obtain ⟨revisions, hrevisions, -⟩ := authenticateRevisionTip_ok.mp
      (tip_next hpublishable hgrows hcommits happends.index)
    have hfold := h.authentic
    unfold authenticateRevisionJournal at hfold ⊢
    rw [bind_ok] at hfold ⊢
    obtain ⟨earlier, hearlier, hfold⟩ := hfold
    refine ⟨revisions, hrevisions, ?_⟩
    -- the numbers of the journal, and the next one
    rw [(journalRevisions_ok.mp hearlier).1, hkeys] at hfold
    rw [(journalRevisions_ok.mp hrevisions).1, hcommits, keys_next hpublishable, hpublishable.revision,
      hnext, range'_1_concat, foldlM_append, bind_ok]
    refine ⟨journal, Persists.foldlM (readNext_persists hgrows) _ _ _ hfold, ?_⟩
    rw [foldlM_cons, bind_ok]
    refine ⟨_, readNext_ok.mpr ⟨commitOf bank tip s, ?_, ?_, rfl⟩, rfl⟩
    · rw [Nat.add_comm, ← hnext, ← hpublishable.revision]
      exact hcommit
    · rw [hlast]
      cases tip with
      | none => rfl
      | some last =>
        rw [checkChain, failIf_ok, not_or, not_not, not_not]
        exact ⟨rfl, rfl⟩
  · rw [foldlM_append, bind_ok]
    refine ⟨_, Persists.foldlM (followCommit_persists hgrows) _ _ _ h.follows, ?_⟩
    obtain ⟨_, _, _, hsnapshot, _⟩ := current_ok hopens
    rw [foldlM_cons, bind_ok]
    refine ⟨(s, some (indexReference bank s)), ?_, rfl⟩
    unfold followCommit
    rw [bind_ok]
    refine ⟨s, hsnapshot, ?_⟩
    rw [bind_ok]
    exact ⟨(), transition_persists hgrows _ _ _ _ htransition, rfl⟩

end Tidex.Bank

namespace Tidex.RevocationSample

open Tidex.Bank

attribute [local instance] Platform.reference BankSample.oneText

end Tidex.RevocationSample
