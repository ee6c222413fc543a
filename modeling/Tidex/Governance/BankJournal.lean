/-
  Governance.BankJournal — what a publication leaves, wherever it stops.
-/
import Tidex.Governance.BankSnapshot

namespace Tidex.Bank

open Tidex.Lib List Durable Sha256Digest

variable [Platform] [FractionText] {w : World} {bank : AdapterBank}

/-! ## Reading -/

variable {reference : PrivateFileReference} {s : AdapterIndexSnapshot}

lemma authenticateSnapshot_ok : authenticateSnapshot w bank reference = .ok s ↔
      reference.path = bank.indexPath reference.sha256 ∧ bank.indexes[reference.sha256]? = some s ∧
        digestBytes (toVec s) = reference.sha256 ∧
        (toVec s).size ≤ maxBankJsonBytes ∧ validateSnapshotContract w bank s = .ok () := by
  unfold authenticateSnapshot
  simp only [bind_ok, failIf_ok, readVerifiedBounded_ok_iff', pure_ok, not_not, ne_eq]
  constructor
  · intro h
    obtain ⟨-, hpath, stored, ⟨hfile, hdigest, hsize⟩, _, hcontract, rfl⟩ := h
    exact ⟨hpath, hfile, hdigest, hsize, hcontract⟩
  · intro h
    obtain ⟨hpath, hfile, hdigest, hsize, hcontract⟩ := h
    exact ⟨(), hpath, s, ⟨hfile, hdigest, hsize⟩, (), hcontract, rfl⟩

omit [Platform] [FractionText] in
lemma journalRevisions_ok {revisions : List Nat} : journalRevisions bank = .ok revisions ↔
      revisions = bank.commits.keys ∧ (∀ r ∈ revisions, r ≠ 0 ∧ r ≤ maxHistoryRevisions) ∧
        revisions.length ≤ maxHistoryRevisions ∧ revisions = range' 1 revisions.length := by
  unfold journalRevisions
  simp only [bind_ok, failIf_ok, pure_ok, not_exists, not_and, not_or, not_lt,
    gt_iff_lt, not_not, ne_eq]
  constructor
  · intro h
    obtain ⟨-, hrange, -, hlength, -, hgap, rfl⟩ := h
    exact ⟨rfl, hrange, hlength, hgap⟩
  · intro h
    obtain ⟨rfl, hrange, hlength, hgap⟩ := h
    exact ⟨(), hrange, (), hlength, (), hgap, rfl⟩

structure CommitOk (bank : AdapterBank) (number : Nat) (commit : AdapterBankRevisionCommit) :
    Prop where
  stored : bank.commits[number]? = some commit
  schema : commit.schema = adapterBankRevisionCommitSchema
  revision : commit.revision = number
  positive : number ≠ 0
  bounded : number ≤ maxHistoryRevisions
  path : commit.index.path = bank.indexPath commit.index.sha256
  links : checkLinks bank commit = .ok ()
  index : ∃ s, bank.indexes[commit.index.sha256]? = some s ∧
    digestBytes (toVec s) = commit.index.sha256

variable {commit : AdapterBankRevisionCommit}

section

omit [FractionText]

lemma readRevisionCommit_ok {revision : Nat} :
    readRevisionCommit bank revision = .ok (commit, reference) ↔
      CommitOk bank revision commit ∧ reference = commitReference bank commit := by
  unfold readRevisionCommit
  simp only [bind_ok, failIf_ok, okOr_ok, readVerified_ok, pure_ok, not_or,
    not_not, ne_eq, not_lt, gt_iff_lt, Prod.mk.injEq]
  constructor
  · intro h
    obtain ⟨c, hstored, -, ⟨hschema, hrevision, hpositive, hbounded, hpath⟩, _, hlinks, s, hindex,
      rfl, rfl⟩ := h
    exact ⟨⟨hstored, hschema, hrevision, hpositive, hbounded, hpath, hlinks, s, hindex⟩, rfl⟩
  · intro h
    obtain ⟨hcommit, rfl⟩ := h
    obtain ⟨s, hindex⟩ := hcommit.index
    exact ⟨commit, hcommit.stored, (), ⟨hcommit.schema, hcommit.revision, hcommit.positive,
      hcommit.bounded, hcommit.path⟩, (), hcommit.links, s, hindex, rfl, rfl⟩

lemma checkTip_ok {tip : AdapterBankRevisionCommit} :
    checkTip bank tip = .ok () ↔ (tip.revision > 1 → ∃ previous,
      CommitOk bank (tip.revision - 1) previous ∧
        tip.previousCommit = some (commitReference bank previous) ∧
        tip.previousIndex = some previous.index) := by
  unfold checkTip
  by_cases hfirst : tip.revision > 1
  · rw [if_pos hfirst]
    simp only [bind_ok, failIf_ok, not_or, not_not, ne_eq]
    constructor
    · intro h _
      obtain ⟨⟨previous, reference⟩, hread, hcommit, hindex⟩ := h
      obtain ⟨hprevious, rfl⟩ := readRevisionCommit_ok.mp hread
      exact ⟨previous, hprevious, hcommit, hindex⟩
    · intro h
      obtain ⟨previous, hprevious, hcommit, hindex⟩ := h hfirst
      exact ⟨(previous, commitReference bank previous),
        readRevisionCommit_ok.mpr ⟨hprevious, rfl⟩, hcommit, hindex⟩
  · rw [if_neg hfirst]
    exact ⟨fun _ h => absurd h hfirst, fun _ => rfl⟩

end

variable {tip : Option (AdapterBankRevisionCommit × PrivateFileReference)}

omit [FractionText] in
lemma authenticateRevisionTip_ok :
    authenticateRevisionTip bank = .ok tip ↔
      ∃ revisions, journalRevisions bank = .ok revisions ∧
        match revisions.getLast? with
        | none => tip = none
        | some revision => ∃ commit, CommitOk bank revision commit ∧
            checkTip bank commit = .ok () ∧ tip = some (commit, commitReference bank commit) := by
  unfold authenticateRevisionTip
  rw [bind_ok]
  apply exists_congr
  intro revisions
  apply and_congr_right
  intro _
  cases revisions.getLast? with
  | none =>
    rw [pure_ok]
    exact eq_comm
  | some revision =>
    simp only [bind_ok, pure_ok]
    constructor
    · intro h
      obtain ⟨⟨commit, reference⟩, hread, _, htip, rfl⟩ := h
      obtain ⟨hcommit, rfl⟩ := readRevisionCommit_ok.mp hread
      exact ⟨commit, hcommit, htip, rfl⟩
    · intro h
      obtain ⟨commit, hcommit, htip, rfl⟩ := h
      exact ⟨(commit, commitReference bank commit),
        readRevisionCommit_ok.mpr ⟨hcommit, rfl⟩, (), htip, rfl⟩

/-! ## Growth -/

/-- What is in the files stays there. -/
structure Grows (bank bank' : AdapterBank) : Prop where
  root : bank'.root = bank.root
  manifests : Within bank.manifests bank'.manifests
  authorizations : Within bank.authorizations bank'.authorizations
  indexes : Within bank.indexes bank'.indexes
  commits : Within bank.commits bank'.commits

omit [Platform] [FractionText] in
lemma Grows.refl (bank : AdapterBank) : Grows bank bank :=
  ⟨rfl, Within.refl _, Within.refl _, Within.refl _, Within.refl _⟩

/-! ## Publication -/

def indexReference (bank : AdapterBank) (s : AdapterIndexSnapshot) : PrivateFileReference where
  path := bank.indexPath (digestBytes (toVec s))
  sha256 := digestBytes (toVec s)

/-- Another index file, and nothing else. -/
def IndexAdded (bank t : AdapterBank) : Prop :=
  ∃ indexes, Within bank.indexes indexes ∧ t = { bank with indexes := indexes }

variable {t : AdapterBank}

lemma runs_persistSnapshot (h : Runs (persistSnapshot w s) bank reference t) :
    IndexAdded bank t ∧ validateSnapshotContract w bank s = .ok () ∧
      reference = indexReference bank s ∧ authenticateSnapshot w t reference = .ok s := by
  unfold persistSnapshot at h
  simp only [runs_bind, runs_read, runs_write, runs_liftM, runs_pure, bind_ok, pure_ok, failIf_ok,
    not_not, ne_eq, Prod.mk.injEq] at h
  obtain ⟨_, _, ⟨hcontract, rfl⟩, r, u, ⟨indexes, hwrite, hu, hr⟩, replay, _, ⟨hreplay, rfl⟩, -, _,
    ⟨rfl, rfl⟩, hreference, rfl⟩ := h
  subst hu hr hreference
  exact ⟨⟨indexes, within_of_writeOrVerify hwrite, rfl⟩, hcontract, rfl, hreplay⟩

omit [Platform] [FractionText] in
lemma IndexAdded.refl (bank : AdapterBank) : IndexAdded bank bank :=
  ⟨bank.indexes, Within.refl _, rfl⟩

lemma persistSnapshot_keeps (s : AdapterIndexSnapshot) : Keeps IndexAdded (persistSnapshot w s) := by
  refine .check .refl fun _ => .silent (.write .refl ?_) fun _ => ?_
  · intro bank t reference h
    obtain ⟨indexes, hwrite, h⟩ := bind_ok.mp h
    cases h
    exact ⟨indexes, within_of_writeOrVerify hwrite, rfl⟩
  · exact .bind (.read _) fun _ => .bind (.read _) fun _ => .pure _

section

omit [FractionText]

lemma runs_persistRevisionCommit (h : Runs (persistRevisionCommit commit) bank reference t) :
    ∃ commits, writeOrVerify toVec bank.commits commit.revision commit = .ok commits ∧
      t = { bank with commits := commits } := by
  unfold persistRevisionCommit at h
  simp only [runs_bind, runs_read, runs_write, runs_liftM, runs_pure, bind_ok, pure_ok, failIf_ok,
    Prod.mk.injEq] at h
  obtain ⟨r, u, ⟨commits, hwrite, rfl, -⟩, replay, _, ⟨-, rfl⟩, -, _, ⟨-, rfl⟩, -, rfl⟩ := h
  exact ⟨commits, hwrite, rfl⟩

lemma persistRevisionCommit_keeps (commit : AdapterBankRevisionCommit) :
    Keeps (fun bank t => t = bank ∨ ∃ commits,
      writeOrVerify toVec bank.commits commit.revision commit = .ok commits ∧
        t = { bank with commits := commits }) (persistRevisionCommit commit) := by
  refine .silent (.write (fun _ => .inl rfl) ?_) fun _ => ?_
  · intro bank t reference h
    obtain ⟨commits, hwrite, h⟩ := bind_ok.mp h
    cases h
    exact .inr ⟨commits, hwrite, rfl⟩
  · exact .bind (.read _) fun _ => .bind (.read _) fun _ => .pure _

end

def commitOf (bank : AdapterBank) (tip : Option (AdapterBankRevisionCommit × PrivateFileReference))
    (s : AdapterIndexSnapshot) : AdapterBankRevisionCommit where
  schema := adapterBankRevisionCommitSchema
  revision := s.revision
  index := indexReference bank s
  previousCommit := (nextLink tip).2.1
  previousIndex := (nextLink tip).2.2

/-- What holds before a snapshot is published. -/
structure Publishable (w : World) (bank : AdapterBank)
    (tip : Option (AdapterBankRevisionCommit × PrivateFileReference)) (s : AdapterIndexSnapshot) :
    Prop where
  positive : s.revision ≠ 0
  bounded : s.revision ≤ maxHistoryRevisions
  authentic : authenticateRevisionTip bank = .ok tip
  revision : s.revision = (nextLink tip).1
  link : s.parent = (nextLink tip).2.2
  follows : ∃ parent, parentSnapshot w bank s.parent = .ok parent ∧
    validateSnapshotTransition w bank s.parent parent s = .ok ()

/-- One more revision: its index file and its commit, and perhaps the new head. -/
structure Appends (w : World) (bank t : AdapterBank) (s : AdapterIndexSnapshot) : Prop where
  root : t.root = bank.root
  manifests : t.manifests = bank.manifests
  authorizations : t.authorizations = bank.authorizations
  indexes : Within bank.indexes t.indexes
  index : t.indexes[(indexReference bank s).sha256]? = some s
  size : (toVec s).size ≤ maxBankJsonBytes
  commit : ∃ tip, Publishable w bank tip s ∧
    t.commits = bank.commits.insert s.revision (commitOf bank tip s)
  contract : validateSnapshotContract w bank s = .ok ()
  head : t.head = bank.head ∨
    t.head = some ⟨adapterBankHeadSchema, s.revision, indexReference bank s⟩

section

omit [FractionText]

lemma tip_committed (h : authenticateRevisionTip bank = .ok (some (commit, reference))) :
    CommitOk bank commit.revision commit ∧ reference = commitReference bank commit := by
  obtain ⟨revisions, -, htip⟩ := authenticateRevisionTip_ok.mp h
  cases hlast : revisions.getLast? with
  | none =>
    rw [hlast] at htip
    cases htip
  | some revision =>
    rw [hlast] at htip
    obtain ⟨c, hc, -, hpair⟩ := htip
    cases hpair
    rw [hc.revision]
    exact ⟨hc, rfl⟩

/-- The journal holds the numbers up to the next one. -/
lemma journal_numbers (h : authenticateRevisionTip bank = .ok tip) :
    ∃ n, bank.commits.keys = range' 1 n ∧ (nextLink tip).1 = n + 1 := by
  obtain ⟨revisions, hjournal, htip⟩ := authenticateRevisionTip_ok.mp h
  obtain ⟨hkeys, -, -, hgap⟩ := journalRevisions_ok.mp hjournal
  rw [← hkeys]
  refine ⟨revisions.length, hgap, ?_⟩
  cases hlast : revisions.getLast? with
  | none =>
    rw [hlast] at htip
    rw [htip, getLast?_eq_none_iff.mp hlast]
    rfl
  | some revision =>
    rw [hlast] at htip
    obtain ⟨c, hc, -, rfl⟩ := htip
    -- the last of 1, 2, … is their number
    rw [hgap, getLast?_range'] at hlast
    show c.revision + 1 = _
    rw [hc.revision]
    split at hlast
    · cases hlast
    · injection hlast with hlast
      omega

lemma next_vacant (h : authenticateRevisionTip bank = .ok tip) :
    bank.commits[(nextLink tip).1]? = none := by
  obtain ⟨n, hkeys, hnext⟩ := journal_numbers h
  apply Std.ExtTreeMap.getElem?_eq_none
  rw [← Std.ExtTreeMap.mem_keys, hkeys, mem_range'_1, hnext]
  omega

end

lemma publishable_of_checks {parent : AdapterIndexSnapshot}
    (hlimit : ¬(s.revision = 0 ∨ s.revision > maxHistoryRevisions))
    (htip : authenticateRevisionTip bank = .ok tip)
    (hlink : ¬(s.revision ≠ (nextLink tip).1 ∨ s.parent ≠ (nextLink tip).2.2))
    (hparent : parentSnapshot w bank (nextLink tip).2.2 = .ok parent)
    (htransition : validateSnapshotTransition w bank (nextLink tip).2.2 parent s = .ok ()) :
    Publishable w bank tip s := by
  simp only [not_or, not_not, ne_eq, not_lt, gt_iff_lt] at hlimit hlink
  constructor
  · exact hlimit.1
  · exact hlimit.2
  · exact htip
  · exact hlink.1
  · exact hlink.2
  · rw [hlink.2]
    exact ⟨parent, hparent, htransition⟩

lemma appends_of_written {s : AdapterIndexSnapshot} {reference : PrivateFileReference}
    {tip : Option (AdapterBankRevisionCommit × PrivateFileReference)} {u : AdapterBank}
    {commits : BTreeMap Nat AdapterBankRevisionCommit} {head : Option AdapterBankHead}
    (hpublishable : Publishable w bank tip s)
    (hpersist : Runs (persistSnapshot w s) bank reference u)
    (hwrite : writeOrVerify toVec u.commits s.revision (commitOf bank tip s) = .ok commits)
    (hhead : head = bank.head ∨
      head = some ⟨adapterBankHeadSchema, s.revision, indexReference bank s⟩) :
    Appends w bank { u with commits := commits, head := head } s := by
  obtain ⟨⟨indexes, hindexes, rfl⟩, hcontract, rfl, hreplay⟩ := runs_persistSnapshot hpersist
  have hvacant := next_vacant hpublishable.authentic
  rw [← hpublishable.revision] at hvacant
  have hcommits : commits = bank.commits.insert s.revision (commitOf bank tip s) := by
    rcases writeOrVerify_ok hwrite with ⟨-, hinsert⟩ | ⟨-, b, hb, -⟩
    · exact hinsert
    · have hnone : bank.commits[s.revision]? = some b := hb
      rw [hvacant] at hnone
      cases hnone
  constructor
  · rfl
  · rfl
  · rfl
  · exact hindexes
  · exact (authenticateSnapshot_ok.mp hreplay).2.1
  · exact (authenticateSnapshot_ok.mp hreplay).2.2.2.1
  · exact ⟨tip, hpublishable, hcommits⟩
  · exact hcontract
  · exact hhead

/-- Wherever a publication stops, there is at most another index file, or there is
    one more revision. -/
lemma publish_states (h : t ∈ (publishSnapshot w s).states bank) :
    IndexAdded bank t ∨ Appends w bank t s := by
  have hself : IndexAdded bank bank := .refl bank
  unfold publishSnapshot at h
  simp only [mem_states_bind_iff, runs_read, runs_liftM,
    states_read, states_liftM, mem_singleton, failIf_ok] at h
  rcases h with rfl | ⟨-, _, ⟨hlimit, rfl⟩, h⟩
  · exact .inl hself
  rcases h with rfl | ⟨tip, _, ⟨htip, rfl⟩, h⟩
  · exact .inl hself
  rcases h with rfl | ⟨-, _, ⟨hlink, rfl⟩, h⟩
  · exact .inl hself
  rcases h with rfl | ⟨parent, _, ⟨hparent, rfl⟩, h⟩
  · exact .inl hself
  rcases h with rfl | ⟨_, _, ⟨htransition, rfl⟩, h⟩
  · exact .inl hself
  have hpublishable := publishable_of_checks hlimit htip hlink hparent htransition
  -- the index file
  rcases h with h | ⟨reference, u, hpersist, h⟩
  · exact .inl (persistSnapshot_keeps s bank t h)
  have hindex := (runs_persistSnapshot hpersist).1
  have hreference := (runs_persistSnapshot hpersist).2.2.1
  have hhead : u.head = bank.head := by
    obtain ⟨indexes, -, rfl⟩ := hindex
    rfl
  rw [hreference] at hpersist h
  -- the commit, which is read back
  rcases h with h | ⟨commitReference, v, hcommit, h⟩
  · rcases persistRevisionCommit_keeps _ _ _ h with rfl | ⟨commits, hwrite, rfl⟩
    · exact .inl hindex
    · exact .inr (appends_of_written hpublishable hpersist hwrite (.inl hhead))
  obtain ⟨commits, hwrite, rfl⟩ := runs_persistRevisionCommit hcommit
  have hdone : Appends w bank { u with
      commits := commits
      head := some ⟨adapterBankHeadSchema, s.revision, indexReference bank s⟩ } s :=
    appends_of_written hpublishable hpersist hwrite (.inr rfl)
  -- the head
  rcases h with h | ⟨_, v, hset, h⟩
  · rcases mem_states_write.mp h with rfl | ⟨_, hset⟩
    · exact .inr (appends_of_written hpublishable hpersist hwrite (.inl hhead))
    · cases hset
      exact .inr hdone
  rw [runs_write] at hset
  cases hset
  rcases h with rfl | ⟨_, _, ⟨-, rfl⟩, rfl | ⟨_, _, ⟨-, rfl⟩, h⟩⟩
  · exact .inr hdone
  · exact .inr hdone
  · rw [states_pure, mem_singleton] at h
    rw [h]
    exact .inr hdone

/-- A publication that returns has added the revision, and the bank opens on it. -/
lemma runs_publish (h : Runs (publishSnapshot w s) bank reference t) :
    Appends w bank t s ∧ reference = indexReference bank s ∧
      current w t = .ok (s, some reference) := by
  unfold publishSnapshot at h
  simp only [runs_bind, runs_read, runs_liftM, runs_write, runs_pure, failIf_ok] at h
  obtain ⟨-, _, ⟨hlimit, rfl⟩, tip, _, ⟨htip, rfl⟩, -, _, ⟨hlink, rfl⟩, parent, _, ⟨hparent, rfl⟩,
    _, _, ⟨htransition, rfl⟩, r, u, hpersist, c, v, hcommit, _, x, hset, reopened, _,
    ⟨hreopened, rfl⟩, -, _, ⟨hsame, rfl⟩, rfl, rfl⟩ := h
  have hpublishable := publishable_of_checks hlimit htip hlink hparent htransition
  have hreference := (runs_persistSnapshot hpersist).2.2.1
  rw [hreference] at hpersist hcommit hset hsame ⊢
  obtain ⟨commits, hwrite, rfl⟩ := runs_persistRevisionCommit hcommit
  have hdone : Appends w bank { u with
      commits := commits
      head := some ⟨adapterBankHeadSchema, s.revision, indexReference bank s⟩ } s :=
    appends_of_written hpublishable hpersist hwrite (.inr rfl)
  cases hset
  refine ⟨hdone, rfl, ?_⟩
  rw [not_not] at hsame
  rw [← hsame]
  exact hreopened

/-- Wherever an operation stops, it has changed nothing, added an index file, or
    published what it proposed. -/
lemma underLock_states {propose : AdapterBank → AdapterIndexSnapshot →
      Option PrivateFileReference → BrainResult Proposal} {t : AdapterBank}
    (h : t ∈ (underLock w propose).states bank) :
    IndexAdded bank t ∨ ∃ snapshot reference next manifest,
      current w bank = .ok (snapshot, reference) ∧
        propose bank snapshot reference = .ok (.publish next manifest) ∧ Appends w bank t next := by
  have hself : IndexAdded bank bank := .refl bank
  unfold underLock at h
  simp only [mem_states_bind_iff, runs_read, states_read, mem_singleton] at h
  rcases h with rfl | ⟨⟨snapshot, reference⟩, _, ⟨hcurrent, rfl⟩, h⟩
  · exact .inl hself
  rcases h with rfl | ⟨proposal, _, ⟨hproposal, rfl⟩, h⟩
  · exact .inl hself
  cases proposal with
  | unchanged manifest =>
    simp only [mem_states_bind_iff, states_liftM, states_pure, runs_liftM, mem_singleton] at h
    rcases h with rfl | ⟨_, _, ⟨-, rfl⟩, rfl⟩ <;> exact .inl hself
  | publish next manifest =>
    simp only [mem_states_bind_iff, states_pure, mem_singleton] at h
    have hpublish : t ∈ (publishSnapshot w next).states bank := by
      rcases h with h | ⟨index, u, hruns, rfl⟩
      · exact h
      · exact hruns.mem_states
    rcases publish_states hpublish with hindex | happends
    · exact .inl hindex
    · exact .inr ⟨snapshot, reference, next, manifest, hcurrent, hproposal, happends⟩

end Tidex.Bank
