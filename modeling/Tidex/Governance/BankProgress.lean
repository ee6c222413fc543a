/-
  Governance.BankProgress — what a bank accepts, it goes on accepting.
-/
import Tidex.Governance.BankRuns
import Tidex.Lib.Persist

namespace Tidex.Bank

open Tidex.Lib List Option Durable Std.ExtTreeMap BTreeMap Sha256Digest Persists

variable [Platform] [FractionText] {w : World} {bank t : AdapterBank}

/-! ## Checks persist when files are added -/

section

variable {K α : Type} [Ord K] [Std.TransOrd K] {bytes : α → ByteArray}
  {files files' : BTreeMap Sha256Digest α}

omit [FractionText]

lemma readVerified_persists (h : Within files files') (digest : Sha256Digest) :
    Persists (readVerified bytes files digest) (readVerified bytes files' digest) := by
  intro a ha
  rw [readVerified_ok] at ha ⊢
  exact ⟨h _ _ ha.1, ha.2⟩

lemma readVerifiedBounded_persists (h : Within files files') (digest : Sha256Digest) :
    Persists (readVerifiedBounded bytes files digest)
      (readVerifiedBounded bytes files' digest) := by
  intro a ha
  rw [readVerifiedBounded_ok_iff'] at ha ⊢
  exact ⟨h _ _ ha.1, ha.2⟩

end

omit [Platform] [FractionText] in
lemma file_eq (h : t.root = bank.root) (directory name : String) :
    t.file directory name = bank.file directory name := by
  unfold AdapterBank.file
  rw [h]

variable {parent parent' : PrivateFileReference → BrainResult AdapterManifest}

section

omit [Platform] [FractionText]

lemma checkTerm_persists (h : ∀ r, Persists (parent r) (parent' r)) (m : AdapterManifest)
    (done : List (AdapterCompositionTerm × DeltaArtifactRef)) (term : AdapterCompositionTerm) :
    Persists (checkTerm parent m done term) (checkTerm parent' m done term) := by
  unfold checkTerm
  iterate 3 refine after fun _ => ?_
  exact bind (h _) fun _ _ => refl _

lemma validateManifestContract_persists (hroot : t.root = bank.root)
    (h : ∀ r, Persists (parent r) (parent' r)) (m : AdapterManifest) :
    Persists (validateManifestContract w bank parent m)
      (validateManifestContract w t parent' m) := by
  have hpath : t.canonicalDeltaPath = bank.canonicalDeltaPath := by
    unfold AdapterBank.canonicalDeltaPath
    rw [hroot]
  unfold validateManifestContract
  rw [hpath]
  iterate 7 refine after fun _ => ?_
  unfold validateSource
  cases m.source with
  | importedPeftLora _ _ _ => exact refl _
  | exactDenseComposition arithmetic terms _ _ =>
    refine after fun _ => ?_
    apply bind (foldlM (fun done term => checkTerm_persists h m done term) _ _)
    exact fun _ _ => refl _

end

lemma authenticateManifestInner_persists (h : Grows bank t) (depth : Nat)
    (stack : List Sha256Digest) (reference : PrivateFileReference) :
    Persists (authenticateManifestInner w bank depth stack reference)
      (authenticateManifestInner w t depth stack reference) := by
  induction depth generalizing stack reference with
  | zero => exact refl _
  | succ depth ih =>
    have hpath : t.manifestPath reference.sha256 = bank.manifestPath reference.sha256 :=
      file_eq h.root _ _
    rw [authenticateManifestInner, authenticateManifestInner, hpath]
    iterate 2 refine after fun _ => ?_
    apply bind (readVerifiedBounded_persists h.manifests _) fun m _ => ?_
    apply bind (validateManifestContract_persists h.root (fun r => ih _ r) m)
    exact fun _ _ => refl _

lemma authenticateManifest_persists (h : Grows bank t) (reference : PrivateFileReference) :
    Persists (authenticateManifest w bank reference) (authenticateManifest w t reference) :=
  authenticateManifestInner_persists h _ _ _

lemma authenticatePromotionAuthorization_persists (h : Grows bank t)
    (reference : PrivateFileReference) :
    Persists (authenticatePromotionAuthorization w bank reference)
      (authenticatePromotionAuthorization w t reference) := by
  have hpath : t.authorizationPath = bank.authorizationPath :=
    funext fun _ => file_eq h.root _ _
  have hindex : t.indexPath = bank.indexPath := funext fun _ => file_eq h.root _ _
  unfold authenticatePromotionAuthorization
  rw [hpath, hindex]
  refine after fun _ => ?_
  apply bind (readVerifiedBounded_persists h.authorizations _) fun a _ => ?_
  iterate 6 refine after fun _ => ?_
  apply bind (readVerified_persists h.indexes _) fun _ _ => ?_
  apply bind (authenticateManifest_persists h _) fun _ _ => ?_
  exact refl _

lemma validateSnapshotContract_persists (h : Grows bank t) (s : AdapterIndexSnapshot) :
    Persists (validateSnapshotContract w bank s) (validateSnapshotContract w t s) := by
  have hentry : ∀ done entry, Persists (checkEntry w bank done entry)
      (checkEntry w t done entry) := by
    intro done entry
    unfold checkEntry
    iterate 2 refine Persists.after fun _ => ?_
    exact Persists.bind (authenticateManifest_persists h _) fun _ _ => Persists.refl _
  have hselection : ∀ manifests prior selection,
      Persists (checkSelection w bank s manifests prior selection)
        (checkSelection w t s manifests prior selection) := by
    intro manifests prior selection
    unfold checkSelection
    refine Persists.after fun _ => ?_
    refine Persists.after fun found => ?_
    obtain ⟨entry, m⟩ := found
    refine Persists.after fun _ => ?_
    exact Persists.bind (authenticatePromotionAuthorization_persists h _)
      fun _ _ => Persists.refl _
  unfold validateSnapshotContract
  refine Persists.after fun _ => ?_
  apply Persists.ite (Persists.refl _)
  refine Persists.after fun _ => ?_
  apply Persists.bind (Persists.foldlM hentry _ _) fun manifests _ => ?_
  iterate 3 refine Persists.after fun _ => ?_
  exact Persists.bind (Persists.foldlM (hselection manifests) _ _) fun _ _ => Persists.refl _

lemma authenticateSnapshot_persists (h : Grows bank t) (reference : PrivateFileReference) :
    Persists (authenticateSnapshot w bank reference) (authenticateSnapshot w t reference) := by
  intro s hs
  rw [authenticateSnapshot_ok] at hs ⊢
  obtain ⟨hpath, hfile, hdigest, hsize, hcontract⟩ := hs
  have hindex : t.indexPath reference.sha256 = bank.indexPath reference.sha256 :=
    file_eq h.root _ _
  exact ⟨by rw [hindex, hpath], h.indexes _ _ hfile, hdigest, hsize,
    validateSnapshotContract_persists h s _ hcontract⟩

omit [FractionText] in
lemma commitReference_eq (h : t.root = bank.root) (c : AdapterBankRevisionCommit) :
    commitReference t c = commitReference bank c := by
  unfold commitReference AdapterBank.revisionCommitPath
  rw [file_eq h]

omit [Platform] [FractionText] in
lemma checkLinks_eq (h : t.root = bank.root) (c : AdapterBankRevisionCommit) :
    checkLinks t c = checkLinks bank c := by
  have hindex : t.indexPath = bank.indexPath := funext fun _ => file_eq h _ _
  have hcommit : t.revisionCommitPath = bank.revisionCommitPath := funext fun _ => file_eq h _ _
  unfold checkLinks
  rw [hindex, hcommit]

variable {c : AdapterBankRevisionCommit}

section

omit [FractionText]

lemma CommitOk.grows {r : Nat} (hc : CommitOk bank r c) (h : Grows bank t) : CommitOk t r c := by
  constructor
  · exact h.commits _ _ hc.stored
  · exact hc.schema
  · exact hc.revision
  · exact hc.positive
  · exact hc.bounded
  · rw [hc.path]
    exact (file_eq h.root _ _).symm
  · rw [checkLinks_eq h.root]
    exact hc.links
  · obtain ⟨s, hs, hdigest⟩ := hc.index
    exact ⟨s, h.indexes _ _ hs, hdigest⟩

lemma readRevisionCommit_persists (h : Grows bank t) (r : Nat) :
    Persists (readRevisionCommit bank r) (readRevisionCommit t r) := by
  intro p hp
  obtain ⟨c, reference⟩ := p
  rw [readRevisionCommit_ok] at hp ⊢
  exact ⟨hp.1.grows h, by rw [hp.2, commitReference_eq h.root]⟩

end

lemma parentSnapshot_persists (h : Grows bank t) (reference : Option PrivateFileReference) :
    Persists (parentSnapshot w bank reference) (parentSnapshot w t reference) := by
  cases reference with
  | none => exact refl _
  | some reference => exact authenticateSnapshot_persists h reference

lemma transition_persists (h : Grows bank t) (reference : Option PrivateFileReference)
    (parent child : AdapterIndexSnapshot) :
    Persists (validateSnapshotTransition w bank reference parent child)
      (validateSnapshotTransition w t reference parent child) := by
  have hregistration : ∀ composed manifest,
      Persists (checkRegistration w bank composed manifest parent child)
        (checkRegistration w t composed manifest parent child) := by
    intro composed manifest
    unfold checkRegistration
    refine after fun _ => ?_
    exact bind (authenticateManifest_persists h _) fun _ _ => refl _
  unfold validateSnapshotTransition
  refine after fun _ => ?_
  cases child.operation with
  | empty => exact refl _
  | register manifest => exact hregistration false manifest
  | compose manifest => exact hregistration true manifest
  | activate adapter authorization =>
    show Persists (checkActivation w bank adapter authorization parent child)
      (checkActivation w t adapter authorization parent child)
    unfold checkActivation
    iterate 2 refine after fun _ => ?_
    exact bind (authenticateManifest_persists h _) fun _ _ => refl _
  | revoke root affected => exact refl _
  | rollback slot targetRevision source target authorization reason evidence =>
    show Persists
      (checkRollback w bank slot targetRevision source target authorization parent child)
      (checkRollback w t slot targetRevision source target authorization parent child)
    unfold checkRollback
    iterate 2 refine after fun _ => ?_
    apply bind (readRevisionCommit_persists h _) fun found _ => ?_
    obtain ⟨targetCommit, reference⟩ := found
    exact bind (authenticateSnapshot_persists h _) fun _ _ => refl _

/-! ## The bank opens on what was appended -/

variable {α : Type}

omit [Platform] [FractionText] in
lemma range_next {commits : BTreeMap Nat α} {n : Nat} (h : commits.keys = range' 1 n)
    (c : α) : (commits.insert (n + 1) c).keys = range' 1 (n + 1) := by
  have hkeys : (commits.insert (n + 1) c).keys.Pairwise (fun a b => a < b) := by
    apply ordered_keys.imp
    intro a b hlt
    exact Nat.compare_eq_lt.mp hlt
  apply hkeys.eq_of_mem_iff pairwise_lt_range'
  intro r
  have hold : r ∈ commits ↔ 1 ≤ r ∧ r < 1 + n := by
    rw [← Std.ExtTreeMap.mem_keys, h, mem_range'_1]
  rw [Std.ExtTreeMap.mem_keys, mem_insert, mem_range'_1, Nat.compare_eq_eq, hold]
  omega

def HeadOk (bank : AdapterBank) : Prop :=
  ∀ head, bank.head = some head → head.schema = adapterBankHeadSchema ∧
    ∃ c, CommitOk bank head.revision c ∧ head.index = c.index

variable {s : AdapterIndexSnapshot} {reference : Option PrivateFileReference}

lemma headOk_of_current (h : current w bank = .ok (s, reference)) : HeadOk bank := by
  intro head hhead
  unfold current at h
  rw [bind_ok] at h
  obtain ⟨tip, htip, h⟩ := h
  cases tip with
  | none =>
    simp only [bind_ok, failIf_ok, hhead, isSome_some, not_true_eq_false,
      false_and, exists_false] at h
  | some p =>
    obtain ⟨commit, reference⟩ := p
    simp only [bind_ok] at h
    obtain ⟨_, hcache, -⟩ := h
    unfold authenticateHeadCache at hcache
    rw [hhead] at hcache
    simp only [bind_ok, failIf_ok, not_or, not_not, ne_eq] at hcache
    obtain ⟨_, ⟨hschema, hpositive, -⟩, hcache⟩ := hcache
    refine ⟨hschema, ?_⟩
    by_cases hsame : head.revision = commit.revision
    · rw [if_pos hsame, failIf_ok, not_not] at hcache
      refine ⟨commit, ?_, hcache⟩
      rw [hsame]
      exact (tip_committed htip).1
    · rw [if_neg hsame, bind_ok] at hcache
      obtain ⟨⟨c, r⟩, hread, hcache⟩ := hcache
      rw [failIf_ok, not_not] at hcache
      exact ⟨c, (readRevisionCommit_ok.mp hread).1, hcache⟩

variable {tip : Option (AdapterBankRevisionCommit × PrivateFileReference)}

lemma commitOk_next (h : Publishable w bank tip s) (hgrows : Grows bank t)
    (hcommits : t.commits = bank.commits.insert s.revision (commitOf bank tip s))
    (hindex : t.indexes[(indexReference bank s).sha256]? = some s) :
    CommitOk t s.revision (commitOf bank tip s) := by
  constructor
  · rw [hcommits, getElem?_insert_iff, if_pos rfl]
  · rfl
  · rfl
  · exact h.positive
  · exact h.bounded
  · exact (file_eq hgrows.root _ _).symm
  · rw [checkLinks_eq hgrows.root]
    have hrevision := h.revision
    unfold checkLinks commitOf
    cases tip with
    | none =>
      rw [if_pos (show s.revision = 1 from hrevision), failIf_ok]
      simp [nextLink]
    | some p =>
      obtain ⟨c, _⟩ := p
      obtain ⟨hc, rfl⟩ := tip_committed h.authentic
      have hnext : s.revision = c.revision + 1 := hrevision
      have hpositive := hc.positive
      have hone : ¬s.revision = 1 := by omega
      show (if s.revision = 1 then _ else _) = _
      rw [if_neg hone]
      simp only [nextLink, bind_ok, okOr_ok, failIf_ok, some.injEq, not_or,
        not_not, ne_eq, exists_eq_left']
      refine ⟨?_, hc.path⟩
      show bank.revisionCommitPath c.revision = bank.revisionCommitPath (s.revision - 1)
      rw [hnext, Nat.add_sub_cancel]
  · exact ⟨s, hindex, rfl⟩

lemma keys_next (h : Publishable w bank tip s) :
    (bank.commits.insert s.revision c).keys = range' 1 s.revision := by
  obtain ⟨n, hkeys, hnext⟩ := journal_numbers h.authentic
  rw [h.revision, hnext]
  exact range_next hkeys c

lemma tip_next (h : Publishable w bank tip s) (hgrows : Grows bank t)
    (hcommits : t.commits = bank.commits.insert s.revision (commitOf bank tip s))
    (hindex : t.indexes[(indexReference bank s).sha256]? = some s) :
    authenticateRevisionTip t = .ok (some (commitOf bank tip s,
      commitReference t (commitOf bank tip s))) := by
  have hcommit := commitOk_next h hgrows hcommits hindex
  have hnew : t.commits.keys = range' 1 s.revision := by
    rw [hcommits]
    exact keys_next h
  have hbounded := h.bounded
  rw [authenticateRevisionTip_ok]
  refine ⟨range' 1 s.revision, ?_, ?_⟩
  · rw [journalRevisions_ok, length_range']
    refine ⟨hnew.symm, ?_, hbounded, rfl⟩
    intro r hr
    rw [mem_range'_1] at hr
    omega
  · rw [getLast?_range', if_neg h.positive]
    have hlastRevision : 1 + (s.revision - 1) = s.revision := by
      have := h.positive
      omega
    refine ⟨commitOf bank tip s, ?_, ?_, rfl⟩
    · simpa [hlastRevision] using hcommit
    · rw [checkTip_ok]
      intro hfirst
      cases tip with
      | none =>
        have hfirst' : 1 < (nextLink none).1 := h.revision ▸ hfirst
        exact absurd hfirst' (Nat.lt_irrefl 1)
      | some p =>
        obtain ⟨c, _⟩ := p
        obtain ⟨hc, rfl⟩ := tip_committed h.authentic
        have hprevious : (commitOf bank (some (c, commitReference bank c)) s).revision - 1 =
            c.revision := by
          show s.revision - 1 = c.revision
          rw [show s.revision = c.revision + 1 from h.revision, Nat.add_sub_cancel]
        rw [hprevious]
        refine ⟨c, hc.grows hgrows, ?_, rfl⟩
        show some (commitReference bank c) = some (commitReference t c)
        rw [commitReference_eq hgrows.root]

/-- A bank opens on the revision that was appended, whatever the head is. -/
lemma current_of_appends {s parent : AdapterIndexSnapshot} (h : Appends w bank t s)
    (hcurrent : current w bank = .ok (parent, reference)) :
    current w t = .ok (s, some (indexReference bank s)) := by
  obtain ⟨tip, hpublishable, hcommits⟩ := h.commit
  have hgrows := h.grows
  have htip := tip_next hpublishable hgrows hcommits h.index
  obtain ⟨hlink, hrevision, htransition⟩ := h.follows hcurrent
  obtain ⟨-, -, hreference, hparent, -⟩ := current_ok hcurrent
  have hprevious : (commitOf bank tip s).previousIndex = reference := by
    rw [← hlink, hpublishable.link]
    rfl
  unfold current
  rw [htip, ok_bind]
  simp only [bind_ok, failIf_ok, pure_ok, not_or, not_not, ne_eq]
  refine ⟨(), ?_, s, ?_, (), ⟨rfl, ?_⟩, parent, ?_, (), ?_, rfl⟩
  · -- the head is an old one, or the new one
    unfold authenticateHeadCache
    cases hhead : t.head with
    | none => rfl
    | some head =>
      simp only [bind_ok, failIf_ok, not_or, not_not, ne_eq]
      rcases h.head with hold | hnew
      · rw [hold] at hhead
        obtain ⟨hschema, c, hc, hindex⟩ := headOk_of_current hcurrent head hhead
        have hbelow : ¬s.revision < head.revision ∧ ¬head.revision = s.revision := by
          have hvacant := next_vacant hpublishable.authentic
          rw [← hpublishable.revision] at hvacant
          have hmem : head.revision ∈ t.commits :=
            mem_iff_getElem?.mpr ⟨c, hgrows.commits _ _ hc.stored⟩
          rw [hcommits, ← Std.ExtTreeMap.mem_keys, keys_next hpublishable, mem_range'_1]
            at hmem
          refine ⟨by omega, ?_⟩
          intro hsame
          rw [← hsame, hc.stored] at hvacant
          cases hvacant
        refine ⟨(), ⟨hschema, hc.positive, hbelow.1⟩, ?_⟩
        rw [if_neg (show ¬head.revision = (commitOf bank tip s).revision from hbelow.2), bind_ok]
        exact ⟨_, readRevisionCommit_ok.mpr ⟨hc.grows hgrows, rfl⟩,
          by rw [failIf_ok, not_not]; exact hindex⟩
      · rw [hhead] at hnew
        cases hnew
        refine ⟨(), ⟨rfl, hpublishable.positive, Nat.lt_irrefl _⟩, ?_⟩
        rw [if_pos (show s.revision = (commitOf bank tip s).revision from rfl), failIf_ok, not_not]
        rfl
  · rw [authenticateSnapshot_ok]
    refine ⟨(file_eq hgrows.root _ _).symm, h.index, rfl, h.size, ?_⟩
    exact validateSnapshotContract_persists hgrows s _ h.contract
  · rw [hprevious]
    exact hlink
  · rw [hprevious]
    exact parentSnapshot_persists hgrows _ _ hparent
  · rw [hprevious]
    exact transition_persists hgrows _ _ _ _ htransition

omit [FractionText] in
lemma checkTip_persists (h : Grows bank t) (tip : AdapterBankRevisionCommit) :
    Persists (checkTip bank tip) (checkTip t tip) := by
  unfold checkTip
  apply Persists.ite _ (Persists.refl _)
  exact Persists.bind (readRevisionCommit_persists h _) fun _ _ => Persists.refl _

/-- A bank goes on opening on its last revision, whatever else is stored. -/
lemma current_of_quiet (h : Quiet bank t) (hhead : t.head = bank.head) :
    Persists (current w bank) (current w t) := by
  have htip : Persists (authenticateRevisionTip bank) (authenticateRevisionTip t) := by
    unfold authenticateRevisionTip journalRevisions
    rw [h.journal]
    refine Persists.after fun revisions => ?_
    cases revisions.getLast? with
    | none => exact Persists.refl _
    | some revision =>
      apply Persists.bind (readRevisionCommit_persists h.toGrows _) fun p _ => ?_
      obtain ⟨tip, reference⟩ := p
      exact Persists.bind (checkTip_persists h.toGrows tip) fun _ _ => Persists.refl _
  have hcache : ∀ tip, Persists (authenticateHeadCache bank tip) (authenticateHeadCache t tip) := by
    intro tip
    unfold authenticateHeadCache
    rw [hhead]
    cases bank.head with
    | none => exact Persists.refl _
    | some head =>
      refine Persists.after fun _ => ?_
      apply Persists.ite (Persists.refl _)
      exact Persists.bind (readRevisionCommit_persists h.toGrows _) fun _ _ => Persists.refl _
  unfold current
  apply Persists.bind htip fun tip _ => ?_
  cases tip with
  | none =>
    rw [hhead]
    exact Persists.refl _
  | some p =>
    obtain ⟨tip, reference⟩ := p
    apply Persists.bind (hcache tip) fun _ _ => ?_
    apply Persists.bind (authenticateSnapshot_persists h.toGrows _) fun _ _ => ?_
    refine Persists.after fun _ => ?_
    apply Persists.bind (parentSnapshot_persists h.toGrows _) fun _ _ => ?_
    exact Persists.bind (transition_persists h.toGrows _ _ _) fun _ _ => Persists.refl _

/-! ## What is fit is published -/

/-- An index is not too long to be read, and no other one has its digest. -/
structure Fits (bank : AdapterBank) (s : AdapterIndexSnapshot) : Prop where
  size : (toVec s).size ≤ maxBankJsonBytes
  free : ∀ other, bank.indexes[digestBytes (toVec s)]? = some other → other = s

lemma Appends.fits (h : Appends w bank t s) : Fits bank s := by
  constructor
  · exact h.size
  · intro other hother
    have hnew := h.indexes _ _ hother
    have hindex : t.indexes[digestBytes (toVec s)]? = some s := h.index
    rw [hindex] at hnew
    exact (some.inj hnew).symm

section

omit [FractionText]

lemma writeOrVerify_fits {bytes : α → ByteArray} {files : BTreeMap Sha256Digest α}
    {k : Sha256Digest} {a : α} (h : ∀ b, files[k]? = some b → b = a) :
    ∃ files', writeOrVerify bytes files k a = .ok files' ∧ files'[k]? = some a := by
  unfold writeOrVerify
  cases hfile : files[k]? with
  | none =>
    refine ⟨files.insert k a, rfl, ?_⟩
    rw [getElem?_insert_iff, if_pos rfl]
  | some b =>
    have hsame := h b hfile
    subst hsame
    refine ⟨files, ?_, hfile⟩
    simp only [bind_ok, failIf_ok, pure_ok, not_not, ne_eq]
    exact ⟨(), trivial, trivial⟩

lemma mem_of_writeOrVerify {bytes : α → ByteArray} {files files' : BTreeMap Sha256Digest α}
    {k k' : Sha256Digest} {a b : α} (h : writeOrVerify bytes files k a = .ok files')
    (hb : files'[k']? = some b) : files[k']? = some b ∨ (k' = k ∧ b = a) := by
  rcases writeOrVerify_ok h with ⟨-, rfl⟩ | ⟨rfl, -⟩
  · rw [getElem?_insert_iff] at hb
    by_cases hk : k = k'
    · rw [if_pos hk] at hb
      exact .inr ⟨hk.symm, (some.inj hb).symm⟩
    · rw [if_neg hk] at hb
      exact .inl hb
  · exact .inl hb

end

lemma persistSnapshot_runs (h : Fits bank s)
    (hcontract : validateSnapshotContract w bank s = .ok ()) :
    ∃ indexes, writeOrVerify toVec bank.indexes (digestBytes (toVec s)) s =
        .ok indexes ∧ Runs (persistSnapshot w s) bank (indexReference bank s)
        { bank with indexes := indexes } := by
  have hstore : ∃ indexes, writeOrVerify toVec bank.indexes (digestBytes (toVec s)) s =
      .ok indexes ∧ indexes[digestBytes (toVec s)]? = some s :=
    writeOrVerify_fits h.free
  obtain ⟨indexes, hwrite, hindex⟩ := hstore
  have hgrows : Grows bank { bank with indexes := indexes } :=
    (quiet_of_indexAdded ⟨indexes, within_of_writeOrVerify hwrite, rfl⟩).toGrows
  refine ⟨indexes, hwrite, ?_⟩
  unfold persistSnapshot
  simp only [runs_bind, runs_read, runs_write, runs_liftM, runs_pure, bind_ok, pure_ok, failIf_ok,
    not_not, ne_eq, Prod.mk.injEq]
  refine ⟨(), bank, ⟨hcontract, rfl⟩, indexReference bank s, _, ⟨indexes, hwrite, rfl, rfl⟩, s, _,
    ⟨?_, rfl⟩, (), _, ⟨rfl, rfl⟩, rfl, rfl⟩
  rw [authenticateSnapshot_ok]
  exact ⟨rfl, hindex, rfl, h.size, validateSnapshotContract_persists hgrows s _ hcontract⟩

/-- What follows the current snapshot, passes its checks and fits, is published. -/
lemma publish_runs {parent next : AdapterIndexSnapshot}
    (hcurrent : current w bank = .ok (parent, reference))
    (hrevision : next.revision = parent.revision + 1)
    (hlimit : parent.revision < maxHistoryRevisions) (hlink : next.parent = reference)
    (htransition : validateSnapshotTransition w bank reference parent next = .ok ())
    (hcontract : validateSnapshotContract w bank next = .ok ()) (hfits : Fits bank next) :
    ∃ t, Runs (publishSnapshot w next) bank (indexReference bank next) t ∧
      ∀ digest other, t.indexes[digest]? = some other → bank.indexes[digest]? = some other ∨
        (digest = digestBytes (toVec next) ∧ other = next) := by
  obtain ⟨tip, htip, hreference, hparent, hnext⟩ := current_ok hcurrent
  have hpublishable : Publishable w bank tip next := by
    rw [hreference] at hparent htransition
    apply publishable_of_checks _ htip _ hparent htransition
    · omega
    · rw [hlink, hreference, hrevision, hnext]
      simp
  obtain ⟨indexes, hstore, hpersist⟩ := persistSnapshot_runs hfits hcontract
  obtain ⟨-, -, -, hreplay⟩ := runs_persistSnapshot hpersist
  have hindex := (authenticateSnapshot_ok.mp hreplay).2.1
  have hvacant := next_vacant htip
  rw [← hpublishable.revision] at hvacant
  have hwrite : writeOrVerify toVec bank.commits next.revision (commitOf bank tip next) =
      .ok (bank.commits.insert next.revision (commitOf bank tip next)) := by
    unfold writeOrVerify
    rw [hvacant]
  -- the bank with the commit, before and after the head is set
  have happends : ∀ head, (head = bank.head ∨
      head = some ⟨adapterBankHeadSchema, next.revision, indexReference bank next⟩) →
      Appends w bank { bank with
        indexes := indexes
        commits := bank.commits.insert next.revision (commitOf bank tip next)
        head := head } next :=
    fun head hhead => appends_of_written hpublishable hpersist hwrite hhead
  have hold := happends bank.head (.inl rfl)
  have hnew := happends _ (.inr rfl)
  have hcommit := commitOk_next hpublishable hold.grows rfl hindex
  have hpersistCommit : Runs (persistRevisionCommit (commitOf bank tip next))
      { bank with indexes := indexes } (commitReference bank (commitOf bank tip next))
      { bank with
        indexes := indexes
        commits := bank.commits.insert next.revision (commitOf bank tip next) } := by
    unfold persistRevisionCommit
    simp only [runs_bind, runs_read, runs_write, runs_liftM, runs_pure, bind_ok, pure_ok, failIf_ok,
      not_not, ne_eq, Prod.mk.injEq]
    exact ⟨_, _, ⟨_, hwrite, rfl, rfl⟩, (_, _), _,
      ⟨readRevisionCommit_ok.mpr ⟨hcommit, rfl⟩, rfl⟩, (), _, ⟨rfl, rfl⟩, rfl, rfl⟩
  refine ⟨{ bank with
    indexes := indexes
    commits := bank.commits.insert next.revision (commitOf bank tip next)
    head := some ⟨adapterBankHeadSchema, next.revision, indexReference bank next⟩ }, ?_,
    fun digest other hother => mem_of_writeOrVerify hstore hother⟩
  unfold publishSnapshot
  simp only [runs_bind, runs_read, runs_liftM, runs_write, runs_pure, failIf_ok]
  rw [hreference] at hparent htransition
  refine ⟨(), bank, ⟨?_, rfl⟩, tip, bank, ⟨htip, rfl⟩, (), bank, ⟨?_, rfl⟩, parent, bank,
    ⟨hparent, rfl⟩, (), bank, ⟨htransition, rfl⟩, _, _, hpersist, _, _, hpersistCommit, (), _, rfl,
    _, _, ⟨current_of_appends hnew hcurrent, rfl⟩, (), _, ⟨fun hne => hne rfl, rfl⟩, rfl, rfl⟩
  · omega
  · rw [hlink, hreference, hrevision, hnext]
    simp

lemma runs_underLock {propose : AdapterBank → AdapterIndexSnapshot →
      Option PrivateFileReference → BrainResult Proposal} {s next : AdapterIndexSnapshot}
    {reference manifest : Option PrivateFileReference} {commit : AdapterBankCommit}
    (hcurrent : current w bank = .ok (s, reference))
    (hpropose : propose bank s reference = .ok (.publish next manifest)) :
    Runs (underLock w propose) bank commit t ↔ ∃ index, Runs (publishSnapshot w next) bank index t ∧
        commit = ⟨next.revision, index, next.operation, manifest, false⟩ := by
  unfold underLock
  simp only [runs_bind, runs_read]
  constructor
  · intro h
    obtain ⟨p, u, ⟨hsame, rfl⟩, proposal, v, ⟨hproposal, rfl⟩, h⟩ := h
    rw [hcurrent] at hsame
    cases hsame
    rw [hpropose] at hproposal
    cases hproposal
    simp only [runs_bind, runs_pure] at h
    obtain ⟨index, u, hpublish, rfl, rfl⟩ := h
    exact ⟨index, hpublish, rfl⟩
  · intro h
    obtain ⟨index, hpublish, rfl⟩ := h
    refine ⟨(s, reference), bank, ⟨hcurrent, rfl⟩, .publish next manifest, bank, ⟨hpropose, rfl⟩,
      ?_⟩
    simp only [runs_bind, runs_pure]
    exact ⟨index, t, hpublish, rfl, rfl⟩

end Tidex.Bank
