/-
  Governance.Registration — when a manifest is registered.
-/
import Tidex.Governance.BankProgress
import Tidex.Governance.SnapshotChecks

namespace Tidex.Bank

open Tidex.Lib List Durable Sha256Digest

variable [Platform] [FractionText] {w : World} {bank t : AdapterBank}
  {s : AdapterIndexSnapshot} {reference : Option PrivateFileReference} {m : AdapterManifest}
  {manifest : PrivateFileReference} {composed : Bool} {expected : AdapterBankExpectation}

/-! ## The index that a bank opens on -/

lemma opened_of_current (h : current w bank = .ok (s, reference)) :
    validateSnapshotContract w bank s = .ok () ∧ (s.revision = 0 ↔ reference = none) := by
  obtain ⟨tip, htip, hreference, hparent, hnext⟩ := current_ok h
  cases htipCase : tip with
  | none =>
    rw [htipCase] at hreference hnext
    rw [show reference = none from hreference] at hparent ⊢
    have hempty : s = emptySnapshot := (Except.ok.inj hparent).symm
    subst hempty
    refine ⟨?_, by simp [emptySnapshot]⟩
    unfold validateSnapshotContract
    rw [if_pos (show emptySnapshot.revision = 0 from rfl)]
    simp only [bind_ok, failIf_ok, not_not, ne_eq]
    exact ⟨(), rfl, trivial⟩
  | some p =>
    obtain ⟨commit, commitRef⟩ := p
    rw [htipCase] at hreference hnext htip
    have hindex : reference = some commit.index := hreference
    subst hindex
    refine ⟨(authenticateSnapshot_ok.mp hparent).2.2.2.2, ?_⟩
    have hpositive := (tip_committed htip).1.positive
    have hsame : s.revision + 1 = commit.revision + 1 := hnext
    constructor
    · intro hzero
      omega
    · intro hnone
      cases hnone

/-! ## The index with the new entry -/

/-- A manifest that can be registered. -/
structure Registrable (w : World) (bank : AdapterBank) (s : AdapterIndexSnapshot)
    (reference : Option PrivateFileReference) (m : AdapterManifest)
    (manifest : PrivateFileReference) (expected : AdapterBankExpectation) (composed : Bool) :
    Prop where
  fresh : findEntry s m.adapter = none
  expected : checkExpectation expected s reference = .ok ()
  generation : checkGeneration s m = .ok ()
  lineage : ∀ e ∈ s.entries,
    ¬(e.lineageId = m.lineageId ∧ e.adapter.generation = m.adapter.generation)
  distinct : s.entries.any (operationalDuplicate w bank m) = false
  manifest : authenticateManifest w bank manifest = .ok m
  composed : (match m.source with
    | .importedPeftLora _ _ _ => false
    | .exactDenseComposition _ _ _ _ => true) = composed
  live : ∀ version ∈ compositionDependencies m, ¬Revoked s version
  limit : s.revision < maxHistoryRevisions

lemma validate_of_authenticate (h : authenticateManifest w bank manifest = .ok m) :
    m.adapter.validate = .ok () := by
  unfold authenticateManifest at h
  rw [authenticateManifestInner] at h
  simp only [bind_ok, pure_ok] at h
  obtain ⟨_, -, _, -, stored, -, _, hcontract, rfl⟩ := h
  unfold validateManifestContract at hcontract
  rw [bind_ok] at hcontract
  obtain ⟨_, hvalid, -⟩ := hcontract
  exact hvalid

/-- The entries of the index with the new one: in order, and each stands by itself. -/
lemma entries_registered (hcontract : validateSnapshotContract w bank s = .ok ())
    (h : Registrable w bank s reference m manifest expected composed) :
    Ascending AdapterIndexEntry.adapter (registered s reference m manifest composed).entries ∧
      ((registered s reference m manifest composed).entries.map
        fun e => (e.lineageId, e.adapter.generation)).Nodup ∧
      ∀ e ∈ (registered s reference m manifest composed).entries, EntryOk w bank e := by
  have hcoherent := coherent_of_contract hcontract
  obtain ⟨_, hloops⟩ := loops_of_contract hcontract
  have hnew : ∀ e ∈ s.entries, e.adapter ≠ m.adapter := by
    intro e he hsame
    exact findEntry_isSome_iff.mpr ⟨e, he, hsame⟩ h.fresh
  refine ⟨?_, ?_, ?_⟩
  · apply ascending_sortBy
    rw [map_append]
    refine nodup_snoc (nodup_of_ascending hcoherent.ordered) ?_
    intro hold
    obtain ⟨e, he, hsame⟩ := mem_map.mp hold
    exact hnew e he hsame
  · have hperm := sortBy_perm AdapterIndexEntry.adapter
      (s.entries ++ [entryFromManifest m manifest])
    apply (hperm.map _).nodup_iff.mpr
    rw [map_append]
    refine nodup_snoc hcoherent.lineages ?_
    intro hold
    obtain ⟨e, he, hsame⟩ := mem_map.mp hold
    exact h.lineage e he ⟨congrArg Prod.fst hsame, congrArg Prod.snd hsame⟩
  · intro e he
    rcases mem_append.mp (mem_sortBy.mp he) with hold | hmem
    · exact hloops.entries e hold
    · rw [mem_singleton.mp hmem]
      exact ⟨validate_of_authenticate h.manifest, m, h.manifest, rfl⟩

variable {done : List (AdapterIndexEntry × AdapterManifest)}
  {d : AdapterIndexEntry × AdapterManifest}

section

omit [Platform] [FractionText]

lemma EntriesDone.mem_iff {xs : List AdapterIndexEntry} (h : EntriesDone bank xs done) :
    d ∈ done ↔ d.1 ∈ xs ∧ bank.manifests[d.1.manifest.sha256]? = some d.2 := by
  have hentries : ∀ e, e ∈ xs ↔ ∃ d ∈ done, d.1 = e := by
    intro e
    rw [← mem_reverse, ← h.entries, mem_map]
  constructor
  · intro hd
    exact ⟨(hentries d.1).mpr ⟨d, hd, rfl⟩, (h.stored d hd).1⟩
  · intro hd
    obtain ⟨hmem, hstored⟩ := hd
    obtain ⟨other, hother, hsame⟩ := (hentries d.1).mp hmem
    have hfile := (h.stored other hother).1
    rw [hsame, hstored] at hfile
    have hpair : other = d := Prod.ext hsame (Option.some.inj hfile).symm
    rwa [← hpair]

lemma EntriesDone.find {xs : List AdapterIndexEntry} (h : EntriesDone bank xs done)
    (hd : d ∈ done) : (done.find? fun other => other.1.adapter = d.1.adapter) = some d := by
  have hnodup : (done.map fun d => d.1.adapter).Nodup := by
    rw [← nodup_reverse, ← map_reverse]
    exact nodup_of_ascending (pairwise_reverse.mpr h.descending)
  have hfind := find?_key hnodup hd
  exact hfind

end

/-- The index with the new entry passes its check, whatever the bank holds. -/
lemma contract_registered (hcontract : validateSnapshotContract w bank s = .ok ())
    (hopen : s.revision = 0 ↔ reference = none)
    (h : Registrable w bank s reference m manifest expected composed) :
    validateSnapshotContract w bank (registered s reference m manifest composed) = .ok () := by
  have hcoherent := coherent_of_contract hcontract
  obtain ⟨hascending, hlineages, hall⟩ := entries_registered hcontract h
  obtain ⟨manifests, hloops⟩ := loops_of_contract hcontract
  have hschema : s.schema = adapterIndexSchema := by
    unfold validateSnapshotContract at hcontract
    simp only [bind_ok, failIf_ok, not_not, ne_eq] at hcontract
    exact hcontract.choose_spec.1
  have hkept : ∀ e ∈ s.entries, e ∈ (registered s reference m manifest composed).entries := by
    intro e he
    exact mem_sortBy.mpr (mem_append_left _ he)
  have hnew : ∀ e ∈ (registered s reference m manifest composed).entries,
      e ∈ s.entries ∨ e = entryFromManifest m manifest := by
    intro e he
    rcases mem_append.mp (mem_sortBy.mp he) with hold | hmem
    · exact .inl hold
    · exact .inr (mem_singleton.mp hmem)
  obtain ⟨done, hfold⟩ := entries_fold_ok hascending hlineages hall
  have hdone := entriesDone_of_fold hfold
  have hrevision : (registered s reference m manifest composed).revision = s.revision + 1 := rfl
  unfold validateSnapshotContract
  rw [if_neg (show ¬(registered s reference m manifest composed).revision = 0 by omega)]
  simp only [bind_ok, failIf_ok, forM_ok, not_or, not_and, not_not, ne_eq]
  refine ⟨(), hschema, (), ⟨?_, ?_⟩, done, hfold, (), rfl, s.revocations.reverse, ?_, (), ?_,
    s.active.getLast?.map ActiveAdapterSelection.slot, ?_, rfl⟩
  · show s.revision + 1 = 1 ↔ reference = none
    rw [← hopen]
    omega
  · show ¬(if composed = true then AdapterBankOperation.compose manifest
      else .register manifest) = .empty
    cases composed <;> exact fun hempty => by cases hempty
  · refine revocations_ok.mpr ⟨rfl, hloops.ascending, ?_⟩
    intro r hr
    have hold := hloops.revocations r hr
    obtain ⟨e, hfind, hmanifest⟩ := hold.registered
    obtain ⟨he, hadapter⟩ := mem_of_findEntry hfind
    have hpast := hold.past
    refine ⟨hold.cause, hold.positive, by omega, e, ?_, hmanifest⟩
    rw [← hadapter]
    exact findEntry_of_mem hascending (hkept e he)
  · -- nothing that the new adapter is composed of is revoked
    intro d hd hdependency
    obtain ⟨version, hversion, hrevoked⟩ := hdependency
    obtain ⟨hmem, hstored⟩ := hdone.mem_iff.mp (mem_reverse.mp hd)
    rcases hnew d.1 hmem with hold | hentry
    · exact hcoherent.closed d.1 hold d.2 hstored version hversion hrevoked
    · have hfile := authenticateManifest_stored h.manifest
      rw [hentry] at hstored
      have hsame : m = d.2 := Option.some.inj (hfile.symm.trans hstored)
      rw [← hsame] at hversion
      exact absurd hrevoked (h.live version hversion)
  · refine selections_ok.mpr ⟨rfl, hloops.slots, ?_⟩
    intro a ha
    have hselection := hloops.selections a ha
    unfold SelectionOk checkSelection at hselection ⊢
    simp only [bind_ok, failIf_ok, okOr_ok, not_or] at hselection ⊢
    obtain ⟨_, ⟨hpositive, hpast, hfirst, hlive, hepoch⟩, d, hfind, hrest⟩ := hselection
    have htest := find?_some hfind
    have hadapter : d.1.adapter = a.adapter := of_decide_eq_true htest
    have hd : d ∈ done := by
      obtain ⟨hmem, hstored⟩ := hloops.done.mem_iff.mp (mem_of_find?_eq_some hfind)
      exact hdone.mem_iff.mpr ⟨hkept d.1 hmem, hstored⟩
    refine ⟨(), ⟨hpositive, by omega, hfirst, hlive, hepoch⟩, d, ?_, hrest⟩
    rw [← hadapter]
    exact hdone.find hd

/-! ## The registration -/

lemma transition_registered (h : Registrable w bank s reference m manifest expected composed) :
    validateSnapshotTransition w bank reference s (registered s reference m manifest composed) =
      .ok () := by
  have hchecked : checkRegistration w bank composed manifest s
      (registered s reference m manifest composed) = .ok () := by
    unfold checkRegistration
    simp only [bind_ok, failIf_ok, not_or, not_not, ne_eq]
    exact ⟨(), ⟨rfl, rfl⟩, m, h.manifest, (), h.composed, rfl⟩
  unfold validateSnapshotTransition
  simp only [bind_ok, failIf_ok, not_or, not_not, ne_eq]
  refine ⟨(), ⟨rfl, rfl⟩, ?_⟩
  cases composed with
  | true => exact hchecked
  | false => exact hchecked

/-- A manifest that can be registered is registered, and nothing else is stored. -/
lemma register_runs (hcurrent : current w bank = .ok (s, reference))
    (h : Registrable w bank s reference m manifest expected composed)
    (hfits : Fits bank (registered s reference m manifest composed)) : ∃ commit t,
      Runs (commitRegistration w ⟨m, manifest, expected, composed⟩) bank commit t ∧
      current w t = .ok (registered s reference m manifest composed,
        some (indexReference bank (registered s reference m manifest composed))) ∧
      Appends w bank t (registered s reference m manifest composed) ∧
      ∀ digest other, t.indexes[digest]? = some other → bank.indexes[digest]? = some other ∨
        (digest = digestBytes (toVec (registered s reference m manifest composed)) ∧
          other = registered s reference m manifest composed) := by
  obtain ⟨hcontract, hopen⟩ := opened_of_current hcurrent
  have hpropose : proposeRegistration w m manifest expected composed bank s reference =
      .ok (.publish (registered s reference m manifest composed) (some manifest)) := by
    unfold proposeRegistration
    rw [h.fresh]
    simp only [bind_ok, failIf_ok, pure_ok, not_exists]
    refine ⟨(), h.expected, (), h.generation, (), ?_, (), ?_, trivial⟩
    · intro e he
      exact h.lineage e he.1 he.2
    · rw [h.distinct]
      exact Bool.false_ne_true
  obtain ⟨t, hpublish, hstored⟩ := publish_runs hcurrent rfl h.limit rfl
    (transition_registered h) (contract_registered hcontract hopen h) hfits
  obtain ⟨happends, -, hcurrentNext⟩ := runs_publish hpublish
  exact ⟨_, t, (runs_underLock hcurrent hpropose).mpr ⟨_, hpublish, rfl⟩, hcurrentNext,
    happends, hstored⟩

/-- A manifest that passes its checks is stored, and nothing else is. -/
lemma persistManifest_runs
    (hcontract : validateManifestContract w bank
      (authenticateManifestInner w bank maxManifestDepth []) m = .ok ())
    (hfree : ∀ other, bank.manifests[digestBytes m.bytes]? = some other → other = m)
    (hauthentic : ∀ manifests, Within bank.manifests manifests →
      manifests[digestBytes m.bytes]? = some m →
        authenticateManifest w { bank with manifests := manifests }
          ⟨bank.manifestPath (digestBytes m.bytes), digestBytes m.bytes⟩ =
            .ok m) :
    ∃ manifests, Within bank.manifests manifests ∧
      manifests[digestBytes m.bytes]? = some m ∧
      (∀ digest other, manifests[digest]? = some other → bank.manifests[digest]? = some other ∨
        (digest = digestBytes m.bytes ∧ other = m)) ∧
      Runs (persistManifest w m) bank
        ⟨bank.manifestPath (digestBytes m.bytes), digestBytes m.bytes⟩
        { bank with manifests := manifests } := by
  have hstore : ∃ manifests, writeOrVerify AdapterManifest.bytes bank.manifests
      (digestBytes m.bytes) m = .ok manifests ∧
        manifests[digestBytes m.bytes]? = some m :=
    writeOrVerify_fits hfree
  obtain ⟨manifests, hwrite, hstored⟩ := hstore
  have hwithin := within_of_writeOrVerify hwrite
  refine ⟨manifests, hwithin, hstored, fun digest other => mem_of_writeOrVerify hwrite, ?_⟩
  unfold persistManifest
  simp only [runs_bind, runs_read, runs_write, runs_liftM, runs_pure, bind_ok, pure_ok, failIf_ok,
    not_not, ne_eq, Prod.mk.injEq]
  exact ⟨(), bank, ⟨hcontract, rfl⟩, _, _, ⟨manifests, hwrite, rfl, rfl⟩, m, _,
    ⟨hauthentic manifests hwithin hstored, rfl⟩, (), _, ⟨rfl, rfl⟩, rfl, rfl⟩

end Tidex.Bank
