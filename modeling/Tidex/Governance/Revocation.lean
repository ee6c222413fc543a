/-
  Governance.Revocation — when a revocation is published.
-/
import Tidex.Governance.Registration
import Tidex.Lib.JsonWriteText

namespace Tidex.Bank

open Tidex.Lib Relation List Option Durable Std.ExtTreeSet BTreeSet

variable [Platform] [FractionText] {w : World} {bank t : AdapterBank}

/-! ## What depends on a version -/

def ComposedOf (bank : AdapterBank) (s : AdapterIndexSnapshot) (base version : AdapterVersion) :
    Prop :=
  ∃ e ∈ s.entries, e.adapter = version ∧ ∃ m, bank.manifests[e.manifest.sha256]? = some m ∧
    base ∈ compositionDependencies m

/-- A version is another one, or is composed of it through any chain of compositions. -/
def DependsOn (bank : AdapterBank) (s : AdapterIndexSnapshot) (base version : AdapterVersion) :
    Prop :=
  ReflTransGen (ComposedOf bank s) base version

def storedManifests (bank : AdapterBank) (s : AdapterIndexSnapshot) :
    List (AdapterVersion × AdapterManifest) :=
  s.entries.filterMap fun e =>
    bank.manifests[e.manifest.sha256]?.map fun m => (e.adapter, m)

variable {s : AdapterIndexSnapshot}

omit [Platform] [FractionText] in
lemma feeds_iff {base version : AdapterVersion} :
    Feeds ((storedManifests bank s).map fun d => (d.1, compositionDependencies d.2)) base version ↔
      ComposedOf bank s base version := by
  unfold Feeds ComposedOf storedManifests
  constructor
  · intro h
    obtain ⟨node, hnode, rfl, hbase⟩ := h
    obtain ⟨d, hd, rfl⟩ := mem_map.mp hnode
    obtain ⟨e, he, hpair⟩ := mem_filterMap.mp hd
    obtain ⟨m, hm, rfl⟩ := map_eq_some_iff.mp hpair
    exact ⟨e, he, rfl, m, hm, hbase⟩
  · intro h
    obtain ⟨e, he, rfl, m, hm, hbase⟩ := h
    refine ⟨(e.adapter, compositionDependencies m), ?_, rfl, hbase⟩
    refine mem_map.mpr ⟨(e.adapter, m), ?_, rfl⟩
    exact mem_filterMap.mpr ⟨e, he, map_eq_some_iff.mpr ⟨m, hm, rfl⟩⟩

variable {root version : AdapterVersion}

omit [Platform] [FractionText] in
/-- The passes of a revocation find what depends on the version. -/
lemma mem_affectedBy :
    version ∈ affectedBy (storedManifests bank s) root ↔ DependsOn bank s root version := by
  have hrelation :
      Feeds ((storedManifests bank s).map fun d => (d.1, compositionDependencies d.2)) =
        ComposedOf bank s := by
    funext base version
    exact propext feeds_iff
  unfold affectedBy DependsOn
  rw [mem_close, hrelation]
  constructor
  · intro h
    obtain ⟨start, hstart, hreach⟩ := h
    rcases mem_insert_iff.mp hstart with rfl | hstart
    · exact hreach
    · exact absurd hstart not_mem_empty
  · intro h
    exact ⟨root, mem_insert_iff.mpr (.inl rfl), h⟩

lemma storedManifests_of_mapM {s : AdapterIndexSnapshot}
    {manifests : List (AdapterVersion × AdapterManifest)}
    (h : (s.entries.mapM fun entry => do
      let manifest ← authenticateManifest w bank entry.manifest
      return (entry.adapter, manifest)) = Except.ok manifests) :
    manifests = storedManifests bank s := by
  have hall := mapM_ok.mp h
  unfold storedManifests
  clear h
  generalize s.entries = entries at hall ⊢
  induction hall with
  | nil => rfl
  | cons hx _ ih =>
    rw [bind_ok] at hx
    obtain ⟨m, hm, hpair⟩ := hx
    cases hpair
    rw [filterMap_cons, authenticateManifest_stored hm, ih]
    rfl

omit [Platform] [FractionText] in
lemma DependsOn.registered (h : DependsOn bank s root version) (hroot : findEntry s root ≠ none) :
    findEntry s version ≠ none := by
  unfold DependsOn at h
  cases h with
  | refl => exact hroot
  | tail _ hlast =>
    obtain ⟨e, he, hadapter, -⟩ := hlast
    exact findEntry_isSome_iff.mpr ⟨e, he, hadapter⟩

/-! ## The index with the revocations -/

def addedRevocations (s : AdapterIndexSnapshot) (request : AdapterRevocationRequest)
    (affected : BTreeSet AdapterVersion) : List AdapterRevocation :=
  (affected.toList.filter fun version => ¬Revoked s version).filterMap fun version =>
    (revocationOf s request version).toOption

/-- The index in which a version and what depends on it are revoked. -/
def revocationIndex (bank : AdapterBank) (s : AdapterIndexSnapshot)
    (reference : Option PrivateFileReference) (request : AdapterRevocationRequest) :
    AdapterIndexSnapshot :=
  let affected := affectedBy (storedManifests bank s) request.adapter
  revoked s reference request affected (addedRevocations s request affected)

section

variable {s : AdapterIndexSnapshot} {reference : Option PrivateFileReference}
  {request : AdapterRevocationRequest} {affected : BTreeSet AdapterVersion}

omit [Platform] [FractionText] in
lemma mem_addedRevocations {r : AdapterRevocation} : r ∈ addedRevocations s request affected ↔
      r.adapter ∈ affected ∧ ¬Revoked s r.adapter ∧ ∃ e, findEntry s r.adapter = some e ∧
        r.manifestSha256 = e.manifest.sha256 ∧ r.revokedAtRevision = s.revision + 1 ∧
        r.rootCause = request.adapter ∧ r.reason = request.reason ∧
        r.evidence = request.evidence := by
  unfold addedRevocations revocationOf
  rw [mem_filterMap]
  constructor
  · intro h
    obtain ⟨version, hversion, hr⟩ := h
    rw [mem_filter, Std.ExtTreeSet.mem_toList, decide_eq_true_eq] at hversion
    cases hfind : findEntry s version with
    | none =>
      rw [hfind] at hr
      cases hr
    | some e =>
      rw [hfind] at hr
      cases hr
      exact ⟨hversion.1, hversion.2, e, hfind, rfl, rfl, rfl, rfl, rfl⟩
  · intro h
    obtain ⟨hmem, hlive, e, hfind, hmanifest, hrevision, hroot, hreason, hevidence⟩ := h
    refine ⟨r.adapter, ?_, ?_⟩
    · rw [mem_filter, Std.ExtTreeSet.mem_toList, decide_eq_true_eq]
      exact ⟨hmem, hlive⟩
    · rw [hfind]
      obtain ⟨adapter, manifestSha256, revokedAtRevision, rootCause, reason, evidence⟩ := r
      cases hmanifest
      cases hrevision
      cases hroot
      cases hreason
      cases hevidence
      rfl

def AllRegistered (s : AdapterIndexSnapshot) (affected : BTreeSet AdapterVersion) : Prop :=
  ∀ version ∈ affected, findEntry s version ≠ none

section

omit [Platform] [FractionText]

lemma mapM_revocationOf (request : AdapterRevocationRequest) (h : AllRegistered s affected) :
    (affected.toList.filter fun version => ¬Revoked s version).mapM (revocationOf s request) =
        .ok (addedRevocations s request affected) ∧
      (addedRevocations s request affected).map AdapterRevocation.adapter =
        affected.toList.filter fun version => ¬Revoked s version := by
  unfold addedRevocations
  have hall : ∀ version ∈ affected.toList.filter (fun version => ¬Revoked s version),
      findEntry s version ≠ none := by
    intro version hversion
    rw [mem_filter, Std.ExtTreeSet.mem_toList] at hversion
    exact h version hversion.1
  generalize (affected.toList.filter fun version => ¬Revoked s version) = versions at hall ⊢
  induction versions with
  | nil => exact ⟨rfl, rfl⟩
  | cons version versions ih =>
    obtain ⟨hmap, hadapters⟩ := ih fun v hv => hall v (mem_cons_of_mem _ hv)
    obtain ⟨e, hfind⟩ := ne_none_iff_exists'.mp (hall version mem_cons_self)
    have hone : revocationOf s request version = .ok {
        adapter := version
        manifestSha256 := e.manifest.sha256
        revokedAtRevision := s.revision + 1
        rootCause := request.adapter
        reason := request.reason
        evidence := request.evidence } := by
      unfold revocationOf
      rw [hfind]
      rfl
    constructor
    · rw [mapM_cons, hone, hmap, filterMap_cons, hone]
      rfl
    · rw [filterMap_cons, hone]
      show version :: _ = version :: versions
      rw [hadapters]

lemma revoked_next (h : AllRegistered s affected) {version : AdapterVersion} :
    Revoked (revoked s reference request affected (addedRevocations s request affected)) version ↔
      Revoked s version ∨ version ∈ affected := by
  have hadapters := (mapM_revocationOf request h).2
  unfold Revoked
  show version ∈ (sortBy _ _).map _ ↔ _
  rw [((sortBy_perm _ _).map _).mem_iff, map_append, mem_append, hadapters,
    mem_filter, Std.ExtTreeSet.mem_toList, decide_eq_true_eq]
  constructor
  · intro hmem
    rcases hmem with hmem | hmem
    · exact .inl hmem
    · exact .inr hmem.1
  · intro hmem
    by_cases hold : Revoked s version
    · exact .inl hold
    · exact .inr ⟨hmem.resolve_left hold, hold⟩

lemma ascending_revocations (h : AllRegistered s affected)
    (hold : Ascending AdapterRevocation.adapter s.revocations) : Ascending AdapterRevocation.adapter
      (sortBy AdapterRevocation.adapter
        (s.revocations ++ addedRevocations s request affected)) := by
  apply ascending_sortBy
  rw [map_append, (mapM_revocationOf request h).2, nodup_append']
  refine ⟨nodup_of_ascending hold, (nodup_toList affected).filter _, ?_⟩
  intro version hrevoked hmem
  rw [mem_filter, decide_eq_true_eq] at hmem
  exact hmem.2 hrevoked

end

/-- The index with the revocations passes its check, whatever was revoked before. -/
lemma contract_revoked (hcontract : validateSnapshotContract w bank s = .ok ())
    (hpositive : s.revision ≠ 0) (hreference : reference ≠ none)
    (hcause : checkCause w request.reason request.evidence = .ok ())
    (haffected : affected = affectedBy (storedManifests bank s) request.adapter)
    (hregistered : AllRegistered s affected) : validateSnapshotContract w bank
      (revoked s reference request affected (addedRevocations s request affected)) = .ok () := by
  have hrevoked : ∀ version,
      Revoked (revoked s reference request affected (addedRevocations s request affected))
        version ↔ Revoked s version ∨ version ∈ affected :=
    fun version => revoked_next hregistered
  generalize hnext : revoked s reference request affected (addedRevocations s request affected) =
    next at hrevoked ⊢
  have hrevision : next.revision = s.revision + 1 := by rw [← hnext]; rfl
  have hcoherent := coherent_of_contract hcontract
  unfold validateSnapshotContract at hcontract ⊢
  rw [if_neg hpositive] at hcontract
  have hlater : ¬next.revision = 0 := by omega
  rw [if_neg hlater]
  simp only [bind_ok, failIf_ok, forM_ok, not_or, not_and, not_not, ne_eq]
    at hcontract ⊢
  obtain ⟨_, hschema, _, -, manifests, hentries, _, hbuckets, _, hrevocations, _, hclosed, last,
    hactive, -⟩ := hcontract
  obtain ⟨-, hascending, hall⟩ := revocations_ok.mp hrevocations
  obtain ⟨-, hslots, hselections⟩ := selections_ok.mp hactive
  have hdone := entriesDone_of_fold hentries
  refine ⟨(), ?_, (), ?_, manifests, ?_, (), ?_, next.revocations.reverse, ?_, (), ?_,
    next.active.getLast?.map ActiveAdapterSelection.slot, ?_, rfl⟩
  · rw [← hnext]
    exact hschema
  · rw [hrevision, ← hnext]
    refine ⟨?_, ?_⟩
    · constructor
      · intro hone
        omega
      · intro hnone
        exact absurd hnone hreference
    · exact fun hempty => by cases hempty
  · rw [← hnext]
    exact hentries
  · rw [← hnext]
    exact hbuckets
  · refine revocations_ok.mpr ⟨rfl, ?_, ?_⟩
    · rw [← hnext]
      exact ascending_revocations hregistered hascending
    · intro r hr
      have hfind : ∀ version, findEntry next version = findEntry s version := by
        intro version
        rw [← hnext]
        rfl
      have hmem : r ∈ s.revocations ∨ r ∈ addedRevocations s request affected := by
        rw [← hnext] at hr
        exact mem_append.mp (mem_sortBy.mp hr)
      rcases hmem with hmem | hmem
      · have hold := hall r hmem
        obtain ⟨e, hentry, hmanifest⟩ := hold.registered
        have hpast := hold.past
        exact ⟨hold.cause, hold.positive, by omega, e, by rw [hfind, hentry], hmanifest⟩
      · obtain ⟨-, -, e, hentry, hmanifest, hat, -, hreason, hevidence⟩ :=
          mem_addedRevocations.mp hmem
        refine ⟨?_, by omega, by omega, e, by rw [hfind, hentry], hmanifest.symm⟩
        rw [hreason, hevidence]
        exact hcause
  · -- what is composed of a revoked version depends on it
    intro d hd hdependency
    obtain ⟨version, hversion, hnew⟩ := hdependency
    rw [hrevoked] at hnew ⊢
    have hstored := hdone.stored d (mem_reverse.mp hd)
    rcases hnew with hold | hmem
    · exact .inl (hclosed d hd ⟨version, hversion, hold⟩)
    · right
      rw [haffected, mem_affectedBy] at hmem ⊢
      apply ReflTransGen.tail hmem
      refine ⟨d.1, ?_, rfl, d.2, hstored.1, hversion⟩
      have hfirst := mem_map_of_mem (f := Prod.fst) (mem_reverse.mp hd)
      rw [hdone.entries, mem_reverse] at hfirst
      exact hfirst
  · refine selections_ok.mpr ⟨rfl, ?_, ?_⟩
    · rw [← hnext]
      exact ascending_filter hslots
    · intro a ha
      have hkept : a ∈ s.active ∧ a.adapter ∉ affected := by
        rw [← hnext] at ha
        obtain ⟨hmem, hout⟩ := mem_filter.mp ha
        exact ⟨hmem, of_decide_eq_true hout⟩
      apply (hselections a hkept.1).later (by omega)
      rw [hrevoked, not_or]
      exact ⟨(hcoherent.active a hkept.1).1, hkept.2⟩

/-! ## The step -/

omit [Platform] [FractionText]

lemma added_eq (h : AllRegistered s affected)
    (hold : Ascending AdapterRevocation.adapter s.revocations) : (sortBy AdapterRevocation.adapter
        (s.revocations ++ addedRevocations s request affected)).filter
          (fun revocation => revocation ∉ s.revocations) = addedRevocations s request affected := by
  refine eq_of_ascending (ascending_filter (ascending_revocations h hold)) ?_ ?_
  · have hordered : (affected.toList.filter fun version => ¬Revoked s version).Pairwise
        fun a b => compare a b = .lt := ordered_toList.filter _
    rw [← (mapM_revocationOf request h).2] at hordered
    exact pairwise_map.mp hordered
  · intro r
    rw [mem_filter, mem_sortBy, mem_append, decide_eq_true_eq]
    constructor
    · intro hr
      exact hr.1.resolve_left hr.2
    · intro hr
      refine ⟨.inr hr, ?_⟩
      intro hmem
      exact (mem_addedRevocations.mp hr).2.1 (mem_map_of_mem hmem)

/-- The step passes its check exactly when nothing that it revokes was revoked before. -/
lemma checkRevoke_iff (reference : Option PrivateFileReference)
    (hroot : request.adapter ∈ affected) (h : AllRegistered s affected)
    (hold : Ascending AdapterRevocation.adapter s.revocations) :
    checkRevoke request.adapter affected.toList s
        (revoked s reference request affected (addedRevocations s request affected)) = .ok () ↔
      ∀ version ∈ affected, ¬Revoked s version := by
  have hrootList : request.adapter ∈ affected.toList := Std.ExtTreeSet.mem_toList.mpr hroot
  have hchain : affected.toList.IsChain fun a b => compare a b = .lt :=
    Pairwise.isChain Std.ExtTreeSet.ordered_toList
  have hkept : ∀ r ∈ s.revocations, r ∈ sortBy AdapterRevocation.adapter
      (s.revocations ++ addedRevocations s request affected) := by
    intro r hr
    exact mem_sortBy.mpr (mem_append_left _ hr)
  have hactive : (s.active.filter fun selection => selection.adapter ∉ affected) =
      s.active.filter fun selection => selection.adapter ∉ affected.toList := by
    apply filter_congr
    intro a _
    rw [decide_eq_decide, Std.ExtTreeSet.mem_toList]
  unfold checkRevoke
  simp only [bind_ok, failIf_ok, not_or, not_exists, not_and, not_not, ne_eq]
  show (∃ _, (s.entries = s.entries ∧ _) ∧ ∃ _, (∀ r ∈ s.revocations, r ∈ sortBy _ _) ∧ ∃ _,
    ((filter _ (sortBy _ _)).map _ = _ ∧ ∀ r, r ∈ filter _ (sortBy _ _) → _) ∧
      s.active.filter _ = s.active.filter _) ↔ _
  rw [added_eq h hold, (mapM_revocationOf request h).2]
  constructor
  · intro hpassed
    obtain ⟨_, -, _, -, _, ⟨hall, -⟩, -⟩ := hpassed
    intro version hversion
    have hkeeps := filter_eq_self.mp hall version (Std.ExtTreeSet.mem_toList.mpr hversion)
    exact of_decide_eq_true hkeeps
  · intro hlive
    refine ⟨(), ⟨rfl, ?_, hrootList, hchain⟩, (), hkept, (), ⟨?_, ?_⟩, hactive⟩
    · intro hempty
      rw [hempty] at hrootList
      cases hrootList
    · apply filter_eq_self.mpr
      intro version hversion
      exact decide_eq_true (hlive version (Std.ExtTreeSet.mem_toList.mp hversion))
    · intro r hr
      obtain ⟨-, -, e, -, -, hat, hcause, -⟩ := mem_addedRevocations.mp hr
      exact ⟨hcause, hat⟩

end

/-! ## When a revocation is published -/

/-- A request that is in order, for a registered version that is not revoked. -/
structure Requested (w : World) (s : AdapterIndexSnapshot)
    (reference : Option PrivateFileReference) (request : AdapterRevocationRequest) : Prop where
  schema : request.schema = "tidex.adapter_revocation_request/v1"
  cause : checkCause w request.reason request.evidence = .ok ()
  expected : checkExpectation request.expected s reference = .ok ()
  registered : findEntry s request.adapter ≠ none
  live : ¬Revoked s request.adapter
  limit : s.revision < maxHistoryRevisions

/-- The next revision is published, and the version and whatever depends on it are
    revoked and inactive there. -/
def RevokesAll (w : World) (bank : AdapterBank) (s : AdapterIndexSnapshot)
    (request : AdapterRevocationRequest) : Prop :=
  ∃ commit t next, Runs (revoke w request) bank commit t ∧
    commit.revision = s.revision + 1 ∧ commit.idempotent = false ∧
    current w t = .ok (next, some commit.index) ∧ next.revision = s.revision + 1 ∧
    ∀ version, DependsOn bank s request.adapter version →
      Revoked next version ∧ ∀ a ∈ next.active, a.adapter ≠ version

section

variable {s : AdapterIndexSnapshot} {reference : Option PrivateFileReference}
  {request : AdapterRevocationRequest}

/-- A bank with a registered version has a revision, and its index passed its check. -/
lemma contract_of_registered (hcurrent : current w bank = .ok (s, reference))
    {version : AdapterVersion} (hregistered : findEntry s version ≠ none) :
    reference ≠ none ∧ s.revision ≠ 0 ∧ validateSnapshotContract w bank s = .ok () := by
  obtain ⟨tip, -, -, hparent, -⟩ := current_ok hcurrent
  have hsome : reference ≠ none := by
    intro hnone
    rw [hnone] at hparent
    cases hparent
    exact hregistered rfl
  obtain ⟨index, rfl⟩ := ne_none_iff_exists'.mp hsome
  have hcontract := (authenticateSnapshot_ok.mp hparent).2.2.2.2
  refine ⟨hsome, ?_, hcontract⟩
  intro hzero
  unfold validateSnapshotContract at hcontract
  simp only [bind_ok, if_pos hzero, failIf_ok, not_not, ne_eq] at hcontract
  obtain ⟨-, -, hempty⟩ := hcontract
  rw [hempty] at hregistered
  exact hregistered rfl

section

omit [Platform] [FractionText]

lemma mapM_exists {ε α β : Type} {f : α → Except ε β} {xs : List α}
    (h : ∀ x ∈ xs, ∃ y, f x = .ok y) : ∃ ys, xs.mapM f = .ok ys := by
  induction xs with
  | nil => exact ⟨[], rfl⟩
  | cons x xs ih =>
    obtain ⟨y, hy⟩ := h x mem_cons_self
    obtain ⟨ys, hys⟩ := ih fun x hx => h x (mem_cons_of_mem _ hx)
    refine ⟨y :: ys, ?_⟩
    rw [mapM_cons, hy, hys]
    rfl

lemma allRegistered (bank : AdapterBank) (hregistered : findEntry s request.adapter ≠ none) :
    AllRegistered s (affectedBy (storedManifests bank s) request.adapter) := by
  intro version hversion
  exact (mem_affectedBy.mp hversion).registered hregistered

end

section

variable (hcurrent : current w bank = .ok (s, reference)) (h : Requested w s reference request)
include hcurrent h

/-- What a request that is in order proposes. -/
lemma proposeRevocation_eq : proposeRevocation w request bank s reference = .ok (.publish
      (revocationIndex bank s reference request)
      ((findEntry s request.adapter).map AdapterIndexEntry.manifest)) := by
  obtain ⟨-, -, hcontract⟩ := contract_of_registered hcurrent h.registered
  obtain ⟨_, hloops⟩ := loops_of_contract hcontract
  have hall : ∃ manifests, (s.entries.mapM fun entry => do
      let manifest ← authenticateManifest w bank entry.manifest
      return (entry.adapter, manifest)) = Except.ok manifests := by
    apply mapM_exists
    intro e he
    obtain ⟨m, hm, -⟩ := (hloops.entries e he).manifest
    exact ⟨(e.adapter, m), by rw [hm]; rfl⟩
  obtain ⟨manifests, hmanifests⟩ := hall
  have hstored := storedManifests_of_mapM hmanifests
  subst hstored
  have hadded := (mapM_revocationOf request
    (allRegistered bank h.registered)).1
  unfold proposeRevocation
  dsimp only
  rw [if_neg h.live, h.expected, ok_bind]
  simp only [bind_ok, failIf_ok, pure_ok]
  exact ⟨(), h.registered, _, hmanifests, _, hadded, rfl⟩

/-- The step of a request passes when nothing that depends on the version was revoked. -/
lemma transition_revoked : validateSnapshotTransition w bank reference s
        (revocationIndex bank s reference request) = .ok () ↔
      ∀ version, DependsOn bank s request.adapter version → ¬Revoked s version := by
  obtain ⟨-, -, hcontract⟩ := contract_of_registered hcurrent h.registered
  obtain ⟨_, hloops⟩ := loops_of_contract hcontract
  have hroot : request.adapter ∈ affectedBy (storedManifests bank s) request.adapter :=
    mem_affectedBy.mpr ReflTransGen.refl
  have hiff := checkRevoke_iff reference hroot
    (allRegistered bank h.registered) hloops.ascending
  unfold validateSnapshotTransition
  simp only [bind_ok, failIf_ok, not_or, not_not, ne_eq]
  constructor
  · intro hpassed version hversion
    obtain ⟨_, -, hchecked⟩ := hpassed
    exact hiff.mp hchecked version (mem_affectedBy.mpr hversion)
  · intro hlive
    refine ⟨(), ⟨rfl, rfl⟩, ?_⟩
    exact hiff.mpr fun version hversion => hlive version (mem_affectedBy.mp hversion)

lemma runs_revoke {commit : AdapterBankCommit} : Runs (revoke w request) bank commit t ↔
      Runs (underLock w (proposeRevocation w request)) bank commit t := by
  have hvalid : request.adapter.validate = .ok () := by
    obtain ⟨-, -, hcontract⟩ := contract_of_registered hcurrent h.registered
    obtain ⟨_, hloops⟩ := loops_of_contract hcontract
    obtain ⟨e, he, hadapter⟩ := findEntry_isSome_iff.mp h.registered
    rw [← hadapter]
    exact (hloops.entries e he).valid
  unfold revoke
  simp only [runs_bind, runs_liftM, failIf_ok, not_not, ne_eq]
  constructor
  · intro hrun
    obtain ⟨_, _, ⟨-, rfl⟩, _, _, ⟨-, rfl⟩, _, _, ⟨-, rfl⟩, hlock⟩ := hrun
    exact hlock
  · intro hlock
    exact ⟨(), bank, ⟨h.schema, rfl⟩, (), bank, ⟨hvalid, rfl⟩, (), bank, ⟨h.cause, rfl⟩, hlock⟩

lemma RevokesAll.condition (hrevokes : RevokesAll w bank s request) :
    (∀ version, DependsOn bank s request.adapter version → ¬Revoked s version) ∧
      Fits bank (revocationIndex bank s reference request) := by
  obtain ⟨commit, t, next, hrun, -⟩ := hrevokes
  rw [runs_revoke hcurrent h,
    runs_underLock hcurrent (proposeRevocation_eq hcurrent h)] at hrun
  obtain ⟨index, hpublish, -⟩ := hrun
  have happends := (runs_publish hpublish).1
  exact ⟨(transition_revoked hcurrent h).mp (happends.follows hcurrent).2.2, happends.fits⟩

/-- Where nothing was revoked before, the index is published, and nothing else is stored. -/
lemma revoke_runs
    (hlive : ∀ version, DependsOn bank s request.adapter version → ¬Revoked s version)
    (hfits : Fits bank (revocationIndex bank s reference request)) :
    ∃ commit t, Runs (revoke w request) bank commit t ∧
      commit.revision = s.revision + 1 ∧ commit.idempotent = false ∧
      current w t = .ok (revocationIndex bank s reference request, some commit.index) ∧
      Appends w bank t (revocationIndex bank s reference request) ∧
      ∀ digest other, t.indexes[digest]? = some other → bank.indexes[digest]? = some other ∨
        (digest = Sha256Digest.digestBytes (toVec (revocationIndex bank s reference request)) ∧
          other = revocationIndex bank s reference request) := by
  obtain ⟨hreference, hpositive, hcontract⟩ := contract_of_registered hcurrent h.registered
  have hindex := contract_revoked hcontract hpositive hreference h.cause rfl
    (allRegistered bank h.registered)
  obtain ⟨t, hpublish, hstored⟩ := publish_runs hcurrent rfl h.limit rfl
    ((transition_revoked hcurrent h).mpr hlive) hindex hfits
  obtain ⟨happends, -, hopen⟩ := runs_publish hpublish
  exact ⟨_, t, (runs_revoke hcurrent h).mpr
    ((runs_underLock hcurrent (proposeRevocation_eq hcurrent h)).mpr ⟨_, hpublish, rfl⟩),
    rfl, rfl, hopen, happends, hstored⟩

end

/-- **A revocation publishes what it should exactly when nothing that depends on the
    version was revoked before**, and the index with the revocations fits. -/
theorem revoke_iff (hcurrent : current w bank = .ok (s, reference))
    (h : Requested w s reference request) : RevokesAll w bank s request ↔
      (∀ version, DependsOn bank s request.adapter version → ¬Revoked s version) ∧
        Fits bank (revocationIndex bank s reference request) := by
  constructor
  · intro hrevokes
    exact hrevokes.condition hcurrent h
  · intro hcondition
    obtain ⟨hlive, hfits⟩ := hcondition
    obtain ⟨commit, t, hrun, hrevision, hidempotent, hopen, -⟩ :=
      revoke_runs hcurrent h hlive hfits
    refine ⟨commit, t, _, hrun, hrevision, hidempotent, hopen, rfl, ?_⟩
    intro version hversion
    have hmem := mem_affectedBy.mpr hversion
    refine ⟨(revoked_next (allRegistered bank h.registered)).mpr (.inr hmem), ?_⟩
    intro a ha hadapter
    have hout := of_decide_eq_true (mem_filter.mp ha).2
    rw [hadapter] at hout
    exact hout hmem

end

end Tidex.Bank

/-! ## A composition that is revoked before what it is made from -/

namespace Tidex.RevocationSample

open Tidex.Lib Tidex.Bank

attribute [local instance] Platform.reference BankSample.oneText

def zero : Sha256Digest := Sha256Digest.zero

def home : AdapterBank := AdapterBank.fresh "/bank"
def key : ReceiverModelKey := ⟨⟨"model", by decide⟩, zero⟩
def architecture : ArchitectureId := ⟨"architecture", by decide⟩
def layout : ReceiverAdaptationLayoutBinding := ⟨⟨"/layout", zero⟩, zero, 1⟩
def delta : DeltaArtifactRef := ⟨home.canonicalDeltaPath zero, zero, 1⟩
def blob : RetainedAdapterBlob := ⟨⟨"/blob", zero⟩, 1, "application/json"⟩
def profileReference : PrivateFileReference := ⟨"/profile", zero⟩
def provenance : PrivateFileReference := ⟨"/provenance", zero⟩

def a : AdapterVersion := ⟨⟨"adapter-a", by decide⟩, 1⟩
def b : AdapterVersion := ⟨⟨"adapter-b", by decide⟩, 1⟩
def c : AdapterVersion := ⟨⟨"adapter-c", by decide⟩, 1⟩
def capabilityA : CapabilityId := ⟨"capability-a", by decide⟩
def capabilityB : CapabilityId := ⟨"capability-b", by decide⟩
def capabilityC : CapabilityId := ⟨"capability-c", by decide⟩
def lineageA : LineageId := ⟨"lineage-a", by decide⟩
def lineageB : LineageId := ⟨"lineage-b", by decide⟩
def lineageC : LineageId := ⟨"lineage-c", by decide⟩

def manifest (adapter : AdapterVersion) (capability : CapabilityId) (lineage : LineageId)
    (source : AdapterManifestSource) : AdapterManifest where
  schema := adapterManifestSchema
  adapter := adapter
  capabilityId := capability
  lineageId := lineage
  capabilityBundle := none
  receiverModel := key
  architectureId := architecture
  receiverProfile := profileReference
  parameterTopologySha256 := zero
  adaptationAbiSha256 := zero
  parameterLayout := layout
  denseDelta := delta
  source := source
  candidateOnly := true
  authorizesPromotion := false

def manifestA := manifest a capabilityA lineageA (.importedPeftLora provenance blob blob)
def manifestB := manifest b capabilityB lineageB (.importedPeftLora provenance blob blob)

def digestA : Sha256Digest :=
  ⟨"949a9a4b5b47fd703bce779b8f62435e88b3b5fa09bd79515432fd033f3bcd89", by decide +kernel⟩
def digestB : Sha256Digest :=
  ⟨"9caaa43db4a8df09ac073df90795d4be3b488aa168c24ecce83e395427ec20b3", by decide +kernel⟩

def referenceA : PrivateFileReference := ⟨home.manifestPath digestA, digestA⟩
def referenceB : PrivateFileReference := ⟨home.manifestPath digestB, digestB⟩

def one : F64 := F64.ofNat 1

def term (adapter : AdapterVersion) (reference : PrivateFileReference) : AdapterCompositionTerm :=
  ⟨adapter, reference, one, coefficientBitsHex one⟩

def manifestC : AdapterManifest :=
  manifest c capabilityC lineageC (.exactDenseComposition exactCompositionArithmetic
    [term a referenceA, term b referenceB] false false)

/-! ### The documents of the run. -/

def isDocument (cs : List Char) (d : Sha256Digest) : Bool :=
  hashesTo cs d && decide (Json.textSize cs ≤ maxBankJsonBytes)

variable {m : AdapterManifest}

lemma manifest_document {d : Sha256Digest}
    (h : isDocument (m.toValue.renderWith Json.quickText) d = true) :
    Sha256Digest.digestBytes m.bytes = d ∧ m.bytes.size ≤ maxBankJsonBytes := by
  rw [isDocument, Bool.and_eq_true, decide_eq_true_eq, JsonValue.quickText_render] at h
  refine ⟨sha256_encodeText h.1, ?_⟩
  show (Json.encodeText m.toValue.render).size ≤ maxBankJsonBytes
  rw [Json.size_encodeText]
  exact h.2

variable {s : AdapterIndexSnapshot}

lemma index_document {d : Sha256Digest}
    (h : isDocument ((toJson s).renderWith Json.quickText) d = true) :
    Sha256Digest.digestBytes (toVec s) = d ∧ (toVec s).size ≤ maxBankJsonBytes := by
  rw [isDocument, Bool.and_eq_true, decide_eq_true_eq] at h
  refine ⟨digestBytes_eq h.1, ?_⟩
  show ((toJson s).toBytes).size ≤ maxBankJsonBytes
  rw [Json.size_toBytes, Json.byteSize_eq]
  exact h.2

def digestC : Sha256Digest :=
  ⟨"05fd35f6c52491a8ec1564cdaf97593eab916b4804b31bead1647f2c133ef4ce", by decide +kernel⟩
def referenceC : PrivateFileReference := ⟨home.manifestPath digestC, digestC⟩

lemma terms_ordered : validateCoefficient one = .ok () ∧
    ¬Unordered (none : Option Sha256Digest) digestA ∧ ¬Unordered (some digestA) digestB ∧
    b ≠ a := by
  decide +kernel

lemma manifest_documents :
    isDocument (manifestA.toValue.renderWith Json.quickText) digestA = true ∧
      isDocument (manifestB.toValue.renderWith Json.quickText) digestB = true ∧
      isDocument (manifestC.toValue.renderWith Json.quickText) digestC = true := by
  decide +kernel

lemma document_A : Sha256Digest.digestBytes manifestA.bytes = digestA ∧
    manifestA.bytes.size ≤ maxBankJsonBytes :=
  manifest_document manifest_documents.1

lemma document_B : Sha256Digest.digestBytes manifestB.bytes = digestB ∧
    manifestB.bytes.size ≤ maxBankJsonBytes :=
  manifest_document manifest_documents.2.1

lemma document_C : Sha256Digest.digestBytes manifestC.bytes = digestC ∧
    manifestC.bytes.size ≤ maxBankJsonBytes :=
  manifest_document manifest_documents.2.2

def digest1 : Sha256Digest :=
  ⟨"ee78de03011781753946540ff891a0830759663746337c59d5e83a6210a7bb8e", by decide +kernel⟩

def index (digest : Sha256Digest) : PrivateFileReference := ⟨home.indexPath digest, digest⟩

def index1 : AdapterIndexSnapshot := registered emptySnapshot none manifestA referenceA false

def digest2 : Sha256Digest :=
  ⟨"a30ceb1a1afa953a3c73c0a7b9be6ca5a6387ddf5eec58ba6b088cab429d5cec", by decide +kernel⟩

def index2 : AdapterIndexSnapshot :=
  registered index1 (some (index digest1)) manifestB referenceB false

lemma first_indexes : isDocument ((toJson index1).renderWith Json.quickText) digest1 = true ∧
    isDocument ((toJson index2).renderWith Json.quickText) digest2 = true := by
  decide +kernel

lemma document_1 : Sha256Digest.digestBytes (toVec index1) = digest1 ∧
    (toVec index1).size ≤ maxBankJsonBytes :=
  index_document first_indexes.1

lemma document_2 : Sha256Digest.digestBytes (toVec index2) = digest2 ∧
    (toVec index2).size ≤ maxBankJsonBytes :=
  index_document first_indexes.2

lemma terms_registered : findEntry index2 a = some (entryFromManifest manifestA referenceA) ∧
    findEntry index2 b = some (entryFromManifest manifestB referenceB) ∧
    ¬Revoked index2 a ∧ ¬Revoked index2 b ∧ sameReceiver manifestA manifestA = true ∧
    sameReceiver manifestA manifestB = true := by
  decide +kernel

def digest3 : Sha256Digest :=
  ⟨"9e2fbe87c0038e7136ccfa75e9cc763111ffd9b999b6a6bc5be75061b3d1e344", by decide +kernel⟩

def index3 : AdapterIndexSnapshot :=
  registered index2 (some (index digest2)) manifestC referenceC true

def request (adapter : AdapterVersion) (expected : AdapterBankExpectation) :
    AdapterRevocationRequest where
  schema := "tidex.adapter_revocation_request/v1"
  adapter := adapter
  reason := "unsafe"
  evidence := none
  expected := expected

def digest4 : Sha256Digest :=
  ⟨"a97be23bea512f84a4bdd04df60935e041949dfcf182fdd1cd60c09a2585a4b8", by decide +kernel⟩

def index4 : AdapterIndexSnapshot :=
  revoked index3 (some (index digest3)) (request c ⟨3, some digest3⟩)
    ((∅ : BTreeSet AdapterVersion).insert c)
    (addedRevocations index3 (request c ⟨3, some digest3⟩) ((∅ : BTreeSet AdapterVersion).insert c))

def profile : ReceiverModelProfile := ⟨key.modelId, zero, architecture, zero, zero⟩

def world : World where
  verify _ := .ok ()
  capabilityBundle _ := .error (.io .notFound)
  receiverProfile _ := .ok profile
  liveReceiverProfile _ := .ok profile
  parameterLayout _ := .ok "layout"
  verifyDvec _ := .ok ()
  combineDvec _ := .ok delta
  importProvenance _ := .ok ⟨zero, "layout", delta, zero, zero⟩
  retainedBlob _ _ _ := .ok ()
  importLora _ := .ok ⟨delta, layout, provenance, blob, blob⟩
  governanceEvidence _ := .error (.io .notFound)
  candidateMaterialization _ := .error (.io .notFound)
  promotionWitnesses _ _ := .error (.io .notFound)

/-! ### What the calls look at. -/

lemma digests_distinct : [digestC, digestB, digestA].Nodup ∧
    [digest4, digest3, digest2, digest1].Nodup := by
  decide +kernel

/-- What registering a manifest asks of the index and the manifest alone. -/
structure Admissible (s : AdapterIndexSnapshot) (reference : Option PrivateFileReference)
    (m : AdapterManifest) (expected : AdapterBankExpectation) : Prop where
  fresh : findEntry s m.adapter = none
  expected : checkExpectation expected s reference = .ok ()
  generation : checkGeneration s m = .ok ()
  lineage : ∀ e ∈ s.entries,
    ¬(e.lineageId = m.lineageId ∧ e.adapter.generation = m.adapter.generation)
  distinct : ∀ e ∈ s.entries, e.capabilityId ≠ m.capabilityId
  live : ∀ version ∈ compositionDependencies m, ¬Revoked s version
  limit : s.revision < maxHistoryRevisions

variable {reference : Option PrivateFileReference}

lemma admissible_iff {expected : AdapterBankExpectation} :
    Admissible s reference m expected ↔ findEntry s m.adapter = none ∧
      checkExpectation expected s reference = .ok () ∧ checkGeneration s m = .ok () ∧
      (∀ e ∈ s.entries,
        ¬(e.lineageId = m.lineageId ∧ e.adapter.generation = m.adapter.generation)) ∧
      (∀ e ∈ s.entries, e.capabilityId ≠ m.capabilityId) ∧
      (∀ version ∈ compositionDependencies m, ¬Revoked s version) ∧
      s.revision < maxHistoryRevisions := by
  constructor
  · intro h
    exact ⟨h.fresh, h.expected, h.generation, h.lineage, h.distinct, h.live, h.limit⟩
  · intro h
    obtain ⟨hfresh, hexpected, hgeneration, hlineage, hdistinct, hlive, hlimit⟩ := h
    exact ⟨hfresh, hexpected, hgeneration, hlineage, hdistinct, hlive, hlimit⟩

lemma admissible_run : Admissible index1 (some (index digest1)) manifestB ⟨1, some digest1⟩ ∧
      Admissible index2 (some (index digest2)) manifestC ⟨2, some digest2⟩ := by
  rw [admissible_iff, admissible_iff]
  decide +kernel

lemma requested_iff {w : World} {request : AdapterRevocationRequest} :
    Requested w s reference request ↔ request.schema = "tidex.adapter_revocation_request/v1" ∧
      checkCause w request.reason request.evidence = .ok () ∧
      checkExpectation request.expected s reference = .ok () ∧
      findEntry s request.adapter ≠ none ∧ ¬Revoked s request.adapter ∧
      s.revision < maxHistoryRevisions := by
  constructor
  · intro h
    exact ⟨h.schema, h.cause, h.expected, h.registered, h.live, h.limit⟩
  · intro h
    obtain ⟨hschema, hcause, hexpected, hregistered, hlive, hlimit⟩ := h
    exact ⟨hschema, hcause, hexpected, hregistered, hlive, hlimit⟩

lemma requested_c : Requested world index3 (some (index digest3))
    (request c ⟨3, some digest3⟩) := by
  rw [requested_iff]
  decide +kernel

lemma requested_a : Requested world index4 (some (index digest4))
    (request a ⟨4, some digest4⟩) := by
  rw [requested_iff]
  decide +kernel

lemma composition_revoked : entryFromManifest manifestC referenceC ∈ index3.entries ∧
    a ∈ compositionDependencies manifestC ∧ ¬Revoked index3 c ∧ Revoked index4 c := by
  decide +kernel

/-! ### The manifests authenticate. -/

variable {t : AdapterBank}

lemma contract_import {adapter : AdapterVersion} {capability : CapabilityId} {lineage : LineageId}
    {parent : PrivateFileReference → BrainResult AdapterManifest} (hroot : t.root = "/bank")
    (hvalid : adapter.validate = .ok ()) (hlineage : lineage.isUnassigned = false) :
    validateManifestContract world t parent
      (manifest adapter capability lineage (.importedPeftLora provenance blob blob)) = .ok () := by
  have hpath : t.canonicalDeltaPath zero = home.canonicalDeltaPath zero := by
    unfold AdapterBank.canonicalDeltaPath
    rw [hroot]
    rfl
  have hsource : validateSource world parent
      (manifest adapter capability lineage (.importedPeftLora provenance blob blob)) "layout" =
        .ok () := by
    show (failIf (zero ≠ zero ∨ "layout" ≠ "layout" ∨ delta ≠ delta ∨ zero ≠ zero ∨ zero ≠ zero)
      (integrity "adapter_manifest_import_binding_mismatch") : BrainResult Unit) = .ok ()
    simp
  unfold validateManifestContract
  simp only [bind_ok, failIf_ok, not_or, not_not, ne_eq]
  refine ⟨(), hvalid, (), ⟨rfl, ?_, ?_, ?_, rfl, hpath.symm⟩, none, rfl, profile, rfl, (),
    ⟨rfl, rfl, rfl, rfl, rfl⟩, "layout", rfl, (), rfl, hsource⟩
  · show ¬lineage.isUnassigned = true
    rw [hlineage]
    exact Bool.false_ne_true
  · exact Bool.noConfusion
  · exact Bool.false_ne_true

/-- A bank stores some manifests. -/
structure Stores (t : AdapterBank) (ms : List (Sha256Digest × AdapterManifest)) : Prop where
  root : t.root = "/bank"
  manifests : ∀ p ∈ ms, t.manifests[p.1]? = some p.2

/-- A bank stores some manifests, and no others, and no indexes but some. -/
structure Holds (t : AdapterBank) (ms : List (Sha256Digest × AdapterManifest))
    (is : List (Sha256Digest × AdapterIndexSnapshot)) : Prop extends Stores t ms where
  noMore : ∀ d m, t.manifests[d]? = some m → (d, m) ∈ ms
  indexes : ∀ d s, t.indexes[d]? = some s → (d, s) ∈ is

section

variable {t : AdapterBank} {ms : List (Sha256Digest × AdapterManifest)}
  {is : List (Sha256Digest × AdapterIndexSnapshot)}
  {d : Sha256Digest} {depth : Nat} {stack : List Sha256Digest}

lemma authenticate_stored (hroot : t.root = "/bank") {d : Sha256Digest} {m : AdapterManifest}
    (hstored : t.manifests[d]? = some m)
    (hdocument : Sha256Digest.digestBytes m.bytes = d ∧ m.bytes.size ≤ maxBankJsonBytes)
    {depth : Nat} {stack : List Sha256Digest} (hstack : d ∉ stack)
    (hcontract : validateManifestContract world t
      (authenticateManifestInner world t depth (d :: stack)) m = .ok ()) :
    authenticateManifestInner world t (depth + 1) stack ⟨home.manifestPath d, d⟩ = .ok m := by
  rw [authenticateManifestInner]
  simp only [bind_ok, failIf_ok, not_not, ne_eq, readVerifiedBounded_ok_iff', pure_ok]
  exact ⟨(), (file_eq hroot _ _).symm, (), hstack, m, ⟨hstored, hdocument.1, hdocument.2⟩, (),
    hcontract, rfl⟩

lemma authenticate_A (h : Stores t ms) (hmem : (digestA, manifestA) ∈ ms)
    (hstack : digestA ∉ stack) :
    authenticateManifestInner world t (depth + 1) stack referenceA = .ok manifestA :=
  authenticate_stored h.root (h.manifests _ hmem) document_A hstack
    (contract_import h.root rfl (by decide))

lemma authenticate_B (h : Stores t ms) (hmem : (digestB, manifestB) ∈ ms)
    (hstack : digestB ∉ stack) :
    authenticateManifestInner world t (depth + 1) stack referenceB = .ok manifestB :=
  authenticate_stored h.root (h.manifests _ hmem) document_B hstack
    (contract_import h.root rfl (by decide))

lemma contract_composed {parent : PrivateFileReference → BrainResult AdapterManifest}
    (hroot : t.root = "/bank") (hA : parent referenceA = .ok manifestA)
    (hB : parent referenceB = .ok manifestB) :
    validateManifestContract world t parent manifestC = .ok () := by
  have hpath : t.canonicalDeltaPath zero = home.canonicalDeltaPath zero := by
    unfold AdapterBank.canonicalDeltaPath
    rw [hroot]
    rfl
  obtain ⟨hone, hfirst, hsecond, hba⟩ := terms_ordered
  have htermA : checkTerm parent manifestC [] (term a referenceA) =
      .ok [(term a referenceA, delta)] := by
    unfold checkTerm
    simp only [bind_ok, failIf_ok, not_or, not_not, ne_eq, pure_ok]
    exact ⟨(), rfl, (), hone, (), ⟨rfl, List.not_mem_nil, hfirst⟩, manifestA, hA, (),
      ⟨rfl, rfl, rfl, rfl, rfl, rfl, rfl⟩, rfl⟩
  have htermB : checkTerm parent manifestC [(term a referenceA, delta)] (term b referenceB) =
      .ok [(term b referenceB, delta), (term a referenceA, delta)] := by
    unfold checkTerm
    simp only [bind_ok, failIf_ok, not_or, not_not, ne_eq, pure_ok]
    refine ⟨(), rfl, (), hone, (), ⟨rfl, ?_, hsecond⟩, manifestB, hB, (),
      ⟨rfl, rfl, rfl, rfl, rfl, rfl, rfl⟩, rfl⟩
    show b ∉ [a]
    rw [List.mem_singleton]
    exact hba
  have hsource : validateSource world parent manifestC "layout" = .ok () := by
    show (do
      failIf (exactCompositionArithmetic ≠ exactCompositionArithmetic ∨ false = true ∨
        false = true ∨ [term a referenceA, term b referenceB].length < 2 ∨
        [term a referenceA, term b referenceB].length > maxCompositionTerms)
        (invalid "adapter_manifest_composition_invalid")
      let done ← [term a referenceA, term b referenceB].foldlM (checkTerm parent manifestC) []
      let derived ← world.combineDvec (done.reverse.map fun d => (d.2, d.1.coefficient))
      failIf (derived ≠ manifestC.denseDelta)
        (integrity "adapter_manifest_composition_delta_mismatch")) = Except.ok ()
    simp only [bind_ok, failIf_ok, List.foldlM_cons, List.foldlM_nil, htermA, ok_bind,
      htermB, pure_ok, exists_eq_left', not_not, ne_eq]
    exact ⟨(), by decide, delta, rfl, rfl⟩
  unfold validateManifestContract
  simp only [bind_ok, failIf_ok, not_or, not_not, ne_eq]
  exact ⟨(), rfl, (), ⟨rfl, by decide, by decide, by decide, rfl, hpath.symm⟩, none, rfl, profile,
    rfl, (), ⟨rfl, rfl, rfl, rfl, rfl⟩, "layout", rfl, (), rfl, hsource⟩

lemma not_mem_composition : digestA ∉ [digestC] ∧ digestB ∉ [digestC] := by
  have hnodup := digests_distinct.1
  simp only [List.nodup_cons, List.mem_cons, List.not_mem_nil, or_false, not_or] at hnodup
  rw [List.mem_singleton, List.mem_singleton]
  exact ⟨fun h => hnodup.1.2 h.symm, fun h => hnodup.1.1 h.symm⟩

lemma authenticate_C (h : Stores t ms) (hA : (digestA, manifestA) ∈ ms)
    (hB : (digestB, manifestB) ∈ ms) (hC : (digestC, manifestC) ∈ ms) :
    authenticateManifestInner world t (depth + 2) [] referenceC = .ok manifestC :=
  authenticate_stored h.root (h.manifests _ hC) document_C List.not_mem_nil
    (contract_composed h.root (authenticate_A h hA not_mem_composition.1)
      (authenticate_B h hB not_mem_composition.2))

/-! ### The calls of the run. -/

def importRequest (adapter : AdapterVersion) (capability : CapabilityId) (lineage : LineageId)
    (expected : AdapterBankExpectation) : AdapterImportRequest where
  schema := "tidex.adapter_import_request/v1"
  adapter := adapter
  capabilityId := capability
  lineageId := lineage
  capabilityBundle := none
  receiverProfile := profileReference
  lora := provenance
  expected := expected

def compositionRequest : AdapterCompositionRequest where
  schema := "tidex.adapter_composition_request/v1"
  adapter := c
  capabilityId := capabilityC
  lineageId := lineageC
  capabilityBundle := none
  terms := [⟨a, one⟩, ⟨b, one⟩]
  expected := ⟨2, some digest2⟩

/-- A system that is reached, what its bank holds, and what the bank opens on. -/
structure At (sys : System) (ms : List (Sha256Digest × AdapterManifest))
    (is : List (Sha256Digest × AdapterIndexSnapshot)) (s : AdapterIndexSnapshot)
    (reference : Option PrivateFileReference) : Prop where
  reaches : Reaches "/bank" sys
  holds : Holds sys.bank ms is
  opens : current world sys.bank = .ok (s, reference)

variable {sys : System} {s : AdapterIndexSnapshot} {reference : Option PrivateFileReference}

lemma Holds.store (h : Holds t ms is) {m : AdapterManifest} {d : Sha256Digest}
    (hdocument : Sha256Digest.digestBytes m.bytes = d ∧ m.bytes.size ≤ maxBankJsonBytes)
    (hnew : ∀ other, (d, other) ∈ ms → other = m) (hcontract : validateManifestContract world t
      (authenticateManifestInner world t maxManifestDepth []) m = .ok ())
    (hlater : ∀ u : AdapterBank, Stores u ((d, m) :: ms) →
      validateManifestContract world u (authenticateManifestInner world u maxManifestDepth [d]) m =
        .ok ()) : ∃ u, Durable.Runs (persistManifest world m) t ⟨home.manifestPath d, d⟩ u ∧
      Holds u ((d, m) :: ms) is ∧ Quiet t u ∧ u.head = t.head := by
  have hdigest := hdocument.1
  subst hdigest
  have hstores : ∀ manifests, Within t.manifests manifests →
      manifests[Sha256Digest.digestBytes m.bytes]? = some m →
        Stores { t with manifests := manifests }
          ((Sha256Digest.digestBytes m.bytes, m) :: ms) := by
    intro manifests hwithin hstored
    refine ⟨h.root, ?_⟩
    intro p hp
    rcases List.mem_cons.mp hp with rfl | hp
    · exact hstored
    · exact hwithin _ _ (h.manifests p hp)
  have hpath : t.manifestPath (Sha256Digest.digestBytes m.bytes) =
      home.manifestPath (Sha256Digest.digestBytes m.bytes) := file_eq h.root _ _
  have hruns := persistManifest_runs hcontract
    (fun other hother => hnew other (h.noMore _ _ hother)) (by
      intro manifests hwithin hstored
      rw [hpath]
      have hnext := hstores manifests hwithin hstored
      exact authenticate_stored hnext.root hstored hdocument List.not_mem_nil (hlater _ hnext))
  obtain ⟨manifests, hwithin, hstored, honly, hruns⟩ := hruns
  rw [hpath] at hruns
  refine ⟨_, hruns, ⟨hstores manifests hwithin hstored, ?_, h.indexes⟩,
    quiet_manifests hwithin, rfl⟩
  intro digest other hother
  rcases honly digest other hother with hold | ⟨rfl, rfl⟩
  · exact List.mem_cons_of_mem _ (h.noMore _ _ hold)
  · exact List.mem_cons_self

lemma runs_prepareImport_sample {adapter : AdapterVersion} {capability : CapabilityId}
    {lineage : LineageId} {expected : AdapterBankExpectation} {d : PrivateFileReference}
    {u : AdapterBank} (hvalid : adapter.validate = .ok ()) (hlineage : lineage.isUnassigned = false)
    (h : Durable.Runs (persistManifest world
      (manifest adapter capability lineage (.importedPeftLora provenance blob blob))) t d u) :
    Durable.Runs (prepareImport world (importRequest adapter capability lineage expected)) t
      ⟨manifest adapter capability lineage (.importedPeftLora provenance blob blob), d, expected,
        false⟩ u := by
  unfold prepareImport
  simp only [Durable.runs_bind, Durable.runs_liftM, Durable.runs_pure, failIf_ok,
    not_or, not_not, ne_eq]
  exact ⟨(), t, ⟨⟨rfl, by simp [importRequest, hlineage]⟩, rfl⟩, (), t, ⟨hvalid, rfl⟩, none, t,
    ⟨rfl, rfl⟩, profile, t, ⟨rfl, rfl⟩, _, t, ⟨rfl, rfl⟩, d, u, h, rfl, rfl⟩

lemma At.prepareImport (h : At sys ms is s reference) {adapter : AdapterVersion}
    {capability : CapabilityId} {lineage : LineageId} {d : Sha256Digest}
    (expected : AdapterBankExpectation) (hdocument : Sha256Digest.digestBytes
        (manifest adapter capability lineage (.importedPeftLora provenance blob blob)).bytes = d ∧
      (manifest adapter capability lineage (.importedPeftLora provenance blob blob)).bytes.size ≤
        maxBankJsonBytes) (hnew : ∀ other, (d, other) ∈ ms →
      other = manifest adapter capability lineage (.importedPeftLora provenance blob blob))
    (hvalid : adapter.validate = .ok ()) (hlineage : lineage.isUnassigned = false) :
    ∃ u, At ⟨u, ⟨manifest adapter capability lineage (.importedPeftLora provenance blob blob),
        ⟨home.manifestPath d, d⟩, expected, false⟩ :: sys.pending⟩
      ((d, manifest adapter capability lineage (.importedPeftLora provenance blob blob)) :: ms) is s
        reference := by
  obtain ⟨u, hruns, hholds, hquiet, hhead⟩ := h.holds.store hdocument hnew
    (contract_import h.holds.root hvalid hlineage)
    (fun u hu => contract_import hu.root hvalid hlineage)
  refine ⟨u, ?_, hholds, current_of_quiet hquiet hhead _ h.opens⟩
  apply Reaches.prepares h.reaches world
    (.prepareImport (importRequest adapter capability lineage expected))
  · exact fun registration hcall => by cases hcall
  · unfold Call.run
    simp only [Durable.runs_bind, Durable.runs_pure]
    exact ⟨_, u, runs_prepareImport_sample hvalid hlineage hruns, rfl, rfl⟩

lemma At.register (h : At sys ms is s reference) {registration : Registration}
    (hpending : registration ∈ sys.pending)
    (hregistrable : Registrable world sys.bank s reference registration.manifest
      registration.reference registration.expected registration.composed)
    {next : AdapterIndexSnapshot} {d : Sha256Digest}
    (hnext : registered s reference registration.manifest registration.reference
      registration.composed = next)
    (hdocument : Sha256Digest.digestBytes (toVec next) = d ∧ (toVec next).size ≤ maxBankJsonBytes)
    (hnew : ∀ other, (d, other) ∈ is → other = next) :
    ∃ u, At ⟨u, sys.pending⟩ ms ((d, next) :: is) next (some (index d)) := by
  have hdigest := hdocument.1
  subst hnext hdigest
  obtain ⟨commit, u, hruns, hopens, happends, hindexes⟩ := register_runs h.opens hregistrable
    ⟨hdocument.2, fun other hother => hnew other (h.holds.indexes _ _ hother)⟩
  have hpath : indexReference sys.bank (registered s reference registration.manifest
      registration.reference registration.composed) = index (Sha256Digest.digestBytes (toVec
        (registered s reference registration.manifest registration.reference
          registration.composed))) := by
    unfold indexReference index
    congr 1
    exact file_eq h.holds.root _ _
  rw [hpath] at hopens
  refine ⟨u, ?_, ⟨⟨?_, ?_⟩, ?_, ?_⟩, hopens⟩
  · apply Reaches.stops h.reaches world (.register registration)
    · intro other hcall
      cases hcall
      exact hpending
    · apply Durable.Runs.mem_states (a := none)
      unfold Call.run
      simp only [Durable.runs_bind, Durable.runs_pure]
      exact ⟨commit, u, hruns, trivial, rfl⟩
  · rw [happends.root]
    exact h.holds.root
  · rw [happends.manifests]
    exact h.holds.manifests
  · rw [happends.manifests]
    exact h.holds.noMore
  · intro digest other hother
    rcases hindexes digest other hother with hold | ⟨rfl, rfl⟩
    · exact List.mem_cons_of_mem _ (h.holds.indexes _ _ hold)
    · exact List.mem_cons_self

lemma resolve_terms (h : Stores t ms) (hA : (digestA, manifestA) ∈ ms)
    (hB : (digestB, manifestB) ∈ ms) : resolveTerms world t index2 compositionRequest.terms =
      .ok [(term a referenceA, manifestA), (term b referenceB, manifestB)] := by
  obtain ⟨hone, -, hordered, hba⟩ := terms_ordered
  obtain ⟨hentryA, hentryB, hliveA, hliveB, hsameA, hsameB⟩ := terms_registered
  have hfirst : resolveTerm world t index2 [] ⟨a, one⟩ =
      .ok [(term a referenceA, manifestA)] := by
    unfold resolveTerm
    simp only [bind_ok, failIf_ok, okOr_ok, pure_ok, not_or]
    exact ⟨(), rfl, (), hone, (), ⟨List.not_mem_nil, hliveA⟩, _, hentryA, manifestA,
      authenticate_A h hA List.not_mem_nil, rfl⟩
  have hsecond : resolveTerm world t index2 [(term a referenceA, manifestA)] ⟨b, one⟩ =
      .ok [(term a referenceA, manifestA), (term b referenceB, manifestB)] := by
    unfold resolveTerm
    simp only [bind_ok, failIf_ok, okOr_ok, pure_ok, not_or]
    refine ⟨(), rfl, (), hone, (), ⟨?_, hliveB⟩, _, hentryB, manifestB,
      authenticate_B h hB List.not_mem_nil, rfl⟩
    show b ∉ [a]
    rw [List.mem_singleton]
    exact hba
  have hsorted : sortBy (fun d : AdapterCompositionTerm × AdapterManifest => d.1.manifest.sha256)
      [(term a referenceA, manifestA), (term b referenceB, manifestB)] =
        [(term a referenceA, manifestA), (term b referenceB, manifestB)] := by
    decide +kernel
  unfold resolveTerms
  show (do
    let done ← [⟨a, one⟩, ⟨b, one⟩].foldlM (resolveTerm world t index2) []
    _) = Except.ok _
  simp only [bind_ok, failIf_ok, List.foldlM_cons, List.foldlM_nil, hfirst, ok_bind,
    hsecond, pure_ok, exists_eq_left', hsorted, not_not]
  exact ⟨(), by decide +kernel, trivial⟩

lemma At.prepareComposition (h : At sys ms is index2 (some (index digest2)))
    (hA : (digestA, manifestA) ∈ ms) (hB : (digestB, manifestB) ∈ ms)
    (hnew : ∀ other, (digestC, other) ∈ ms → other = manifestC) :
    ∃ u, At ⟨u, ⟨manifestC, referenceC, ⟨2, some digest2⟩, true⟩ :: sys.pending⟩
      ((digestC, manifestC) :: ms) is index2 (some (index digest2)) := by
  have hparents : ∀ (u : AdapterBank) (stack : List Sha256Digest), Stores u ms →
      digestA ∉ stack → digestB ∉ stack → validateManifestContract world u
        (authenticateManifestInner world u maxManifestDepth stack) manifestC = .ok () := by
    intro u stack hu hnotA hnotB
    apply contract_composed hu.root
    · exact authenticate_A hu hA hnotA
    · exact authenticate_B hu hB hnotB
  obtain ⟨u, hruns, hholds, hquiet, hhead⟩ := h.holds.store document_C hnew
    (hparents _ _ h.holds.toStores List.not_mem_nil List.not_mem_nil) (by
      intro u hu
      apply hparents u [digestC] ⟨hu.root, fun p hp => hu.manifests p (List.mem_cons_of_mem _ hp)⟩
      · exact not_mem_composition.1
      · exact not_mem_composition.2)
  refine ⟨u, ?_, hholds, current_of_quiet hquiet hhead _ h.opens⟩
  apply Reaches.prepares h.reaches world (.prepareComposition compositionRequest)
  · exact fun registration hcall => by cases hcall
  · unfold Call.run Bank.prepareComposition
    simp only [Durable.runs_bind, Durable.runs_liftM, Durable.runs_read,
      Durable.runs_pure, failIf_ok, okOr_ok]
    exact ⟨_, u, ⟨(), sys.bank, ⟨by decide, rfl⟩, (), sys.bank, ⟨rfl, rfl⟩, none, sys.bank,
      ⟨rfl, rfl⟩, _, sys.bank, ⟨h.opens, rfl⟩, _, sys.bank,
      ⟨resolve_terms h.holds.toStores hA hB, rfl⟩, manifestA, sys.bank, ⟨rfl, rfl⟩, (), sys.bank,
      ⟨by decide +kernel, rfl⟩, profile, sys.bank, ⟨rfl, rfl⟩, delta, sys.bank, ⟨rfl, rfl⟩,
      referenceC, u, hruns, rfl, rfl⟩, rfl, rfl⟩

end

lemma at_home : At ⟨home, []⟩ [] [] emptySnapshot none := by
  refine ⟨Reaches.fresh, ⟨⟨rfl, ?_⟩, ?_, ?_⟩, rfl⟩
  · exact List.forall_mem_nil _
  · intro d m hm
    have hnone : home.manifests[d]? = none := Std.ExtTreeMap.getElem?_empty
    rw [hnone] at hm
    cases hm
  · intro d s hs
    have hnone : home.indexes[d]? = none := Std.ExtTreeMap.getElem?_empty
    rw [hnone] at hs
    cases hs

lemma distinct_of_capability {w : World} {entries : List AdapterIndexEntry}
    (h : ∀ e ∈ entries, e.capabilityId ≠ m.capabilityId) :
    entries.any (operationalDuplicate w t m) = false := by
  rw [List.any_eq_false]
  intro e he
  unfold operationalDuplicate
  rw [decide_eq_false (h e he)]
  exact Bool.false_ne_true

def manifests : List (Sha256Digest × AdapterManifest) :=
  [(digestC, manifestC), (digestB, manifestB), (digestA, manifestA)]

def indexes : List (Sha256Digest × AdapterIndexSnapshot) :=
  [(digest3, index3), (digest2, index2), (digest1, index1)]

lemma last_indexes : isDocument ((toJson index3).renderWith Json.quickText) digest3 = true ∧
    isDocument ((toJson index4).renderWith Json.quickText) digest4 = true := by
  decide +kernel

lemma document_3 : Sha256Digest.digestBytes (toVec index3) = digest3 ∧
    (toVec index3).size ≤ maxBankJsonBytes :=
  index_document last_indexes.1

lemma document_4 : Sha256Digest.digestBytes (toVec index4) = digest4 ∧
    (toVec index4).size ≤ maxBankJsonBytes :=
  index_document last_indexes.2

lemma at_index3 : ∃ sys, At sys manifests indexes index3 (some (index digest3)) := by
  obtain ⟨hmanifests, hindexes⟩ := digests_distinct
  simp only [List.nodup_cons, List.mem_cons, List.not_mem_nil, or_false, not_or]
    at hmanifests hindexes
  obtain ⟨⟨hcb, hca⟩, hba, -⟩ := hmanifests
  obtain ⟨-, ⟨h32, h31⟩, h21, -⟩ := hindexes
  obtain ⟨hadmitB, hadmitC⟩ := admissible_run
  -- both imports are prepared, and then registered one after the other
  obtain ⟨u, hu⟩ := at_home.prepareImport ⟨0, none⟩ document_A (by simp) rfl (by decide)
  obtain ⟨v, hv⟩ := hu.prepareImport ⟨1, some digest1⟩ document_B (by simp [hba]) rfl (by decide)
  have hfirst : Registrable world v emptySnapshot none manifestA referenceA ⟨0, none⟩ false := by
    constructor
    · rfl
    · rfl
    · rfl
    · exact List.forall_mem_nil _
    · rfl
    · exact authenticate_A hv.holds.toStores (by simp [manifestA]) List.not_mem_nil
    · rfl
    · exact List.forall_mem_nil _
    · decide
  obtain ⟨x, hx⟩ := hv.register (List.mem_cons_of_mem _ List.mem_cons_self) hfirst rfl document_1
    (by simp)
  have hsecond : Registrable world x index1 (some (index digest1)) manifestB referenceB
      ⟨1, some digest1⟩ false := by
    constructor
    · exact hadmitB.fresh
    · exact hadmitB.expected
    · exact hadmitB.generation
    · exact hadmitB.lineage
    · exact distinct_of_capability hadmitB.distinct
    · exact authenticate_B hx.holds.toStores (by simp [manifestB]) List.not_mem_nil
    · rfl
    · exact hadmitB.live
    · exact hadmitB.limit
  obtain ⟨y, hy⟩ := hx.register List.mem_cons_self hsecond rfl document_2 (by simp [h21])
  -- the composition is prepared on what is registered
  obtain ⟨z, hz⟩ := hy.prepareComposition (by simp [manifestA]) (by simp [manifestB])
    (by simp [hcb, hca])
  have hthird : Registrable world z index2 (some (index digest2)) manifestC referenceC
      ⟨2, some digest2⟩ true := by
    constructor
    · exact hadmitC.fresh
    · exact hadmitC.expected
    · exact hadmitC.generation
    · exact hadmitC.lineage
    · exact distinct_of_capability hadmitC.distinct
    · exact authenticate_C hz.holds.toStores (by simp [manifestA]) (by simp [manifestB]) (by simp)
    · rfl
    · exact hadmitC.live
    · exact hadmitC.limit
  obtain ⟨_, hlast⟩ := hz.register List.mem_cons_self hthird rfl document_3
    (by simp [h32, h31])
  exact ⟨_, hlast⟩

section

variable {t : AdapterBank} {is : List (Sha256Digest × AdapterIndexSnapshot)}
  {s : AdapterIndexSnapshot}

lemma dependsOn_c (h : Holds t manifests is) {version : AdapterVersion}
    (hdepends : DependsOn t s c version) : version = c := by
  have hnone : ∀ p ∈ manifests, c ∉ compositionDependencies p.2 := by decide
  rcases Relation.ReflTransGen.cases_head hdepends with hsame | ⟨next, hcomposed, -⟩
  · exact hsame.symm
  · obtain ⟨e, -, -, m, hm, hbase⟩ := hcomposed
    exact absurd hbase (hnone _ (h.noMore _ _ hm))

lemma dependsOn_a (h : Stores t manifests) (hs : s.entries = index3.entries) :
    DependsOn t s a c := by
  apply Relation.ReflTransGen.single
  refine ⟨entryFromManifest manifestC referenceC, ?_, rfl, manifestC, ?_, ?_⟩
  · rw [hs]
    exact composition_revoked.1
  · exact h.manifests (digestC, manifestC) (by simp [manifests])
  · exact composition_revoked.2.1

lemma affectedBy_c (h : Holds t manifests is) :
    affectedBy (storedManifests t s) c = (∅ : BTreeSet AdapterVersion).insert c := by
  apply Std.ExtTreeSet.ext_mem
  intro version
  rw [mem_affectedBy, BTreeSet.mem_insert_iff]
  constructor
  · intro hdepends
    exact .inl (dependsOn_c h hdepends)
  · intro hmem
    rcases hmem with rfl | hmem
    · exact Relation.ReflTransGen.refl
    · exact absurd hmem Std.ExtTreeSet.not_mem_empty

lemma revocationIndex_c (h : Holds t manifests is) :
    revocationIndex t index3 (some (index digest3)) (request c ⟨3, some digest3⟩) = index4 := by
  unfold revocationIndex
  show revoked index3 _ _ (affectedBy (storedManifests t index3) c) (addedRevocations index3 _
    (affectedBy (storedManifests t index3) c)) = _
  rw [affectedBy_c h]
  rfl

end

lemma fits_c (h : Holds t manifests indexes) : Bank.Fits t
      (revocationIndex t index3 (some (index digest3)) (request c ⟨3, some digest3⟩)) := by
  have hnew := digests_distinct.2
  simp only [List.nodup_cons, List.mem_cons, List.not_mem_nil, or_false, not_or] at hnew
  rw [revocationIndex_c h]
  refine ⟨document_4.2, ?_⟩
  rw [document_4.1]
  intro other hother
  have hmem := h.indexes _ _ hother
  simp [indexes, hnew.1] at hmem

/-- **The composition is revoked**: nothing depends on it. -/
theorem revoke_composition : ∃ sys, Reaches "/bank" sys ∧
    RevokesAll world sys.bank index3 (request c ⟨3, some digest3⟩) := by
  obtain ⟨sys, h⟩ := at_index3
  refine ⟨sys, h.reaches, ?_⟩
  apply (revoke_iff h.opens requested_c).mpr
  refine ⟨?_, fits_c h.holds⟩
  intro version hdepends
  rw [dependsOn_c h.holds hdepends]
  exact composition_revoked.2.2.1

lemma at_index4 : ∃ sys, Reaches "/bank" sys ∧ Stores sys.bank manifests ∧
    current world sys.bank = .ok (index4, some (index digest4)) := by
  obtain ⟨sys, h⟩ := at_index3
  have hlive : ∀ version, DependsOn sys.bank index3 c version → ¬Revoked index3 version := by
    intro version hdepends
    rw [dependsOn_c h.holds hdepends]
    exact composition_revoked.2.2.1
  obtain ⟨commit, t, hruns, -, -, -, happends, -⟩ :=
    revoke_runs h.opens requested_c hlive (fits_c h.holds)
  have hopens := current_of_appends happends h.opens
  have hpath : indexReference sys.bank index4 = index digest4 := by
    unfold indexReference index
    rw [document_4.1]
    congr 1
    exact file_eq h.holds.root _ _
  rw [revocationIndex_c h.holds, hpath] at hopens
  refine ⟨⟨t, sys.pending⟩, ?_, ⟨?_, ?_⟩, hopens⟩
  · apply Reaches.stops h.reaches world (.revoke (request c ⟨3, some digest3⟩))
    · exact fun registration hcall => by cases hcall
    · apply Durable.Runs.mem_states (a := none)
      unfold Call.run
      simp only [Durable.runs_bind, Durable.runs_pure]
      exact ⟨commit, t, hruns, trivial, rfl⟩
  · rw [happends.root]
    exact h.holds.root
  · rw [happends.manifests]
    exact h.holds.manifests

/-- **What the composition is made from can no longer be revoked.** -/
theorem revoke_stuck : ∃ sys, Reaches "/bank" sys ∧
    current world sys.bank = .ok (index4, some (index digest4)) ∧
    Requested world index4 (some (index digest4)) (request a ⟨4, some digest4⟩) ∧
    ¬RevokesAll world sys.bank index4 (request a ⟨4, some digest4⟩) := by
  obtain ⟨sys, hreaches, hstores, hopens⟩ := at_index4
  refine ⟨sys, hreaches, hopens, requested_a, ?_⟩
  intro hrevokes
  have hlive := (hrevokes.condition hopens requested_a).1 c (dependsOn_a hstores rfl)
  exact hlive composition_revoked.2.2.2

end Tidex.RevocationSample
