/-
  Governance.BankSnapshot — what an accepted snapshot and step promise.
-/
import Tidex.Governance.AdapterOperations

namespace Tidex.Bank

open Tidex.Lib List Sha256Digest

variable [Platform] [FractionText] {w : World} {bank : AdapterBank}

/-! ## Files -/

section

variable {K α : Type} [Ord K] [Std.TransOrd K] {bytes : α → ByteArray}
  {files : BTreeMap Sha256Digest α} {a : α}

section

omit [FractionText]

lemma readVerified_ok {digest : Sha256Digest} : readVerified bytes files digest = .ok a ↔
      files[digest]? = some a ∧ digestBytes (bytes a) = digest := by
  unfold readVerified
  simp only [bind_ok, failIf_ok, okOr_ok, pure_ok, not_not, ne_eq]
  constructor
  · intro h
    obtain ⟨b, hfile, -, hdigest, rfl⟩ := h
    exact ⟨hfile, hdigest⟩
  · intro h
    exact ⟨a, h.1, (), h.2, rfl⟩

lemma readVerifiedBounded_ok_iff' {digest : Sha256Digest} :
    readVerifiedBounded bytes files digest = .ok a ↔
      files[digest]? = some a ∧ digestBytes (bytes a) = digest ∧
        (bytes a).size ≤ maxBankJsonBytes := by
  unfold readVerifiedBounded
  simp only [bind_ok, failIf_ok, readVerified_ok, pure_ok, not_lt, gt_iff_lt]
  constructor
  · intro h
    obtain ⟨b, ⟨hfile, hdigest⟩, -, hsize, rfl⟩ := h
    exact ⟨hfile, hdigest, hsize⟩
  · intro h
    exact ⟨a, ⟨h.1, h.2.1⟩, (), h.2.2, rfl⟩

lemma writeOrVerify_ok {files files' : BTreeMap K α} {k : K}
    (h : writeOrVerify bytes files k a = .ok files') :
    (files[k]? = none ∧ files' = files.insert k a) ∨ (files' = files ∧ ∃ b, files[k]? = some b ∧
        digestBytes (bytes b) = digestBytes (bytes a)) := by
  unfold writeOrVerify at h
  cases hfile : files[k]? with
  | none =>
    rw [hfile] at h
    cases h
    exact .inl ⟨rfl, rfl⟩
  | some existing =>
    rw [hfile] at h
    simp only [bind_ok, failIf_ok, pure_ok, not_not, ne_eq] at h
    obtain ⟨-, hdigest, rfl⟩ := h
    exact .inr ⟨rfl, existing, rfl, hdigest⟩

end

def Within (files files' : BTreeMap K α) : Prop :=
  ∀ (k : K) (a : α), files[k]? = some a → files'[k]? = some a

omit [Platform] [FractionText] in
lemma Within.refl (files : BTreeMap K α) : Within files files := fun _ _ h => h

omit [FractionText] in
lemma within_of_writeOrVerify [Std.LawfulEqOrd K] [DecidableEq K] {files files' : BTreeMap K α}
    {k : K} (h : writeOrVerify bytes files k a = .ok files') : Within files files' := by
  rcases writeOrVerify_ok h with ⟨hnew, rfl⟩ | ⟨rfl, -⟩
  · intro k' b hb
    rw [BTreeMap.getElem?_insert_iff]
    by_cases hk : k = k'
    · rw [hk, hb] at hnew
      cases hnew
    · rw [if_neg hk]
      exact hb
  · exact Within.refl files'

end

/-! ## Manifests -/

variable {reference : PrivateFileReference}

lemma authenticateManifestInner_stored {depth : Nat} {stack : List Sha256Digest}
    {m : AdapterManifest} (h : authenticateManifestInner w bank depth stack reference = .ok m) :
    bank.manifests[reference.sha256]? = some m := by
  cases depth with
  | zero => cases h
  | succ depth =>
    rw [authenticateManifestInner] at h
    simp only [bind_ok, pure_ok, readVerifiedBounded_ok_iff'] at h
    obtain ⟨-, -, -, -, stored, ⟨hfile, -, -⟩, -, -, rfl⟩ := h
    exact hfile

lemma authenticateManifest_stored {m : AdapterManifest}
    (h : authenticateManifest w bank reference = .ok m) :
    bank.manifests[reference.sha256]? = some m :=
  authenticateManifestInner_stored h

/-! ## What a snapshot promises -/

/-- Whatever the world answers, a snapshot that was accepted keeps this. -/
structure Coherent (bank : AdapterBank) (s : AdapterIndexSnapshot) : Prop where
  ordered : s.entries.Pairwise fun a b => compare a.adapter b.adapter = .lt
  lineages : (s.entries.map fun e => (e.lineageId, e.adapter.generation)).Nodup
  stored : ∀ e ∈ s.entries, ∃ m, bank.manifests[e.manifest.sha256]? = some m ∧
    e = entryFromManifest m e.manifest
  closed : ∀ e ∈ s.entries, ∀ m, bank.manifests[e.manifest.sha256]? = some m →
    ∀ version ∈ compositionDependencies m, Revoked s version → Revoked s e.adapter
  slots : s.active.Pairwise fun a b => compare a.slot b.slot = .lt
  active : ∀ selection ∈ s.active, ¬Revoked s selection.adapter ∧
    ∃ e ∈ s.entries, e.adapter = selection.adapter ∧ e.manifest = selection.manifest

omit [Platform] [FractionText] in
lemma not_unordered {K : Type} [Ord K] [Std.TransOrd K] {prior : Option K} {next : K} :
    ¬Unordered prior next ↔ ∀ p, prior = some p → compare p next = .lt := by
  unfold Unordered
  constructor
  · intro h p hp
    rw [← Std.OrientedCmp.gt_iff_lt]
    cases hcompare : compare next p with
    | lt => exact absurd ⟨p, hp, by rw [hcompare]; rfl⟩ h
    | eq => exact absurd ⟨p, hp, by rw [hcompare]; rfl⟩ h
    | gt => rfl
  · intro h hbad
    obtain ⟨p, hp, hle⟩ := hbad
    have hlt := h p hp
    rw [← Std.OrientedCmp.gt_iff_lt] at hlt
    rw [hlt] at hle
    cases hle

variable {α K : Type}

omit [Platform] [FractionText] in
lemma pairwise_cons_of_not_unordered [Ord K] [Std.TransOrd K] {key : α → K} {done : List α}
    {a : α} (hdone : done.Pairwise fun x y => compare (key y) (key x) = .lt)
    (h : ¬Unordered (done.head?.map key) (key a)) :
    (a :: done).Pairwise fun x y => compare (key y) (key x) = .lt := by
  rw [pairwise_cons]
  refine ⟨?_, hdone⟩
  intro b hb
  cases done with
  | nil => cases hb
  | cons first done =>
    have hfirst := not_unordered.mp h (key first) rfl
    rcases mem_cons.mp hb with rfl | hb
    · exact hfirst
    · exact Std.TransCmp.lt_trans ((pairwise_cons.mp hdone).1 b hb) hfirst

/-- What the loop over the entries knows of those it has done, the latest first. -/
structure EntriesDone (bank : AdapterBank) (xs : List AdapterIndexEntry)
    (done : List (AdapterIndexEntry × AdapterManifest)) : Prop where
  entries : done.map Prod.fst = xs.reverse
  descending : done.Pairwise fun a b => compare b.1.adapter a.1.adapter = .lt
  lineages : (done.map fun d => (d.1.lineageId, d.1.adapter.generation)).Nodup
  stored : ∀ d ∈ done, bank.manifests[d.1.manifest.sha256]? = some d.2 ∧
    d.1 = entryFromManifest d.2 d.1.manifest

lemma entriesDone_of_fold {xs : List AdapterIndexEntry}
    {done : List (AdapterIndexEntry × AdapterManifest)}
    (h : xs.foldlM (checkEntry w bank) [] = .ok done) : EntriesDone bank xs done := by
  refine foldlM_ok_prefix_induction (fun seen done => EntriesDone bank seen done) ?_ ?_ h
  · exact ⟨rfl, Pairwise.nil, nodup_nil, forall_mem_nil _⟩
  · intro seen e done done' hdone hstep
    unfold checkEntry at hstep
    simp only [bind_ok, failIf_ok, pure_ok, not_or, not_not, ne_eq] at hstep
    obtain ⟨-, -, -, ⟨horder, hlineage⟩, m, hm, -, hbinding, rfl⟩ := hstep
    constructor
    · simp [hdone.entries]
    · exact pairwise_cons_of_not_unordered hdone.descending horder
    · rw [map_cons, nodup_cons]
      exact ⟨hlineage, hdone.lineages⟩
    · refine forall_mem_cons.mpr ⟨?_, hdone.stored⟩
      refine ⟨authenticateManifest_stored hm, ?_⟩
      obtain ⟨hadapter, hcapability, hline, hmodel, hlayout⟩ := hbinding
      unfold entryFromManifest
      rw [← hadapter, ← hcapability, ← hline, ← hmodel, ← hlayout]

lemma slots_of_fold {s : AdapterIndexSnapshot}
    {manifests : List (AdapterIndexEntry × AdapterManifest)} {xs : List ActiveAdapterSelection}
    {last : Option AdapterActivationSlot}
    (h : xs.foldlM (checkSelection w bank s manifests) none = .ok last) :
    xs.Pairwise (fun a b => compare a.slot b.slot = .lt) ∧
      ∀ selection ∈ xs, ¬Revoked s selection.adapter ∧
        ∃ d ∈ manifests, d.1.adapter = selection.adapter ∧ d.1.manifest = selection.manifest := by
  have hgeneral : last = xs.getLast?.map ActiveAdapterSelection.slot ∧
      xs.Pairwise (fun a b => compare a.slot b.slot = .lt) ∧
      ∀ selection ∈ xs, ¬Revoked s selection.adapter ∧
        ∃ d ∈ manifests, d.1.adapter = selection.adapter ∧
          d.1.manifest = selection.manifest := by
    refine foldlM_ok_prefix_induction (fun seen last =>
      last = seen.getLast?.map ActiveAdapterSelection.slot ∧
        seen.Pairwise (fun a b => compare a.slot b.slot = .lt) ∧
        ∀ selection ∈ seen, ¬Revoked s selection.adapter ∧
          ∃ d ∈ manifests, d.1.adapter = selection.adapter ∧
            d.1.manifest = selection.manifest) ?_ ?_ h
    · exact ⟨rfl, Pairwise.nil, forall_mem_nil _⟩
    · intro seen selection prior prior' hseen hstep
      obtain ⟨hprior, hslots, hfacts⟩ := hseen
      unfold checkSelection at hstep
      simp only [bind_ok, failIf_ok, okOr_ok, pure_ok, not_or, not_not, ne_eq]
        at hstep
      obtain ⟨-, ⟨-, -, horder, hlive, -⟩, ⟨entry, m⟩, hfind, -, hbinding, -, -, -, -, rfl⟩ := hstep
      refine ⟨?_, ?_, ?_⟩
      · rw [getLast?_concat]
        rfl
      · refine pairwise_concat hslots ?_
        intro a ha
        -- the slot is above the last one, which is above the others
        obtain ⟨cut, c, rfl⟩ : ∃ cut c, seen = cut ++ [c] := by
          rcases eq_nil_or_concat seen with rfl | ⟨cut, c, hcut⟩
          · cases ha
          · exact ⟨cut, c, by rw [hcut, concat_eq_append]⟩
        rw [getLast?_concat] at hprior
        have hlast := not_unordered.mp horder c.slot hprior
        rcases mem_append.mp ha with ha | ha
        · exact Std.TransCmp.lt_trans
            ((pairwise_append.mp hslots).2.2 a ha c (mem_singleton.mpr rfl)) hlast
        · rw [mem_singleton.mp ha]
          exact hlast
      · refine forall_mem_concat hfacts ?_
        have hadapter := find?_some hfind
        exact ⟨hlive, (entry, m), mem_of_find?_eq_some hfind, of_decide_eq_true hadapter,
          hbinding.2.2.2.2.2.symm⟩
  exact hgeneral.2

lemma coherent_of_contract {s : AdapterIndexSnapshot}
    (h : validateSnapshotContract w bank s = .ok ()) : Coherent bank s := by
  unfold validateSnapshotContract at h
  rw [bind_ok] at h
  obtain ⟨-, -, h⟩ := h
  by_cases hrevision : s.revision = 0
  · -- a bank that has no revision has nothing else either
    rw [if_pos hrevision, failIf_ok, not_not] at h
    rw [h]
    constructor
    · exact Pairwise.nil
    · exact nodup_nil
    · exact forall_mem_nil _
    · exact forall_mem_nil _
    · exact Pairwise.nil
    · exact forall_mem_nil _
  · rw [if_neg hrevision] at h
    simp only [bind_ok, failIf_ok, forM_ok, not_not, ne_eq] at h
    obtain ⟨-, -, done, hentries, -, -, -, -, -, hclosed, last, hactive, -⟩ := h
    have hdone := entriesDone_of_fold hentries
    obtain ⟨hslots, hselections⟩ := slots_of_fold hactive
    have hreverse : s.entries = done.reverse.map Prod.fst := by
      rw [map_reverse, hdone.entries, reverse_reverse]
    have hmem : ∀ e ∈ s.entries, ∃ m, (e, m) ∈ done := by
      intro e he
      rw [hreverse] at he
      obtain ⟨d, hd, rfl⟩ := mem_map.mp he
      exact ⟨d.2, mem_reverse.mp hd⟩
    constructor
    · rw [hreverse, pairwise_map, pairwise_reverse]
      exact hdone.descending
    · rw [hreverse, map_map, ← map_reverse.symm, nodup_reverse]
      exact hdone.lineages
    · intro e he
      obtain ⟨m, hd⟩ := hmem e he
      exact ⟨m, hdone.stored (e, m) hd⟩
    · intro e he m hm version hversion hrevoked
      obtain ⟨m', hd⟩ := hmem e he
      have hsame : m' = m := by
        have hfile := (hdone.stored (e, m') hd).1
        rw [hm] at hfile
        exact (Option.some.inj hfile).symm
      subst hsame
      by_contra hlive
      exact hclosed (e, m') (mem_reverse.mpr hd) ⟨⟨version, hversion, hrevoked⟩, hlive⟩
    · exact hslots
    · intro selection hselection
      obtain ⟨hlive, d, hd, hadapter, hmanifest⟩ := hselections selection hselection
      refine ⟨hlive, d.1, ?_, hadapter, hmanifest⟩
      rw [hreverse]
      exact mem_map_of_mem (mem_reverse.mpr hd)

/-! ## What a step promises -/

section

omit [Platform] [FractionText]

lemma sortBy_perm [Ord K] (key : α → K) (xs : List α) : (sortBy key xs).Perm xs :=
  perm_insertionSort _ xs

@[simp] lemma mem_sortBy [Ord K] {key : α → K} {xs : List α} {a : α} :
    a ∈ sortBy key xs ↔ a ∈ xs :=
  (sortBy_perm key xs).mem_iff

end

/-- A snapshot keeps what the one before it has, and registers at most one adapter. -/
structure Extends (parent child : AdapterIndexSnapshot) : Prop where
  entries : ∀ e ∈ parent.entries, e ∈ child.entries
  revocations : ∀ r ∈ parent.revocations, r ∈ child.revocations
  fresh : ∀ e ∈ child.entries, e ∈ parent.entries ∨ child.operation = .register e.manifest ∨
    child.operation = .compose e.manifest
  permitted : ∀ selection ∈ child.active, selection ∈ parent.active ∨
    child.operation.permit = some selection.authorization

variable {parent child : AdapterIndexSnapshot}

section

omit [Platform] [FractionText]

lemma extends_of_same {parent child : AdapterIndexSnapshot}
    (hentries : child.entries = parent.entries)
    (hrevocations : ∀ r ∈ parent.revocations, r ∈ child.revocations)
    (hactive : ∀ selection ∈ child.active, selection ∈ parent.active ∨
      child.operation.permit = some selection.authorization) : Extends parent child := by
  constructor
  · intro e he
    rw [hentries]
    exact he
  · exact hrevocations
  · intro e he
    left
    rwa [hentries] at he
  · exact hactive

lemma mem_setSlot {active : List ActiveAdapterSelection} {slot : AdapterActivationSlot}
    {selection other : ActiveAdapterSelection} (h : other ∈ setSlot active slot selection) :
    other ∈ active ∨ other = selection := by
  unfold setSlot at h
  rw [mem_sortBy, mem_append, mem_singleton] at h
  rcases h with h | h
  · exact .inl (mem_of_mem_filter h)
  · exact .inr h

end

lemma extends_of_registration {composed : Bool} {manifest : PrivateFileReference}
    (hoperation : child.operation = .register manifest ∨ child.operation = .compose manifest)
    (h : checkRegistration w bank composed manifest parent child = .ok ()) :
    Extends parent child := by
  unfold checkRegistration at h
  simp only [bind_ok, failIf_ok, not_or, not_not, ne_eq] at h
  obtain ⟨-, ⟨hactive, hrevocations⟩, m, -, -, -, hentries⟩ := h
  constructor
  · intro e he
    rw [hentries, mem_sortBy]
    exact mem_append_left _ he
  · intro r hr
    rw [hrevocations]
    exact hr
  · intro e he
    rw [hentries, mem_sortBy, mem_append, mem_singleton] at he
    rcases he with he | rfl
    · exact .inl he
    · exact .inr hoperation
  · intro selection hselection
    left
    rwa [hactive] at hselection

/-- A step that passes its check keeps the registry and the revocations. -/
lemma extends_of_transition {reference : Option PrivateFileReference}
    (h : validateSnapshotTransition w bank reference parent child = .ok ()) :
    child.revision = parent.revision + 1 ∧ child.parent = reference ∧ Extends parent child := by
  unfold validateSnapshotTransition at h
  simp only [bind_ok, failIf_ok, not_or, not_not, ne_eq] at h
  obtain ⟨-, ⟨hrevision, hparent⟩, h⟩ := h
  refine ⟨hrevision, hparent, ?_⟩
  cases hoperation : child.operation with
  | empty =>
    rw [hoperation] at h
    cases h
  | register manifest =>
    rw [hoperation] at h
    exact extends_of_registration (.inl hoperation) h
  | compose manifest =>
    rw [hoperation] at h
    exact extends_of_registration (.inr hoperation) h
  | activate adapter authorization =>
    rw [hoperation] at h
    unfold checkActivation at h
    simp only [bind_ok, failIf_ok, okOr_ok, not_or, not_not, ne_eq] at h
    obtain ⟨-, ⟨hentries, hrevocations⟩, entry, -, m, -, selection, -, -, ⟨-, hpermit, -⟩, hactive⟩ := h
    apply extends_of_same hentries
    · rw [hrevocations]
      exact fun r hr => hr
    · intro other hother
      rw [hactive] at hother
      rcases mem_setSlot hother with hold | rfl
      · exact .inl hold
      · right
        rw [hoperation, ← hpermit]
        rfl
  | revoke root affected =>
    rw [hoperation] at h
    unfold checkRevoke at h
    simp only [bind_ok, failIf_ok, not_or, not_exists, not_and, not_not, ne_eq] at h
    obtain ⟨-, ⟨hentries, -⟩, -, hkept, -, -, hactive⟩ := h
    apply extends_of_same hentries hkept
    intro other hother
    rw [hactive] at hother
    exact .inl (mem_of_mem_filter hother)
  | rollback slot targetRevision source target authorization reason evidence =>
    rw [hoperation] at h
    unfold checkRollback at h
    simp only [bind_ok, failIf_ok, not_or, not_not, ne_eq] at h
    obtain ⟨-, ⟨hentries, hrevocations, -⟩, -, -, targetCommit, -, earlier, -, -, -, h⟩ := h
    apply extends_of_same hentries
    · rw [hrevocations]
      exact fun r hr => hr
    · intro other hother
      cases target with
      | none =>
        simp only [bind_ok, failIf_ok, not_not] at h
        obtain ⟨-, -, hactive⟩ := h
        rw [hactive] at hother
        exact .inl (mem_of_mem_filter hother)
      | some adapter =>
        simp only [bind_ok, failIf_ok, okOr_ok, not_or, not_not] at h
        obtain ⟨permit, hauthorization, selection, -, -, ⟨-, hpermit, -⟩, hactive⟩ := h
        rw [hactive] at hother
        rcases mem_setSlot hother with hold | rfl
        · exact .inl hold
        · right
          rw [hoperation, hpermit, ← hauthorization]
          rfl

end Tidex.Bank
