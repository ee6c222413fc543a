/-
  Governance.SnapshotChecks — what the loops of a snapshot accept.
-/
import Tidex.Governance.BankSnapshot

namespace Tidex.Bank

open Tidex.Lib List Option

variable [Platform] [FractionText] {w : World} {bank : AdapterBank}

omit [Platform] [FractionText] in
lemma ascending_sortBy {α K : Type} [Ord K] [Std.TransOrd K] [Std.LawfulEqOrd K] {key : α → K}
    {xs : List α} (h : (xs.map key).Nodup) : Ascending key (sortBy key xs) := by
  unfold sortBy
  exact ascending_insertionSort h

/-! ## Entries -/

/-- An entry that stands by itself: it is the one of a manifest that authenticates. -/
structure EntryOk (w : World) (bank : AdapterBank) (e : AdapterIndexEntry) : Prop where
  valid : e.adapter.validate = .ok ()
  manifest : ∃ m, authenticateManifest w bank e.manifest = .ok m ∧
    e = entryFromManifest m e.manifest

variable {e : AdapterIndexEntry}

omit [Platform] [FractionText] in
lemma entryFromManifest_iff {m : AdapterManifest} :
    e = entryFromManifest m e.manifest ↔ e.adapter = m.adapter ∧
      e.capabilityId = m.capabilityId ∧ e.lineageId = m.lineageId ∧
      e.receiverModel = m.receiverModel ∧
      e.parameterLayoutSha256 = m.parameterLayout.parameterLayoutSha256 := by
  obtain ⟨adapter, capabilityId, lineageId, receiverModel, layout, manifest⟩ := e
  unfold entryFromManifest
  simp only [AdapterIndexEntry.mk.injEq, and_true]

variable {s : AdapterIndexSnapshot}

section

omit [Platform] [FractionText]

lemma findEntry_isSome_iff {version : AdapterVersion} :
    findEntry s version ≠ none ↔ ∃ e ∈ s.entries, e.adapter = version := by
  unfold findEntry
  rw [← isSome_iff_ne_none, find?_isSome]
  simp

lemma mem_of_findEntry {version : AdapterVersion} (h : findEntry s version = some e) :
    e ∈ s.entries ∧ e.adapter = version := by
  unfold findEntry at h
  have htest := find?_some h
  exact ⟨mem_of_find?_eq_some h, of_decide_eq_true htest⟩

lemma findEntry_of_mem (hascending : Ascending AdapterIndexEntry.adapter s.entries)
    (he : e ∈ s.entries) : findEntry s e.adapter = some e :=
  find?_key (nodup_of_ascending hascending) he

end

lemma entries_of_fold {xs : List AdapterIndexEntry}
    {done : List (AdapterIndexEntry × AdapterManifest)}
    (h : xs.foldlM (checkEntry w bank) [] = .ok done) : ∀ e ∈ xs, EntryOk w bank e := by
  refine foldlM_ok_prefix_induction (fun seen _ => ∀ e ∈ seen, EntryOk w bank e) ?_ ?_ h
  · exact forall_mem_nil _
  · intro seen e done done' hseen hstep
    unfold checkEntry at hstep
    simp only [bind_ok, failIf_ok, not_or, not_not, ne_eq] at hstep
    obtain ⟨_, hvalid, _, -, m, hm, _, hbinding, -⟩ := hstep
    exact forall_mem_concat hseen ⟨hvalid, m, hm, entryFromManifest_iff.mpr hbinding⟩

/-- The loop accepts entries that ascend, have lineages of their own and stand by
    themselves. -/
lemma entries_fold_ok {xs : List AdapterIndexEntry}
    (hascending : Ascending AdapterIndexEntry.adapter xs)
    (hlineages : (xs.map fun e => (e.lineageId, e.adapter.generation)).Nodup)
    (hall : ∀ e ∈ xs, EntryOk w bank e) : ∃ done, xs.foldlM (checkEntry w bank) [] = .ok done := by
  have hgeneral : ∃ done, xs.foldlM (checkEntry w bank) [] = .ok done ∧
      done.map Prod.fst = xs.reverse := by
    refine foldlM_ok_of_prefix (fun seen (done : List (AdapterIndexEntry × AdapterManifest)) =>
      done.map Prod.fst = seen.reverse) rfl ?_
    intro seen e done hpre hdone
    have he : e ∈ xs := hpre.subset (by simp)
    obtain ⟨hvalid, m, hm, hentry⟩ := hall e he
    have habove := (ascending_concat.mp (hascending.sublist hpre.sublist)).2
    refine ⟨(e, m) :: done, ?_, ?_⟩
    · unfold checkEntry
      simp only [bind_ok, failIf_ok, pure_ok, not_or, not_not, ne_eq]
      refine ⟨(), hvalid, (), ⟨?_, ?_⟩, m, hm, (), entryFromManifest_iff.mp hentry, rfl⟩
      · rw [not_unordered]
        intro p hp
        have hfirst : done.head?.map (fun d => d.1.adapter) =
            (done.map Prod.fst).head?.map AdapterIndexEntry.adapter := by
          rw [head?_map, Option.map_map]
          rfl
        rw [hfirst, hdone, head?_reverse] at hp
        obtain ⟨b, hb, rfl⟩ := map_eq_some_iff.mp hp
        exact habove b hb
      · -- the lineage is not one of those before
        have hnodup := (hpre.sublist.map _).nodup hlineages
        rw [map_append, nodup_append'] at hnodup
        intro hmem
        refine hnodup.2.2 ?_ (mem_singleton.mpr rfl)
        have hsame : done.map (fun d => (d.1.lineageId, d.1.adapter.generation)) =
            (done.map Prod.fst).map fun e => (e.lineageId, e.adapter.generation) := by
          rw [List.map_map]
          rfl
        rw [hsame, hdone, map_reverse, mem_reverse] at hmem
        exact hmem
    · rw [map_cons, hdone, reverse_append]
      rfl
  obtain ⟨done, hdone, -⟩ := hgeneral
  exact ⟨done, hdone⟩

/-! ## Revocations -/

structure RevocationOk (w : World) (s : AdapterIndexSnapshot) (r : AdapterRevocation) : Prop where
  cause : checkCause w r.reason r.evidence = .ok ()
  positive : r.revokedAtRevision ≠ 0
  past : r.revokedAtRevision ≤ s.revision
  registered : ∃ e, findEntry s r.adapter = some e ∧ e.manifest.sha256 = r.manifestSha256

section

omit [Platform] [FractionText]

lemma checkCause_ok {reason : String} {evidence : Option PrivateFileReference} :
    checkCause w reason evidence = .ok () ↔
      validateReason reason = .ok () ∧ ∀ e, evidence = some e → w.verify e = .ok () := by
  unfold checkCause
  rw [seq_ok]
  cases evidence with
  | none => simp [pure_ok]
  | some e => simp

lemma revocations_ok {xs done : List AdapterRevocation} :
    xs.foldlM (checkRevocation w s) [] = .ok done ↔
      done = xs.reverse ∧ Ascending AdapterRevocation.adapter xs ∧
        ∀ r ∈ xs, RevocationOk w s r := by
  refine @foldlM_ascending_ok _ _ _ _ _ _ _ _ _ reverse (RevocationOk w s) ?_ _
  intro seen r done hseen
  unfold checkRevocation
  simp only [bind_ok, failIf_ok, okOr_ok, not_or, not_not, ne_eq, not_lt, gt_iff_lt,
    not_unordered, head?_reverse, map_eq_some_iff,
    reverse_append, reverse_singleton, singleton_append]
  -- a key above the last one is new
  have hfresh : (∀ b, seen.getLast? = some b → compare b.adapter r.adapter = .lt) →
      r.adapter ∉ seen.reverse.map AdapterRevocation.adapter := by
    intro habove hmem
    have hconcat : Ascending AdapterRevocation.adapter (seen ++ [r]) :=
      ascending_concat.mpr ⟨hseen, habove⟩
    have hnodup := nodup_of_ascending hconcat
    rw [map_append, nodup_append'] at hnodup
    rw [map_reverse, mem_reverse] at hmem
    exact hnodup.2.2 hmem (mem_singleton.mpr rfl)
  have hcause := @checkCause_ok w r.reason r.evidence
  cases hevidence : r.evidence with
  | none =>
    rw [hevidence] at hcause
    simp only [pure_ok]
    constructor
    · intro h
      obtain ⟨_, hreason, _, ⟨hpositive, hpast, habove, -⟩, e, hfind, _, hmanifest, hdone⟩ := h
      refine ⟨hdone.symm, fun b hb => habove b.adapter ⟨b, hb, rfl⟩, ?_⟩
      refine ⟨?_, hpositive, hpast, e, hfind, hmanifest⟩
      rw [hevidence]
      exact hcause.mpr ⟨hreason, fun _ hnone => by cases hnone⟩
    · intro h
      obtain ⟨hdone, habove, hok⟩ := h
      obtain ⟨e, hfind, hmanifest⟩ := hok.registered
      have hchecked := hok.cause
      rw [hevidence] at hchecked
      refine ⟨(), (hcause.mp hchecked).1, (), ⟨hok.positive, hok.past, ?_, hfresh habove⟩, e, hfind,
        (), hmanifest, hdone.symm⟩
      intro p hp
      obtain ⟨b, hb, rfl⟩ := hp
      exact habove b hb
  | some evidence =>
    rw [hevidence] at hcause
    simp only [bind_ok, pure_ok]
    constructor
    · intro h
      obtain ⟨_, hreason, _, ⟨hpositive, hpast, habove, -⟩, e, hfind, _, hmanifest, _, hverify,
        hdone⟩ := h
      refine ⟨hdone.symm, fun b hb => habove b.adapter ⟨b, hb, rfl⟩, ?_⟩
      refine ⟨?_, hpositive, hpast, e, hfind, hmanifest⟩
      rw [hevidence]
      refine hcause.mpr ⟨hreason, ?_⟩
      intro _ hsome
      cases hsome
      exact hverify
    · intro h
      obtain ⟨hdone, habove, hok⟩ := h
      obtain ⟨e, hfind, hmanifest⟩ := hok.registered
      have hchecked := hok.cause
      rw [hevidence] at hchecked
      obtain ⟨hreason, hverify⟩ := hcause.mp hchecked
      refine ⟨(), hreason, (), ⟨hok.positive, hok.past, ?_, hfresh habove⟩, e, hfind, (),
        hmanifest, (), hverify evidence rfl, hdone.symm⟩
      intro p hp
      obtain ⟨b, hb, rfl⟩ := hp
      exact habove b hb

end

/-! ## Selections -/

def SelectionOk (w : World) (bank : AdapterBank) (s : AdapterIndexSnapshot)
    (manifests : List (AdapterIndexEntry × AdapterManifest)) (a : ActiveAdapterSelection) : Prop :=
  checkSelection w bank s manifests none a = .ok (some a.slot)

variable {manifests : List (AdapterIndexEntry × AdapterManifest)}

lemma selections_ok {xs : List ActiveAdapterSelection} {last : Option AdapterActivationSlot} :
    xs.foldlM (checkSelection w bank s manifests) none = .ok last ↔
      last = xs.getLast?.map ActiveAdapterSelection.slot ∧
        Ascending ActiveAdapterSelection.slot xs ∧ ∀ a ∈ xs, SelectionOk w bank s manifests a := by
  refine @foldlM_ascending_ok _ _ _ _ _ _ _ _ _
    (fun seen => seen.getLast?.map ActiveAdapterSelection.slot)
    (SelectionOk w bank s manifests) ?_ _
  intro seen a last _
  have hfirst : ¬Unordered (none : Option AdapterActivationSlot) a.slot :=
    not_unordered.mpr (fun p hp => by cases hp)
  unfold SelectionOk checkSelection
  simp only [bind_ok, failIf_ok, okOr_ok, pure_ok, not_or, hfirst, not_false_eq_true, true_and,
    not_unordered, map_eq_some_iff, getLast?_append, getLast?_singleton]
  constructor
  · intro h
    obtain ⟨_, ⟨hpositive, hpast, habove, hlive, hepoch⟩, found, hfind, _, hbinding, permit,
      hpermit, _, hsame, rfl⟩ := h
    exact ⟨rfl, fun b hb => habove b.slot ⟨b, hb, rfl⟩, (), ⟨hpositive, hpast, hlive, hepoch⟩,
      found, hfind, (), hbinding, permit, hpermit, (), hsame, trivial⟩
  · intro h
    obtain ⟨rfl, habove, _, ⟨hpositive, hpast, hlive, hepoch⟩, found, hfind, _, hbinding, permit,
      hpermit, _, hsame, -⟩ := h
    refine ⟨(), ⟨hpositive, hpast, ?_, hlive, hepoch⟩, found, hfind, (), hbinding, permit, hpermit,
      (), hsame, rfl⟩
    intro p hp
    obtain ⟨b, hb, rfl⟩ := hp
    exact habove b hb

lemma SelectionOk.later {s next : AdapterIndexSnapshot} {a : ActiveAdapterSelection}
    (h : SelectionOk w bank s manifests a) (hrevision : s.revision ≤ next.revision)
    (hlive : ¬Revoked next a.adapter) : SelectionOk w bank next manifests a := by
  unfold SelectionOk checkSelection at h ⊢
  simp only [bind_ok, failIf_ok, not_or] at h ⊢
  obtain ⟨_, ⟨hpositive, hpast, hfirst, -, hepoch⟩, hrest⟩ := h
  exact ⟨(), ⟨hpositive, by omega, hfirst, hlive, hepoch⟩, hrest⟩

/-! ## What a snapshot that passed its check is known for -/

/-- What the loops of a snapshot know, with the manifests of its entries. -/
structure Loops (w : World) (bank : AdapterBank) (s : AdapterIndexSnapshot)
    (manifests : List (AdapterIndexEntry × AdapterManifest)) : Prop where
  entries : ∀ e ∈ s.entries, EntryOk w bank e
  done : EntriesDone bank s.entries manifests
  ascending : Ascending AdapterRevocation.adapter s.revocations
  revocations : ∀ r ∈ s.revocations, RevocationOk w s r
  slots : Ascending ActiveAdapterSelection.slot s.active
  selections : ∀ a ∈ s.active, SelectionOk w bank s manifests a

/-- What is known of a snapshot that passed its check. -/
lemma loops_of_contract (h : validateSnapshotContract w bank s = .ok ()) :
    ∃ manifests, Loops w bank s manifests := by
  unfold validateSnapshotContract at h
  simp only [bind_ok, failIf_ok, not_not, ne_eq] at h
  obtain ⟨_, -, h⟩ := h
  by_cases hzero : s.revision = 0
  · rw [if_pos hzero, failIf_ok, not_not] at h
    refine ⟨[], ?_⟩
    rw [h]
    constructor
    · exact forall_mem_nil _
    · exact ⟨rfl, Pairwise.nil, nodup_nil, forall_mem_nil _⟩
    · exact Pairwise.nil
    · exact forall_mem_nil _
    · exact Pairwise.nil
    · exact forall_mem_nil _
  · rw [if_neg hzero] at h
    simp only [bind_ok] at h
    obtain ⟨_, -, manifests, hentries, _, -, _, hrevocations, _, -, _, hactive, -⟩ := h
    obtain ⟨-, hascending, hrevocation⟩ := revocations_ok.mp hrevocations
    obtain ⟨-, hslots, hselections⟩ := selections_ok.mp hactive
    exact ⟨manifests, entries_of_fold hentries, entriesDone_of_fold hentries, hascending,
      hrevocation, hslots, hselections⟩

end Tidex.Bank
