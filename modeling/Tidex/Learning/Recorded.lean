/-
  Learning.Recorded — representation evidence is recorded once.
-/
import Tidex.Learning.Recording
import Tidex.Lib.Interleave

namespace Tidex.Learning

open Tidex.Lib List Function Json Sha256Digest ByteArray Path LedgerStatus

section

variable {M : Type} [DecidableEq M] [RepresentationWire M]
variable [Platform] [JsonReader] [FractionText] [SourceTree]

/-! ## Invariants -/

def Recording.ended : Recording → Bool
  | .done _ => true
  | _ => false

/-- Whether the next step of a call is an append. -/
def Recording.appends : Recording → Bool
  | .append _ _ => true
  | _ => false

/-- Where the next step of a call is an append, the ledger has no event of its request. -/
def Unrecorded (root : String) (fs : PrivateRoot) : Recording → Prop
  | .append o _ => findEvent root fs o.requestSha256 = .ok none
  | _ => True

namespace Plan

variable (plan : Plan M) (root : String) (fs₀ fs : PrivateRoot)

/-- What holds of the files while the request is recorded. -/
structure Store : Prop where
  kept : ∀ path bytes, path ≠ ledgerPath root → fs₀.content path = .ok bytes →
    fs.content path = .ok bytes
  free : ∀ f ∈ plan.files root, FreeFor fs f.1 f.2
  lock : LockUsable root fs
  ledger : fs.content (ledgerPath root) = fs₀.content (ledgerPath root) ∨ plan.Appended root fs
  receipt : fs.content (receiptPath root plan.opened.requestSha256) = .error (.io .notFound) ∨
    plan.Recorded root fs

/-- What no step takes back. -/
structure Grows (fs' : PrivateRoot) : Prop where
  files : ∀ path bytes, path ≠ ledgerPath root → fs.content path = .ok bytes →
    fs'.content path = .ok bytes
  appended : plan.Appended root fs → plan.Appended root fs'

/-- The protocol and the files of some targets are there. -/
structure Installed (before : List (Prepared M)) : Prop where
  protocol : fs.content (protocolPath root plan.opened.protocolSha256) =
    .ok (toVec plan.opened.request.protocol)
  files : ∀ t ∈ before, ∀ f ∈ t.files root, fs.content f.1 = .ok f.2

inductive Call : Recording → Prop where
  | start : Call .start
  | replay (h : plan.Recorded root fs) : Call (.replay plan.opened plan.receipt)
  | protocol : Call (.protocol plan.opened)
  | install {before rest : List (Prepared M)} (split : plan.prepared = before ++ rest)
      (installed : plan.Installed root fs before) :
      Call (.install plan.opened (rest.map (·.target)) (before.map (·.new.entry)))
  | destination {before rest : List (Prepared M)} {t : Prepared M}
      (split : plan.prepared = before ++ t :: rest) (installed : plan.Installed root fs before)
      (artifact : fs.content (f64Reference root t.shift.shift).path =
        .ok (f64Bytes t.shift.shift)) :
      Call (.destination plan.opened t.new (rest.map (·.target)) (before.map (·.new.entry)))
  | search (h : plan.Complete root fs) : Call (.search plan.opened plan.draft)
  | append (h : plan.Complete root fs) : Call (.append plan.opened plan.draft)
  | write (h : plan.Complete root fs) (happended : plan.Appended root fs) :
      Call (.write plan.opened plan.receipt)
  | verify (h : plan.Recorded root fs) : Call (.verify plan.opened plan.receipt)
  | done (h : plan.Recorded root fs) : Call (.done (.ok plan.receipt))

/-- How many steps a call that runs alone has left, at most. -/
def rank : Recording → Nat
  | .start => 2 * plan.prepared.length + 10
  | .protocol _ => 2 * plan.prepared.length + 8
  | .destination _ _ targets _ => 2 * targets.length + 7
  | .install _ targets _ => 2 * targets.length + 6
  | .search _ _ => 5
  | .append _ _ => 4
  | .write _ _ => 3
  | .verify _ _ => 2
  | .replay _ _ => 1
  | .done _ => 0

/-- What one step does to the files and to its call. -/
structure Advances (x : Recording) (next : PrivateRoot × Recording) : Prop where
  store : plan.Store root fs₀ next.1
  grows : plan.Grows root fs next.1
  call : plan.Call root next.1 next.2
  ready : Unrecorded root next.1 next.2
  rank_lt : x.ended = false → plan.rank next.2 < plan.rank x
  ledger : x.appends = false → next.1.content (ledgerPath root) = fs.content (ledgerPath root)

variable {plan root fs₀ fs} {fs' : PrivateRoot}

section

omit [DecidableEq M] [RepresentationWire M] [JsonReader]

lemma Store.free_of_mem (h : plan.Store root fs₀ fs) {path : String} {bytes : ByteArray}
    (hmem : (path, bytes) ∈ plan.files root) : FreeFor fs path bytes :=
  h.free _ hmem

lemma Grows.refl : plan.Grows root fs fs := ⟨fun _ _ _ h => h, fun h => h⟩

end

namespace Valid

variable {payloadPath : String}

section

variable (h : plan.Valid root fs₀ payloadPath)
include h

lemma complete_mono (hgrows : plan.Grows root fs fs') (hcomplete : plan.Complete root fs) :
    plan.Complete root fs' := by
  intro f hf
  exact hgrows.files f.1 f.2 (h.elsewhere f hf).ledger (hcomplete f hf)

lemma receipt_ne_ledger (digest : Sha256Digest) :
    receiptPath root digest ≠ ledgerPath root ∧ receiptPath root digest ≠ ledgerLockPath root := by
  rw [receiptPath_eq h.isRoot]
  refine ⟨?_, ?_⟩
  · intro heq
    have hnames := place_injective h.isRoot.rooted (isName_receiptNames _)
      isName_ledgerNames heq
    simp [receiptNames] at hnames
  · intro heq
    have hnames := place_injective h.isRoot.rooted (isName_receiptNames _)
      isName_lockNames heq
    simp [receiptNames] at hnames

lemma recorded_mono (hgrows : plan.Grows root fs fs') (hrecorded : plan.Recorded root fs) :
    plan.Recorded root fs' := by
  refine ⟨h.complete_mono hgrows hrecorded.complete, hgrows.appended hrecorded.appended, ?_⟩
  exact hgrows.files _ _ (h.receipt_ne_ledger _).1 hrecorded.written

lemma installed_mono {before : List (Prepared M)} (hbefore : ∀ t ∈ before, t ∈ plan.prepared)
    (hgrows : plan.Grows root fs fs') (hinstalled : plan.Installed root fs before) :
    plan.Installed root fs' before := by
  refine ⟨hgrows.files _ _ (elsewhere_protocol h.isRoot _).ledger hinstalled.protocol, ?_⟩
  intro t ht f hf
  have hmem : f ∈ plan.files root :=
    mem_cons_of_mem _ (mem_flatMap.mpr ⟨t, hbefore t ht, hf⟩)
  exact hgrows.files f.1 f.2 (h.elsewhere f hmem).ledger (hinstalled.files t ht f hf)

lemma call_mono (hgrows : plan.Grows root fs fs') {x : Recording} (hcall : plan.Call root fs x) :
    plan.Call root fs' x := by
  cases hcall with
  | start => exact .start
  | replay hrecorded => exact .replay (h.recorded_mono hgrows hrecorded)
  | protocol => exact .protocol
  | install hsplit hinstalled =>
    refine .install hsplit (h.installed_mono ?_ hgrows hinstalled)
    intro t ht
    rw [hsplit]
    exact mem_append_left _ ht
  | @destination before rest t hsplit hinstalled hartifact =>
    refine .destination hsplit (h.installed_mono ?_ hgrows hinstalled) ?_
    · intro t ht
      rw [hsplit]
      exact mem_append_left _ ht
    · exact hgrows.files _ _ (elsewhere_reference h.isRoot _).ledger hartifact
  | search hcomplete => exact .search (h.complete_mono hgrows hcomplete)
  | append hcomplete => exact .append (h.complete_mono hgrows hcomplete)
  | write hcomplete happended =>
    exact .write (h.complete_mono hgrows hcomplete) (hgrows.appended happended)
  | verify hrecorded => exact .verify (h.recorded_mono hgrows hrecorded)
  | done hrecorded => exact .done (h.recorded_mono hgrows hrecorded)

lemma store_of_written (hstore : plan.Store root fs₀ fs) {path : String} {bytes : ByteArray}
    (hmem : (path, bytes) ∈ plan.files root) (hnew : fs'.content path = .ok bytes)
    (hsame : ∀ other, other ≠ path → fs'.content other = fs.content other) :
    plan.Store root fs₀ fs' ∧ plan.Grows root fs fs' ∧
      fs'.content (ledgerPath root) = fs.content (ledgerPath root) := by
  have helsewhere : Elsewhere root path := h.elsewhere _ hmem
  have hledger := hsame _ helsewhere.ledger.symm
  have hkept := kept_of_free (hstore.free_of_mem hmem) hnew hsame
  have hgrows : plan.Grows root fs fs' := by
    refine ⟨fun other file _ hfile => hkept other file hfile, ?_⟩
    intro happended
    unfold Appended
    rw [hledger]
    exact happended
  refine ⟨⟨?_, ?_, ?_, ?_, ?_⟩, hgrows, hledger⟩
  · intro other file hother hfile
    exact hkept other file (hstore.kept other file hother hfile)
  · intro g hg
    by_cases hpath : g.1 = path
    · refine .inr ?_
      rw [hpath, hnew, h.agree g hg _ hmem hpath]
    · unfold FreeFor
      rw [hsame _ hpath]
      exact hstore.free g hg
  · unfold LockUsable
    rw [hsame _ helsewhere.lock.symm]
    exact hstore.lock
  · rcases hstore.ledger with hold | happended
    · exact .inl (hledger.trans hold)
    · exact .inr (hgrows.appended happended)
  · rcases hstore.receipt with hnone | hrecorded
    · refine .inl ?_
      rw [hsame _ (helsewhere.receipt _).symm]
      exact hnone
    · exact .inr (h.recorded_mono hgrows hrecorded)

end

/-! ## Steps -/

omit [DecidableEq M] [RepresentationWire M] in
lemma advances_read {x next : Recording} (hstore : plan.Store root fs₀ fs)
    (hcall : plan.Call root fs next) (hready : Unrecorded root fs next)
    (hrank : plan.rank next < plan.rank x) : plan.Advances root fs₀ fs x (fs, next) where
  store := hstore
  grows := Grows.refl
  call := hcall
  ready := hready
  rank_lt _ := hrank
  ledger _ := rfl

section

variable (h : plan.Valid root fs₀ payloadPath) (hstore : plan.Store root fs₀ fs)
include h hstore

lemma openRequest_kept : openRequest M root fs payloadPath = .ok plan.opened := by
  have hopens := h.opens
  unfold openRequest at hopens ⊢
  simp only [bind_ok, readUntrustedPrivateFileBounded_ok] at hopens ⊢
  obtain ⟨path, hpath, bytes, ⟨hfile, hsize⟩, hrest⟩ := hopens
  have hapart : path ≠ ledgerPath root := by
    intro heq
    exact h.apart (heq ▸ hpath)
  exact ⟨path, hpath, bytes, ⟨hstore.kept path bytes hapart hfile, hsize⟩, hrest⟩

variable {t : Prepared M}

lemma readSource_kept (ht : t ∈ plan.prepared) :
    readSource M root fs t.target = .ok t.before := by
  have hsource := (h.ready t ht).source
  unfold readSource at hsource ⊢
  simp only [bind_ok, orIntegrity_ok, readVerifiedBounded_ok] at hsource ⊢
  obtain ⟨bytes, ⟨path, hpath, hfile, hsize, hdigest⟩, hrest⟩ := hsource
  have hapart : path ≠ ledgerPath root := by
    intro heq
    exact (h.ready t ht).apart (heq ▸ hpath)
  exact ⟨bytes, ⟨path, hpath, hstore.kept path bytes hapart hfile, hsize, hdigest⟩, hrest⟩

lemma step_start :
    plan.Advances root fs₀ fs .start (Recording.step M root payloadPath fs .start) := by
  rw [Recording.step]
  rw [h.openRequest_kept hstore]
  dsimp only
  unfold Recording.opened
  rcases hstore.receipt with hnone | hrecorded
  · have hexists : pathExists fs (receiptPath root plan.opened.requestSha256) = false := by
      unfold pathExists
      rw [hnone]
    rw [hexists, if_neg (by decide)]
    exact advances_read hstore .protocol trivial (by simp only [rank]; omega)
  · have hexists : pathExists fs (receiptPath root plan.opened.requestSha256) = true := by
      unfold pathExists
      rw [hrecorded.written]
    have hread : readReceipt root fs plan.opened.requestSha256 = .ok plan.receipt := by
      unfold readReceipt
      simp only [bind_ok, readUntrustedPrivateFileBounded_ok]
      exact ⟨_, ⟨hrecorded.written, h.receiptSmall⟩, fromSlice_serializePrettyLine h.decodes⟩
    rw [hexists, if_pos rfl, hread]
    exact advances_read hstore (.replay hrecorded) trivial (by simp only [rank]; omega)

lemma step_protocol : plan.Advances root fs₀ fs (.protocol plan.opened)
      (Recording.step M root payloadPath fs (.protocol plan.opened)) := by
  have hmem : (protocolPath root plan.opened.protocolSha256, toVec plan.opened.request.protocol) ∈
    plan.files root := Valid.protocol_mem
  obtain ⟨fs', hwrite, hnew, hsame⟩ := write_free_spec (hstore.free_of_mem hmem)
  obtain ⟨hstore', hgrows, hledger⟩ := h.store_of_written hstore hmem hnew hsame
  have hcall : plan.Call root fs' (.install plan.opened plan.opened.request.installations []) := by
    rw [← h.targets]
    exact .install (nil_append _).symm ⟨hnew, by simp⟩
  rw [Recording.step]
  rw [hwrite]
  refine ⟨hstore', hgrows, hcall, trivial, ?_, fun _ => hledger⟩
  intro _
  show 2 * plan.opened.request.installations.length + 6 < 2 * plan.prepared.length + 8
  rw [← h.targets, length_map]
  omega

lemma storeArtifact_spec (ht : t ∈ plan.prepared) :
    ∃ fs', storeArtifact M root fs plan.opened t.target = (fs', .ok t.new) ∧
      plan.Store root fs₀ fs' ∧ plan.Grows root fs fs' ∧
      fs'.content (ledgerPath root) = fs.content (ledgerPath root) ∧
      fs'.content (f64Reference root t.shift.shift).path = .ok (f64Bytes t.shift.shift) := by
  have hready := h.ready t ht
  have hmem : ((f64Reference root t.shift.shift).path, f64Bytes t.shift.shift) ∈ plan.files root :=
    Valid.artifact_mem ht
  obtain ⟨fs', hcreate, hstored, hsame⟩ :=
    create_f64_spec h.isRoot (h.f64Values ht) (hstore.free_of_mem hmem)
  have hnew := f64Stored_iff.mp hstored
  obtain ⟨hstore', hgrows, hledger⟩ := h.store_of_written hstore hmem hnew hsame
  refine ⟨fs', ?_, hstore', hgrows, hledger, hnew⟩
  unfold storeArtifact
  rw [h.readSource_kept hstore ht, hready.shift]
  show ((createContentAddressedF64 root fs t.shift.shift).1,
    (createContentAddressedF64 root fs t.shift.shift).2 >>=
      installation root plan.opened t.target t.before) = _
  rw [hcreate]
  show (fs', installation root plan.opened t.target t.before
    (f64Reference root t.shift.shift)) = _
  rw [hready.install]

variable {before rest : List (Prepared M)}

lemma step_install (hsplit : plan.prepared = before ++ rest)
    (hinstalled : plan.Installed root fs before) : plan.Advances root fs₀ fs
      (.install plan.opened (rest.map (·.target)) (before.map (·.new.entry)))
      (Recording.step M root payloadPath fs
        (.install plan.opened (rest.map (·.target)) (before.map (·.new.entry)))) := by
  cases rest with
  | nil =>
    rw [append_nil] at hsplit
    have hcomplete : plan.Complete root fs := by
      intro f hf
      rcases mem_cons.mp hf with hprotocol | hf
      · rw [hprotocol]
        exact hinstalled.protocol
      · obtain ⟨t, ht, hfile⟩ := mem_flatMap.mp hf
        exact hinstalled.files t (hsplit ▸ ht) f hfile
    have hcall : plan.Call root fs
        (.search plan.opened (draftReceipt plan.opened (before.map (·.new.entry)))) := by
      rw [← hsplit]
      exact .search hcomplete
    rw [map_nil, Recording.step]
    exact advances_read hstore hcall trivial (by simp only [rank]; omega)
  | cons t rest =>
    obtain ⟨ht, hbefore⟩ := mem_of_split hsplit
    obtain ⟨fs', hspec, hstore', hgrows, hledger, hnew⟩ := h.storeArtifact_spec hstore ht
    rw [map_cons]
    rw [Recording.step]
    rw [hspec]
    refine ⟨hstore', hgrows, ?_, trivial, ?_, fun _ => hledger⟩
    · exact .destination hsplit (h.installed_mono hbefore hgrows hinstalled) hnew
    · intro _
      show 2 * (rest.map (·.target)).length + 7 < 2 * (t.target :: rest.map (·.target)).length + 6
      rw [length_cons]
      omega

lemma step_destination (hsplit : plan.prepared = before ++ t :: rest)
    (hinstalled : plan.Installed root fs before)
    (hartifact : fs.content (f64Reference root t.shift.shift).path = .ok (f64Bytes t.shift.shift)) :
    plan.Advances root fs₀ fs
      (.destination plan.opened t.new (rest.map (·.target)) (before.map (·.new.entry)))
      (Recording.step M root payloadPath fs
        (.destination plan.opened t.new (rest.map (·.target)) (before.map (·.new.entry)))) := by
  obtain ⟨ht, hbefore⟩ := mem_of_split hsplit
  have hmem : (t.new.path, t.new.bytes) ∈ plan.files root := Valid.destination_mem ht
  obtain ⟨fs', hwrite, hnew, hsame⟩ := write_free_spec (hstore.free_of_mem hmem)
  obtain ⟨hstore', hgrows, hledger⟩ := h.store_of_written hstore hmem hnew hsame
  have hkept := h.installed_mono hbefore hgrows hinstalled
  have hartifact' := hgrows.files _ _ (elsewhere_reference h.isRoot t.shift.shift).ledger hartifact
  have hnext : plan.Installed root fs' (before ++ [t]) := by
    refine ⟨hkept.protocol, ?_⟩
    intro s hs f hf
    rcases mem_append.mp hs with hold | hone
    · exact hkept.files s hold f hf
    · rw [mem_singleton.mp hone, Prepared.files, mem_cons, mem_singleton] at hf
      rcases hf with hf | hf
      · rw [hf]
        dsimp only
        exact hartifact'
      · rw [hf]
        exact hnew
  have hcall : plan.Call root fs' (.install plan.opened (rest.map (·.target))
      (before.map (·.new.entry) ++ [t.new.entry])) := by
    have hone : [t.new.entry] = [t].map (·.new.entry) := rfl
    rw [hone, ← map_append]
    refine .install ?_ hnext
    rw [hsplit, List.append_assoc]
    rfl
  rw [Recording.step]
  rw [hwrite]
  refine ⟨hstore', hgrows, hcall, trivial, ?_, fun _ => hledger⟩
  intro _
  show 2 * (rest.map (·.target)).length + 6 < 2 * (rest.map (·.target)).length + 7
  omega

lemma step_search (hcomplete : plan.Complete root fs) :
    plan.Advances root fs₀ fs (.search plan.opened plan.draft)
      (Recording.step M root payloadPath fs (.search plan.opened plan.draft)) := by
  rw [Recording.step]
  rcases hstore.ledger with hold | happended
  · have hfind := h.findEvent_unappended hold
    rw [hfind]
    exact advances_read hstore (.append hcomplete) hfind (by simp only [rank]; omega)
  · have hfound : withFoundEvent plan.draft plan.event = .ok plan.receipt := by
      unfold withFoundEvent
      simp only [bind_ok, failIf_ok, pure_ok]
      exact ⟨plan.payload, payload_nextEvent h.continues, (), not_not.mpr rfl, rfl⟩
    rw [h.findEvent_appended happended]
    show plan.Advances root fs₀ fs _
      (Recording.afterRead fs (withFoundEvent plan.draft plan.event) (.write plan.opened))
    rw [hfound]
    exact advances_read hstore (.write hcomplete happended) trivial (by simp only [rank]; omega)

end

omit [Platform] [JsonReader] [FractionText] [SourceTree] in
lemma ledgerKind_visible : ledgerKind.toList.all isWhiteSpace = false := by decide

section

variable (h : plan.Valid root fs₀ payloadPath) (hstore : plan.Store root fs₀ fs)
include h hstore

/-- An append where the ledger has no event of the request. -/
lemma step_append (hcomplete : plan.Complete root fs)
    (hready : Unrecorded root fs (.append plan.opened plan.draft)) :
    plan.Advances root fs₀ fs (.append plan.opened plan.draft)
      (Recording.step M root payloadPath fs (.append plan.opened plan.draft)) := by
  have hold : fs.content (ledgerPath root) = fs₀.content (ledgerPath root) := by
    rcases hstore.ledger with hold | happended
    · exact hold
    · have hnone : findEvent root fs plan.opened.requestSha256 = .ok none := hready
      rw [h.findEvent_appended happended] at hnone
      cases hnone
  have hbytes : ledgerBytes root fs = .ok plan.ledger := (ledgerBytes_congr hold).trans h.ledger
  obtain ⟨fs', happend, hledger, hlock, hsame, hkept⟩ := append_spec ledgerKind_visible hstore.lock
    hbytes h.terminated h.verified h.continues h.room
  have hgrows : plan.Grows root fs fs' := ⟨hkept, fun _ => hledger⟩
  have hcomplete' := h.complete_mono hgrows hcomplete
  have hstore' : plan.Store root fs₀ fs' := by
    refine ⟨?_, ?_, hlock, .inr hledger, ?_⟩
    · intro path bytes hpath hfile
      exact hkept path bytes hpath (hstore.kept path bytes hpath hfile)
    · intro f hf
      exact .inr (hcomplete' f hf)
    · rcases hstore.receipt with hnone | hrecorded
      · have hne := h.receipt_ne_ledger plan.opened.requestSha256
        refine .inl ?_
        rw [hsame _ hne.1 hne.2]
        exact hnone
      · exact .inr (h.recorded_mono hgrows hrecorded)
  rw [Recording.step]
  show plan.Advances root fs₀ fs _
    (Recording.afterRead (append root fs ledgerKind plan.payload).1
      (append root fs ledgerKind plan.payload).2 _)
  rw [happend]
  refine ⟨hstore', hgrows, .write hcomplete' hledger, trivial, ?_, ?_⟩
  · intro _
    show 3 < 4
    omega
  · intro hno
    cases hno

lemma step_write (hcomplete : plan.Complete root fs) (happended : plan.Appended root fs) :
    plan.Advances root fs₀ fs (.write plan.opened plan.receipt)
      (Recording.step M root payloadPath fs (.write plan.opened plan.receipt)) := by
  have hfree : FreeFor fs (receiptPath root plan.opened.requestSha256)
      (serializePrettyLine plan.receipt) := by
    rcases hstore.receipt with hnone | hrecorded
    · exact .inl hnone
    · exact .inr hrecorded.written
  obtain ⟨fs', hwrite, hnew, hsame⟩ := write_free_spec hfree
  have hkept := kept_of_free hfree hnew hsame
  have hne := h.receipt_ne_ledger plan.opened.requestSha256
  have hledger := hsame _ hne.1.symm
  have hgrows : plan.Grows root fs fs' := by
    refine ⟨fun path bytes _ hfile => hkept path bytes hfile, ?_⟩
    intro _
    unfold Appended
    rw [hledger]
    exact happended
  have hcomplete' := h.complete_mono hgrows hcomplete
  have hrecorded : plan.Recorded root fs' := ⟨hcomplete', hgrows.appended happended, hnew⟩
  have hstore' : plan.Store root fs₀ fs' := by
    refine ⟨?_, ?_, ?_, .inr hrecorded.appended, .inr hrecorded⟩
    · intro path bytes hpath hfile
      exact hkept path bytes (hstore.kept path bytes hpath hfile)
    · intro f hf
      exact .inr (hcomplete' f hf)
    · unfold LockUsable
      rw [hsame _ hne.2.symm]
      exact hstore.lock
  rw [Recording.step, hwrite]
  refine ⟨hstore', hgrows, .verify hrecorded, trivial, ?_, fun _ => hledger⟩
  intro _
  show 2 < 3
  omega

/-- One step of a call, whatever the others have done, keeps the files as planned and goes
    on towards the receipt. -/
lemma step_spec {x : Recording} (hcall : plan.Call root fs x) (hready : Unrecorded root fs x) :
    plan.Advances root fs₀ fs x (Recording.step M root payloadPath fs x) := by
  cases hcall with
  | start => exact h.step_start hstore
  | protocol => exact h.step_protocol hstore
  | install hsplit hinstalled => exact h.step_install hstore hsplit hinstalled
  | destination hsplit hinstalled hartifact =>
    exact h.step_destination hstore hsplit hinstalled hartifact
  | search hcomplete => exact h.step_search hstore hcomplete
  | append hcomplete => exact h.step_append hstore hcomplete hready
  | write hcomplete happended => exact h.step_write hstore hcomplete happended
  | replay hrecorded | verify hrecorded =>
    rw [Recording.step, h.verifies hrecorded.complete hrecorded.appended]
    exact advances_read hstore (.done hrecorded) trivial (by simp only [rank]; omega)
  | done hrecorded =>
    rw [Recording.step_done]
    refine ⟨hstore, Grows.refl, .done hrecorded, trivial, ?_, fun _ => rfl⟩
    intro hno
    cases hno

end

end Valid

end Plan

/-! ## Runs -/

def recording (M : Type) [DecidableEq M] [RepresentationWire M] (root payloadPath : String) :
    Procedure PrivateRoot Recording where
  start := .start
  step := Recording.step M root payloadPath
  ended := Recording.ended

def eventCount (requestSha256 : Sha256Digest) (ledger : ByteArray) : Nat :=
  matchCount ledgerKind "request_sha256" requestSha256.hex ledger

section

variable {plan : Plan M} {root payloadPath : String} {fs fs' : PrivateRoot}

namespace Plan.Valid

lemma store_first (h : plan.Valid root fs payloadPath) : plan.Store root fs fs where
  kept _ _ _ hfile := hfile
  free := h.free
  lock := h.lock
  ledger := .inl rfl
  receipt := .inl h.unwritten

/-- The invariant of recording holds under appends that find no event. -/
lemma invariant (h : plan.Valid root fs payloadPath) :
    Invariant (recording M root payloadPath) (Unrecorded root) (plan.Store root fs)
      (plan.Call root) where
  start _ := .start
  step hstore hcall hready := by
    have hstep := h.step_spec hstore hcall hready
    exact ⟨hstep.store, hstep.call⟩
  others hstore hcall hready hother := h.call_mono (h.step_spec hstore hcall hready).grows hother

lemma ends_alone (h : plan.Valid root fs payloadPath) (hstore : plan.Store root fs fs') :
    ∃ n, ((recording M root payloadPath).solo (fs', .start) n).2 = .done (.ok plan.receipt) := by
  have hstep : ∀ {s x}, plan.Store root fs s → plan.Call root s x → Unrecorded root s x →
      x.ended = false →
      Unrecorded root (Recording.step M root payloadPath s x).1
        (Recording.step M root payloadPath s x).2 ∧
      plan.rank (Recording.step M root payloadPath s x).2 < plan.rank x := by
    intro s x hs hx hready hrunning
    have hadvances := h.step_spec hs hx hready
    exact ⟨hadvances.ready, hadvances.rank_lt hrunning⟩
  obtain ⟨n, -, hcall, hended⟩ := h.invariant.solo plan.rank Recording.ended (Unrecorded root)
    (fun hready _ => hready) hstep hstore Call.start trivial
  refine ⟨n, ?_⟩
  cases hlast : ((recording M root payloadPath).solo (fs', .start) n).2 with
  | done result =>
    rw [hlast] at hcall
    cases hcall
    rfl
  | _ =>
    rw [hlast] at hended
    cases hended

lemma events_le (h : plan.Valid root fs payloadPath) (hstore : plan.Store root fs fs') :
    ∃ bytes, ledgerBytes root fs' = .ok bytes ∧ eventCount plan.opened.requestSha256 bytes ≤ 1 := by
  rcases hstore.ledger with hold | happended
  · refine ⟨plan.ledger, (ledgerBytes_congr hold).trans h.ledger, ?_⟩
    have hcount := matchCount_of_find h.find_before
    unfold eventCount
    rw [hcount]
    decide
  · refine ⟨plan.recordedLedger, ledgerBytes_of_content happended h.room, ?_⟩
    have hcount := matchCount_of_find h.find_after
    unfold eventCount
    rw [hcount, Option.isSome_some, if_pos rfl]

end Plan.Valid

/-- **Representation evidence is recorded once**, where calls append only while the ledger has
    no event of the request: the ledger holds one event at most, every call that ends returns
    the one receipt, and from every state a further call returns it too. -/
theorem recorded_once (h : plan.Valid root fs payloadPath) {w : World PrivateRoot Recording}
    (hw : World.Reachable (recording M root payloadPath) (Unrecorded root) fs w) :
    (∃ bytes, ledgerBytes root w.store = .ok bytes ∧
      eventCount plan.opened.requestSha256 bytes ≤ 1) ∧
    (∀ i result, w.calls i = some (.done result) → result = .ok plan.receipt) ∧
    ∀ i, w.calls i = none → ∃ n, ((Move.begin i :: List.replicate n (Move.advance i)).foldl
        (World.move (recording M root payloadPath)) w).calls i =
          some (.done (.ok plan.receipt)) := by
  obtain ⟨hstore, hcalls⟩ := h.invariant.reachable h.store_first hw
  refine ⟨h.events_le hstore, ?_, ?_⟩
  · intro i result hdone
    have hcall := hcalls i _ hdone
    cases hcall
    rfl
  · intro i hidle
    obtain ⟨n, hends⟩ := h.ends_alone hstore
    refine ⟨n, ?_⟩
    rw [World.moves_alone _ hidle]
    dsimp only
    rw [update_self]
    exact congrArg some hends

/-! ## Two calls that search first -/

namespace Plan.Valid

/-- What is there before any call appends. -/
def Before (plan : Plan M) (root : String) (fs : PrivateRoot) (fs' : PrivateRoot) : Prop :=
  plan.Store root fs fs' ∧ fs'.content (ledgerPath root) = fs.content (ledgerPath root)

omit [DecidableEq M] [RepresentationWire M] [SourceTree] in
lemma unrecorded_of_not_appends {x : Recording}
    (h : x.appends = false) : Unrecorded root fs x := by
  cases x with
  | append o receipt => cases h
  | _ => trivial

lemma invariant_before (h : plan.Valid root fs payloadPath) :
    Invariant (recording M root payloadPath) (fun _ x => x.appends = false)
      (Before plan root fs) (plan.Call root) where
  start _ := .start
  step hstore hcall hguard := by
    have hstep := h.step_spec hstore.1 hcall (unrecorded_of_not_appends hguard)
    exact ⟨⟨hstep.store, (hstep.ledger hguard).trans hstore.2⟩, hstep.call⟩
  others hstore hcall hguard hother :=
    h.call_mono (h.step_spec hstore.1 hcall (unrecorded_of_not_appends hguard)).grows hother

lemma reaches_append (h : plan.Valid root fs payloadPath) (hbefore : Before plan root fs fs') :
    ∃ n, Before plan root fs ((recording M root payloadPath).solo (fs', .start) n).1 ∧
      ((recording M root payloadPath).solo (fs', .start) n).2 = .append plan.opened plan.draft := by
  have hstep : ∀ {s x}, Before plan root fs s → plan.Call root s x → True →
      (x.ended || x.appends) = false →
      True ∧ plan.rank (Recording.step M root payloadPath s x).2 < plan.rank x := by
    intro s x hs hx _ hrunning
    rw [Bool.or_eq_false_iff] at hrunning
    have hadvances := h.step_spec hs.1 hx (unrecorded_of_not_appends hrunning.2)
    exact ⟨trivial, hadvances.rank_lt hrunning.1⟩
  obtain ⟨n, hlast, hcall, hstop⟩ := h.invariant_before.solo plan.rank
    (fun x => x.ended || x.appends) (fun _ _ => True)
    (fun _ hrunning => (Bool.or_eq_false_iff.mp hrunning).2) hstep hbefore Call.start trivial
  refine ⟨n, hlast, ?_⟩
  cases hx : ((recording M root payloadPath).solo (fs', .start) n).2 with
  | append o receipt =>
    rw [hx] at hcall
    cases hcall
    rfl
  | done result =>
    -- a call that has ended has recorded the event, which nobody appended
    rw [hx] at hcall
    cases hcall with
    | done hrecorded =>
      have hfound := h.findEvent_appended hrecorded.appended
      rw [h.findEvent_unappended hlast.2] at hfound
      cases hfound
  | _ =>
    rw [hx] at hstop
    cases hstop

/-- Two calls that search before either appends leave two events of one request. -/
lemma two_events (h : plan.Valid root fs payloadPath)
    (hcontinues : Continues (plan.status.next ledgerKind plan.payload) ledgerKind plan.payload)
    (hroom : (extended (plan.status.next ledgerKind plan.payload) ledgerKind plan.payload
      plan.recordedLedger).size ≤ maxLedgerBytes) : ∃ moves : List Move, ∃ bytes,
      ledgerBytes root (moves.foldl (World.move (recording M root payloadPath))
        (World.idle fs)).store = .ok bytes ∧ eventCount plan.opened.requestSha256 bytes = 2 := by
  have hterminated : Terminated plan.recordedLedger := terminated_append_withFeed _ _
  have hmatch : memberStr plan.payload "request_sha256" = some plan.opened.requestSha256.hex :=
    memberStr_payload plan.draft
  -- call 0 comes to its append, then call 1
  obtain ⟨m, hfirst, hzero⟩ := h.reaches_append ⟨h.store_first, rfl⟩
  obtain ⟨n, hsecond, hone⟩ := h.reaches_append hfirst
  generalize hs₀ : ((recording M root payloadPath).solo (fs, .start) m).1 = s₀ at hfirst hsecond hone
  generalize hs₁ : ((recording M root payloadPath).solo (s₀, .start) n).1 = s₁ at hsecond
  -- both append
  obtain ⟨s₂, happend₀, hledger₂, hlock₂, -⟩ := append_spec ledgerKind_visible hsecond.1.lock
    ((ledgerBytes_congr hsecond.2).trans h.ledger) h.terminated h.verified h.continues h.room
  obtain ⟨s₃, happend₁, hledger₃, -⟩ := append_spec ledgerKind_visible hlock₂
    (ledgerBytes_of_content hledger₂ h.room) hterminated h.verified_recorded hcontinues hroom
  refine ⟨(Move.begin 0 :: replicate m (Move.advance 0)) ++
      (Move.begin 1 :: replicate n (Move.advance 1)) ++ [Move.advance 0, Move.advance 1],
    _, ledgerBytes_of_content ?_ hroom, ?_⟩
  · have hstep₀ : ((recording M root payloadPath).step s₁
        (.append plan.opened plan.draft)).1 = s₂ := by
      show (Recording.step M root payloadPath s₁ (.append plan.opened plan.draft)).1 = s₂
      rw [Recording.step]
      show (Recording.afterRead (append root s₁ ledgerKind plan.payload).1
        (append root s₁ ledgerKind plan.payload).2 _).1 = s₂
      rw [happend₀]
      rfl
    have hstep₁ : ((recording M root payloadPath).step s₂
        (.append plan.opened plan.draft)).1 = s₃ := by
      show (Recording.step M root payloadPath s₂ (.append plan.opened plan.draft)).1 = s₃
      rw [Recording.step]
      show (Recording.afterRead (append root s₂ ledgerKind plan.payload).1
        (append root s₂ ledgerKind plan.payload).2 _).1 = s₃
      rw [happend₁]
      rfl
    have hworld₀ : (Move.begin 0 :: replicate m (Move.advance 0)).foldl
        (World.move (recording M root payloadPath)) (World.idle fs) = {
          store := s₀
          calls := update (fun _ => none) 0
            (some (.append plan.opened plan.draft)) } := by
      rw [World.moves_alone _ rfl, ← hs₀, ← hzero]
      rfl
    have hworld₁ : (Move.begin 1 :: replicate n (Move.advance 1)).foldl
        (World.move (recording M root payloadPath)) {
          store := s₀
          calls := update (fun _ => none) 0
            (some (.append plan.opened plan.draft)) } = {
          store := s₁
          calls := update (update (fun _ => none) 0
            (some (.append plan.opened plan.draft))) 1
            (some (.append plan.opened plan.draft)) } := by
      rw [World.moves_alone _ rfl, ← hs₁, ← hone]
      rfl
    rw [foldl_append, foldl_append, hworld₀, hworld₁, foldl_cons, foldl_cons,
      foldl_nil, World.move_advance _ rfl, World.move_advance _ rfl]
    dsimp only
    rw [hstep₀, hstep₁]
    exact hledger₃
  · have hlines : lines plan.recordedLedger = lines plan.ledger ++ [toVec plan.event] :=
      lines_nextEvent h.terminated
    have hbefore := matchCount_of_find h.find_before
    unfold matchCount at hbefore
    have hfirst := countP_nextEvent h.continues hmatch
    have hlast := countP_nextEvent hcontinues hmatch
    unfold eventCount matchCount extended
    rw [lines_nextEvent hterminated, countP_append, hlast, hlines, countP_append, hbefore]
    show 0 + [toVec (nextEvent plan.status ledgerKind plan.payload)].countP _ + 1 = 2
    rw [hfirst]

end Plan.Valid

end

end

/-! ## A request of one observation -/

namespace RecordedSample

@[reducible] def oneText : FractionText where
  text _ := ['1', '.', '0']

@[reducible] def sources : SourceTree where
  digest := zero

attribute [local instance] Platform.serde JsonReader.exact oneText sources

def root : String := "/r"
def payloadPath : String := "/r/request.json"
def sourcePath : String := "/r/source.json"
def destinationPath : String :=
  "/r/state/representation_evidence/installed-observations/obs-1.json"

def destinationNames : List String :=
  ["state", "representation_evidence", "installed-observations", "obs-1.json"]

def observationId : ObservationId where
  asStr := "obs-1"
  valid := by decide

def one : F64 where
  bits := 0x3ff0000000000000
  lt := by decide

def shift : RepresentationShift where
  observationId := observationId
  rawDimension := 1
  shift := [one]

def capture : RepresentationCapture where
  schema := representationCaptureSchema
  observations := [shift]

noncomputable def protocol : SealedRepresentationProtocol where
  schema := representationProtocolSchema
  sourceRepresentationSha256 := representationCaptureSha256 capture
  probeSha256 := zero
  probeTextSha256 := zero
  forbiddenVocabularySha256 := zero
  taskLabelsUsed := false
  probeVocabularyOverlap := []
  probeCount := 1
  layerCount := 1
  hiddenDim := 1
  rawDimensionPerObservation := 1
  sketchDim := 1
  sketchSeed := 0

def recordHead : String :=
  "\x7b\n  \"observation_id\": \"obs-1\",\n  \"from_checkpoint\": \"base\",\n" ++
  "  \"to_checkpoint\": \"tuned\",\n  \"generation\": 1,\n  \"delta\": [\n    1.0\n  ],\n" ++
  "  \"functional_response\": [],\n  \"confounders\": [],\n  \"reliability\": 1.0,\n" ++
  "  \"independence_group\": \"group\",\n  \"experiment_lineage\": \x7b\n" ++
  "    \"run_id\": \"\",\n    \"replicate_id\": \"\",\n    \"randomization_id\": \"\",\n" ++
  "    \"dataset_split_digest\": \"\",\n    \"initial_checkpoint_digest\": \"\",\n" ++
  "    \"optimizer_config_digest\": \"\",\n    \"template_config_digest\": \"\"\n  \x7d,\n" ++
  "  \"dense_artifact\": null,\n  \"parameter_layout_sha256\": null,\n" ++
  "  \"representation_artifact\": "

def recordMiddle : String := ",\n  \"representation_protocol_sha256\": "

def recordTail : String :=
  ",\n  \"provenance_digest\": " ++
  "\"0000000000000000000000000000000000000000000000000000000000000000\"\n\x7d\n"

def recordText (o : DeltaObservation Unit) : String :=
  recordHead ++ String.ofList ((toJson o.representationArtifact).renderPretty 1) ++ recordMiddle ++
    String.ofList ((toJson o.representationProtocolSha256).renderPretty 1) ++ recordTail

def before : DeltaObservation Unit where
  observationId := observationId
  measured := ()
  representationArtifact := none
  representationProtocolSha256 := none

def sourceBytes : ByteArray := (recordText before).toByteArray

noncomputable def target : RepresentationEvidenceInstallTarget where
  observationId := observationId
  sourceObservationPath := sourcePath
  sourceObservationSha256 := digestBytes sourceBytes
  destinationObservationPath := destinationPath

noncomputable def request : RepresentationEvidenceInstallRequest where
  schema := representationEvidenceRequestSchema
  protocol := protocol
  capture := capture
  installations := [target]

noncomputable def protocolDocument : Json := toJson protocol

def captureDocument : Json := .obj [
  ("schema", .str representationCaptureSchema),
  ("observations", .arr [.obj [
    ("observation_id", .str "obs-1"), ("raw_dimension", .num 1), ("shift", .arr [.num 1])]])]

noncomputable def targetDocument : Json := .obj [
  ("observation_id", .str "obs-1"), ("source_observation_path", .str sourcePath),
  ("source_observation_sha256", toJson target.sourceObservationSha256),
  ("destination_observation_path", .str destinationPath)]

noncomputable def requestDocument : Json := .obj [
  ("schema", .str representationEvidenceRequestSchema), ("protocol", protocolDocument),
  ("capture", captureDocument), ("installations", .arr [targetDocument])]

noncomputable def requestBytes : ByteArray := requestDocument.toBytes

@[reducible] noncomputable def wire : RepresentationWire Unit where
  request bytes := if bytes = requestBytes then some request else none
  observation bytes := if bytes = sourceBytes then some before else none
  prettyLine o := (recordText o).toByteArray

attribute [local instance] wire

noncomputable def fs : PrivateRoot where
  content path :=
    if path = payloadPath then .ok requestBytes
    else if path = sourcePath then .ok sourceBytes
    else .error (.io .notFound)
  capabilityBundle _ := .error (.io .notFound)

noncomputable def opened : OpenedRequest where
  request := request
  requestSha256 := digestBytes requestBytes
  captureSha256 := representationCaptureSha256 capture
  protocolSha256 := digestBytes (toVec protocol)
  shifts := (∅ : BTreeMap ObservationId RepresentationShift).insert observationId shift

noncomputable def after : DeltaObservation Unit :=
  { before with
    representationArtifact := some (f64Reference root [one])
    representationProtocolSha256 := some opened.protocolSha256 }

noncomputable def new : Installation where
  path := destinationPath
  bytes := (recordText after).toByteArray
  entry := {
    observationId := observationId
    sourceObservationPath := sourcePath
    sourceObservationSha256 := target.sourceObservationSha256
    destinationObservationPath := destinationPath
    destinationObservationSha256 := digestBytes (recordText after).toByteArray
    representationArtifact := f64Reference root [one] }

noncomputable def prepared : Prepared Unit where
  target := target
  before := before
  shift := shift
  new := new

noncomputable def plan : Plan Unit where
  opened := opened
  prepared := [prepared]
  ledger := ByteArray.empty
  status := LedgerStatus.start

lemma isRoot : IsRoot root := ⟨by decide, ⟨by decide, by decide⟩⟩

lemma isName_destinationNames : ∀ n ∈ destinationNames, IsName n := by
  unfold destinationNames
  simp only [forall_mem_cons]
  exact ⟨⟨by decide, by decide⟩, ⟨by decide, by decide⟩, ⟨by decide, by decide⟩,
    ⟨by decide, by decide⟩, by simp⟩

lemma destinationPath_eq : destinationPath = place root destinationNames := by decide

lemma absent {names : List String} (hnames : ∀ n ∈ names, IsName n)
    (hlength : 2 ≤ names.length) : fs.content (place root names) = .error (.io .notFound) := by
  have hne : ∀ name, IsName name → place root names ≠ place root [name] := by
    intro name hname heq
    have hsame := place_injective isRoot.rooted hnames
      (by simpa using hname) heq
    rw [hsame] at hlength
    simp at hlength
  have hpayload : payloadPath = place root ["request.json"] := by decide
  have hsource : sourcePath = place root ["source.json"] := by decide
  have hrequest := hne "request.json" ⟨by decide, by decide⟩
  have hrecord := hne "source.json" ⟨by decide, by decide⟩
  unfold fs
  dsimp only
  rw [hpayload, hsource, if_neg hrequest, if_neg hrecord]

lemma shifts_eq : opened.shifts[observationId]? = some shift := by
  show ((∅ : BTreeMap ObservationId RepresentationShift).insert observationId shift)[_]? = _
  rw [BTreeMap.getElem?_insert_iff, if_pos rfl]

lemma contract_holds : validateRequestContract request = .ok opened.shifts := by
  have hprotocol : validateSealedRepresentationProtocol protocol = .ok () := by
    unfold validateSealedRepresentationProtocol
    simp only [bind_ok, failIf_ok, checkedMul_ok]
    have hsmall : 1 * 1 < u64Values ∧ 1 * 1 * 1 < u64Values := by decide
    refine ⟨(), ?_, (), not_not.mpr rfl, _, ⟨hsmall.1, rfl⟩, _, ⟨hsmall.2, rfl⟩, ?_⟩
    · simp [protocol]
    · simp [protocol]
  have hshifts : capture.observations.foldlM (insertShift protocol) ∅ = .ok opened.shifts := by
    show [shift].foldlM (insertShift protocol) ∅ = _
    rw [foldlM_cons]
    simp only [bind_ok]
    refine ⟨_, ?_, rfl⟩
    unfold insertShift
    simp only [bind_ok, failIf_ok, pure_ok]
    refine ⟨(), ?_, rfl⟩
    have hfinite : one.isFinite = true := by decide
    simp [shift, protocol, hfinite]
  have hseen : [target].foldlM insertTarget (∅, ∅, ∅) =
      .ok ((∅ : BTreeSet ObservationId).insert observationId,
        (∅ : BTreeSet String).insert sourcePath, (∅ : BTreeSet String).insert destinationPath) := by
    rw [foldlM_cons]
    simp only [bind_ok]
    refine ⟨_, ?_, rfl⟩
    have hsource : sourcePath.toList.all isWhiteSpace = false := by decide
    have hdestination : destinationPath.toList.all isWhiteSpace = false := by decide
    unfold insertTarget
    simp only [bind_ok, failIf_ok, pure_ok]
    refine ⟨(), ?_, rfl⟩
    simp [target, hsource, hdestination]
  unfold validateRequestContract
  simp only [bind_ok, failIf_ok, pure_ok]
  refine ⟨(), ?_, (), hprotocol, (), not_not.mpr rfl, _, hshifts, _, hseen, (), ?_, rfl⟩
  · simp [request, capture]
  · have hids : ((∅ : BTreeMap ObservationId RepresentationShift).insert observationId
        shift).toList = [(observationId, shift)] := BTreeMap.toList_insert_empty _ _
    show ¬(((∅ : BTreeSet ObservationId).insert observationId).toList ≠
      (((∅ : BTreeMap ObservationId RepresentationShift).insert observationId
        shift).toList.map Prod.fst))
    rw [hids, toList_insert_empty]
    simp

lemma sizeBound_digest (d : Sha256Digest) (depth : Nat) : (toJson d).sizeBound depth = 770 := by
  have hvalue : toJson d = .str d.hex := rfl
  rw [hvalue, sizeBound, d.length_hex]

lemma sizeBound_string (s : String) (depth : Nat) :
    (toJson s).sizeBound depth = 12 * s.toList.length + 2 := by
  have hvalue : toJson s = .str s := rfl
  rw [hvalue, sizeBound]

lemma length_artifactPath : (f64Reference root [one]).path.toList.length = 95 := by
  rw [path_f64Reference, f64ContentOutputPath_eq, place_eq isRoot.rooted (isName_f64Names _)]
  simp only [f64Names, map_cons, map_nil, foldl_cons, foldl_nil,
    String.toList_append, length_append, length_hex]
  decide

lemma sizeBound_artifact (depth : Nat) :
    (toJson (f64Reference root [one])).sizeBound depth ≤ 2300 + 8 * depth := by
  have hvalue : toJson (f64Reference root [one]) = .obj [
      ("path", toJson (f64Reference root [one]).path),
      ("sha256", toJson (f64Reference root [one]).sha256),
      ("element_count", .num 1)] := rfl
  have hone : textSize (renderInt 1) = 1 := by decide
  rw [hvalue]
  simp only [sizeBound_obj, sizeBound_num, membersBound_cons, membersBound_nil, sizeBound_digest,
    sizeBound_string, hone, length_artifactPath, String.reduceToList, length_cons, length_nil]
  omega

lemma size_recordText (o : DeltaObservation Unit) :
    (recordText o).toByteArray.size ≤ 2000 + (toJson o.representationArtifact).sizeBound 1 +
      (toJson o.representationProtocolSha256).sizeBound 1 := by
  have hfixed : recordHead.toByteArray.size + recordMiddle.toByteArray.size +
      recordTail.toByteArray.size ≤ 2000 := by
    unfold recordHead recordMiddle recordTail
    simp only [String.toByteArray_append, size_append]
    decide
  have hartifact := textSize_renderPretty_le (toJson o.representationArtifact) 1
  have hprotocol := textSize_renderPretty_le (toJson o.representationProtocolSha256) 1
  rw [← size_encodeText] at hartifact hprotocol
  unfold encodeText at hartifact hprotocol
  unfold recordText
  simp only [String.toByteArray_append, size_append]
  omega

lemma size_sourceBytes : sourceBytes.size ≤ 3000 := by
  have hsize := size_recordText before
  have hnone : (toJson before.representationArtifact).sizeBound 1 = 4 ∧
    (toJson before.representationProtocolSha256).sizeBound 1 = 4 := ⟨rfl, rfl⟩
  unfold sourceBytes
  omega

lemma size_new : new.bytes.size ≤ 10000 := by
  have hsize := size_recordText after
  have hartifact := sizeBound_artifact 1
  have hdigest := sizeBound_digest opened.protocolSha256 1
  have hsome : (toJson after.representationArtifact).sizeBound 1 =
      (toJson (f64Reference root [one])).sizeBound 1 ∧
    (toJson after.representationProtocolSha256).sizeBound 1 =
      (toJson opened.protocolSha256).sizeBound 1 := ⟨rfl, rfl⟩
  have hbytes : new.bytes = (recordText after).toByteArray := rfl
  rw [hbytes]
  omega

lemma sizeBound_protocol (depth : Nat) :
    protocolDocument.sizeBound depth ≤ 10000 + 40 * depth := by
  have hvalue : protocolDocument = .obj [
      ("schema", .str representationProtocolSchema),
      ("source_representation_sha256", toJson protocol.sourceRepresentationSha256),
      ("probe_sha256", toJson zero), ("probe_text_sha256", toJson zero),
      ("forbidden_vocabulary_sha256", toJson zero), ("task_labels_used", .bool false),
      ("probe_vocabulary_overlap", .arr []), ("probe_count", .num 1), ("layer_count", .num 1),
      ("hidden_dim", .num 1), ("raw_dimension_per_observation", .num 1), ("sketch_dim", .num 1),
      ("sketch_seed", .num 0)] := rfl
  have hdigits : textSize (renderInt 1) = 1 ∧ textSize (renderInt 0) = 1 := by
    decide
  rw [hvalue]
  simp only [sizeBound_obj, sizeBound_str, sizeBound_num, membersBound_cons, membersBound_nil,
    sizeBound_arr, sizeBound_bool, elementsBound_nil, sizeBound_digest, hdigits,
    representationProtocolSchema, String.reduceToList, length_cons, length_nil]
  omega

lemma sizeBound_capture (depth : Nat) : captureDocument.sizeBound depth ≤ 2000 + 40 * depth := by
  have hdigits : textSize (renderInt 1) = 1 := by decide
  unfold captureDocument
  simp only [sizeBound_obj, sizeBound_str, sizeBound_num, membersBound_cons,
    membersBound_nil, sizeBound_arr, elementsBound_cons, elementsBound_nil,
    hdigits, representationCaptureSchema, String.reduceToList, length_cons, length_nil]
  omega

lemma sizeBound_target (depth : Nat) : targetDocument.sizeBound depth ≤ 4000 + 40 * depth := by
  have hpaths : sourcePath.toList.length = 14 ∧ destinationPath.toList.length = 66 := by
    rw [← quickText_eq]
    decide
  unfold targetDocument
  simp only [sizeBound_obj, sizeBound_str, membersBound_cons, membersBound_nil,
    sizeBound_digest, hpaths, String.reduceToList, length_cons, length_nil]
  omega

lemma sizeBound_request : requestDocument.sizeBound 0 ≤ 50000 := by
  have hprotocol := sizeBound_protocol (0 + 1)
  have hcapture := sizeBound_capture (0 + 1)
  have htarget := sizeBound_target (0 + 1 + 1)
  unfold requestDocument
  simp only [sizeBound_obj, sizeBound_str, membersBound_cons, membersBound_nil,
    sizeBound_arr, elementsBound_cons, elementsBound_nil,
    representationEvidenceRequestSchema, String.reduceToList, length_cons, length_nil]
  generalize protocolDocument.sizeBound (0 + 1) = protocolSize at hprotocol ⊢
  generalize captureDocument.sizeBound (0 + 1) = captureSize at hcapture ⊢
  generalize targetDocument.sizeBound (0 + 1 + 1) = targetSize at htarget ⊢
  omega

lemma size_requestBytes : requestBytes.size ≤ 50000 := by
  unfold requestBytes
  exact Nat.le_trans (size_toBytes_le requestDocument) sizeBound_request

lemma confine_file {name : String} (hname : IsName name) :
    confine root (place root [name]) = .ok (place root [name]) :=
  confine_place isRoot (cons_ne_nil _ _) (by simpa using hname)

lemma confine_payload : confine root payloadPath = .ok payloadPath := by
  have hplace : payloadPath = place root ["request.json"] := by decide
  rw [hplace]
  exact confine_file ⟨by decide, by decide⟩

lemma confine_source : confine root sourcePath = .ok sourcePath := by
  have hplace : sourcePath = place root ["source.json"] := by decide
  rw [hplace]
  exact confine_file ⟨by decide, by decide⟩

lemma opens : openRequest Unit root fs payloadPath = .ok opened := by
  have hfile : fs.content payloadPath = .ok requestBytes := by
    unfold fs
    dsimp only
    rw [if_pos rfl]
  have hsize : requestBytes.size ≤ maxRepresentationAuthorityJsonBytes := by
    have hle := size_requestBytes
    unfold maxRepresentationAuthorityJsonBytes
    omega
  have hread : RepresentationWire.request Unit requestBytes = some request := if_pos rfl
  unfold openRequest
  simp only [bind_ok, okOr_ok, pure_ok, readUntrustedPrivateFileBounded_ok]
  exact ⟨_, confine_payload, _, ⟨hfile, hsize⟩, request, hread, _, contract_holds, rfl⟩

lemma reads : readSource Unit root fs target = .ok before := by
  have hne : sourcePath ≠ payloadPath := by decide
  have hfile : fs.content sourcePath = .ok sourceBytes := by
    unfold fs
    dsimp only
    rw [if_neg hne, if_pos rfl]
  have hsize : sourceBytes.size ≤ maxRepresentationAuthorityJsonBytes := by
    have hle := size_sourceBytes
    unfold maxRepresentationAuthorityJsonBytes
    omega
  have hread : RepresentationWire.observation sourceBytes = some before := if_pos rfl
  unfold readSource
  simp only [bind_ok, orIntegrity_ok, readVerifiedBounded_ok, okOr_ok, failIf_ok, pure_ok]
  exact ⟨sourceBytes, ⟨_, confine_source, hfile, hsize, rfl⟩, before, hread, (), not_not.mpr rfl, rfl⟩

lemma installs : installation root opened target before (f64Reference root [one]) = .ok new := by
  have hconfine : confine root destinationPath = .ok destinationPath := by
    rw [destinationPath_eq]
    exact confine_place isRoot (cons_ne_nil _ _) isName_destinationNames
  have hplace : installedDestinationUnderRoot root destinationPath = .ok destinationPath := by
    have hunder : startsWith destinationPath (push root installedObservationsRelative) =
      true := by decide
    have hstaged : startsWith destinationPath (push root "state/observations") =
      false := by decide
    have hjson : extension destinationPath = some "json" := by decide
    unfold installedDestinationUnderRoot
    simp only [bind_ok, failIf_ok, pure_ok]
    exact ⟨_, hconfine, (), by simp [hunder, hstaged, hjson], rfl⟩
  have hbytes : destinationObservationBytes before (f64Reference root [one])
      opened.protocolSha256 = .ok new.bytes := by
    unfold destinationObservationBytes
    simp only [bind_ok, failIf_ok, pure_ok]
    exact ⟨(), by simp [before], (), not_not.mpr rfl, rfl⟩
  unfold installation
  simp only [bind_ok, failIf_ok, pure_ok]
  exact ⟨(), not_not.mpr rfl, _, hplace, _, hbytes, rfl⟩

lemma mem_files {f : String × ByteArray} : f ∈ plan.files root ↔
    f = (protocolPath root opened.protocolSha256, toVec protocol) ∨
      f = ((f64Reference root [one]).path, f64Bytes [one]) ∨ f = (destinationPath, new.bytes) := by
  have hfiles : plan.files root = (protocolPath root opened.protocolSha256, toVec protocol) ::
      [prepared].flatMap (Prepared.files root) := rfl
  have hprepared : Prepared.files root prepared =
    [((f64Reference root prepared.shift.shift).path, f64Bytes prepared.shift.shift),
      (prepared.new.path, prepared.new.bytes)] := rfl
  have hshift : prepared.shift.shift = [one] := rfl
  have hnew : prepared.new.path = destinationPath ∧ prepared.new.bytes = new.bytes := ⟨rfl, rfl⟩
  rw [hfiles, flatMap_cons, flatMap_nil, append_nil, hprepared, hshift, hnew.1,
    hnew.2, mem_cons, mem_cons, mem_singleton]

lemma names_files {f : String × ByteArray} (hf : f ∈ plan.files root) :
    f = (place root (protocolNames opened.protocolSha256), toVec protocol) ∨
      f = (place root (f64Names (digestBytes (f64Bytes [one]))), f64Bytes [one]) ∨
      f = (place root destinationNames, new.bytes) := by
  rw [mem_files, protocolPath_eq isRoot, path_f64Reference, f64ContentOutputPath_eq,
    destinationPath_eq] at hf
  exact hf

lemma free : ∀ f ∈ plan.files root, FreeFor fs f.1 f.2 := by
  intro f hf
  refine .inl ?_
  rcases names_files hf with hfile | hfile | hfile
  · rw [hfile]
    exact absent (isName_protocolNames _) (by simp [protocolNames])
  · rw [hfile]
    exact absent (isName_f64Names _) (by simp [f64Names])
  · rw [hfile]
    exact absent isName_destinationNames (by decide)

lemma place_ne {names names' : List String} (hnames : ∀ n ∈ names, IsName n)
    (hnames' : ∀ n ∈ names', IsName n) (hne : names ≠ names') :
    place root names ≠ place root names' := by
  intro heq
  exact hne (place_injective isRoot.rooted hnames hnames' heq)

lemma agree : ∀ f ∈ plan.files root, ∀ g ∈ plan.files root, f.1 = g.1 → f.2 = g.2 := by
  intro f hf g hg hpath
  have hpa : place root (protocolNames opened.protocolSha256) ≠
      place root (f64Names (digestBytes (f64Bytes [one]))) :=
    place_ne (isName_protocolNames _) (isName_f64Names _) (by simp [protocolNames, f64Names])
  have hpd : place root (protocolNames opened.protocolSha256) ≠
      place root destinationNames :=
    place_ne (isName_protocolNames _) isName_destinationNames
      (by simp [protocolNames, destinationNames])
  have had : place root (f64Names (digestBytes (f64Bytes [one]))) ≠
      place root destinationNames :=
    place_ne (isName_f64Names _) isName_destinationNames (by simp [f64Names, destinationNames])
  rcases names_files hf with hf | hf | hf
  · rcases names_files hg with hg | hg | hg
    · rw [hf, hg]
    · rw [hf, hg] at hpath
      exact absurd hpath hpa
    · rw [hf, hg] at hpath
      exact absurd hpath hpd
  · rcases names_files hg with hg | hg | hg
    · rw [hf, hg] at hpath
      exact absurd hpath hpa.symm
    · rw [hf, hg]
    · rw [hf, hg] at hpath
      exact absurd hpath had
  · rcases names_files hg with hg | hg | hg
    · rw [hf, hg] at hpath
      exact absurd hpath hpd.symm
    · rw [hf, hg] at hpath
      exact absurd hpath had.symm
    · rw [hf, hg]

lemma unwritten (digest : Sha256Digest) :
    fs.content (receiptPath root digest) = .error (.io .notFound) := by
  rw [receiptPath_eq isRoot]
  exact absent (isName_receiptNames digest) (by simp [receiptNames])

lemma no_ledger : fs.content (ledgerPath root) = .error (.io .notFound) :=
  absent isName_ledgerNames (by decide)

lemma ledger_empty : ledgerBytes root fs = .ok empty := by
  unfold ledgerBytes readLedgerBytes readUntrustedPrivateFileBounded
  rw [no_ledger]
  rfl

lemma verified_empty : verifyLedgerBytes empty = .ok start := rfl

lemma unrecorded (digest : Sha256Digest) : findEvent root fs digest = .ok none := by
  unfold findEvent
  rw [find_eq ledger_empty verified_empty]
  rfl

noncomputable def payloadDocument : Json := ledgerPayload plan.draft

lemma canonical_payload : plan.payload.canonical = payloadDocument.toValue := by
  have hvalue : payloadDocument.toValue = .object [
      ("installations_sha256", .string plan.draft.installationsSha256.hex),
      ("observation_count", .number (.int plan.draft.observationCount)),
      ("representation_protocol_sha256", .string plan.draft.representationProtocolSha256.hex),
      ("request_sha256", .string plan.draft.requestSha256.hex),
      ("schema", .string "tidex.representation_evidence_recorded/v1"),
      ("source_representation_sha256", .string plan.draft.sourceRepresentationSha256.hex),
      ("source_tree_digest", .string plan.draft.sourceTreeDigest.hex)] := rfl
  have hpayload : plan.payload = payloadDocument.toValue := rfl
  have hsorted : ["installations_sha256", "observation_count", "representation_protocol_sha256",
      "request_sha256", "schema", "source_representation_sha256", "source_tree_digest"].Pairwise
      fun a b => compare a b = .lt := by decide
  rw [hpayload, hvalue]
  refine JsonValue.canonical_object ?_ ?_
  · rw [← pairwise_map (f := Prod.fst) (R := fun a b => compare a b = .lt)]
    exact hsorted
  · simp only [forall_mem_cons]
    exact ⟨rfl, rfl, rfl, rfl, rfl, rfl, rfl, by simp⟩

lemma payloadJson_eq : canonicalPayloadJson plan.payload =
    String.ofList payloadDocument.render := by
  unfold canonicalPayloadJson
  rw [canonical_payload, JsonValue.render_toValue]

lemma read_toBytes (j : Json) : readExactly j.toBytes = some j.toValue := by
  have hread := read_padded j 0
  have hnone : spaces 0 = empty := rfl
  rwa [hnone, append_empty] at hread

lemma continues {status : LedgerStatus} (hlt : status.events + 1 < ledgerWidth) :
    Continues status ledgerKind plan.payload where
  seq_lt := hlt
  reads := read_toBytes _
  payload := by
    rw [payloadJson_eq]
    exact read_toBytes payloadDocument

lemma sizeBound_ledgerPayload (r : RepresentationEvidenceReceipt) (depth : Nat) :
    (ledgerPayload r).sizeBound depth ≤
      9000 + 40 * depth + textSize (renderInt r.observationCount) := by
  have hcount : (toJson r.observationCount).sizeBound (depth + 1) =
    textSize (renderInt r.observationCount) := rfl
  unfold ledgerPayload
  simp only [sizeBound_obj, sizeBound_str, membersBound_cons, membersBound_nil,
    sizeBound_digest, String.reduceToList, length_cons, length_nil]
  generalize sizeBound (depth + 1) (toJson r.observationCount) = written at hcount ⊢
  generalize textSize (renderInt r.observationCount) = digits at hcount ⊢
  omega

lemma size_event (e : LedgerEvent) :
    (withFeed (toVec e)).size ≤ 2000 + textSize (renderInt e.seq) +
      12 * e.schema.toList.length + 12 * e.prevHash.toList.length + 12 * e.kind.toList.length +
        12 * e.payloadJson.toList.length + 12 * e.eventHash.toList.length := by
  have hvalue : toJson e = .obj [("schema", .str e.schema), ("seq", .num e.seq),
    ("prev_hash", .str e.prevHash), ("kind", .str e.kind), ("payload_json", .str e.payloadJson),
    ("event_hash", .str e.eventHash)] := rfl
  have hle := size_toBytes_le (toJson e)
  have hbound : (toJson e).sizeBound 0 ≤ 1999 + textSize (renderInt e.seq) +
      12 * e.schema.toList.length + 12 * e.prevHash.toList.length + 12 * e.kind.toList.length +
        12 * e.payloadJson.toList.length + 12 * e.eventHash.toList.length := by
    rw [hvalue]
    simp only [sizeBound_obj, sizeBound_str, sizeBound_num, membersBound_cons,
      membersBound_nil, String.reduceToList, length_cons, length_nil]
    generalize textSize (renderInt e.seq) = digits
    omega
  unfold withFeed toVec
  rw [size_push]
  omega

lemma length_payloadJson : (canonicalPayloadJson plan.payload).toList.length ≤ 10000 := by
  have hbound := sizeBound_ledgerPayload plan.draft 0
  have hle := textSize_render_le (ledgerPayload plan.draft) 0
  have hlength := length_le_textSize (ledgerPayload plan.draft).render
  have hcount : plan.draft.observationCount = 1 := rfl
  have hdigits : textSize (renderInt (1 : Nat)) = 1 := by decide
  rw [hcount, hdigits] at hbound
  have hsmall : 9000 + 40 * 0 + 1 ≤ 10000 := by omega
  rw [payloadJson_eq, String.toList_ofList]
  exact Nat.le_trans hlength (Nat.le_trans hle (Nat.le_trans hbound hsmall))

lemma size_nextEvent {status : LedgerStatus} (hhead : status.head.toList.length = 64)
    (hseq : textSize (renderInt (status.events + 1 : Nat)) ≤ 20) :
    (withFeed (toVec (nextEvent status ledgerKind plan.payload))).size ≤ 200000 := by
  have hhash : (nextEvent status ledgerKind plan.payload).eventHash.toList.length = 64 :=
    length_hex _
  have hpayload := length_payloadJson
  have hkeys : eventSchemaV2.toList.length = 21 ∧ ledgerKind.toList.length = 32 := by
    rw [← quickText_eq]
    decide
  have hsize := size_event (nextEvent status ledgerKind plan.payload)
  have hfields : (nextEvent status ledgerKind plan.payload).schema = eventSchemaV2 ∧
      (nextEvent status ledgerKind plan.payload).seq = status.events + 1 ∧
      (nextEvent status ledgerKind plan.payload).prevHash = status.head ∧
      (nextEvent status ledgerKind plan.payload).kind = ledgerKind ∧
      (nextEvent status ledgerKind plan.payload).payloadJson =
        canonicalPayloadJson plan.payload := ⟨rfl, rfl, rfl, rfl, rfl⟩
  rw [hhash, hfields.1, hfields.2.1, hfields.2.2.1, hfields.2.2.2.1, hfields.2.2.2.2,
    hhead, hkeys.1, hkeys.2] at hsize
  generalize (withFeed (toVec (nextEvent status ledgerKind plan.payload))).size = size at hsize ⊢
  generalize (canonicalPayloadJson plan.payload).toList.length = length at hpayload hsize
  generalize textSize (renderInt (status.events + 1 : Nat)) = digits at hseq hsize
  clear hhash hfields hkeys hhead
  omega

lemma sizeBound_entry (e : InstalledRepresentationEvidence) (depth : Nat) :
    (toJson e).sizeBound depth ≤ 5000 + 40 * depth +
      12 * (e.observationId.asStr.toList.length + e.sourceObservationPath.toList.length +
        e.destinationObservationPath.toList.length) +
      (toJson e.representationArtifact).sizeBound (depth + 1) := by
  have hvalue : toJson e = .obj [("observation_id", .str e.observationId.asStr),
    ("source_observation_path", .str e.sourceObservationPath),
    ("source_observation_sha256", toJson e.sourceObservationSha256),
    ("destination_observation_path", .str e.destinationObservationPath),
    ("destination_observation_sha256", toJson e.destinationObservationSha256),
    ("representation_artifact", toJson e.representationArtifact)] := rfl
  rw [hvalue]
  simp only [sizeBound_obj, sizeBound_str, membersBound_cons, membersBound_nil,
    sizeBound_digest, String.reduceToList, length_cons, length_nil]
  generalize (toJson e.representationArtifact).sizeBound (depth + 1) = artifact
  omega

lemma sizeBound_receipt (r : RepresentationEvidenceReceipt) {e : InstalledRepresentationEvidence}
    (hone : r.installations = [e]) :
    (toJson r).sizeBound 0 ≤ 9000 + 12 * (r.schema.toList.length + r.ledgerEventHash.toList.length) +
      textSize (renderInt r.observationCount) + (toJson e).sizeBound 2 := by
  have hvalue : toJson r = .obj [("schema", .str r.schema),
    ("source_tree_digest", toJson r.sourceTreeDigest), ("request_sha256", toJson r.requestSha256),
    ("source_representation_sha256", toJson r.sourceRepresentationSha256),
    ("representation_protocol_sha256", toJson r.representationProtocolSha256),
    ("installations_sha256", toJson r.installationsSha256),
    ("observation_count", .num r.observationCount), ("installations", toJson r.installations),
    ("ledger_event_hash", .str r.ledgerEventHash)] := rfl
  have hlist : (toJson r.installations) = .arr [toJson e] := by
    rw [hone]
    rfl
  rw [hvalue, hlist]
  generalize toJson e = entry
  simp only [sizeBound_obj, sizeBound_str, sizeBound_num, membersBound_cons, membersBound_nil,
    sizeBound_arr, elementsBound_cons, elementsBound_nil, sizeBound_digest, String.reduceToList,
    length_cons, length_nil, Nat.zero_add, Nat.reduceAdd]
  generalize entry.sizeBound 2 = size
  generalize textSize (renderInt r.observationCount) = digits
  omega

lemma size_receipt : (serializePrettyLine plan.receipt).size ≤ 30000 := by
  have hentries : plan.receipt.installations = [new.entry] := rfl
  have hbound := sizeBound_receipt plan.receipt hentries
  have hentry := sizeBound_entry new.entry 2
  have hartifact := sizeBound_artifact 3
  have htexts : new.entry.observationId.asStr.toList.length = 5 ∧
    new.entry.sourceObservationPath.toList.length = 14 ∧
    new.entry.destinationObservationPath.toList.length = 66 ∧
    plan.receipt.schema.toList.length = 40 := by decide
  have hhash : plan.receipt.ledgerEventHash.toList.length = 64 := length_hex _
  have hcount : textSize (renderInt plan.receipt.observationCount) = 1 := by
    have hone : plan.receipt.observationCount = 1 := rfl
    rw [hone]
    decide
  have hreference : new.entry.representationArtifact = f64Reference root [one] := rfl
  have hsize := size_toPrettyLineBytes_le (toJson plan.receipt)
  rw [htexts.2.2.2, hhash, hcount] at hbound
  rw [htexts.1, htexts.2.1, htexts.2.2.1, hreference] at hentry
  unfold serializePrettyLine
  generalize (toJson plan.receipt).toPrettyLineBytes.size = size at hsize ⊢
  generalize (toJson plan.receipt).sizeBound 0 = bound at hbound hsize
  generalize (toJson new.entry).sizeBound 2 = entry at hbound hentry
  generalize (toJson (f64Reference root [one])).sizeBound (2 + 1) = artifact at hartifact hentry
  clear htexts hhash hcount
  omega

lemma digits_small : textSize (renderInt (1 : Nat)) ≤ 20 ∧
    textSize (renderInt (2 : Nat)) ≤ 20 := by decide

lemma room : plan.recordedLedger.size ≤ 200000 := by
  have hhead : start.head.toList.length = 64 := by decide
  have hsize := size_nextEvent hhead digits_small.1
  have hledger : plan.recordedLedger =
      empty ++ withFeed (toVec (nextEvent start ledgerKind plan.payload)) :=
    rfl
  rw [hledger, size_append]
  have hempty : empty.size = 0 := rfl
  rw [hempty, Nat.zero_add]
  exact hsize

lemma room_twice : (extended (start.next ledgerKind plan.payload) ledgerKind
    plan.payload plan.recordedLedger).size ≤ 400000 := by
  have hhead : (start.next ledgerKind plan.payload).head.toList.length = 64 :=
    length_hex _
  have hsize := size_nextEvent hhead digits_small.2
  have hroom := room
  have hledger : extended (start.next ledgerKind plan.payload) ledgerKind plan.payload
      plan.recordedLedger = plan.recordedLedger ++ withFeed (toVec (nextEvent
        (start.next ledgerKind plan.payload) ledgerKind plan.payload)) := rfl
  rw [hledger, size_append]
  omega

/-- The request of the sample is valid in a state that holds its source and nothing else. -/
lemma valid : plan.Valid root fs payloadPath where
  isRoot := isRoot
  opens := opens
  apart := by
    have hne : payloadPath ≠ ledgerPath root := by decide
    rw [confine_payload]
    intro heq
    exact hne (Except.ok.inj heq)
  targets := rfl
  ready := by
    intro t ht
    have hone : t = prepared := mem_singleton.mp ht
    have hne : sourcePath ≠ ledgerPath root := by decide
    have hsmall := size_new
    rw [hone]
    refine ⟨reads, ?_, shifts_eq, installs, ?_⟩
    · intro heq
      have hsame : confine root sourcePath = .ok (ledgerPath root) := heq
      rw [confine_source] at hsame
      exact hne (Except.ok.inj hsame)
    · show new.bytes.size ≤ maxRepresentationAuthorityJsonBytes
      unfold maxRepresentationAuthorityJsonBytes
      omega
  fits := by
    show CountedForm.headerBytes + 1 * 8 < u64Values
    decide
  free := free
  agree := agree
  protocolSmall := by
    have hle := size_toBytes_le protocolDocument
    have hbound := sizeBound_protocol 0
    show protocolDocument.toBytes.size ≤ maxRepresentationAuthorityJsonBytes
    unfold maxRepresentationAuthorityJsonBytes
    omega
  receiptSmall := by
    have hle := size_receipt
    unfold maxRepresentationAuthorityJsonBytes
    omega
  decodes := decodesPretty_serde _
  unwritten := unwritten _
  lock := .inl (absent isName_lockNames (by decide))
  ledger := ledger_empty
  terminated := .inl rfl
  verified := verified_empty
  unrecorded := unrecorded _
  continues := continues (by decide)
  room := by
    have hle := room
    unfold maxLedgerBytes
    omega

/-- The sample is recorded once from the state where no call has begun. -/
theorem sample_recorded_once : (∃ bytes, ledgerBytes root fs = .ok bytes ∧
      eventCount plan.opened.requestSha256 bytes ≤ 1) ∧
    ∃ n, ((Move.begin 0 :: List.replicate n (Move.advance 0)).foldl
      (World.move (recording Unit root payloadPath)) (World.idle fs)).calls 0 =
        some (.done (.ok plan.receipt)) := by
  obtain ⟨hcount, -, hends⟩ := recorded_once valid World.Reachable.idle
  exact ⟨hcount, hends 0 rfl⟩

/-- Two calls of the sample that search before either appends leave two events. -/
theorem sample_two_events : ∃ moves : List Move, ∃ bytes,
    ledgerBytes root (moves.foldl (World.move (recording Unit root payloadPath))
      (World.idle fs)).store = .ok bytes ∧ eventCount plan.opened.requestSha256 bytes = 2 := by
  refine valid.two_events (continues (by decide)) ?_
  have hle := room_twice
  unfold maxLedgerBytes
  exact Nat.le_trans hle (by omega)

end RecordedSample

end Tidex.Learning
