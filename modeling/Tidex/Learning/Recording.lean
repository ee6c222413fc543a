/-
  Learning.Recording — what recording representation evidence takes.
-/
import Tidex.Learning.Representation

namespace Tidex.Learning

open Tidex.Lib List Sha256Digest Path

/-! ## What a request has passed -/

section

variable {p : SealedRepresentationProtocol}
  {shifts shifts' : BTreeMap ObservationId RepresentationShift}

def RepresentationShift.Fits (p : SealedRepresentationProtocol) (shift : RepresentationShift) :
    Prop :=
  shift.shift.length = p.sketchDim ∧ ∀ value ∈ shift.shift, value.isFinite = true

lemma insertShift_ok {shift : RepresentationShift}
    (h : insertShift p shifts shift = .ok shifts') :
    shift.Fits p ∧ shifts' = shifts.insert shift.observationId shift := by
  unfold insertShift at h
  simp only [bind_ok, failIf_ok, pure_ok, not_or, ne_eq, not_not] at h
  obtain ⟨-, ⟨-, hlength, hfinite, -⟩, rfl⟩ := h
  refine ⟨⟨hlength, ?_⟩, rfl⟩
  intro value hvalue
  rw [Bool.not_eq_true, any_eq_false] at hfinite
  simpa using hfinite value hvalue

lemma foldlM_insertShift {taken : List RepresentationShift}
    (h : taken.foldlM (insertShift p) shifts = .ok shifts')
    (hshifts : ∀ (i : ObservationId) shift, shifts[i]? = some shift → shift.Fits p) :
    ∀ (i : ObservationId) shift, shifts'[i]? = some shift → shift.Fits p := by
  induction taken generalizing shifts with
  | nil =>
    rw [foldlM_nil, pure_ok] at h
    exact h ▸ hshifts
  | cons shift taken ih =>
    rw [foldlM_cons, bind_ok] at h
    obtain ⟨next, hone, hrest⟩ := h
    obtain ⟨hfits, rfl⟩ := insertShift_ok hone
    refine ih hrest ?_
    intro i other hother
    rw [BTreeMap.getElem?_insert_iff] at hother
    by_cases hi : shift.observationId = i
    · rw [if_pos hi, Option.some.injEq] at hother
      exact hother ▸ hfits
    · rw [if_neg hi] at hother
      exact hshifts i other hother

lemma foldlM_insertTarget {targets : List RepresentationEvidenceInstallTarget}
    {seen seen' : BTreeSet ObservationId × BTreeSet String × BTreeSet String}
    (h : targets.foldlM insertTarget seen = .ok seen') :
    (targets.map (·.observationId)).Nodup ∧ ∀ t ∈ targets, t.observationId ∉ seen.1 := by
  induction targets generalizing seen with
  | nil => exact ⟨nodup_nil, by simp⟩
  | cons target targets ih =>
    rw [foldlM_cons, bind_ok] at h
    obtain ⟨next, hone, hrest⟩ := h
    unfold insertTarget at hone
    simp only [bind_ok, failIf_ok, pure_ok, not_or] at hone
    obtain ⟨-, ⟨-, -, hnew, -, -⟩, rfl⟩ := hone
    obtain ⟨hnodup, hothers⟩ := ih hrest
    simp only [BTreeSet.mem_insert_iff, not_or] at hothers
    refine ⟨?_, ?_⟩
    · rw [map_cons, nodup_cons]
      refine ⟨?_, hnodup⟩
      intro hmem
      obtain ⟨t, ht, heq⟩ := mem_map.mp hmem
      exact (hothers t ht).1 heq
    · rw [forall_mem_cons]
      exact ⟨hnew, fun t ht => (hothers t ht).2⟩

variable [Platform] [FractionText]

/-- What a valid request gives: shifts that fit, and targets named once each. -/
lemma validateRequestContract_ok {request : RepresentationEvidenceInstallRequest}
    (h : validateRequestContract request = .ok shifts) : request.protocol.sketchDim ≠ 0 ∧
      (∀ (i : ObservationId) shift, shifts[i]? = some shift → shift.Fits request.protocol) ∧
      (request.installations.map (·.observationId)).Nodup := by
  unfold validateRequestContract validateSealedRepresentationProtocol at h
  simp only [bind_ok, failIf_ok, pure_ok, not_or] at h
  obtain ⟨-, -, -, ⟨-, ⟨-, -, -, -, -, -, -, hdim⟩, -⟩, -, -, taken, hshifts, seen, htargets, -, -,
    rfl⟩ := h
  refine ⟨hdim, foldlM_insertShift hshifts ?_, (foldlM_insertTarget htargets).1⟩
  intro i shift hnone
  rw [Std.ExtTreeMap.getElem?_empty] at hnone
  cases hnone

end

/-! ## Plans -/

/-- A target with all that installing it takes. -/
structure Prepared (M : Type) where
  target : RepresentationEvidenceInstallTarget
  before : DeltaObservation M
  shift : RepresentationShift
  new : Installation

/-- What a request comes to, and the ledger that its event goes on. -/
structure Plan (M : Type) where
  opened : OpenedRequest
  prepared : List (Prepared M)
  ledger : ByteArray
  status : LedgerStatus

variable {M : Type} [DecidableEq M] [RepresentationWire M]
variable [Platform] [JsonReader] [FractionText] [SourceTree]

/-- The artifact and the new observation of a target. -/
def Prepared.files (root : String) (t : Prepared M) : List (String × ByteArray) :=
  [((f64Reference root t.shift.shift).path, f64Bytes t.shift.shift), (t.new.path, t.new.bytes)]

/-- A target whose source is there and whose observation can be made of it. -/
structure Prepared.Ready (root : String) (fs : PrivateRoot) (o : OpenedRequest) (t : Prepared M) :
    Prop where
  source : readSource M root fs t.target = .ok t.before
  apart : confine root t.target.sourceObservationPath ≠ .ok (ledgerPath root)
  shift : o.shifts[t.target.observationId]? = some t.shift
  install : installation root o t.target t.before (f64Reference root t.shift.shift) = .ok t.new
  small : t.new.bytes.size ≤ maxRepresentationAuthorityJsonBytes

namespace Plan

variable (plan : Plan M) (root : String) (fs : PrivateRoot)

def files : List (String × ByteArray) :=
  (protocolPath root plan.opened.protocolSha256, toVec plan.opened.request.protocol)
    :: plan.prepared.flatMap (Prepared.files root)

def draft : RepresentationEvidenceReceipt :=
  draftReceipt plan.opened (plan.prepared.map (·.new.entry))

def payload : JsonValue := (ledgerPayload plan.draft).toValue

def event : LedgerEvent := nextEvent plan.status ledgerKind plan.payload

def receipt : RepresentationEvidenceReceipt :=
  { plan.draft with ledgerEventHash := plan.event.eventHash }

def recordedLedger : ByteArray := extended plan.status ledgerKind plan.payload plan.ledger

/-- A valid request in a state that has not recorded it. -/
structure Valid (payloadPath : String) : Prop where
  isRoot : IsRoot root
  opens : openRequest M root fs payloadPath = .ok plan.opened
  apart : confine root payloadPath ≠ .ok (ledgerPath root)
  targets : plan.prepared.map (·.target) = plan.opened.request.installations
  ready : ∀ t ∈ plan.prepared, t.Ready root fs plan.opened
  fits : CountedForm.headerBytes + plan.opened.request.protocol.sketchDim * 8 < u64Values
  free : ∀ f ∈ plan.files root, FreeFor fs f.1 f.2
  agree : ∀ f ∈ plan.files root, ∀ g ∈ plan.files root, f.1 = g.1 → f.2 = g.2
  protocolSmall : (toVec plan.opened.request.protocol).size ≤ maxRepresentationAuthorityJsonBytes
  receiptSmall : (serializePrettyLine plan.receipt).size ≤ maxRepresentationAuthorityJsonBytes
  decodes : DecodesPretty plan.receipt
  unwritten : fs.content (receiptPath root plan.opened.requestSha256) = .error (.io .notFound)
  lock : LockUsable root fs
  ledger : ledgerBytes root fs = .ok plan.ledger
  terminated : Terminated plan.ledger
  verified : verifyLedgerBytes plan.ledger = .ok plan.status
  unrecorded : findEvent root fs plan.opened.requestSha256 = .ok none
  continues : Continues plan.status ledgerKind plan.payload
  room : plan.recordedLedger.size ≤ maxLedgerBytes

def Complete : Prop := ∀ f ∈ plan.files root, fs.content f.1 = .ok f.2

def Appended : Prop := fs.content (ledgerPath root) = .ok plan.recordedLedger

structure Recorded : Prop where
  complete : plan.Complete root fs
  appended : plan.Appended root fs
  written : fs.content (receiptPath root plan.opened.requestSha256) =
    .ok (serializePrettyLine plan.receipt)

end Plan

/-! ## Places of the files -/

/-- Neither the ledger, nor its lock, nor a receipt. -/
structure Elsewhere (root path : String) : Prop where
  ledger : path ≠ ledgerPath root
  lock : path ≠ ledgerLockPath root
  receipt : ∀ digest, path ≠ receiptPath root digest

def receiptNames (digest : Sha256Digest) : List String :=
  ["state", "representation_evidence", "receipts", "by-request-sha", digest.hex ++ ".json"]

def protocolNames (digest : Sha256Digest) : List String :=
  ["state", "representation_protocols", "by-sha", digest.hex ++ ".json"]

section

variable {root path : String} {names : List String}

omit [DecidableEq M] [RepresentationWire M] [Platform] [JsonReader] [FractionText] [SourceTree]

lemma isName_json (digest : Sha256Digest) : IsName (digest.hex ++ ".json") :=
  isName_artifact (slash_not_mem_hex digest) (by decide) (by decide)

lemma isName_ledgerNames : ∀ n ∈ ["state", "ledger.jsonl"], IsName n := by
  simp only [forall_mem_cons]
  exact ⟨⟨by decide, by decide⟩, ⟨by decide, by decide⟩, by simp⟩

lemma isName_lockNames : ∀ n ∈ ["state", ".ledger.lock"], IsName n := by
  simp only [forall_mem_cons]
  exact ⟨⟨by decide, by decide⟩, ⟨by decide, by decide⟩, by simp⟩

lemma isName_receiptNames (digest : Sha256Digest) : ∀ n ∈ receiptNames digest, IsName n := by
  unfold receiptNames
  simp only [forall_mem_cons]
  exact ⟨⟨by decide, by decide⟩, ⟨by decide, by decide⟩, ⟨by decide, by decide⟩,
    ⟨by decide, by decide⟩, isName_json digest, by simp⟩

lemma isName_protocolNames (digest : Sha256Digest) : ∀ n ∈ protocolNames digest, IsName n := by
  unfold protocolNames
  simp only [forall_mem_cons]
  exact ⟨⟨by decide, by decide⟩, ⟨by decide, by decide⟩, ⟨by decide, by decide⟩,
    isName_json digest, by simp⟩

section

variable (hroot : IsRoot root)
include hroot

lemma receiptPath_eq (digest : Sha256Digest) :
    receiptPath root digest = place root (receiptNames digest) := by
  have hnames : ∀ n ∈ ["state", "representation_evidence", "receipts", "by-request-sha"],
      IsName n := by
    intro n hn
    exact isName_receiptNames digest n (mem_append_left [digest.hex ++ ".json"] hn)
  have hdirectory : push root receiptsRelative =
      place root ["state", "representation_evidence", "receipts", "by-request-sha"] :=
    push_eq_place hroot.rooted hnames (by decide)
  unfold receiptPath receiptNames place
  rw [hdirectory]
  simp only [place, foldl_cons, foldl_nil]

lemma protocolPath_eq (digest : Sha256Digest) :
    protocolPath root digest = place root (protocolNames digest) := by
  have hnames : ∀ n ∈ ["state", "representation_protocols", "by-sha"], IsName n := by
    intro n hn
    exact isName_protocolNames digest n (mem_append_left [digest.hex ++ ".json"] hn)
  have hdirectory : push root protocolsRelative =
      place root ["state", "representation_protocols", "by-sha"] :=
    push_eq_place hroot.rooted hnames (by decide)
  unfold protocolPath protocolNames place
  rw [hdirectory]
  simp only [place, foldl_cons, foldl_nil]

lemma elsewhere_place (hnames : ∀ n ∈ names, IsName n)
    (hledger : names ≠ ["state", "ledger.jsonl"]) (hlock : names ≠ ["state", ".ledger.lock"])
    (hreceipt : ∀ digest, names ≠ receiptNames digest) : Elsewhere root (place root names) := by
  refine ⟨?_, ?_, ?_⟩
  · intro heq
    exact hledger (place_injective hroot.rooted hnames isName_ledgerNames heq)
  · intro heq
    exact hlock (place_injective hroot.rooted hnames isName_lockNames heq)
  · intro digest heq
    rw [receiptPath_eq hroot] at heq
    exact hreceipt digest
      (place_injective hroot.rooted hnames (isName_receiptNames digest) heq)

lemma elsewhere_protocol (digest : Sha256Digest) : Elsewhere root (protocolPath root digest) := by
  rw [protocolPath_eq hroot]
  exact elsewhere_place hroot (isName_protocolNames digest) (by simp [protocolNames])
    (by simp [protocolNames]) (by simp [protocolNames, receiptNames])

lemma elsewhere_f64 (digest : Sha256Digest) :
    Elsewhere root (f64ContentOutputPath root digest) := by
  rw [f64ContentOutputPath_eq]
  exact elsewhere_place hroot (isName_f64Names digest) (by simp [f64Names]) (by simp [f64Names])
    (by simp [f64Names, receiptNames])

lemma elsewhere_reference [Platform] (values : List F64) :
    Elsewhere root (f64Reference root values).path := by
  rw [path_f64Reference]
  exact elsewhere_f64 hroot _

lemma elsewhere_destination {raw : String}
    (h : installedDestinationUnderRoot root raw = .ok path) : Elsewhere root path := by
  unfold installedDestinationUnderRoot at h
  simp only [bind_ok, failIf_ok, pure_ok, not_or] at h
  obtain ⟨confined, hconfine, -, ⟨hunder, -, -⟩, rfl⟩ := h
  obtain ⟨names, rfl, -, hnames, -⟩ := confine_ok hconfine
  have hbase : ∀ n ∈ ["state", "representation_evidence", "installed-observations"],
      IsName n := by
    simp only [forall_mem_cons]
    exact ⟨⟨by decide, by decide⟩, ⟨by decide, by decide⟩, ⟨by decide, by decide⟩, by simp⟩
  have hdirectory : push root installedObservationsRelative =
      place root ["state", "representation_evidence", "installed-observations"] :=
    push_eq_place hroot.rooted hbase (by decide)
  rw [hdirectory, Bool.not_eq_true, Bool.not_eq_false'] at hunder
  unfold startsWith at hunder
  rw [components_place hroot.rooted hbase, components_place hroot.rooted hnames,
    isPrefixOf_iff_prefix, prefix_append_right_inj] at hunder
  obtain ⟨rest, hrest⟩ := hunder
  have hhead : ∀ other : List String, names = other →
      other.take 3 = ["state", "representation_evidence", "installed-observations"] := by
    intro other heq
    have htake := congrArg (take 3) hrest
    rw [take_append_of_le_length (by decide), heq, ← map_take, ← map_take] at htake
    exact (map_injective_iff.mpr (fun _ _ hname => PathComponent.normal.inj hname) htake).symm
  refine elsewhere_place hroot hnames ?_ ?_ ?_
  · intro heq
    exact absurd (hhead _ heq) (by decide)
  · intro heq
    exact absurd (hhead _ heq) (by decide)
  · intro digest heq
    have htake := hhead _ heq
    simp [receiptNames] at htake

end

end

/-! ## What is recorded verifies -/

section

variable {plan : Plan M} {root payloadPath : String} {fs₀ fs : PrivateRoot} {t : Prepared M}

omit [SourceTree] [DecidableEq M] [JsonReader] in
lemma openRequest_ok {o : OpenedRequest} (h : openRequest M root fs payloadPath = .ok o) :
    validateRequestContract o.request = .ok o.shifts ∧
      o.protocolSha256 = digestBytes (toVec o.request.protocol) := by
  unfold openRequest at h
  simp only [bind_ok, pure_ok] at h
  obtain ⟨path, -, bytes, -, request, -, shifts, hshifts, rfl⟩ := h
  exact ⟨hshifts, rfl⟩

omit [SourceTree] [JsonReader] [FractionText] in
lemma installation_ok {o : OpenedRequest} {target : RepresentationEvidenceInstallTarget}
    {before : DeltaObservation M} {artifact : F64ArtifactRef} {new : Installation}
    (h : installation root o target before artifact = .ok new) :
    installedDestinationUnderRoot root target.destinationObservationPath = .ok new.path ∧
      new.entry = {
        observationId := target.observationId
        sourceObservationPath := target.sourceObservationPath
        sourceObservationSha256 := target.sourceObservationSha256
        destinationObservationPath := target.destinationObservationPath
        destinationObservationSha256 := digestBytes new.bytes
        representationArtifact := artifact } := by
  unfold installation at h
  simp only [bind_ok, failIf_ok, pure_ok] at h
  obtain ⟨-, -, path, hpath, bytes, -, rfl⟩ := h
  exact ⟨hpath, rfl⟩

namespace Plan.Valid

lemma f64Values (h : plan.Valid root fs₀ payloadPath) (ht : t ∈ plan.prepared) :
    F64Values t.shift.shift := by
  obtain ⟨hdim, hfits, -⟩ := validateRequestContract_ok (openRequest_ok h.opens).1
  obtain ⟨hlength, hfinite⟩ := hfits _ _ (h.ready t ht).shift
  refine ⟨?_, hfinite, ?_⟩
  · intro hnil
    rw [hnil] at hlength
    exact hdim hlength.symm
  · rw [hlength]
    exact h.fits

section

omit [DecidableEq M] [RepresentationWire M] [JsonReader] [FractionText] [SourceTree]

lemma protocol_mem : (protocolPath root plan.opened.protocolSha256,
    toVec plan.opened.request.protocol) ∈ plan.files root := by
  unfold files
  exact mem_cons_self

lemma file_of_complete (hcomplete : plan.Complete root fs) {path : String} {bytes : ByteArray}
    (hmem : (path, bytes) ∈ plan.files root) : fs.content path = .ok bytes :=
  hcomplete _ hmem

lemma artifact_mem (ht : t ∈ plan.prepared) :
    ((f64Reference root t.shift.shift).path, f64Bytes t.shift.shift) ∈ plan.files root := by
  refine mem_cons_of_mem _ (mem_flatMap.mpr ⟨t, ht, ?_⟩)
  exact mem_cons_self

lemma destination_mem (ht : t ∈ plan.prepared) : (t.new.path, t.new.bytes) ∈ plan.files root := by
  refine mem_cons_of_mem _ (mem_flatMap.mpr ⟨t, ht, ?_⟩)
  exact mem_cons_of_mem _ mem_cons_self

end

lemma elsewhere (h : plan.Valid root fs₀ payloadPath) :
    ∀ f ∈ plan.files root, Elsewhere root f.1 := by
  intro f hf
  rcases mem_cons.mp hf with rfl | hf
  · exact elsewhere_protocol h.isRoot _
  · obtain ⟨t, ht, hfile⟩ := mem_flatMap.mp hf
    simp only [Prepared.files, mem_cons, not_mem_nil, or_false] at hfile
    rcases hfile with hfile | hfile
    · rw [hfile]
      dsimp only
      exact elsewhere_reference h.isRoot t.shift.shift
    · rw [hfile]
      exact elsewhere_destination h.isRoot (installation_ok (h.ready t ht).install).1

lemma target_of (h : plan.Valid root fs₀ payloadPath) (ht : t ∈ plan.prepared) :
    (collect RepresentationEvidenceInstallTarget.observationId id
      plan.opened.request.installations)[t.target.observationId]? = some t.target := by
  have hnodup := (validateRequestContract_ok (openRequest_ok h.opens).1).2.2
  have hmem : t.target ∈ plan.opened.request.installations := by
    rw [← h.targets]
    exact mem_map_of_mem ht
  exact getElem?_collect_of_mem hnodup hmem

/-- An entry of the receipt verifies once its files are there. -/
lemma verifyInstalled_entry (h : plan.Valid root fs₀ payloadPath)
    (hcomplete : plan.Complete root fs) (ht : t ∈ plan.prepared) :
    verifyInstalled root fs (collect RepresentationEvidenceInstallTarget.observationId id
      plan.opened.request.installations) t.new.entry = .ok () := by
  obtain ⟨hpath, hentry⟩ := installation_ok (h.ready t ht).install
  have hvalues := h.f64Values ht
  have hfile := file_of_complete hcomplete (artifact_mem ht)
  have hstored : F64Stored root fs t.shift.shift := f64Stored_iff.mpr hfile
  have hnew : fs.content t.new.path = .ok t.new.bytes :=
    file_of_complete hcomplete (destination_mem ht)
  have hread : PrivateFileReference.readVerifiedBounded
      ⟨t.new.path, digestBytes t.new.bytes⟩ fs
      maxRepresentationAuthorityJsonBytes = .ok t.new.bytes := by
    rw [readVerifiedBounded_ok]
    exact ⟨hnew, (h.ready t ht).small, rfl⟩
  have hplace : confine root (f64Reference root t.shift.shift).path =
      .ok (f64Reference root t.shift.shift).path := by
    rw [path_f64Reference, f64ContentOutputPath_eq]
    exact confine_place h.isRoot (cons_ne_nil _ _) (isName_f64Names _)
  have hreference : verifyReferenceUnderRoot root fs (f64Reference root t.shift.shift) =
      .ok () := by
    unfold verifyReferenceUnderRoot
    simp only [bind_ok, failIf_ok]
    refine ⟨_, hplace, f64Bytes t.shift.shift, hfile, _,
      read_f64_of_stored h.isRoot hvalues hstored, ?_⟩
    exact not_not.mpr rfl
  unfold verifyInstalled
  simp only [bind_ok, okOr_ok, failIf_ok, hentry, orIntegrity_ok]
  refine ⟨t.target, h.target_of ht, (), ?_, _, hpath, _, hread, hreference⟩
  simp

omit [Platform] [JsonReader] [FractionText] [SourceTree] in
lemma memberStr_payload (r : RepresentationEvidenceReceipt) :
    memberStr (ledgerPayload r).toValue "request_sha256" = some r.requestSha256.hex := by
  have hvalue : (ledgerPayload r).toValue = .object [
      ("installations_sha256", .string r.installationsSha256.hex),
      ("observation_count", .number (.int r.observationCount)),
      ("representation_protocol_sha256", .string r.representationProtocolSha256.hex),
      ("request_sha256", .string r.requestSha256.hex),
      ("schema", .string "tidex.representation_evidence_recorded/v1"),
      ("source_representation_sha256", .string r.sourceRepresentationSha256.hex),
      ("source_tree_digest", .string r.sourceTreeDigest.hex)] := rfl
  rw [hvalue]
  exact memberStr_of_mem (by simp) (by simp)

section

variable (h : plan.Valid root fs₀ payloadPath)
include h

lemma find_before : (lines plan.ledger).foldlM
      (findLine ledgerKind "request_sha256" plan.opened.requestSha256.hex) none = .ok none := by
  have hfind := h.unrecorded
  unfold findEvent at hfind
  rwa [find_eq h.ledger h.verified] at hfind

lemma verified_recorded :
    verifyLedgerBytes plan.recordedLedger = .ok (plan.status.next ledgerKind plan.payload) :=
  verifyLedgerBytes_append h.terminated h.verified h.continues

lemma find_after : (lines plan.recordedLedger).foldlM
      (findLine ledgerKind "request_sha256" plan.opened.requestSha256.hex) none =
      .ok (some plan.event) := by
  have hmatch : memberStr plan.payload "request_sha256" = some plan.opened.requestSha256.hex :=
    memberStr_payload plan.draft
  have hfind := find_append h.terminated h.continues hmatch h.find_before
  exact hfind

lemma findEvent_appended (happended : plan.Appended root fs) :
    findEvent root fs plan.opened.requestSha256 = .ok (some plan.event) := by
  unfold findEvent
  rw [find_eq (ledgerBytes_of_content happended h.room) h.verified_recorded]
  exact h.find_after

lemma findEvent_unappended
    (hsame : fs.content (ledgerPath root) = fs₀.content (ledgerPath root)) :
    findEvent root fs plan.opened.requestSha256 = .ok none := by
  unfold findEvent
  rw [find_eq ((ledgerBytes_congr hsame).trans h.ledger) h.verified]
  exact h.find_before

/-- The receipt verifies once everything is recorded. -/
lemma verifies (hcomplete : plan.Complete root fs) (happended : plan.Appended root fs) :
    verifyExistingReceipt root fs plan.receipt plan.opened = .ok () := by
  have hcount : plan.receipt.installations.length = plan.opened.request.installations.length := by
    show (insertionSort _ _).length = _
    rw [length_insertionSort, ← h.targets, length_map, length_map]
  have hobserved : plan.receipt.observationCount = plan.opened.request.installations.length :=
    hcount
  have hentries : ∀ installed ∈ plan.receipt.installations,
      ∃ t ∈ plan.prepared, t.new.entry = installed := by
    intro installed hmem
    replace hmem : installed ∈ insertionSort InstalledRepresentationEvidence.notAfter
      (plan.prepared.map (·.new.entry)) := hmem
    rw [mem_insertionSort] at hmem
    obtain ⟨t, ht, heq⟩ := mem_map.mp hmem
    exact ⟨t, ht, heq⟩
  have hinstalled : forM plan.receipt.installations (verifyInstalled root fs
      (collect RepresentationEvidenceInstallTarget.observationId id
        plan.opened.request.installations)) = .ok () := by
    rw [forM_ok]
    intro installed hmem
    obtain ⟨t, ht, rfl⟩ := hentries installed hmem
    exact h.verifyInstalled_entry hcomplete ht
  have hprotocol : PrivateFileReference.readVerifiedBounded
      ⟨protocolPath root plan.opened.protocolSha256, plan.opened.protocolSha256⟩ fs
      maxRepresentationAuthorityJsonBytes = .ok (toVec plan.opened.request.protocol) := by
    rw [readVerifiedBounded_ok]
    exact ⟨file_of_complete hcomplete protocol_mem, h.protocolSmall,
      (openRequest_ok h.opens).2.symm⟩
  have hpayload : plan.event.payload = .ok plan.payload := payload_nextEvent h.continues
  unfold verifyExistingReceipt
  simp only [bind_ok, failIf_ok, okOr_ok, orIntegrity_ok]
  refine ⟨(), ?_, (), hinstalled, _, hprotocol, _, h.findEvent_appended happended, plan.event, rfl,
    (), not_not.mpr rfl, plan.payload, hpayload, not_not.mpr rfl⟩
  simp only [not_or, ne_eq, not_not]
  exact ⟨rfl, rfl, rfl, rfl, rfl, hobserved, hcount, rfl⟩

end

end Plan.Valid

end

end Tidex.Learning
