/-
  Operator.Workspace — workspaces and the crashes of their creation.
-/
import Tidex.Foundation.Immutable
import Tidex.Knowledge.Identity
import Tidex.Lib.Path

namespace Tidex.Operator

open Tidex.Lib Tidex.Immutable Function

/-! ## Paths and records -/

/-- A path of the platform: text, or bytes that are not. -/
inductive OsPath where
  | utf8 (text : String)
  | other (bytes : List Nat)
  deriving DecidableEq

namespace OsPath

def isAbsolute : OsPath → Bool
  | utf8 text => Path.isAbsolute text
  | other bytes => bytes.head? == some 47

def isPath (path : OsPath) (text : String) : Bool :=
  match path with
  | utf8 found => Path.components found == Path.components text
  | other _ => false

def same (path path' : OsPath) : Bool :=
  match path' with
  | utf8 text => path.isPath text
  | other bytes => path == other bytes

end OsPath

def workspaceSchema : String := "tidex.workspace/v1"

def maxRecordBytes : Nat := 16 * 1024

structure WorkspaceManifest where
  schema : String
  name : String
  target : OsPath

/-- A manifest as it is stored: its target is text. -/
structure WorkspaceRecord where
  schema : String
  name : String
  target : String

instance : Serialize WorkspaceRecord where
  toJson r := .obj [("schema", toJson r.schema), ("name", toJson r.name),
    ("target", toJson r.target)]
  toJson_injective := by
    rintro ⟨s, n, t⟩ ⟨s', n', t'⟩ h
    simpa using h

def WorkspaceRecord.manifest (r : WorkspaceRecord) : WorkspaceManifest :=
  ⟨r.schema, r.name, .utf8 r.target⟩

/-- A path that is not text has no JSON. -/
def WorkspaceManifest.toVec (manifest : WorkspaceManifest) : BrainResult ByteArray :=
  match manifest.target with
  | .utf8 text => .ok (Tidex.toVec (⟨manifest.schema, manifest.name, text⟩ : WorkspaceRecord))
  | .other _ => .error .json

def validateName (name label : String) : BrainResult Unit :=
  failIf (name.toList.isEmpty
      ∨ name.utf8ByteSize > 128
      ∨ name = "."
      ∨ name = ".."
      ∨ name.toList.any fun c =>
        !(Knowledge.isAsciiAlphanumeric c || c == '-' || c == '_' || c == '.'))
    (invalid (label ++ "_invalid"))

/-! ## Files -/

/-- What a path outside the home leads to. -/
inductive FileKind where
  | directory
  | file
  | symlink
  | special
  deriving DecidableEq

/-- What lies outside the home: whether the home is a private directory, what a path leads to
    (or the text of the error), and its canonical form. -/
structure Outside where
  verifyHome : BrainResult Unit
  symlinkMetadata : OsPath → Except String FileKind
  canonicalize : OsPath → BrainResult OsPath

def verifyTarget (outside : Outside) (target : OsPath) : BrainResult OsPath := do
  failIf (!target.isAbsolute) (invalid "workspace_target_must_be_absolute")
  match outside.symlinkMetadata target with
  | .error e => .error (integrity ("workspace_target_unreadable:" ++ e))
  | .ok kind => do
    failIf (kind = .symlink ∨ ¬(kind = .directory ∨ kind = .file))
      (integrity "workspace_target_invalid")
    outside.canonicalize target

/-- What a name under the home leads to: nothing, a directory, or what cannot be opened as one,
    with the errors that opening and making it give. -/
inductive Place (α : Type) where
  | absent
  | directory (a : α)
  | other (opened ensured : BrainError)

/-- The directory of a workspace: its private state, and the directory of its manifest. -/
structure WorkspaceDir where
  state : Place Unit
  files : Directory

def WorkspaceDir.empty : WorkspaceDir where
  state := .absent
  files :=
    { destination := .absent
      staging := fun _ => none
      content := fun _ => ByteArray.empty
      trusted := fun _ => false
      next := 0 }

/-- The home: its directory of workspaces, by name. -/
structure Home where
  workspaces : Place (String → Place WorkspaceDir)

namespace Home

def entry (home : Home) (name : String) : Place WorkspaceDir :=
  match home.workspaces with
  | .directory entries => entries name
  | _ => .absent

def setEntry (home : Home) (name : String) (place : Place WorkspaceDir) : Home :=
  match home.workspaces with
  | .directory entries => ⟨.directory (update entries name place)⟩
  | _ => home

end Home

def openWorkspaceDir (home : Home) (name : String) : BrainResult WorkspaceDir :=
  match home.workspaces with
  | .absent => .error (.io .notFound)
  | .other opened _ => .error opened
  | .directory entries =>
    match entries name with
    | .absent => .error (.io .notFound)
    | .other opened _ => .error opened
    | .directory dir => .ok dir

def readExistingPrivateFileBounded (files : Directory) (maxBytes : Nat) :
    BrainResult ByteArray :=
  match files.destination with
  | .absent => .error (.io .notFound)
  | .other e _ => .error e
  | .file k => do
    failIf (files.trusted k = false) (integrity "private_file_permissions_or_owner_invalid")
    failIf ((files.content k).size > maxBytes) (invalid "private_file_read_limit_exceeded")
    return files.content k

section

variable [Platform] (outside : Outside)

def readCanonicalJson (files : Directory) : BrainResult WorkspaceRecord := do
  let bytes ← readExistingPrivateFileBounded files maxRecordBytes
  let value ← fromSlice WorkspaceRecord bytes
  failIf (toVec value ≠ bytes) (integrity "workspace_record_noncanonical")
  return value

def loadWorkspace (home : Home) (name : String) : BrainResult WorkspaceManifest := do
  outside.verifyHome
  validateName name "workspace_name"
  let dir ← openWorkspaceDir home name
  let record ← readCanonicalJson dir.files
  failIf (record.schema ≠ workspaceSchema ∨ record.name ≠ name)
    (integrity "workspace_manifest_invalid")
  let found ← verifyTarget outside (.utf8 record.target)
  failIf (!found.isPath record.target) (integrity "workspace_manifest_invalid")
  return record.manifest

/-! ## A creation, step by step -/

/-- Where a creation is. -/
inductive Pc where
  | verify
  | ensureWorkspaces (target : OsPath)
  | check (target : OsPath)
  | makeWorkspace (target : OsPath)
  | makeState (target : OsPath)
  | encode (target : OsPath)
  | publish (manifest : WorkspaceManifest) (call : Call) (pc : Immutable.Pc)
  | done (result : BrainResult WorkspaceManifest)

/-- The checks before anything is made. -/
def verifyArguments (name : String) (target : OsPath) : BrainResult OsPath := do
  outside.verifyHome
  validateName name "workspace_name"
  verifyTarget outside target

/-- One step of a creation. -/
def advance (name : String) (target : OsPath) (tried : String) (home : Home) : Pc → Home × Pc
  | .verify =>
    match verifyArguments outside name target with
    | .error e => (home, .done (.error e))
    | .ok target => (home, .ensureWorkspaces target)
  | .ensureWorkspaces target =>
    match home.workspaces with
    | .absent => (⟨.directory fun _ => .absent⟩, .check target)
    | .directory _ => (home, .check target)
    | .other _ ensured => (home, .done (.error ensured))
  | .check target =>
    match home.entry name with
    | .absent => (home, .makeWorkspace target)
    | _ => (home, .done (.error (integrity "workspace_already_exists")))
  | .makeWorkspace target =>
    match home.entry name with
    | .absent => (home.setEntry name (.directory WorkspaceDir.empty), .makeState target)
    | .directory _ => (home, .makeState target)
    | .other _ ensured => (home, .done (.error ensured))
  | .makeState target =>
    match home.entry name with
    | .directory dir =>
      match dir.state with
      | .absent => (home.setEntry name (.directory { dir with state := .directory () }),
          .encode target)
      | .directory () => (home, .encode target)
      | .other _ ensured => (home, .done (.error ensured))
    | _ => (home, .done (.error (.io .notFound)))
  | .encode target =>
    let manifest : WorkspaceManifest := ⟨workspaceSchema, name, target⟩
    match manifest.toVec with
    | .error e => (home, .done (.error e))
    | .ok bytes => (home, .publish manifest ⟨.createPrivateImmutable, bytes⟩ .preflight)
  | .publish manifest _ (.done (.ok _)) => (home, .done (.ok manifest))
  | .publish _ _ (.done (.error e)) => (home, .done (.error e))
  | .publish manifest call pc =>
    match home.entry name with
    | .directory dir =>
      let r := call.advance tried dir.files pc
      (home.setEntry name (.directory { dir with files := r.1 }), .publish manifest call r.2)
    | _ => (home, .done (.error (.io .notFound)))
  | .done result => (home, .done result)

/-- The home, and where the creation is. -/
structure World where
  home : Home
  pc : Pc

/-- A step is made, or an operation of it fails before it has an effect. -/
def Step (name : String) (target : OsPath) (w w' : World) : Prop :=
  (∃ tried, w' = ⟨(advance outside name target tried w.home w.pc).1,
    (advance outside name target tried w.home w.pc).2⟩) ∨
    ∃ e, w' = ⟨w.home, .done (.error e)⟩

/-- Any steps: what a crash can leave, where it stops. -/
def Steps (name : String) (target : OsPath) : World → World → Prop :=
  Relation.ReflTransGen (Step outside name target)

def CanCreate (home : Home) (name : String) (target : OsPath) : Prop :=
  ∃ w manifest, Steps outside name target ⟨home, .verify⟩ w ∧ w.pc = .done (.ok manifest)

def LoadsAs (home : Home) (name : String) (target : OsPath) : Prop :=
  ∃ manifest, loadWorkspace outside home name = .ok manifest ∧ manifest.name = name ∧
    target.same manifest.target

/-- All or nothing: wherever a creation stops, it can be made again or its workspace is
    loaded. -/
def AllOrNothing (home : Home) (name : String) (target : OsPath) : Prop :=
  ∀ w, Steps outside name target ⟨home, .verify⟩ w →
    CanCreate outside w.home name target ∨ LoadsAs outside w.home name target

/-- What a creation returns is what is loaded after it. -/
def CreatedLoads (home : Home) (name : String) (target : OsPath) : Prop :=
  ∀ w manifest, Steps outside name target ⟨home, .verify⟩ w → w.pc = .done (.ok manifest) →
    loadWorkspace outside w.home name = .ok manifest

/-- A home that already has a workspace of the name with the target: a private manifest of a
    length that is read, whose target can still be reached. -/
def Held (home : Home) (name : String) (target : OsPath) : Prop :=
  outside.verifyHome = .ok () ∧ validateName name "workspace_name" = .ok () ∧
    ∃ dir k text, home.entry name = .directory dir ∧ dir.files.destination = .file k ∧
      dir.files.trusted k = true ∧
      dir.files.content k = toVec (⟨workspaceSchema, name, text⟩ : WorkspaceRecord) ∧
      (dir.files.content k).size ≤ maxRecordBytes ∧
      (∃ found, verifyTarget outside (.utf8 text) = .ok found ∧ found.isPath text = true) ∧
      target.isPath text = true

/-! ## Reading -/

variable {outside} {home : Home} {name : String} {target : OsPath}

omit [Platform] in
lemma openWorkspaceDir_ok {dir : WorkspaceDir} :
    openWorkspaceDir home name = .ok dir ↔ home.entry name = .directory dir := by
  unfold openWorkspaceDir Home.entry
  cases home.workspaces with
  | absent => simp
  | other opened ensured => simp
  | directory entries =>
    simp only []
    cases entries name <;> simp

variable {files : Directory}

omit [Platform] in
lemma readExisting_ok {maxBytes : Nat} {bytes : ByteArray} :
    readExistingPrivateFileBounded files maxBytes = .ok bytes ↔
      ∃ k, files.destination = .file k ∧ files.trusted k = true ∧
        (files.content k).size ≤ maxBytes ∧ files.content k = bytes := by
  unfold readExistingPrivateFileBounded
  cases files.destination with
  | absent => simp
  | other e present => simp
  | file k =>
    simp only [seq_ok, failIf_ok, pure_ok, Bool.not_eq_false, gt_iff_lt, not_lt, Entry.file.injEq]
    constructor
    · intro h
      exact ⟨k, rfl, h⟩
    · intro h
      obtain ⟨j, rfl, h⟩ := h
      exact h

lemma readCanonicalJson_ok (hdecodes : ∀ r : WorkspaceRecord, DecodesCanonical r)
    {record : WorkspaceRecord} : readCanonicalJson files = .ok record ↔
      readExistingPrivateFileBounded files maxRecordBytes = .ok (toVec record) := by
  unfold readCanonicalJson
  simp only [bind_ok (f := fun bytes => fromSlice WorkspaceRecord bytes >>= _), bind_ok,
    failIf_ok, pure_ok, ne_eq, not_not]
  constructor
  · intro h
    obtain ⟨bytes, hbytes, value, hvalue, -, hsame, rfl⟩ := h
    rw [hsame]
    exact hbytes
  · intro h
    exact ⟨toVec record, h, record, fromSlice_toVec (hdecodes record), (), rfl, rfl⟩

lemma loadsAs_iff (hdecodes : ∀ r : WorkspaceRecord, DecodesCanonical r) :
    LoadsAs outside home name target ↔ Held outside home name target := by
  unfold LoadsAs Held loadWorkspace
  simp only [seq_ok]
  constructor
  · intro h
    obtain ⟨manifest, ⟨hhome, hname, hload⟩, -, htarget⟩ := h
    rw [bind_ok] at hload
    obtain ⟨dir, hdir, hload⟩ := hload
    rw [bind_ok] at hload
    obtain ⟨record, hrecord, hload⟩ := hload
    rw [seq_ok, failIf_ok] at hload
    obtain ⟨hidentity, hload⟩ := hload
    rw [bind_ok] at hload
    obtain ⟨found, hfound, hload⟩ := hload
    rw [seq_ok, failIf_ok, pure_ok] at hload
    obtain ⟨hpath, rfl⟩ := hload
    simp only [not_or, not_not] at hidentity
    simp only [Bool.not_eq_true, Bool.not_eq_false'] at hpath
    rw [readCanonicalJson_ok hdecodes, readExisting_ok] at hrecord
    obtain ⟨k, hk, htrusted, hsize, hcontent⟩ := hrecord
    obtain ⟨schema, found', text⟩ := record
    obtain ⟨rfl, rfl⟩ := hidentity
    exact ⟨hhome, hname, dir, k, text, openWorkspaceDir_ok.mp hdir, hk, htrusted, hcontent,
      hsize, ⟨found, hfound, hpath⟩, htarget⟩
  · intro h
    obtain ⟨hhome, hname, dir, k, text, hdir, hk, htrusted, hcontent, hsize,
      ⟨found, hfound, hpath⟩, htarget⟩ := h
    have hread : readCanonicalJson dir.files = .ok ⟨workspaceSchema, name, text⟩ := by
      rw [readCanonicalJson_ok hdecodes, readExisting_ok]
      exact ⟨k, hk, htrusted, hsize, hcontent⟩
    refine ⟨⟨workspaceSchema, name, .utf8 text⟩, ⟨hhome, hname, ?_⟩, rfl, htarget⟩
    rw [openWorkspaceDir_ok.mpr hdir, ok_bind, hread, ok_bind, seq_ok, failIf_ok,
      hfound, ok_bind, seq_ok, failIf_ok, hpath]
    exact ⟨by simp, by simp, rfl⟩

/-! ## Refused creations -/

omit [Platform] in
lemma entry_setEntry {dir : WorkspaceDir} (h : home.entry name = .directory dir)
    (place : Place WorkspaceDir) : (home.setEntry name place).entry name = place := by
  unfold Home.entry at h
  cases hworkspaces : home.workspaces with
  | absent =>
    rw [hworkspaces] at h
    cases h
  | other opened ensured =>
    rw [hworkspaces] at h
    cases h
  | directory entries =>
    unfold Home.setEntry
    rw [hworkspaces]
    show update entries name place name = place
    rw [update_self]

/-- A creation is refused: an argument is wrong, the directory of workspaces is none, or the
    name is in use. -/
def Blocked (outside : Outside) (home : Home) (name : String) (target : OsPath) : Prop :=
  (∃ e, verifyArguments outside name target = .error e) ∨
    (∃ opened ensured, home.workspaces = .other opened ensured) ∨ home.entry name ≠ .absent

def Refused (outside : Outside) (home : Home) (name : String) (target : OsPath) : Pc → Prop
  | .verify => True
  | .ensureWorkspaces _ => ¬∃ e, verifyArguments outside name target = .error e
  | .check _ => home.entry name ≠ .absent
  | .done (.error _) => True
  | _ => False

variable {w : World}

/-- A creation that is refused changes nothing. -/
lemma blocked_steps (h : Blocked outside home name target)
    (hw : Steps outside name target ⟨home, .verify⟩ w) :
    w.home = home ∧ Refused outside home name target w.pc := by
  induction hw with
  | refl => exact ⟨rfl, trivial⟩
  | tail _ hstep ih =>
    obtain ⟨hhome, hrefused⟩ := ih
    rcases hstep with ⟨tried, rfl⟩ | ⟨e, rfl⟩
    · rename_i w _
      obtain ⟨whome, pc⟩ := w
      subst hhome
      dsimp only at hrefused ⊢
      cases pc with
      | verify =>
        unfold advance
        cases hargs : verifyArguments outside name target with
        | error e => exact ⟨rfl, trivial⟩
        | ok canonical =>
          refine ⟨rfl, ?_⟩
          show ¬∃ e, verifyArguments outside name target = .error e
          rw [hargs]
          simp
      | ensureWorkspaces canonical =>
        unfold advance
        have hrest := h.resolve_left hrefused
        cases hworkspaces : whome.workspaces with
        | absent =>
          rcases hrest with ⟨opened, ensured, hother⟩ | hentry
          · rw [hworkspaces] at hother
            cases hother
          · refine absurd ?_ hentry
            unfold Home.entry
            rw [hworkspaces]
        | directory entries =>
          refine ⟨rfl, ?_⟩
          rcases hrest with ⟨opened, ensured, hother⟩ | hentry
          · rw [hworkspaces] at hother
            cases hother
          · exact hentry
        | other opened ensured => exact ⟨rfl, trivial⟩
      | check canonical =>
        have hentry : whome.entry name ≠ .absent := hrefused
        have hadvance : advance outside name target tried whome (.check canonical) =
            (whome, .done (.error (integrity "workspace_already_exists"))) := by
          cases hplace : whome.entry name with
          | absent => exact absurd hplace hentry
          | directory dir => simp only [advance, hplace]
          | other opened ensured => simp only [advance, hplace]
        rw [hadvance]
        exact ⟨rfl, trivial⟩
      | done result =>
        cases result with
        | error e => exact ⟨rfl, trivial⟩
        | ok manifest => exact absurd hrefused id
      | makeWorkspace canonical | makeState canonical | encode canonical
      | publish manifest call pc => exact absurd hrefused id
    · exact ⟨hhome, trivial⟩

lemma Blocked.not_canCreate (h : Blocked outside home name target) :
    ¬CanCreate outside home name target := by
  intro hcan
  obtain ⟨w, manifest, hw, hdone⟩ := hcan
  have hrefused := (blocked_steps h hw).2
  rw [hdone] at hrefused
  exact hrefused

omit [Platform] in
lemma Held.blocked (h : Held outside home name target) : Blocked outside home name target := by
  obtain ⟨-, -, dir, k, text, hdir, -⟩ := h
  refine .inr (.inr ?_)
  rw [hdir]
  intro heq
  cases heq

/-- A creation that is not refused can stop after it made the directory: the name can then
    neither be created nor loaded. -/
lemma stopped_between (hdecodes : ∀ r : WorkspaceRecord, DecodesCanonical r)
    (h : ¬Blocked outside home name target) : ∃ w, Steps outside name target ⟨home, .verify⟩ w ∧
      ¬CanCreate outside w.home name target ∧ ¬LoadsAs outside w.home name target := by
  unfold Blocked at h
  simp only [not_or, not_exists, not_not] at h
  obtain ⟨hargs, hworkspaces, hentry⟩ := h
  have hcanonical : ∃ canonical, verifyArguments outside name target = .ok canonical := by
    cases hresult : verifyArguments outside name target with
    | error e => exact absurd hresult (hargs e)
    | ok canonical => exact ⟨canonical, rfl⟩
  obtain ⟨canonical, hcanonical⟩ := hcanonical
  have hensured : ∃ entries : String → Place WorkspaceDir, entries name = .absent ∧
      Step outside name target ⟨home, .ensureWorkspaces canonical⟩
        ⟨⟨.directory entries⟩, .check canonical⟩ := by
    cases hhome : home.workspaces with
    | absent =>
      refine ⟨fun _ => .absent, rfl, .inl ⟨"", ?_⟩⟩
      simp only [advance, hhome]
    | directory entries =>
      refine ⟨entries, ?_, .inl ⟨"", ?_⟩⟩
      · unfold Home.entry at hentry
        rw [hhome] at hentry
        exact hentry
      · simp only [advance, hhome]
        rw [← hhome]
    | other opened ensured => exact absurd hhome (hworkspaces opened ensured)
  obtain ⟨entries, habsent, hstep⟩ := hensured
  have hopened : Home.entry ⟨.directory entries⟩ name = .absent := habsent
  have hmade : (Home.setEntry ⟨.directory entries⟩ name (.directory WorkspaceDir.empty)).entry
      name = .directory WorkspaceDir.empty := by
    show update entries name (.directory WorkspaceDir.empty) name = _
    rw [update_self]
  refine ⟨⟨Home.setEntry ⟨.directory entries⟩ name (.directory WorkspaceDir.empty),
    .makeState canonical⟩, ?_, ?_, ?_⟩
  · have hverify : Step outside name target ⟨home, .verify⟩
        ⟨home, .ensureWorkspaces canonical⟩ := by
      refine .inl ⟨"", ?_⟩
      simp only [advance, hcanonical]
    have hcheck : Step outside name target ⟨⟨.directory entries⟩, .check canonical⟩
        ⟨⟨.directory entries⟩, .makeWorkspace canonical⟩ := by
      refine .inl ⟨"", ?_⟩
      simp only [advance, hopened]
    have hmake : Step outside name target ⟨⟨.directory entries⟩, .makeWorkspace canonical⟩
        ⟨Home.setEntry ⟨.directory entries⟩ name (.directory WorkspaceDir.empty),
          .makeState canonical⟩ := by
      refine .inl ⟨"", ?_⟩
      simp only [advance, hopened]
    exact (((Relation.ReflTransGen.single hverify).tail hstep).tail hcheck).tail hmake
  · refine Blocked.not_canCreate (.inr (.inr ?_))
    rw [hmade]
    intro heq
    cases heq
  · -- a directory without a manifest is not loaded
    rw [loadsAs_iff hdecodes]
    intro hheld
    obtain ⟨-, -, dir, k, text, hdir, hk, -⟩ := hheld
    rw [hmade] at hdir
    cases hdir
    cases hk

/-! ## Creations that return -/

def Published (call : Call) (files : Directory) (pc : Immutable.Pc) : Prop :=
  ∃ w : Immutable.World Unit,
    Immutable.Steps (fun _ => call) (Immutable.World.start Unit WorkspaceDir.empty.files) w ∧
      w.calls () = pc ∧ w.directory = files

lemma Published.advance {call : Call} {pc : Immutable.Pc} (h : Published call files pc)
    (tried : String) :
    Published call (call.advance tried files pc).1 (call.advance tried files pc).2 := by
  obtain ⟨w, hw, rfl, rfl⟩ := h
  refine ⟨w.move (fun _ => call) () tried, hw.tail ⟨(), tried, rfl⟩, ?_, rfl⟩
  show update w.calls () (call.advance tried w.directory (w.calls ())).2 () = _
  rw [update_self]

/-- A call that creates the manifest and returns has put its bytes into a private file. -/
lemma Published.installed {call : Call} {digest : Sha256Digest}
    (hcreate : call.operation = .createPrivateImmutable)
    (h : Published call files (.done (.ok digest))) :
    ∃ k, files.destination = .file k ∧ files.trusted k = true ∧ files.content k = call.bytes := by
  obtain ⟨w, hw, hpc, rfl⟩ := h
  have hsound : WorkspaceDir.empty.files.Sound := by
    constructor
    · intro staged k hk
      cases hk
    · intro k hk
      cases hk
  have hkeeps := (keeps_start (fun _ : Unit => call) hsound).reachable hsound hw
  have hfact := hkeeps.facts ()
  rw [hpc] at hfact
  have hplaced := hkeeps.placed
  rw [hfact.2.1 hcreate] at hplaced
  obtain ⟨-, k, hk, hge, hlt, hcontent⟩ := hplaced
  exact ⟨k, hk, hkeeps.trusted k hge hlt, hcontent⟩

def manifestOf (name : String) (target : OsPath) : WorkspaceManifest :=
  ⟨workspaceSchema, name, target⟩

/-- What is known of a creation with good arguments where it is. -/
def Creating (name : String) (target : OsPath) (home : Home) : Pc → Prop
  | .verify => True
  | .ensureWorkspaces found => found = target
  | .check found => found = target ∧ ∃ entries, home.workspaces = .directory entries
  | .makeWorkspace found => found = target ∧
    ∃ entries, home.workspaces = .directory entries ∧ entries name = .absent
  | .makeState found | .encode found => found = target ∧
    ∃ dir, home.entry name = .directory dir ∧ dir.files = WorkspaceDir.empty.files
  | .publish manifest call pc => manifest = manifestOf name target ∧
    manifest.toVec = .ok call.bytes ∧ call.operation = .createPrivateImmutable ∧
      ∃ dir, home.entry name = .directory dir ∧ Published call dir.files pc
  | .done (.error _) => True
  | .done (.ok manifest) => manifest = manifestOf name target ∧
    ∃ dir k, home.entry name = .directory dir ∧ dir.files.destination = .file k ∧
      dir.files.trusted k = true ∧ manifest.toVec = .ok (dir.files.content k)

lemma creating_step (htarget : verifyTarget outside target = .ok target) {w w' : World}
    (h : Creating name target w.home w.pc) (hstep : Step outside name target w w') :
    Creating name target w'.home w'.pc := by
  rcases hstep with ⟨tried, rfl⟩ | ⟨e, rfl⟩
  · obtain ⟨home, pc⟩ := w
    dsimp only at h ⊢
    cases pc with
    | verify =>
      cases hargs : verifyArguments outside name target with
      | error e => simp only [advance, hargs, Creating]
      | ok found =>
        have hfound : found = target := by
          unfold verifyArguments at hargs
          rw [seq_ok, seq_ok, htarget] at hargs
          exact (Except.ok.inj hargs.2.2).symm
        simp only [advance, hargs, Creating]
        exact hfound
    | ensureWorkspaces found =>
      cases hworkspaces : home.workspaces with
      | absent | directory entries =>
        simp only [advance, hworkspaces, Creating]
        exact ⟨h, _, rfl⟩
      | other opened ensured => simp only [advance, hworkspaces, Creating]
    | check found =>
      obtain ⟨hfound, entries, hworkspaces⟩ := h
      cases hentry : home.entry name with
      | absent =>
        simp only [advance, hentry, Creating]
        refine ⟨hfound, entries, hworkspaces, ?_⟩
        unfold Home.entry at hentry
        rw [hworkspaces] at hentry
        exact hentry
      | directory dir => simp only [advance, hentry, Creating]
      | other opened ensured => simp only [advance, hentry, Creating]
    | makeWorkspace found =>
      obtain ⟨hfound, entries, hworkspaces, habsent⟩ := h
      have hentry : home.entry name = .absent := by
        unfold Home.entry
        rw [hworkspaces]
        exact habsent
      simp only [advance, hentry, Creating]
      refine ⟨hfound, WorkspaceDir.empty, ?_, rfl⟩
      unfold Home.entry Home.setEntry
      rw [hworkspaces]
      show update entries name _ name = _
      rw [update_self]
    | makeState found =>
      obtain ⟨hfound, dir, hentry, hfiles⟩ := h
      cases hstate : dir.state with
      | absent =>
        simp only [advance, hentry, hstate, Creating]
        exact ⟨hfound, _, entry_setEntry hentry _, hfiles⟩
      | directory a =>
        simp only [advance, hentry, hstate, Creating]
        exact ⟨hfound, dir, rfl, hfiles⟩
      | other opened ensured => simp only [advance, hentry, hstate, Creating]
    | encode found =>
      obtain ⟨rfl, dir, hentry, hfiles⟩ := h
      cases hbytes : (manifestOf name found).toVec with
      | error e =>
        have hadvance : advance outside name found tried home (.encode found) =
            (home, .done (.error e)) := by
          unfold manifestOf at hbytes
          simp only [advance, hbytes]
        rw [hadvance]
        trivial
      | ok bytes =>
        have hadvance : advance outside name found tried home (.encode found) =
            (home, .publish (manifestOf name found) ⟨.createPrivateImmutable, bytes⟩
              .preflight) := by
          unfold manifestOf at hbytes ⊢
          simp only [advance, hbytes]
        rw [hadvance]
        refine ⟨rfl, hbytes, rfl, dir, hentry, ?_⟩
        rw [hfiles]
        exact ⟨_, Relation.ReflTransGen.refl, rfl, rfl⟩
    | publish manifest call pc =>
      obtain ⟨hmanifest, hbytes, hcreate, dir, hentry, hpublished⟩ := h
      have hmoves : ∀ pc, Published call dir.files pc → Creating name target
          (home.setEntry name (.directory { dir with
            files := (call.advance tried dir.files pc).1 }))
          (.publish manifest call (call.advance tried dir.files pc).2) := by
        intro pc hpc
        exact ⟨hmanifest, hbytes, hcreate, _, entry_setEntry hentry _, hpc.advance tried⟩
      by_cases hdone : ∃ result, pc = .done result
      · obtain ⟨result, rfl⟩ := hdone
        cases result with
        | error e => simp only [advance, Creating]
        | ok digest =>
          obtain ⟨k, hk, htrusted, hcontent⟩ := hpublished.installed hcreate
          simp only [advance, Creating]
          exact ⟨hmanifest, dir, k, hentry, hk, htrusted, hcontent ▸ hbytes⟩
      · have hadvance : advance outside name target tried home (.publish manifest call pc) =
            (home.setEntry name (.directory { dir with
              files := (call.advance tried dir.files pc).1 }),
              .publish manifest call (call.advance tried dir.files pc).2) := by
          cases pc with
          | done result => exact absurd ⟨result, rfl⟩ hdone
          | _ => simp only [advance, hentry]
        rw [hadvance]
        exact hmoves pc hpublished
    | done result => exact h
  · trivial

variable {manifest : WorkspaceManifest}

/-- What a creation has done when it returns: its manifest is in a private file. -/
lemma created_steps (htarget : verifyTarget outside target = .ok target)
    (hw : Steps outside name target ⟨home, .verify⟩ w) (hdone : w.pc = .done (.ok manifest)) :
    manifest = manifestOf name target ∧
      ∃ dir k, w.home.entry name = .directory dir ∧ dir.files.destination = .file k ∧
        dir.files.trusted k = true ∧ manifest.toVec = .ok (dir.files.content k) := by
  have hcreating : Creating name target w.home w.pc := by
    clear hdone
    induction hw with
    | refl => trivial
    | tail _ hstep ih => exact creating_step htarget ih hstep
  rw [hdone] at hcreating
  exact hcreating

lemma arguments_of_canCreate (h : CanCreate outside home name target) :
    ∃ found, verifyArguments outside name target = .ok found := by
  cases hargs : verifyArguments outside name target with
  | ok found => exact ⟨found, rfl⟩
  | error e => exact absurd h (Blocked.not_canCreate (.inl ⟨e, hargs⟩))

omit [Platform] in
lemma isPath_self (text : String) : (OsPath.utf8 text).isPath text = true :=
  beq_self_eq_true _

lemma load_created (hdecodes : ∀ r : WorkspaceRecord, DecodesCanonical r)
    (htarget : verifyTarget outside target = .ok target)
    (hw : Steps outside name target ⟨home, .verify⟩ w) (hdone : w.pc = .done (.ok manifest)) :
    loadWorkspace outside w.home name = .ok manifest ↔
      ∀ bytes, (manifestOf name target).toVec = .ok bytes → bytes.size ≤ maxRecordBytes := by
  obtain ⟨rfl, dir, k, hdir, hk, htrusted, hbytes⟩ := created_steps htarget hw hdone
  obtain ⟨found, hargs⟩ := arguments_of_canCreate ⟨w, _, hw, hdone⟩
  unfold verifyArguments at hargs
  rw [seq_ok, seq_ok] at hargs
  obtain ⟨hhome, hname, -⟩ := hargs
  have hopen := openWorkspaceDir_ok.mpr hdir
  cases target with
  | other raw => cases hbytes
  | utf8 text =>
    have hcontent : toVec (⟨workspaceSchema, name, text⟩ : WorkspaceRecord) =
        dir.files.content k := Except.ok.inj hbytes
    constructor
    · intro hload bytes hvec
      have hsame : toVec (⟨workspaceSchema, name, text⟩ : WorkspaceRecord) = bytes :=
        Except.ok.inj hvec
      unfold loadWorkspace at hload
      rw [seq_ok, seq_ok, hopen, ok_bind, bind_ok] at hload
      obtain ⟨-, -, record, hrecord, -⟩ := hload
      rw [readCanonicalJson_ok hdecodes, readExisting_ok] at hrecord
      obtain ⟨j, hj, -, hsize, -⟩ := hrecord
      rw [hk] at hj
      cases hj
      rw [← hsame, hcontent]
      exact hsize
    · intro hsmall
      have hread : readCanonicalJson dir.files = .ok ⟨workspaceSchema, name, text⟩ := by
        rw [readCanonicalJson_ok hdecodes, readExisting_ok]
        exact ⟨k, hk, htrusted, hsmall _ hbytes, hcontent.symm⟩
      unfold loadWorkspace
      rw [seq_ok, seq_ok, hopen, ok_bind, hread, ok_bind, seq_ok, failIf_ok,
        htarget, ok_bind, seq_ok, failIf_ok, isPath_self]
      exact ⟨hhome, hname, by simp, by simp, rfl⟩

/-- **A creation is all or nothing** exactly where the name is already that of a workspace with
    the target, so that the creation is refused; and **what it returns is what is loaded**
    exactly where the manifest is not longer than what is read. -/
theorem create_workspace_iff (outside : Outside) (home : Home) (name : String) (target : OsPath)
    (hdecodes : ∀ r : WorkspaceRecord, DecodesCanonical r)
    (htarget : verifyTarget outside target = .ok target) :
    ((AllOrNothing outside home name target ∧ CreatedLoads outside home name target) ↔
        Held outside home name target) ∧
      (CreatedLoads outside home name target ↔ (CanCreate outside home name target →
        ∀ bytes, (manifestOf name target).toVec = .ok bytes → bytes.size ≤ maxRecordBytes)) := by
  refine ⟨⟨?_, ?_⟩, ⟨?_, ?_⟩⟩
  · intro h
    by_cases hblocked : Blocked outside home name target
    · rcases h.1 _ Relation.ReflTransGen.refl with hcan | hloads
      · exact absurd hcan hblocked.not_canCreate
      · exact (loadsAs_iff hdecodes).mp hloads
    · -- a creation that goes ahead can stop between the directory and the manifest
      obtain ⟨w, hw, hcan, hloads⟩ := stopped_between hdecodes hblocked
      rcases h.1 w hw with h | h
      · exact absurd h hcan
      · exact absurd h hloads
  · intro hheld
    refine ⟨?_, ?_⟩
    · intro w hw
      rw [(blocked_steps hheld.blocked hw).1]
      exact .inr ((loadsAs_iff hdecodes).mpr hheld)
    · intro w manifest hw hdone
      exact absurd ⟨w, manifest, hw, hdone⟩ hheld.blocked.not_canCreate
  · intro hloads hcan
    obtain ⟨w, manifest, hw, hdone⟩ := hcan
    exact (load_created hdecodes htarget hw hdone).mp (hloads w manifest hw hdone)
  · intro hsmall w manifest hw hdone
    exact (load_created hdecodes htarget hw hdone).mpr (hsmall ⟨w, manifest, hw, hdone⟩)

end

/-! ## A home without workspaces -/

namespace WorkspaceSample

attribute [local instance] Platform.reference

def outside : Outside where
  verifyHome := .ok ()
  symlinkMetadata _ := .ok .directory
  canonicalize path := .ok path

def home : Home := ⟨.absent⟩

def target : OsPath := .utf8 "/srv/project"

lemma target_valid : verifyTarget outside target = .ok target := by
  have habsolute : target.isAbsolute = true := by decide
  unfold verifyTarget outside
  rw [habsolute]
  rfl

lemma not_blocked : ¬Blocked outside home "demo" target := by
  have hargs : verifyArguments outside "demo" target = .ok target := by
    unfold verifyArguments
    rw [seq_ok, seq_ok]
    refine ⟨rfl, ?_, target_valid⟩
    unfold validateName
    rw [failIf_ok]
    decide +kernel
  intro h
  rcases h with ⟨e, he⟩ | ⟨opened, ensured, hother⟩ | hentry
  · rw [hargs] at he
    cases he
  · cases hother
  · exact hentry rfl

/-- Both parts, on a home without workspaces. -/
theorem create_workspace_demo : verifyTarget outside target = .ok target ∧
      ((AllOrNothing outside home "demo" target ∧ CreatedLoads outside home "demo" target) ↔
        Held outside home "demo" target) :=
  ⟨target_valid,
    (create_workspace_iff outside home "demo" target decodesCanonical_reference target_valid).1⟩

/-- **The first creation on a home** can stop where its name can neither be created nor
    loaded. -/
theorem creation_not_all_or_nothing :
    verifyTarget outside target = .ok target ∧ ¬AllOrNothing outside home "demo" target := by
  refine ⟨target_valid, ?_⟩
  intro hall
  obtain ⟨w, hw, hcan, hloads⟩ := stopped_between decodesCanonical_reference not_blocked
  rcases hall w hw with h | h
  · exact hcan h
  · exact hloads h

end WorkspaceSample

end Tidex.Operator
