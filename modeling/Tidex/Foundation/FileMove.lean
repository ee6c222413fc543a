/-
  Foundation.FileMove — moving one private file, with crashes.
-/
import Tidex.Foundation.Directory
import Tidex.Lib.Durable

namespace Tidex

open Tidex.Lib Function Durable Sha256Digest

namespace FileMove

/-! ## Names and inodes -/

abbrev Inode := Nat × Nat

/-- What a path under the root leads to. -/
inductive Place where
  | absent
  | directory
  | file (inode : Inode)
  | symlink
  | special

/-- The names under the root, and the files that they lead to. -/
structure Volume where
  rootStat : FileStat
  place : List String → Place
  content : Inode → ByteArray
  stat : Inode → FileStat
  directoryMode : List String → Nat

namespace Volume

/-- Go from a directory through names that have to be directories. -/
def enter (v : Volume) : List String → List String → BrainResult Unit
  | _, [] => .ok ()
  | here, name :: names =>
    match v.place (here ++ [name]) with
    | .directory => v.enter (here ++ [name]) names
    | .absent => .error (.io .notFound)
    | _ => .error (.io .other)

def openConfinedRegularFile (v : Volume) (names : List String) : BrainResult Inode := do
  v.enter [] names.dropLast
  match v.place names with
  | .file inode => .ok inode
  | .absent => .error (.io .notFound)
  | .symlink => .error (.io .other)
  | _ => .error (integrity "private_file_not_regular")

def openPrivateReference (v : Volume) (names : List String) : BrainResult Inode := do
  let inode ← v.openConfinedRegularFile names
  validatePrivateFileStat v.rootStat (v.stat inode)
  return inode

def existingRegularFileIfPresent (v : Volume) (root raw : String) :
    BrainResult (Option (List String)) := do
  let names ← rootRelativePath root raw
  match v.openConfinedRegularFile names with
  | .ok _ => .ok (some names)
  | .error (.io .notFound) => .ok none
  | .error e => .error e

/-! ## Effects -/

def mkdir (v : Volume) (names : List String) : Volume :=
  { v with place := update v.place names .directory }

def fdSecureDir (v : Volume) (names : List String) : Volume :=
  { v with directoryMode := update v.directoryMode names 0o700 }

def fdSecureFile (v : Volume) (inode : Inode) : Volume :=
  { v with stat := update v.stat inode { v.stat inode with mode := 0o600 } }

def link (v : Volume) (names : List String) (inode : Inode) : Volume :=
  { v with place := update v.place names (.file inode) }

def unlink (v : Volume) (names : List String) : Volume :=
  { v with place := update v.place names .absent }

end Volume

/-! ## The move -/

/-- A program whose effects are made durable one by one. -/
abbrev Program (α : Type) := Durable Volume BrainError α

def makeDirectory (names : List String) : Program Unit := write fun v =>
  match v.place names with
  | .directory => .ok (v, ())
  | .absent => .ok (v.mkdir names, ())
  | _ => .error (integrity "private_file_parent_not_directory")

def ensureDirectories : List String → List String → Program Unit
  | _, [] => pure ()
  | here, name :: names => do
    makeDirectory (here ++ [name])
    write fun v => .ok (v.fdSecureDir (here ++ [name]), ())
    ensureDirectories (here ++ [name]) names

def ensurePrivateParent (root destination : String) : Program Unit := do
  let names ← (rootRelativePath root destination : BrainResult (List String))
  ensureDirectories [] names.dropLast

def linkInode (inode : Inode) (names : List String) : Program Unit := write fun v =>
  match v.place names with
  | .absent => .ok (v.link names inode, ())
  | .symlink => .error (.io .other)
  | .file other =>
    if other = inode then .ok (v, ())
    else .error (integrity "private_file_move_destination_already_exists")
  | _ => .error (integrity "private_file_move_destination_already_exists")

def unlinkInode (inode : Inode) (names : List String) : Program Unit := write fun v =>
  match v.place names with
  | .absent => .error (.io .notFound)
  | .symlink => .error (.io .other)
  | .file other =>
    if other = inode then .ok (v.unlink names, ())
    else .error (integrity "private_file_move_source_replaced_before_unlink")
  | _ => .error (integrity "private_file_move_source_replaced_before_unlink")

section

variable [Platform]

def verifyImmutableContent (root raw : String) (expected : Sha256Digest) : Program Unit :=
  write fun v => do
    let names ← rootRelativePath root raw
    let inode ← v.openPrivateReference names
    failIf (digestBytes (v.content inode) ≠ expected)
      (integrity "private_file_immutable_content_mismatch")
    return (v.fdSecureFile inode, ())

/-- The part of a move that leads up to both names. -/
def linkPrivateFile (root : String) (source : List String) (destination : String)
    (expected : Sha256Digest) : Program Inode := do
  let inode ← read fun v => v.openPrivateReference source
  read fun v => failIf (digestBytes (v.content inode) ≠ expected)
    (integrity "private_file_move_source_digest_mismatch")
  ensurePrivateParent root destination
  read fun v => v.enter [] source.dropLast
  let names ← (rootRelativePath root destination : BrainResult (List String))
  read fun v => v.enter [] names.dropLast
  linkInode inode names
  write fun v => .ok (v.fdSecureFile inode, ())
  return inode

def moveExistingFile (root : String) (source : List String) (destination : String)
    (expected : Sha256Digest) : Program Unit := do
  let inode ← linkPrivateFile root source destination expected
  unlinkInode inode source
  verifyImmutableContent root destination expected

def movePrivateFileTransactional (root source destination : String) (expected : Sha256Digest) :
    Program Unit := do
  failIf (Path.components source = Path.components destination)
    (invalid "private_file_move_source_equals_destination")
  let present ← read fun v => v.existingRegularFileIfPresent root source
  match present with
  | none => verifyImmutableContent root destination expected
  | some names => moveExistingFile root names destination expected

/-- A call that runs to its end, or stops after any of its effects. -/
def Attempt (root source destination : String) (expected : Sha256Digest) (v v' : Volume) : Prop :=
  v' ∈ (movePrivateFileTransactional root source destination expected).states v

/-- Any number of calls with the same arguments. -/
def Attempts (root source destination : String) (expected : Sha256Digest) :
    Volume → Volume → Prop :=
  Relation.ReflTransGen (Attempt root source destination expected)

end

/-! ## What effects keep -/

/-- Nothing that is there goes away. -/
structure Extends (v v' : Volume) : Prop where
  content : v'.content = v.content
  places : ∀ p, v.place p ≠ .absent → v'.place p = v.place p

namespace Extends

lemma refl (v : Volume) : Extends v v := ⟨rfl, fun _ _ => rfl⟩

lemma trans {v v' v'' : Volume} (h : Extends v v') (h' : Extends v' v'') : Extends v v'' := by
  refine ⟨h'.content.trans h.content, ?_⟩
  intro p hp
  have hsame := h.places p hp
  have hp' : v'.place p ≠ .absent := by
    rw [hsame]
    exact hp
  exact (h'.places p hp').trans hsame

lemma bind {α β : Type} {x : Program α} {f : α → Program β} (hx : Keeps Extends x)
    (hf : ∀ a, Keeps Extends (f a)) : Keeps Extends (x >>= f) := by
  refine Keeps.bind ?_ hx hf
  intro u v w h h'
  exact h.trans h'

lemma take {v : Volume} {names : List String} {place : Place} (h : v.place names = .absent) :
    Extends v { v with place := update v.place names place } := by
  refine ⟨rfl, ?_⟩
  intro p hp
  have hne : p ≠ names := by
    intro heq
    exact hp (heq ▸ h)
  exact update_of_ne hne _ _

end Extends

structure SameNames (v v' : Volume) : Prop where
  content : v'.content = v.content
  place : v'.place = v.place

variable {v v' : Volume}

lemma Extends.directory (h : Extends v v') {p : List String} (hp : v.place p = .directory) :
    v'.place p = .directory := by
  rw [h.places p (by rw [hp]; intro hcontra; cases hcontra), hp]

namespace SameNames

lemma refl (v : Volume) : SameNames v v := ⟨rfl, rfl⟩

lemma extend {v v' : Volume} (h : SameNames v v') : Extends v v' := by
  refine ⟨h.content, ?_⟩
  intro p _
  rw [h.place]

end SameNames

lemma makeDirectory_keeps (names : List String) : Keeps Extends (makeDirectory names) := by
  apply Keeps.write Extends.refl
  intro v v' a h
  cases hplace : v.place names with
  | directory =>
    rw [hplace] at h
    cases h
    exact Extends.refl v
  | absent =>
    rw [hplace] at h
    cases h
    exact Extends.take hplace
  | file inode =>
    rw [hplace] at h
    cases h
  | symlink =>
    rw [hplace] at h
    cases h
  | special =>
    rw [hplace] at h
    cases h

lemma ensureDirectories_keeps (names : List String) :
    ∀ here, Keeps Extends (ensureDirectories here names) := by
  induction names with
  | nil =>
    intro here
    exact Keeps.pure Extends.refl ()
  | cons name names ih =>
    intro here
    show Keeps Extends (makeDirectory (here ++ [name]) >>= fun _ => _)
    apply Extends.bind (makeDirectory_keeps _)
    intro _
    apply Extends.bind
    · apply Keeps.write Extends.refl
      intro v v' a h
      cases h
      exact ⟨rfl, fun _ _ => rfl⟩
    · intro _
      exact ih _

lemma ensurePrivateParent_keeps (root destination : String) :
    Keeps Extends (ensurePrivateParent root destination) := by
  show Keeps Extends (liftM (rootRelativePath root destination) >>= fun _ => _)
  apply Extends.bind (Keeps.liftM Extends.refl _)
  intro names
  exact ensureDirectories_keeps _ _

variable {inode : Inode} {names : List String}

lemma runs_linkInode (h : Runs (linkInode inode names) v () v') :
    v.place names = .absent ∧ v' = v.link names inode ∨ v.place names = .file inode ∧ v' = v := by
  have h := runs_write.mp h
  cases hplace : v.place names with
  | absent =>
    rw [hplace] at h
    cases h
    exact .inl ⟨rfl, rfl⟩
  | file other =>
    rw [hplace] at h
    by_cases hsame : other = inode
    · simp only [if_pos hsame] at h
      cases h
      exact .inr ⟨congrArg _ hsame, rfl⟩
    · simp only [if_neg hsame] at h
      cases h
  | directory | symlink | special =>
    rw [hplace] at h
    cases h

lemma linkInode_keeps (inode : Inode) (names : List String) :
    Keeps Extends (linkInode inode names) := by
  apply Keeps.write Extends.refl
  intro v v' a h
  rcases runs_linkInode (runs_write.mpr h) with ⟨hplace, rfl⟩ | ⟨-, rfl⟩
  · exact Extends.take hplace
  · exact Extends.refl _

lemma place_of_linkInode (h : Runs (linkInode inode names) v () v') :
    v'.place names = .file inode := by
  rcases runs_linkInode h with ⟨-, rfl⟩ | ⟨hplace, rfl⟩
  · exact update_self _ _ _
  · exact hplace

lemma runs_unlinkInode (h : Runs (unlinkInode inode names) v () v') : v' = v.unlink names := by
  have h := runs_write.mp h
  cases hplace : v.place names with
  | file other =>
    rw [hplace] at h
    by_cases hsame : other = inode
    · simp only [if_pos hsame] at h
      cases h
      rfl
    · simp only [if_neg hsame] at h
      cases h
  | directory | absent | symlink | special =>
    rw [hplace] at h
    cases h

lemma verifyImmutableContent_keeps [Platform] (root raw : String) (expected : Sha256Digest) :
    Keeps SameNames (verifyImmutableContent root raw expected) := by
  apply Keeps.write SameNames.refl
  intro v v' a h
  simp only [bind_ok, pure_ok] at h
  obtain ⟨names, -, inode, -, _, -, heq⟩ := h
  cases heq
  exact ⟨rfl, rfl⟩

/-! ## Before a name is removed -/

lemma enter_mono (h : ∀ p, v.place p = .directory → v'.place p = .directory) :
    ∀ {here : List String}, v.enter here names = .ok () → v'.enter here names = .ok () := by
  induction names with
  | nil =>
    intro here _
    rfl
  | cons name names ih =>
    intro here henter
    unfold Volume.enter at henter ⊢
    cases hplace : v.place (here ++ [name]) with
    | directory =>
      rw [hplace] at henter
      rw [h _ hplace]
      exact ih henter
    | absent =>
      rw [hplace] at henter
      cases henter
    | file inode =>
      rw [hplace] at henter
      cases henter
    | symlink =>
      rw [hplace] at henter
      cases henter
    | special =>
      rw [hplace] at henter
      cases henter

def Leads (v : Volume) (root raw : String) (inode : Inode) : Prop :=
  ∃ names, rootRelativePath root raw = .ok names ∧ v.enter [] names.dropLast = .ok () ∧
    v.place names = .file inode

lemma Leads.extend {root raw : String} (h : Leads v root raw inode) (hext : Extends v v') :
    Leads v' root raw inode := by
  obtain ⟨names, hnames, henter, hplace⟩ := h
  refine ⟨names, hnames, enter_mono (fun _ => hext.directory) henter, ?_⟩
  rw [hext.places names (by rw [hplace]; intro hcontra; cases hcontra), hplace]

lemma openConfinedRegularFile_ok {v : Volume} (h : v.openConfinedRegularFile names = .ok inode) :
    v.enter [] names.dropLast = .ok () ∧ v.place names = .file inode := by
  unfold Volume.openConfinedRegularFile at h
  obtain ⟨_, henter, h⟩ := bind_ok.mp h
  refine ⟨henter, ?_⟩
  cases hplace : v.place names with
  | file other =>
    rw [hplace] at h
    cases h
    rfl
  | absent =>
    rw [hplace] at h
    cases h
  | directory =>
    rw [hplace] at h
    cases h
  | symlink =>
    rw [hplace] at h
    cases h
  | special =>
    rw [hplace] at h
    cases h

lemma openPrivateReference_ok {v : Volume} (h : v.openPrivateReference names = .ok inode) :
    v.openConfinedRegularFile names = .ok inode := by
  unfold Volume.openPrivateReference at h
  simp only [bind_ok, pure_ok] at h
  obtain ⟨other, hopen, _, -, heq⟩ := h
  rw [hopen, heq]

section

variable [Platform] {root destination : String} {source : List String} {expected : Sha256Digest}

lemma linkPrivateFile_keeps (root : String) (source : List String) (destination : String)
    (expected : Sha256Digest) :
    Keeps Extends (linkPrivateFile root source destination expected) := by
  unfold linkPrivateFile
  apply Extends.bind (Keeps.read Extends.refl _)
  intro inode
  apply Extends.bind (Keeps.read Extends.refl _)
  intro _
  apply Extends.bind (ensurePrivateParent_keeps root destination)
  intro _
  apply Extends.bind (Keeps.read Extends.refl _)
  intro _
  apply Extends.bind (Keeps.liftM Extends.refl _)
  intro names
  apply Extends.bind (Keeps.read Extends.refl _)
  intro _
  apply Extends.bind (linkInode_keeps inode names)
  intro _
  apply Extends.bind
  · apply Keeps.write Extends.refl
    intro v v' a h
    cases h
    exact ⟨rfl, fun _ _ => rfl⟩
  · intro _
    exact Keeps.pure Extends.refl inode

/-- Before a name is removed, both names lead to the file, whose content is the one that is
    expected. -/
lemma runs_linkPrivateFile {v v' : Volume} {inode : Inode}
    (h : Runs (linkPrivateFile root source destination expected) v inode v') :
    v.openConfinedRegularFile source = .ok inode ∧
      digestBytes (v.content inode) = expected ∧ Leads v' root destination inode := by
  unfold linkPrivateFile at h
  simp only [runs_bind, runs_read, runs_liftM, runs_pure, failIf_ok, not_not] at h
  obtain ⟨opened, _, ⟨hopen, rfl⟩, _, _, ⟨hdigest, rfl⟩, _, v₁, hparents, _, _, ⟨-, rfl⟩, names, _,
    ⟨hnames, rfl⟩, _, _, ⟨henter, rfl⟩, _, v₂, hlink, _, v₃, hsecure, rfl, rfl⟩ := h
  have hplace := place_of_linkInode hlink
  have hext : Extends v₁ v₂ := by
    have hfinal := (linkInode_keeps opened names).final v₁
    rw [hlink.2] at hfinal
    exact hfinal
  have hsecure := runs_write.mp hsecure
  cases hsecure
  refine ⟨openPrivateReference_ok hopen, hdigest, names, hnames, ?_, hplace⟩
  have hsame : Extends v₂ (v₂.fdSecureFile opened) := ⟨rfl, fun _ _ => rfl⟩
  exact enter_mono (fun _ => (hext.trans hsame).directory) henter

end

/-! ## Stopped calls -/

lemma components_eq {root a b : String} (ha : rootRelativePath root a = .ok names)
    (hb : rootRelativePath root b = .ok names) : Path.components a = Path.components b := by
  rw [components_of_relative ha, components_of_relative hb]

section

variable {root source destination : String} {expected : Sha256Digest} {v v' v₀ : Volume}
  {inode : Inode}

lemma Leads.same (h : Leads v root source inode) (hsame : SameNames v v') :
    Leads v' root source inode :=
  h.extend hsame.extend

variable {names : List String}

lemma existing_some (h : v.existingRegularFileIfPresent root source = .ok (some names)) :
    rootRelativePath root source = .ok names := by
  unfold Volume.existingRegularFileIfPresent at h
  obtain ⟨found, hfound, h⟩ := bind_ok.mp h
  cases hopen : v.openConfinedRegularFile found with
  | ok inode =>
    rw [hopen] at h
    cases h
    exact hfound
  | error e =>
    rw [hopen] at h
    cases e with
    | io kind => cases kind <;> cases h
    | invalid code => cases h
    | integrity code => cases h
    | numerical code => cases h
    | json => cases h

lemma existing_of_leads (h : Leads v root source inode) :
    ∃ names, v.existingRegularFileIfPresent root source = .ok (some names) ∧
      v.openConfinedRegularFile names = .ok inode := by
  obtain ⟨names, hnames, henter, hplace⟩ := h
  have hopen : v.openConfinedRegularFile names = .ok inode := by
    unfold Volume.openConfinedRegularFile
    rw [henter, hplace]
    rfl
  refine ⟨names, ?_, hopen⟩
  unfold Volume.existingRegularFileIfPresent
  rw [hnames, ok_bind, hopen]

lemma existing_of_absent (hnames : rootRelativePath root source = .ok names)
    (henter : v.enter [] names.dropLast = .ok ()) (hplace : v.place names = .absent) :
    v.existingRegularFileIfPresent root source = .ok none := by
  have hopen : v.openConfinedRegularFile names = .error (.io .notFound) := by
    unfold Volume.openConfinedRegularFile
    rw [henter, hplace]
    rfl
  unfold Volume.existingRegularFileIfPresent
  rw [hnames, ok_bind, hopen]

lemma existing_absent_ne (hleads : Leads v₀ root source inode)
    (hothers : ∀ p, v₀.place p ≠ .absent → rootRelativePath root source ≠ .ok p →
      v.place p = v₀.place p)
    (habsent : ∀ names, rootRelativePath root source = .ok names → v.place names = .absent)
    {names : List String} : v.existingRegularFileIfPresent root source ≠ .ok (some names) := by
  obtain ⟨found, hfound, henter, hplace⟩ := hleads
  have hkept : ∀ p, v₀.place p = .directory → v.place p = .directory := by
    intro p hp
    have hne : rootRelativePath root source ≠ .ok p := by
      intro heq
      rw [hfound] at heq
      cases heq
      rw [hp] at hplace
      cases hplace
    rw [hothers p (by rw [hp]; intro hcontra; cases hcontra) hne, hp]
  rw [existing_of_absent hfound (enter_mono hkept henter) (habsent found hfound)]
  intro hcontra
  cases hcontra

/-- A call has removed the name of its source, after both names led to the file. -/
structure Removed (root source destination : String) (v v' : Volume) : Prop where
  apart : Path.components source ≠ Path.components destination
  removed : ∃ names inode v₁,
    v.existingRegularFileIfPresent root source = .ok (some names) ∧
      v.openConfinedRegularFile names = .ok inode ∧ Extends v v₁ ∧
      Leads v₁ root destination inode ∧ SameNames (v₁.unlink names) v'

variable [Platform]

lemma states_unlink {names : List String} {v₁ : Volume}
    (h : v' ∈ (do
      unlinkInode inode names
      verifyImmutableContent root destination expected).states v₁) :
    v' = v₁ ∨ SameNames (v₁.unlink names) v' := by
  rcases mem_states_bind_iff.mp h with hunlink | ⟨_, v₂, hunlink, hverify⟩
  · rcases mem_states_write.mp hunlink with heq | ⟨_, hwrite⟩
    · exact .inl heq
    · refine .inr ?_
      rw [runs_unlinkInode (runs_write.mpr hwrite)]
      exact SameNames.refl _
  · refine .inr ?_
    have hsame := verifyImmutableContent_keeps root destination expected v₂ v' hverify
    rw [runs_unlinkInode hunlink] at hsame
    exact hsame

/-- What a call can leave behind, wherever it stops. -/
lemma attempt_cases (h : Attempt root source destination expected v v') : SameNames v v' ∨
      (∃ names, v.existingRegularFileIfPresent root source = .ok (some names) ∧ Extends v v') ∨
      Removed root source destination v v' := by
  unfold Attempt movePrivateFileTransactional at h
  rcases states_after_read h with rfl | ⟨_, hcheck, h⟩
  · exact .inl (SameNames.refl _)
  have hapart := failIf_ok.mp hcheck
  rcases states_after_read h with rfl | ⟨present, hpresent, h⟩
  · exact .inl (SameNames.refl _)
  cases present with
  | none => exact .inl (verifyImmutableContent_keeps root destination expected v v' h)
  | some names =>
    rcases mem_states_bind_iff.mp h with hlink | ⟨inode, v₁, hlink, h⟩
    · have hext := linkPrivateFile_keeps root names destination expected v v' hlink
      exact .inr (.inl ⟨names, hpresent, hext⟩)
    have hext := linkPrivateFile_keeps root names destination expected v v₁ hlink.mem_states
    obtain ⟨hopen, -, hleads⟩ := runs_linkPrivateFile hlink
    rcases states_unlink h with heq | hsame
    · rw [heq]
      exact .inr (.inl ⟨names, hpresent, hext⟩)
    · exact .inr (.inr ⟨hapart, names, inode, v₁, hpresent, hopen, hext, hleads, hsame⟩)

lemma runs_move
    (h : Runs (movePrivateFileTransactional root source destination expected) v () v') :
    (v.existingRegularFileIfPresent root source = .ok none ∧ SameNames v v') ∨
      Removed root source destination v v' := by
  unfold movePrivateFileTransactional at h
  obtain ⟨_, _, hrun, h⟩ := runs_bind.mp h
  obtain ⟨hcheck, rfl⟩ := runs_liftM.mp hrun
  have hapart := failIf_ok.mp hcheck
  obtain ⟨present, _, hlook, h⟩ := runs_bind.mp h
  obtain ⟨hpresent, rfl⟩ := runs_read.mp hlook
  cases present with
  | none =>
    exact .inl ⟨hpresent,
      verifyImmutableContent_keeps root destination expected v v' h.mem_states⟩
  | some names =>
    obtain ⟨inode, v₁, hlink, h⟩ := runs_bind.mp h
    have hext := linkPrivateFile_keeps root names destination expected v v₁ hlink.mem_states
    obtain ⟨hopen, -, hleads⟩ := runs_linkPrivateFile hlink
    obtain ⟨_, v₂, hunlink, hverify⟩ := runs_bind.mp h
    have hsame := verifyImmutableContent_keeps root destination expected v₂ v' hverify.mem_states
    rw [runs_unlinkInode hunlink] at hsame
    exact .inr ⟨hapart, names, inode, v₁, hpresent, hopen, hext, hleads, hsame⟩

/-- The invariant of any number of stopped calls. -/
structure Recoverable (root source destination : String) (inode : Inode) (v₀ v : Volume) :
    Prop where
  content : v.content = v₀.content
  others : ∀ p, v₀.place p ≠ .absent → rootRelativePath root source ≠ .ok p →
    v.place p = v₀.place p
  reachable : Leads v root source inode ∨
    (∀ names, rootRelativePath root source = .ok names → v.place names = .absent) ∧
      Leads v root destination inode

omit [Platform] in
/-- Once the name is removed it stays removed, and the file is under the other one. -/
lemma Removed.gone (hleads : Leads v root source inode)
    (h : Removed root source destination v v') :
    (∀ names, rootRelativePath root source = .ok names → v'.place names = .absent) ∧
      Leads v' root destination inode := by
  obtain ⟨names, other, v₁, hpresent, hopen, hext, hdest, hsame⟩ := h.removed
  obtain ⟨names', hpresent', hopen'⟩ := existing_of_leads hleads
  have hnames : names = names' := by
    rw [hpresent] at hpresent'
    cases hpresent'
    rfl
  subst hnames
  have hinode : other = inode := by
    rw [hopen] at hopen'
    cases hopen'
    rfl
  subst hinode
  have hsource := existing_some hpresent
  refine ⟨?_, ?_⟩
  · intro names' hnames'
    rw [hsource] at hnames'
    cases hnames'
    rw [hsame.place]
    exact update_self _ _ _
  · obtain ⟨found, hfound, henter, hplace⟩ := hdest
    have hfile : v₁.place names = .file other := by
      obtain ⟨-, hfile⟩ := openConfinedRegularFile_ok hopen
      rw [hext.places names (by rw [hfile]; intro hcontra; cases hcontra), hfile]
    -- the two names differ, as the paths do
    have hne : found ≠ names := by
      intro heq
      rw [heq] at hfound
      exact h.apart (components_eq hsource hfound)
    have hkept : ∀ p, v₁.place p = .directory → (v₁.unlink names).place p = .directory := by
      intro p hp
      have hother : p ≠ names := by
        intro heq
        rw [heq, hfile] at hp
        cases hp
      show update v₁.place names .absent p = .directory
      rw [update_of_ne hother, hp]
    refine Leads.same ⟨found, hfound, enter_mono hkept henter, ?_⟩ hsame
    show update v₁.place names .absent found = .file other
    rw [update_of_ne hne, hplace]

lemma Recoverable.attempt (hleads₀ : Leads v₀ root source inode)
    (hinv : Recoverable root source destination inode v₀ v)
    (h : Attempt root source destination expected v v') :
    Recoverable root source destination inode v₀ v' := by
  have hothers : Extends v v' → ∀ p, v₀.place p ≠ .absent → rootRelativePath root source ≠ .ok p →
      v'.place p = v₀.place p := by
    intro hext p hp hne
    have hsame := hinv.others p hp hne
    have hp' : v.place p ≠ .absent := by
      rw [hsame]
      exact hp
    exact (hext.places p hp').trans hsame
  rcases attempt_cases h with hsame | ⟨names, hpresent, hext⟩ | hremoved
  · refine ⟨hsame.content.trans hinv.content, hothers hsame.extend, ?_⟩
    rcases hinv.reachable with hleads | ⟨habsent, hleads⟩
    · exact .inl (hleads.same hsame)
    · refine .inr ⟨?_, hleads.same hsame⟩
      intro names hnames
      rw [hsame.place]
      exact habsent names hnames
  · refine ⟨hext.content.trans hinv.content, hothers hext, ?_⟩
    rcases hinv.reachable with hleads | ⟨habsent, -⟩
    · exact .inl (hleads.extend hext)
    · exact absurd hpresent (existing_absent_ne hleads₀ hinv.others habsent)
  · rcases hinv.reachable with hleads | ⟨habsent, -⟩
    · refine ⟨?_, ?_, .inr (hremoved.gone hleads)⟩
      · obtain ⟨names, other, v₁, -, -, hext, -, hsame⟩ := hremoved.removed
        exact hsame.content.trans (hext.content.trans hinv.content)
      · intro p hp hne
        obtain ⟨names, other, v₁, hpresent, -, hext, -, hsame⟩ := hremoved.removed
        have hold := hinv.others p hp hne
        have hother : p ≠ names := by
          intro heq
          exact hne (heq ▸ existing_some hpresent)
        rw [hsame.place]
        show update v₁.place names .absent p = v₀.place p
        rw [update_of_ne hother, hext.places p (by rw [hold]; exact hp), hold]
    · obtain ⟨names, other, v₁, hpresent, -⟩ := hremoved.removed
      exact absurd hpresent (existing_absent_ne hleads₀ hinv.others habsent)

/-- Any number of stopped calls keeps the invariant. -/
lemma Recoverable.attempts (hleads₀ : Leads v₀ root source inode)
    (h : Attempts root source destination expected v₀ v) :
    Recoverable root source destination inode v₀ v := by
  induction h with
  | refl => exact ⟨rfl, fun _ _ _ => rfl, .inl hleads₀⟩
  | tail _ hstep ih => exact ih.attempt hleads₀ hstep

end

end FileMove

namespace FileMoveSample

attribute [local instance] Platform.reference

def volume : FileMove.Volume where
  rootStat := ⟨0, 0o700⟩
  place names := if names = ["a"] then .file (1, 2) else .absent
  content _ := ByteArray.empty
  stat _ := ⟨0, 0o600⟩
  directoryMode _ := 0o700

lemma leads : FileMove.Leads volume "/r" "/r/a" (1, 2) :=
  ⟨["a"], by decide +kernel, rfl, rfl⟩

end FileMoveSample

end Tidex
