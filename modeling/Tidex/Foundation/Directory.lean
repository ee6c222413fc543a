/-
  Foundation.Directory — the identity of a private directory.
-/
import Tidex.Foundation.Artifact
import Tidex.Foundation.Reference
import Tidex.Knowledge.Identity
import Tidex.Lib.Ascending
import Tidex.Lib.Frame

namespace Tidex

open Tidex.Lib List Sha256Digest ByteArray

/-! ## Trees -/

abbrev RawPath := List UInt8

def separator : UInt8 := 47

structure FileStat where
  uid : Nat
  mode : Nat

/-- What is under a name; a directory has a device and an inode. -/
inductive PrivateNode where
  | directory (inode : Nat × Nat) (children : List (RawPath × PrivateNode))
  | regularFile (stat : FileStat) (content : ByteArray)
  | symlink
  | special

abbrev Children := List (RawPath × PrivateNode)

/-- What a relative path of names leads to. -/
inductive Under : Children → List RawPath → PrivateNode → Prop where
  | here {children : Children} {name : RawPath} {node : PrivateNode}
      (h : (name, node) ∈ children) : Under children [name] node
  | deeper {children inner : Children} {name : RawPath} {inode : Nat × Nat}
      {path : List RawPath} {node : PrivateNode}
      (h : (name, .directory inode inner) ∈ children) (hin : Under inner path node) :
      Under children (name :: path) node

/-- What a file system promises: names that are no paths, distinct in each directory, and sizes
    that are machine words. -/
structure WellNamed (children : Children) : Prop where
  names : ∀ path node, Under children path node →
    ∀ name ∈ path, name ≠ [] ∧ separator ∉ name ∧ name.length ≤ 255
  distinct : (children.map Prod.fst).Nodup
  inner : ∀ path inode inner, Under children path (.directory inode inner) →
    (inner.map Prod.fst).Nodup
  sizes : ∀ path stat content, Under children path (.regularFile stat content) →
    content.size < 2 ^ 63

/-! ## Entries -/

structure PrivateTreeEntry where
  relativePath : RawPath
  kind : UInt8
  fileSize : Nat
  fileSha256 : Option Sha256Digest

def directoryKind : UInt8 := 100
def fileKind : UInt8 := 102

/-- An entry whose kind tells whether it has a digest, with lengths that are machine words. -/
structure PrivateTreeEntry.Wf (e : PrivateTreeEntry) : Prop where
  path : e.relativePath.length < 2 ^ 64
  size : e.fileSize < 2 ^ 64
  kind : e.kind = if e.fileSha256.isSome then fileKind else directoryKind

def rawBytes (raw : RawPath) : ByteArray := ⟨raw.toArray⟩

def digestBytesOf : Option Sha256Digest → ByteArray
  | none => ByteArray.empty
  | some digest => digest.hex.toByteArray

def encodeEntry (e : PrivateTreeEntry) : ByteArray :=
  rawBytes [e.kind] ++ (frame (rawBytes e.relativePath) ++
    (Lib.be64 e.fileSize ++ digestBytesOf e.fileSha256))

def encodeEntries (entries : List PrivateTreeEntry) : ByteArray :=
  entries.foldr (fun e rest => encodeEntry e ++ rest) ByteArray.empty

/-! ## The inspection -/

/-- The order in which the names of the directory at a relative path are read. -/
abbrev Enumeration := RawPath → Children → Children

def sortByName (children : Children) : Children :=
  children.insertionSort fun a b => (compare a.1 b.1).isLE = true

def sortByPath (entries : List PrivateTreeEntry) : List PrivateTreeEntry :=
  entries.insertionSort fun a b => (compare a.relativePath b.relativePath).isLE = true

def joinName (relative name : RawPath) : RawPath :=
  if relative = [] then name else relative ++ separator :: name

def validatePrivateFileStat (root file : FileStat) : BrainResult Unit :=
  failIf (file.uid ≠ root.uid ∨ file.mode &&& 0o7002 ≠ 0
      ∨ (file.mode &&& 0o020 ≠ 0 ∧ root.mode &&& 0o070 ≠ 0))
    (integrity "private_file_permissions_or_owner_invalid")

def privateTreeMaxDepth : Nat := 256

/-- What an inspection has collected, and the directories that it has entered. -/
structure TreePass where
  entries : List PrivateTreeEntry
  visited : List (Nat × Nat)

def TreePass.push (pass : TreePass) (e : PrivateTreeEntry) : TreePass :=
  { pass with entries := pass.entries ++ [e] }

def directoryEntry (relative : RawPath) : PrivateTreeEntry := ⟨relative, directoryKind, 0, none⟩

section

variable [Platform]

def fileEntry (relative : RawPath) (content : ByteArray) : PrivateTreeEntry :=
  ⟨relative, fileKind, content.size, some (digestBytes content)⟩

/-- One name of a directory, where `enter` collects a directory below. -/
def collectChild (root : FileStat)
    (enter : (Nat × Nat) → Children → RawPath → TreePass → BrainResult TreePass)
    (relative : RawPath) (pass : TreePass) (child : RawPath × PrivateNode) :
    BrainResult TreePass :=
  match child.2 with
  | .directory inode children =>
    enter inode children (joinName relative child.1)
      (pass.push (directoryEntry (joinName relative child.1)))
  | .regularFile stat content => do
    validatePrivateFileStat root stat
    return pass.push (fileEntry (joinName relative child.1) content)
  | .symlink => .error (integrity "private_directory_tree_symlink_forbidden")
  | .special => .error (integrity "private_directory_tree_special_file_forbidden")

/-- Collect a directory, with as many levels left as are given. -/
def collectTree (root : FileStat) (enumerate : Enumeration) :
    Nat → (Nat × Nat) → Children → RawPath → TreePass → BrainResult TreePass
  | 0, _, _, _, _ => .error (invalid "private_directory_tree_depth_limit_exceeded")
  | levels + 1, inode, children, relative, pass => do
    failIf (inode ∈ pass.visited) (integrity "private_directory_tree_cycle_or_alias")
    (sortByName (enumerate relative children)).foldlM
      (collectChild root (collectTree root enumerate levels) relative)
      { pass with visited := inode :: pass.visited }

structure PrivateDirectoryIdentity where
  treeSha256 : Sha256Digest
  entryCount : Nat
  regularFileCount : Nat
  totalFileBytes : Nat
  deriving DecidableEq

def tallyEntry (tally : Nat × Nat) (e : PrivateTreeEntry) : BrainResult (Nat × Nat) :=
  match e.fileSha256 with
  | none => .ok tally
  | some _ => do
    let count ← checkedAdd u64Values tally.1 1 (invalid "private_directory_tree_count_overflow")
    let total ← checkedAdd u64Values tally.2 e.fileSize
      (invalid "private_directory_tree_size_overflow")
    return (count, total)

def treePreimage (entries : List PrivateTreeEntry) : ByteArray :=
  "TIDEX:PRIVATE-DIRECTORY-TREE:v1\x00".toByteArray ++ encodeEntries entries

/-- The identity of the directory with some children. -/
def inspectChildren (root : FileStat) (enumerate : Enumeration) (inode : Nat × Nat)
    (children : Children) : BrainResult PrivateDirectoryIdentity := do
  let pass ← collectTree root enumerate (privateTreeMaxDepth + 1) inode children [] ⟨[], []⟩
  let entries := sortByPath pass.entries
  let tally ← entries.foldlM tallyEntry (0, 0)
  return {
    treeSha256 := digestBytes (treePreimage entries)
    entryCount := entries.length
    regularFileCount := tally.1
    totalFileBytes := tally.2 }

/-- Open the directory that some names lead to, without following a link. -/
def openPrivateDir : (Nat × Nat) → Children → List RawPath → BrainResult ((Nat × Nat) × Children)
  | inode, children, [] => .ok (inode, children)
  | _, children, name :: names =>
    match children.find? fun child => child.1 = name with
    | none => .error (.io .notFound)
    | some (_, .directory inode inner) => openPrivateDir inode inner names
    | some _ => .error (.io .other)

def inspectPrivateDirectory (root : FileStat) (enumerate : Enumeration) (rootInode : Nat × Nat)
    (tree : Children) (relative : List RawPath) : BrainResult PrivateDirectoryIdentity := do
  failIf (relative = []) (invalid "private_file_path_not_confined")
  let (inode, children) ← openPrivateDir rootInode tree relative
  inspectChildren root enumerate inode children

end

/-! ## Entries are told apart -/

lemma size_digestText (digest : Sha256Digest) : digest.hex.toByteArray.size = 64 := by
  have htext : digest.hex.toByteArray = Json.encodeText digest.hex.toList := by
    unfold Json.encodeText
    rw [String.ofList_toList]
  rw [htext, Json.size_encodeText, Knowledge.Sha256Digest.textSize_hex]

lemma rawBytes_injective : Function.Injective rawBytes := by
  intro a b h
  have harrays := congrArg (fun bytes : ByteArray => bytes.data.toList) h
  simpa [rawBytes] using harrays

/-- An entry is read off the front of what follows. -/
lemma encodeEntry_append_inj {a b : PrivateTreeEntry} (ha : a.Wf) (hb : b.Wf)
    {x y : ByteArray} (h : encodeEntry a ++ x = encodeEntry b ++ y) : a = b ∧ x = y := by
  unfold encodeEntry at h
  simp only [ByteArray.append_assoc] at h
  obtain ⟨hkind, h⟩ := append_inj_of_size (a := rawBytes [a.kind]) (b := rawBytes [b.kind]) rfl h
  have hsame : a.kind = b.kind := by
    have hlists := rawBytes_injective hkind
    simpa using hlists
  obtain ⟨hpath, h⟩ := frame_append_inj (a := rawBytes a.relativePath)
    (b := rawBytes b.relativePath) ha.path hb.path h
  have hwords : (Lib.be64 a.fileSize).size = (Lib.be64 b.fileSize).size := by
    rw [size_be64, size_be64]
  obtain ⟨hsize, h⟩ := append_inj_of_size hwords h
  have hpath' := rawBytes_injective hpath
  have hsize' := be64_inj ha.size hb.size hsize
  have hkinds : fileKind ≠ directoryKind := by decide
  have hkindA := ha.kind
  have hkindB := hb.kind
  -- the kind tells whether a digest follows
  cases hdigestA : a.fileSha256 with
  | none =>
    cases hdigestB : b.fileSha256 with
    | none =>
      rw [hdigestA, hdigestB] at h
      refine ⟨?_, ?_⟩
      · obtain ⟨_, _, _, _⟩ := a
        obtain ⟨_, _, _, _⟩ := b
        simp_all
      · simpa [digestBytesOf] using h
    | some digest =>
      rw [hdigestA] at hkindA
      rw [hdigestB] at hkindB
      exact absurd (hkindB.symm.trans (hsame.symm.trans hkindA)) hkinds
  | some digest =>
    cases hdigestB : b.fileSha256 with
    | none =>
      rw [hdigestA] at hkindA
      rw [hdigestB] at hkindB
      exact absurd (hkindA.symm.trans (hsame.trans hkindB)) hkinds
    | some other =>
      rw [hdigestA, hdigestB] at h
      have hsizes : digest.hex.toByteArray.size = other.hex.toByteArray.size := by
        rw [size_digestText, size_digestText]
      obtain ⟨hdigest, hrest⟩ := append_inj_of_size hsizes h
      have hhex : digest = other :=
        hex_injective (String.toByteArray_inj.mp hdigest)
      refine ⟨?_, hrest⟩
      obtain ⟨_, _, _, _⟩ := a
      obtain ⟨_, _, _, _⟩ := b
      simp_all

lemma size_encodeEntry_pos (e : PrivateTreeEntry) : 0 < (encodeEntry e).size := by
  unfold encodeEntry
  rw [size_append]
  have hone : (rawBytes [e.kind]).size = 1 := rfl
  omega

lemma encodeEntries_injective {xs ys : List PrivateTreeEntry} (hxs : ∀ e ∈ xs, e.Wf)
    (hys : ∀ e ∈ ys, e.Wf) (h : encodeEntries xs = encodeEntries ys) : xs = ys := by
  induction xs generalizing ys with
  | nil =>
    cases ys with
    | nil => rfl
    | cons y ys =>
      have hsize := congrArg size h
      have hpos := size_encodeEntry_pos y
      rw [encodeEntries, encodeEntries, foldr_nil, foldr_cons, size_append]
        at hsize
      have hempty : empty.size = 0 := rfl
      omega
  | cons x xs ih =>
    cases ys with
    | nil =>
      have hsize := congrArg size h
      have hpos := size_encodeEntry_pos x
      rw [encodeEntries, encodeEntries, foldr_nil, foldr_cons, size_append]
        at hsize
      have hempty : empty.size = 0 := rfl
      omega
    | cons y ys =>
      rw [forall_mem_cons] at hxs hys
      obtain ⟨hhead, htail⟩ := encodeEntry_append_inj hxs.1 hys.1 h
      rw [hhead, ih hxs.2 hys.2 htail]

/-! ## What an inspection collects -/

/-- What is compared of two trees: a directory, or a file with its content. -/
inductive PrivateObject where
  | directory
  | regularFile (content : ByteArray)

def PrivateNode.object : PrivateNode → Option PrivateObject
  | .directory _ _ => some .directory
  | .regularFile _ content => some (.regularFile content)
  | .symlink => none
  | .special => none

def Holds (children : Children) (path : List RawPath) (object : PrivateObject) : Prop :=
  ∃ node, Under children path node ∧ node.object = some object

section

variable [Platform]

def PrivateObject.entry (relative : RawPath) : PrivateObject → PrivateTreeEntry
  | .directory => directoryEntry relative
  | .regularFile content => fileEntry relative content

/-- What collecting some children adds. -/
structure Collected (children : Children) (relative : RawPath) (levels : Nat)
    (pass pass' : TreePass) : Prop where
  mem : ∀ e, e ∈ pass'.entries ↔ e ∈ pass.entries ∨
    ∃ path object, Holds children path object ∧ e = object.entry (path.foldl joinName relative)
  depth : ∀ path node, Under children path node → path.length ≤ levels
  plain : ∀ path node, Under children path node → ∃ object, node.object = some object

variable {root : FileStat} {enumerate : Enumeration} {children : Children} {path : List RawPath}

section

omit [Platform]

lemma holds_cons {child : RawPath × PrivateNode} {object : PrivateObject} :
    Holds (child :: children) path object ↔
      Holds [child] path object ∨ Holds children path object := by
  constructor
  · intro h
    obtain ⟨node, hunder, hobject⟩ := h
    cases hunder with
    | here hmem =>
      rcases mem_cons.mp hmem with hmem | hmem
      · exact .inl ⟨node, .here (mem_singleton.mpr hmem), hobject⟩
      · exact .inr ⟨node, .here hmem, hobject⟩
    | deeper hmem hin =>
      rcases mem_cons.mp hmem with hmem | hmem
      · exact .inl ⟨node, .deeper (mem_singleton.mpr hmem) hin, hobject⟩
      · exact .inr ⟨node, .deeper hmem hin, hobject⟩
  · intro h
    rcases h with ⟨node, hunder, hobject⟩ | ⟨node, hunder, hobject⟩
    · refine ⟨node, ?_, hobject⟩
      cases hunder with
      | here hmem => exact .here (mem_cons.mpr (.inl (mem_singleton.mp hmem)))
      | deeper hmem hin =>
        exact .deeper (mem_cons.mpr (.inl (mem_singleton.mp hmem))) hin
    · refine ⟨node, ?_, hobject⟩
      cases hunder with
      | here hmem => exact .here (mem_cons_of_mem _ hmem)
      | deeper hmem hin => exact .deeper (mem_cons_of_mem _ hmem) hin

lemma under_of_mem {node : PrivateNode} (h : Under children path node) :
    ∃ child ∈ children, Under [child] path node := by
  cases h with
  | here hmem => exact ⟨_, hmem, .here (mem_singleton.mpr rfl)⟩
  | deeper hmem hin => exact ⟨_, hmem, .deeper (mem_singleton.mpr rfl) hin⟩

end

variable {levels : Nat} {relative : RawPath} {pass pass' : TreePass}

lemma collectChild_spec {levels : Nat} {relative : RawPath} {pass pass' : TreePass}
    {child : RawPath × PrivateNode} (henter : ∀ inode children relative pass pass',
      collectTree root enumerate levels inode children relative pass = .ok pass' →
        Collected children relative levels pass pass')
    (h : collectChild root (collectTree root enumerate levels) relative pass child = .ok pass') :
    Collected [child] relative (levels + 1) pass pass' := by
  obtain ⟨name, node⟩ := child
  cases node with
  | directory inode inner =>
    have hinner := henter inode inner _ _ _ h
    refine ⟨?_, ?_, ?_⟩
    · intro e
      rw [hinner.mem]
      show e ∈ pass.entries ++ [directoryEntry (joinName relative name)] ∨ _ ↔ _
      rw [mem_append, mem_singleton, or_assoc]
      apply or_congr_right
      constructor
      · intro hsome
        rcases hsome with hself | ⟨path, object, ⟨below, hunder, hobject⟩, he⟩
        · exact ⟨[name], .directory, ⟨_, .here (mem_singleton.mpr rfl), rfl⟩, hself⟩
        · exact ⟨name :: path, object,
            ⟨below, .deeper (mem_singleton.mpr rfl) hunder, hobject⟩, he⟩
      · intro hsome
        obtain ⟨path, object, ⟨below, hunder, hobject⟩, he⟩ := hsome
        cases hunder with
        | here hmem =>
          cases mem_singleton.mp hmem
          cases hobject
          exact .inl he
        | deeper hmem hin =>
          cases mem_singleton.mp hmem
          exact .inr ⟨_, object, ⟨below, hin, hobject⟩, he⟩
    · intro path below hunder
      cases hunder with
      | here hmem =>
        show 1 ≤ levels + 1
        omega
      | deeper hmem hin =>
        cases mem_singleton.mp hmem
        have hdepth := hinner.depth _ _ hin
        rw [length_cons]
        omega
    · intro path below hunder
      cases hunder with
      | here hmem =>
        cases mem_singleton.mp hmem
        exact ⟨.directory, rfl⟩
      | deeper hmem hin =>
        cases mem_singleton.mp hmem
        exact hinner.plain _ _ hin
  | regularFile stat content =>
    have hfile : (validatePrivateFileStat root stat >>= fun _ =>
        pure (pass.push (fileEntry (joinName relative name) content))) = .ok pass' := h
    simp only [bind_ok, pure_ok] at hfile
    obtain ⟨_, -, hpass⟩ := hfile
    subst hpass
    have hunder : ∀ path below, Under [(name, PrivateNode.regularFile stat content)] path below →
        path = [name] ∧ below = .regularFile stat content := by
      intro path below hunder
      cases hunder with
      | here hmem =>
        cases mem_singleton.mp hmem
        exact ⟨rfl, rfl⟩
      | deeper hmem hin => cases mem_singleton.mp hmem
    refine ⟨?_, ?_, ?_⟩
    · intro e
      show e ∈ pass.entries ++ [fileEntry (joinName relative name) content] ↔ _
      rw [mem_append, mem_singleton]
      apply or_congr_right
      constructor
      · intro he
        exact ⟨[name], .regularFile content, ⟨_, .here (mem_singleton.mpr rfl), rfl⟩, he⟩
      · intro hsome
        obtain ⟨path, object, ⟨below, hbelow, hobject⟩, he⟩ := hsome
        obtain ⟨hpath, hnode⟩ := hunder path below hbelow
        subst hpath
        subst hnode
        cases hobject
        exact he
    · intro path below hbelow
      rw [(hunder path below hbelow).1]
      show 1 ≤ levels + 1
      omega
    · intro path below hbelow
      rw [(hunder path below hbelow).2]
      exact ⟨.regularFile content, rfl⟩
  | symlink => cases h
  | special => cases h

lemma foldlM_collectChild_spec {levels : Nat} {relative : RawPath} {children : Children}
    {pass pass' : TreePass} (henter : ∀ inode children relative pass pass',
      collectTree root enumerate levels inode children relative pass = .ok pass' →
        Collected children relative levels pass pass')
    (h : children.foldlM (collectChild root (collectTree root enumerate levels) relative) pass =
      .ok pass') : Collected children relative (levels + 1) pass pass' := by
  induction children generalizing pass with
  | nil =>
    rw [foldlM_nil, pure_ok] at h
    subst h
    have hnone : ∀ path node, ¬Under [] path node := by
      intro path node hunder
      cases hunder with
      | here hmem => cases hmem
      | deeper hmem hin => cases hmem
    refine ⟨?_, ?_, ?_⟩
    · intro e
      constructor
      · intro he
        exact .inl he
      · intro he
        rcases he with he | ⟨path, object, ⟨node, hunder, -⟩, -⟩
        · exact he
        · exact absurd hunder (hnone path node)
    · intro path node hunder
      exact absurd hunder (hnone path node)
    · intro path node hunder
      exact absurd hunder (hnone path node)
  | cons child children ih =>
    rw [foldlM_cons, bind_ok] at h
    obtain ⟨middle, hchild, hrest⟩ := h
    have hfirst := collectChild_spec henter hchild
    have hothers := ih hrest
    have hsplit : ∀ path node, Under (child :: children) path node →
        Under [child] path node ∨ Under children path node := by
      intro path node hunder
      obtain ⟨other, hmem, hone⟩ := under_of_mem hunder
      rcases mem_cons.mp hmem with hmem | hmem
      · rw [hmem] at hone
        exact .inl hone
      · right
        cases hone with
        | here hin =>
          cases mem_singleton.mp hin
          exact .here hmem
        | deeper hin hbelow =>
          cases mem_singleton.mp hin
          exact .deeper hmem hbelow
    refine ⟨?_, ?_, ?_⟩
    · intro e
      rw [hothers.mem, hfirst.mem, or_assoc]
      apply or_congr_right
      constructor
      · intro hsome
        rcases hsome with ⟨path, object, hholds, he⟩ | ⟨path, object, hholds, he⟩
        · exact ⟨path, object, holds_cons.mpr (.inl hholds), he⟩
        · exact ⟨path, object, holds_cons.mpr (.inr hholds), he⟩
      · intro hsome
        obtain ⟨path, object, hholds, he⟩ := hsome
        rcases holds_cons.mp hholds with hholds | hholds
        · exact .inl ⟨path, object, hholds, he⟩
        · exact .inr ⟨path, object, hholds, he⟩
    · intro path node hunder
      rcases hsplit path node hunder with hunder | hunder
      · exact hfirst.depth path node hunder
      · exact hothers.depth path node hunder
    · intro path node hunder
      rcases hsplit path node hunder with hunder | hunder
      · exact hfirst.plain path node hunder
      · exact hothers.plain path node hunder

section

omit [Platform]

lemma under_perm {children others : Children} (h : children.Perm others) {node : PrivateNode} :
    Under children path node ↔ Under others path node := by
  constructor
  · intro hunder
    cases hunder with
    | here hmem => exact .here (h.mem_iff.mp hmem)
    | deeper hmem hin => exact .deeper (h.mem_iff.mp hmem) hin
  · intro hunder
    cases hunder with
    | here hmem => exact .here (h.mem_iff.mpr hmem)
    | deeper hmem hin => exact .deeper (h.mem_iff.mpr hmem) hin

lemma sortByName_perm (children : Children) : (sortByName children).Perm children :=
  perm_insertionSort _ children

end

/-- Names are read in some order, each once. -/
def Enumeration.Complete (enumerate : Enumeration) : Prop :=
  ∀ relative children, (enumerate relative children).Perm children

lemma collectTree_spec (hcomplete : enumerate.Complete) {inode : Nat × Nat}
    (h : collectTree root enumerate levels inode children relative pass = .ok pass') :
    Collected children relative levels pass pass' := by
  induction levels generalizing inode children relative pass pass' with
  | zero => cases h
  | succ levels ih =>
    unfold collectTree at h
    rw [bind_ok] at h
    obtain ⟨_, -, hfold⟩ := h
    have hspec := foldlM_collectChild_spec (fun _ _ _ _ _ hin => ih hin) hfold
    have hperm : (sortByName (enumerate relative children)).Perm children :=
      (sortByName_perm _).trans (hcomplete relative children)
    refine ⟨?_, ?_, ?_⟩
    · intro e
      rw [hspec.mem]
      apply or_congr_right
      simp only [Holds, under_perm hperm]
    · intro path node hunder
      exact hspec.depth path node ((under_perm hperm).mpr hunder)
    · intro path node hunder
      exact hspec.plain path node ((under_perm hperm).mpr hunder)

end

/-! ## The order of the names -/

structure DistinctNames (children : Children) : Prop where
  here : (children.map Prod.fst).Nodup
  inner : ∀ path inode inner, Under children path (.directory inode inner) →
    (inner.map Prod.fst).Nodup

lemma DistinctNames.below {children inner : Children} (h : DistinctNames children)
    {name : RawPath} {inode : Nat × Nat} (hmem : (name, .directory inode inner) ∈ children) :
    DistinctNames inner := by
  refine ⟨h.inner [name] inode inner (.here hmem), ?_⟩
  intro path inode' inner' hunder
  exact h.inner (name :: path) inode' inner' (.deeper hmem hunder)

lemma sortByName_eq {children others : Children} (hperm : children.Perm others)
    (h : (children.map Prod.fst).Nodup) : sortByName children = sortByName others := by
  have hsorted : Ascending Prod.fst (sortByName children) := ascending_insertionSort h
  have hsorted' : Ascending Prod.fst (sortByName others) :=
    ascending_insertionSort ((hperm.map Prod.fst).nodup_iff.mp h)
  apply eq_of_ascending hsorted hsorted'
  intro child
  rw [(sortByName_perm children).mem_iff, (sortByName_perm others).mem_iff, hperm.mem_iff]

lemma foldlM_congr {ε σ α : Type} {f g : σ → α → Except ε σ} {xs : List α}
    (h : ∀ x ∈ xs, ∀ s, f s x = g s x) (s : σ) : xs.foldlM f s = xs.foldlM g s := by
  induction xs generalizing s with
  | nil => rfl
  | cons x xs ih =>
    rw [forall_mem_cons] at h
    rw [foldlM_cons, foldlM_cons, h.1 s]
    cases g s x with
    | error e => rfl
    | ok next => exact ih h.2 next

section

variable [Platform] {root : FileStat} {enumerate other : Enumeration}

/-- The order in which names are read does not matter. -/
lemma collectTree_enumeration (hcomplete : enumerate.Complete) (hother : other.Complete)
    {levels : Nat} {inode : Nat × Nat} {children : Children} {relative : RawPath}
    {pass : TreePass} (h : DistinctNames children) :
    collectTree root enumerate levels inode children relative pass =
      collectTree root other levels inode children relative pass := by
  induction levels generalizing inode children relative pass with
  | zero => rfl
  | succ levels ih =>
    have hperm : (enumerate relative children).Perm (other relative children) :=
      (hcomplete relative children).trans (hother relative children).symm
    have hnodup : ((enumerate relative children).map Prod.fst).Nodup :=
      ((hcomplete relative children).map Prod.fst).nodup_iff.mpr h.here
    unfold collectTree
    rw [sortByName_eq hperm hnodup]
    congr 1
    funext _
    apply foldlM_congr
    intro child hchild pass
    have hmem : child ∈ children :=
      (hother relative children).mem_iff.mp ((sortByName_perm _).mem_iff.mp hchild)
    obtain ⟨name, node⟩ := child
    -- only a directory is entered
    cases node with
    | directory below inner => exact ih (h.below hmem)
    | regularFile stat content => rfl
    | symlink => rfl
    | special => rfl

lemma inspectChildren_enumeration (hcomplete : enumerate.Complete) (hother : other.Complete)
    {inode : Nat × Nat} {children : Children} (h : DistinctNames children) :
    inspectChildren root enumerate inode children = inspectChildren root other inode children := by
  unfold inspectChildren
  rw [collectTree_enumeration hcomplete hother h]

end

/-! ## Paths are told apart -/

def IsEntryName (name : RawPath) : Prop :=
  name ≠ [] ∧ separator ∉ name ∧ name.length ≤ 255

variable {path : List RawPath}

lemma foldl_joinName_of_ne {relative : RawPath} (h : relative ≠ []) :
    path.foldl joinName relative = relative ++ path.flatMap fun name => separator :: name := by
  induction path generalizing relative with
  | nil => simp
  | cons name path ih =>
    have hjoin : joinName relative name = relative ++ separator :: name := by
      unfold joinName
      rw [if_neg h]
    rw [foldl_cons, hjoin, ih (by simp), flatMap_cons, List.append_assoc]

lemma intercalate_eq_flatMap (name : RawPath) (path : List RawPath) :
    [separator].intercalate (name :: path) =
      name ++ path.flatMap fun name => separator :: name := by
  induction path generalizing name with
  | nil => simp [intercalate]
  | cons next path ih =>
    have htail := ih next
    simp only [intercalate] at htail ⊢
    rw [intersperse_cons_cons, flatten_cons, flatten_cons, htail]
    simp

lemma foldl_joinName (hne : path ≠ []) (hnames : ∀ name ∈ path, IsEntryName name) :
    path.foldl joinName [] = [separator].intercalate path := by
  cases path with
  | nil => exact absurd rfl hne
  | cons name path =>
    have hname := (hnames name mem_cons_self).1
    rw [foldl_cons, intercalate_eq_flatMap]
    show path.foldl joinName name = _
    rw [foldl_joinName_of_ne hname]

lemma joinName_injective {path other : List RawPath} (hne : path ≠ []) (hne' : other ≠ [])
    (hnames : ∀ name ∈ path, IsEntryName name) (hnames' : ∀ name ∈ other, IsEntryName name)
    (h : path.foldl joinName [] = other.foldl joinName []) : path = other := by
  rw [foldl_joinName hne hnames, foldl_joinName hne' hnames'] at h
  have hsplit : ([separator].intercalate path).splitOn separator =
      ([separator].intercalate other).splitOn separator := by rw [h]
  rw [splitOn_intercalate separator (fun name hname => (hnames name hname).2.1) hne,
    splitOn_intercalate separator (fun name hname => (hnames' name hname).2.1) hne'] at hsplit
  exact hsplit

lemma length_foldl_joinName (hnames : ∀ name ∈ path, IsEntryName name) (relative : RawPath) :
    (path.foldl joinName relative).length ≤ relative.length + 256 * path.length := by
  induction path generalizing relative with
  | nil => simp
  | cons name path ih =>
    rw [forall_mem_cons] at hnames
    have hname := hnames.1.2.2
    have hjoin : (joinName relative name).length ≤ relative.length + 256 := by
      unfold joinName
      split
      · omega
      · rw [length_append, length_cons]
        omega
    have htail := ih hnames.2 (joinName relative name)
    rw [foldl_cons, length_cons]
    omega

lemma ne_nil_of_under {children : Children} {node : PrivateNode} (h : Under children path node) :
    path ≠ [] := by
  cases h with
  | here hmem => exact cons_ne_nil _ _
  | deeper hmem hin => exact cons_ne_nil _ _

/-! ## Equal identities -/

section

variable [Platform] {root : FileStat} {enumerate : Enumeration} {inode : Nat × Nat}
  {children : Children} {identity : PrivateDirectoryIdentity}

structure TreeEntries (children : Children) (entries : List PrivateTreeEntry) : Prop where
  mem : ∀ e, e ∈ entries ↔
    ∃ path object, Holds children path object ∧ e = object.entry (path.foldl joinName [])
  wf : ∀ e ∈ entries, e.Wf

def hashedEntries (root : FileStat) (enumerate : Enumeration) (inode : Nat × Nat)
    (children : Children) : List PrivateTreeEntry :=
  match collectTree root enumerate (privateTreeMaxDepth + 1) inode children [] ⟨[], []⟩ with
  | .ok pass => sortByPath pass.entries
  | .error _ => []

/-- An identity is the digest of the entries of the tree. -/
lemma inspectChildren_spec (hcomplete : enumerate.Complete) (hnamed : WellNamed children)
    (h : inspectChildren root enumerate inode children = .ok identity) :
    TreeEntries children (hashedEntries root enumerate inode children) ∧
      identity.treeSha256 = digestBytes
        (treePreimage (hashedEntries root enumerate inode children)) := by
  unfold inspectChildren at h
  simp only [bind_ok, pure_ok] at h
  obtain ⟨pass, hcollect, tally, -, hidentity⟩ := h
  have hspec := collectTree_spec hcomplete hcollect
  have hperm : (sortByPath pass.entries).Perm pass.entries :=
    perm_insertionSort _ pass.entries
  unfold hashedEntries
  rw [hcollect]
  refine ⟨⟨?_, ?_⟩, ?_⟩
  · intro e
    rw [hperm.mem_iff, hspec.mem]
    exact or_iff_right not_mem_nil
  · intro e he
    rw [hperm.mem_iff, hspec.mem] at he
    rcases he with he | ⟨path, object, ⟨node, hunder, hobject⟩, he⟩
    · cases he
    have hlength := length_foldl_joinName (hnamed.names path node hunder) []
    have hdepth := hspec.depth path node hunder
    have hmax : privateTreeMaxDepth = 256 := rfl
    rw [length_nil] at hlength
    subst he
    cases object with
    | directory =>
      refine ⟨?_, ?_, rfl⟩
      · show (path.foldl joinName []).length < 2 ^ 64
        omega
      · show 0 < 2 ^ 64
        omega
    | regularFile content =>
      refine ⟨?_, ?_, rfl⟩
      · show (path.foldl joinName []).length < 2 ^ 64
        omega
      · show content.size < 2 ^ 64
        cases node with
        | regularFile stat bytes =>
          cases hobject
          have hsize := hnamed.sizes path stat content hunder
          omega
        | directory _ _ => cases hobject
        | symlink => cases hobject
        | special => cases hobject
  · rw [← hidentity]

def hashedInputs (children : Children) (entries : List PrivateTreeEntry) : Set ByteArray :=
  {bytes | bytes = treePreimage entries ∨ ∃ path, Holds children path (.regularFile bytes)}

lemma object_eq_of_entry {object other : PrivateObject} {relative relative' : RawPath}
    {inputs : Set ByteArray} (hcollision : Set.InjOn Platform.sha256 inputs)
    (hobject : ∀ content, object = .regularFile content → content ∈ inputs)
    (hother : ∀ content, other = .regularFile content → content ∈ inputs)
    (h : object.entry relative = other.entry relative') :
    relative = relative' ∧ object = other := by
  have hpath : (object.entry relative).relativePath = (other.entry relative').relativePath := by
    rw [h]
  have hsha : (object.entry relative).fileSha256 = (other.entry relative').fileSha256 := by
    rw [h]
  cases object with
  | directory =>
    cases other with
    | directory => exact ⟨hpath, rfl⟩
    | regularFile content => cases hsha
  | regularFile content =>
    cases other with
    | directory => cases hsha
    | regularFile content' =>
      have hdigests : digestBytes content = digestBytes content' :=
        Option.some_injective _ hsha
      have hsame := hcollision (hobject content rfl) (hother content' rfl) hdigests
      exact ⟨hpath, by rw [hsame]⟩

lemma holds_of_entries {others : Children} {entries : List PrivateTreeEntry}
    (hnamed : WellNamed children) (hothers : WellNamed others)
    (hentries : TreeEntries children entries) (hentries' : TreeEntries others entries)
    {inputs : Set ByteArray} (hcollision : Set.InjOn Platform.sha256 inputs)
    (hin : hashedInputs children entries ⊆ inputs) (hin' : hashedInputs others entries ⊆ inputs)
    {path : List RawPath} {object : PrivateObject} (h : Holds children path object) :
    Holds others path object := by
  have hmem := (hentries.mem _).mpr ⟨path, object, h, rfl⟩
  obtain ⟨path', object', h', he⟩ := (hentries'.mem _).mp hmem
  obtain ⟨hpath, hobject⟩ := object_eq_of_entry hcollision
    (fun content hcontent => hin (.inr ⟨path, hcontent ▸ h⟩))
    (fun content hcontent => hin' (.inr ⟨path', hcontent ▸ h'⟩)) he
  obtain ⟨node, hunder, hnode⟩ := h
  obtain ⟨node', hunder', hnode'⟩ := h'
  have hsame := joinName_injective (ne_nil_of_under hunder) (ne_nil_of_under hunder')
    (hnamed.names path node hunder) (hothers.names path' node' hunder') hpath
  subst hsame
  subst hobject
  exact ⟨node', hunder', hnode'⟩

lemma entries_eq {others : Children} {entries entries' : List PrivateTreeEntry}
    (hentries : TreeEntries children entries) (hentries' : TreeEntries others entries')
    (hcollision : Set.InjOn Platform.sha256
      (hashedInputs children entries ∪ hashedInputs others entries'))
    (h : digestBytes (treePreimage entries) =
      digestBytes (treePreimage entries')) : entries = entries' := by
  have hbytes : treePreimage entries = treePreimage entries' :=
    hcollision (.inl (.inl rfl)) (.inr (.inl rfl)) h
  unfold treePreimage at hbytes
  exact encodeEntries_injective hentries.wf hentries'.wf
    (append_inj_of_size rfl hbytes).2

end

/-- **The identity of a directory is that of its tree.** -/
theorem directory_identity_injective [Platform] :
    (∀ xs ys : List PrivateTreeEntry, (∀ e ∈ xs, e.Wf) → (∀ e ∈ ys, e.Wf) →
      encodeEntries xs = encodeEntries ys → xs = ys) ∧
    (∀ (root root' : FileStat) (enumerate enumerate' : Enumeration) (inode inode' : Nat × Nat)
      (children children' : Children) (identity identity' : PrivateDirectoryIdentity),
      enumerate.Complete → enumerate'.Complete → WellNamed children → WellNamed children' →
      inspectChildren root enumerate inode children = .ok identity →
      inspectChildren root' enumerate' inode' children' = .ok identity' → Set.InjOn Platform.sha256
        (hashedInputs children (hashedEntries root enumerate inode children) ∪
          hashedInputs children' (hashedEntries root' enumerate' inode' children')) →
      identity.treeSha256 = identity'.treeSha256 →
      ∀ path object, Holds children path object ↔ Holds children' path object) ∧
    (∀ (root : FileStat) (enumerate enumerate' : Enumeration) (rootInode rootInode' : Nat × Nat)
      (tree tree' : Children) (relative relative' : List RawPath)
      (directory : (Nat × Nat) × Children),
      enumerate.Complete → enumerate'.Complete → WellNamed directory.2 →
      relative ≠ [] → relative' ≠ [] → openPrivateDir rootInode tree relative = .ok directory →
      openPrivateDir rootInode' tree' relative' = .ok directory →
      inspectPrivateDirectory root enumerate rootInode tree relative =
        inspectPrivateDirectory root enumerate' rootInode' tree' relative') := by
  refine ⟨?_, ?_, ?_⟩
  · intro xs ys hxs hys h
    exact encodeEntries_injective hxs hys h
  · intro root root' enumerate enumerate' inode inode' children children' identity identity'
      hcomplete hcomplete' hnamed hnamed' hinspect hinspect' hcollision hsame path object
    obtain ⟨hentries, hdigest⟩ := inspectChildren_spec hcomplete hnamed hinspect
    obtain ⟨hentries', hdigest'⟩ := inspectChildren_spec hcomplete' hnamed' hinspect'
    have heq := entries_eq hentries hentries' hcollision
      (hdigest.symm.trans (hsame.trans hdigest'))
    rw [← heq] at hentries' hcollision
    constructor
    · intro h
      exact holds_of_entries hnamed hnamed' hentries hentries' hcollision
        Set.subset_union_left Set.subset_union_right h
    · intro h
      exact holds_of_entries hnamed' hnamed hentries' hentries hcollision
        Set.subset_union_right Set.subset_union_left h
  · intro root enumerate enumerate' rootInode rootInode' tree tree' relative relative' directory
      hcomplete hcomplete' hnamed hne hne' hopen hopen'
    unfold inspectPrivateDirectory
    rw [hopen, hopen']
    simp only [failIf, hne, hne', if_false, ok_bind]
    exact inspectChildren_enumeration hcomplete hcomplete' ⟨hnamed.distinct, hnamed.inner⟩

namespace DirectorySample

attribute [local instance] Platform.reference

def children : Children := [([97], .directory (1, 2) []), ([98], .directory (1, 3) [])]

lemma under_children {path : List RawPath} {node : PrivateNode} (h : Under children path node) :
    (path = [[97]] ∨ path = [[98]]) ∧ ∃ inode, node = .directory inode [] := by
  have hnone : ∀ path node, ¬Under [] path node := by
    intro path node hunder
    cases hunder with
    | here hmem => cases hmem
    | deeper hmem hin => cases hmem
  unfold children at h
  cases h with
  | here hmem =>
    simp only [mem_cons, Prod.mk.injEq, not_mem_nil, or_false] at hmem
    rcases hmem with ⟨hname, hnode⟩ | ⟨hname, hnode⟩
    · exact ⟨.inl (by rw [hname]), _, hnode⟩
    · exact ⟨.inr (by rw [hname]), _, hnode⟩
  | deeper hmem hin =>
    simp only [mem_cons, Prod.mk.injEq, PrivateNode.directory.injEq, not_mem_nil, or_false] at hmem
    rcases hmem with ⟨-, -, hinner⟩ | ⟨-, -, hinner⟩
    · rw [hinner] at hin
      exact absurd hin (hnone _ _)
    · rw [hinner] at hin
      exact absurd hin (hnone _ _)

lemma children_wellNamed : WellNamed children := by
  refine ⟨?_, by decide, ?_, ?_⟩
  · intro path node hunder name hname
    rcases (under_children hunder).1 with hpath | hpath
    · rw [hpath, mem_singleton] at hname
      rw [hname]
      decide
    · rw [hpath, mem_singleton] at hname
      rw [hname]
      decide
  · intro path inode inner hunder
    obtain ⟨-, inode', hnode⟩ := under_children hunder
    cases hnode
    exact nodup_nil
  · intro path stat content hunder
    obtain ⟨-, inode', hnode⟩ := under_children hunder
    cases hnode

/-- The directory under one name, read forwards, and under another one, read backwards. -/
theorem moved_identity : inspectPrivateDirectory ⟨0, 0⟩ (fun _ children => children) (1, 0)
        [([120], .directory (1, 1) children)] [[120]] =
      inspectPrivateDirectory ⟨0, 0⟩ (fun _ children => children.reverse) (1, 0)
        [([121], .directory (1, 1) children)] [[121]] := by
  have hforwards : Enumeration.Complete fun _ children => children := fun _ _ => .refl _
  have hbackwards : Enumeration.Complete fun _ children => children.reverse :=
    fun _ children => children.reverse_perm
  have hidentity := directory_identity_injective.2.2
  exact hidentity ⟨0, 0⟩ _ _ (1, 0) (1, 0) [([120], .directory (1, 1) children)]
    [([121], .directory (1, 1) children)] [[120]] [[121]] ((1, 1), children) hforwards hbackwards
    children_wellNamed (cons_ne_nil _ _) (cons_ne_nil _ _) rfl rfl

end DirectorySample

end Tidex
