/-
  Foundation.DirectoryMove — moving one private directory.
-/
import Tidex.Foundation.Directory
import Tidex.Lib.Durable

namespace Tidex

open Tidex.Lib List Option Durable Sha256Digest

namespace DirectoryMove

/-! ## Changing a directory -/

def child (name : RawPath) (children : Children) : Option PrivateNode :=
  (children.find? fun child => child.1 = name).map Prod.snd

def replaceChild (name : RawPath) (node : PrivateNode) (children : Children) : Children :=
  children.map fun child => if child.1 = name then (name, node) else child

def addChild (name : RawPath) (node : PrivateNode) (children : Children) : Children :=
  children ++ [(name, node)]

def removeChild (name : RawPath) (children : Children) : Children :=
  children.filter fun child => child.1 ≠ name

/-- Change the directory that some names lead to. -/
def modifyDir (f : Children → Children) : List RawPath → Children → Children
  | [], children => f children
  | name :: names, children =>
    match child name children with
    | some (.directory inode inner) =>
      replaceChild name (.directory inode (modifyDir f names inner)) children
    | _ => children

/-- Open or make the directories that some names lead to, one in the other. -/
def ensureDirectories (next : Nat × Nat) : List RawPath → Children → BrainResult Children
  | [], children => .ok children
  | name :: names, children =>
    match child name children with
    | some (.directory inode inner) => do
      let inner' ← ensureDirectories next names inner
      return replaceChild name (.directory inode inner') children
    | none => do
      let inner ← ensureDirectories (next.1, next.2 + 1) names []
      return addChild name (.directory next inner) children
    | some _ => .error (integrity "private_file_parent_not_directory")

/-- Move what is under one name to another one, where nothing is. -/
def renameNoReplace (children : Children) (rootInode : Nat × Nat) (source : List RawPath)
    (sourceName : RawPath) (destination : List RawPath) (destinationName : RawPath) :
    BrainResult Children := do
  let parent ← openPrivateDir rootInode children source
  let node ← okOr (child sourceName parent.2) (.io .notFound)
  let parent' ← openPrivateDir rootInode children destination
  failIf ((child destinationName parent'.2).isSome) (.io .other)
  failIf ((source ++ [sourceName]) <+: destination) (.io .other)
  return modifyDir (addChild destinationName node) destination
    (modifyDir (removeChild sourceName) source children)

/-! ## The move -/

def existingDirectoryUnderRoot (rootInode : Nat × Nat) (tree : Children)
    (relative : List RawPath) : BrainResult Unit := do
  failIf (relative = []) (invalid "private_file_path_not_confined")
  let _ ← openPrivateDir rootInode tree relative

def existingDirectoryIfPresent (rootInode : Nat × Nat) (tree : Children)
    (relative : List RawPath) : BrainResult Bool := do
  failIf (relative = []) (invalid "private_file_path_not_confined")
  match openPrivateDir rootInode tree relative with
  | .ok _ => .ok true
  | .error (.io .notFound) => .ok false
  | .error e => .error e

def ensurePrivateParent (next : Nat × Nat) (relative : List RawPath) :
    Durable Children BrainError Unit := write fun tree => do
  failIf (relative = []) (invalid "private_file_path_not_confined")
  let tree' ← ensureDirectories next relative.dropLast tree
  return (tree', ())

section

variable [Platform]

/-- What a move runs on: the root, the inode of the next directory that is made, and the orders in
    which the names are read before and after the rename. -/
structure MoveContext where
  root : FileStat
  rootInode : Nat × Nat
  next : Nat × Nat
  before : Enumeration
  after : Enumeration

def moveExistingDirectory (ctx : MoveContext) (source destination : List RawPath)
    (expected : PrivateDirectoryIdentity) : Durable Children BrainError Unit := do
  let identity ← read fun tree =>
    inspectPrivateDirectory ctx.root ctx.before ctx.rootInode tree source
  failIf (identity ≠ expected) (integrity "private_directory_move_source_identity_mismatch")
  let occupied ← read fun tree =>
    existingDirectoryIfPresent ctx.rootInode tree destination
  failIf (occupied = true) (integrity "private_directory_move_destination_already_exists")
  ensurePrivateParent ctx.next destination
  read fun tree => existingDirectoryUnderRoot ctx.rootInode tree source.dropLast
  read fun tree => existingDirectoryUnderRoot ctx.rootInode tree destination.dropLast
  write fun tree => do
    let tree' ← renameNoReplace tree ctx.rootInode source.dropLast (source.getLastD [])
      destination.dropLast (destination.getLastD [])
    return (tree', ())
  let installed ← read fun tree =>
    inspectPrivateDirectory ctx.root ctx.after ctx.rootInode tree destination
  failIf (installed ≠ expected)
    (integrity "private_directory_move_postinstall_identity_mismatch")

def movePrivateDirectoryTransactional (ctx : MoveContext) (source destination : List RawPath)
    (expected : PrivateDirectoryIdentity) : Durable Children BrainError Unit := do
  failIf (source = destination) (invalid "private_directory_move_source_equals_destination")
  let present ← read fun tree => existingDirectoryIfPresent ctx.rootInode tree source
  if present = true then moveExistingDirectory ctx source destination expected
  else do
    let identity ← read fun tree =>
      inspectPrivateDirectory ctx.root ctx.after ctx.rootInode tree destination
    failIf (identity ≠ expected)
      (integrity "private_directory_move_completed_identity_mismatch")

end

/-! ## What is under a name -/

section

variable {name other : RawPath} {node : PrivateNode} {children : Children}

lemma child_replaceChild_self (h : (child name children).isSome) :
    child name (replaceChild name node children) = some node := by
  induction children with
  | nil => cases h
  | cons first children ih =>
    unfold child at h ih ⊢
    unfold replaceChild at ih ⊢
    by_cases hfirst : first.1 = name
    · rw [map_cons, if_pos hfirst, find?_cons_of_pos (by simp)]
      rfl
    · rw [map_cons, if_neg hfirst, find?_cons_of_neg (by simpa using hfirst)]
      rw [find?_cons_of_neg (by simpa using hfirst)] at h
      exact ih h

lemma child_cons (first : RawPath × PrivateNode) : child name (first :: children) =
    if first.1 = name then some first.2 else child name children := by
  unfold child
  by_cases hfirst : first.1 = name
  · rw [if_pos hfirst, find?_cons_of_pos (by simpa using hfirst)]
    rfl
  · rw [if_neg hfirst, find?_cons_of_neg (by simpa using hfirst)]

lemma child_replaceChild_of_ne (h : other ≠ name) :
    child other (replaceChild name node children) = child other children := by
  induction children with
  | nil => rfl
  | cons first children ih =>
    unfold replaceChild at ih ⊢
    rw [map_cons, child_cons, child_cons, ih]
    by_cases hfirst : first.1 = name
    · rw [if_pos hfirst, if_neg h.symm, if_neg (hfirst ▸ h.symm)]
    · rw [if_neg hfirst]

lemma child_addChild_self (h : child name children = none) :
    child name (addChild name node children) = some node := by
  unfold child at h ⊢
  unfold addChild
  rw [map_eq_none_iff] at h
  rw [find?_append, h, none_or, find?_cons_of_pos (by simp)]
  rfl

lemma child_addChild_of_ne (h : other ≠ name) :
    child other (addChild name node children) = child other children := by
  unfold child addChild
  rw [find?_append, find?_cons_of_neg (by simpa using h.symm), find?_nil, or_none]

lemma child_removeChild_self : child name (removeChild name children) = none := by
  unfold child removeChild
  rw [map_eq_none_iff, find?_eq_none]
  intro entry hentry
  simpa using (mem_filter.mp hentry).2

lemma child_removeChild_of_ne (h : other ≠ name) :
    child other (removeChild name children) = child other children := by
  induction children with
  | nil => rfl
  | cons first children ih =>
    unfold removeChild at ih ⊢
    by_cases hfirst : first.1 = name
    · rw [filter_cons_of_neg (by simpa using hfirst), child_cons, if_neg (hfirst ▸ h.symm), ih]
    · rw [filter_cons_of_pos (by simpa using hfirst), child_cons, child_cons, ih]

variable {inode inode' : Nat × Nat} {inner : Children} {names : List RawPath}

lemma openPrivateDir_of_child (h : child name children = some (.directory inode' inner)) :
    openPrivateDir inode children (name :: names) = openPrivateDir inode' inner names := by
  unfold child at h
  obtain ⟨entry, hfind, hnode⟩ := map_eq_some_iff.mp h
  obtain ⟨found, node⟩ := entry
  rw [openPrivateDir, hfind]
  cases hnode
  rfl

lemma openPrivateDir_of_none (h : child name children = none) :
    openPrivateDir inode children (name :: names) = .error (.io .notFound) := by
  unfold child at h
  rw [map_eq_none_iff] at h
  rw [openPrivateDir, h]

lemma openPrivateDir_of_other {node : PrivateNode} (h : child name children = some node)
    (hnode : ∀ i inner, node ≠ .directory i inner) :
    openPrivateDir inode children (name :: names) = .error (.io .other) := by
  unfold child at h
  obtain ⟨entry, hfind, heq⟩ := map_eq_some_iff.mp h
  obtain ⟨found, found'⟩ := entry
  rw [openPrivateDir, hfind]
  cases heq
  cases found' with
  | directory i inner => exact absurd rfl (hnode i inner)
  | regularFile stat content => rfl
  | symlink => rfl
  | special => rfl

lemma openPrivateDir_congr {others : Children} (h : child name others = child name children) :
    openPrivateDir inode others (name :: names) =
      openPrivateDir inode children (name :: names) := by
  cases hchild : child name children with
  | none =>
    rw [openPrivateDir_of_none hchild, openPrivateDir_of_none (h.trans hchild)]
  | some node =>
    by_cases hnode : ∀ i inner, node ≠ .directory i inner
    · rw [openPrivateDir_of_other hchild hnode, openPrivateDir_of_other (h.trans hchild) hnode]
    · push Not at hnode
      obtain ⟨i, inner, rfl⟩ := hnode
      rw [openPrivateDir_of_child hchild, openPrivateDir_of_child (h.trans hchild)]

/-- A path that is opened goes through a directory. -/
lemma openPrivateDir_cons_ok {r : (Nat × Nat) × Children}
    (h : openPrivateDir inode children (name :: names) = .ok r) :
    ∃ i inner, child name children = some (.directory i inner) ∧
      openPrivateDir i inner names = .ok r := by
  cases hchild : child name children with
  | none =>
    rw [openPrivateDir_of_none hchild] at h
    cases h
  | some node =>
    by_cases hnode : ∀ i inner, node ≠ .directory i inner
    · rw [openPrivateDir_of_other hchild hnode] at h
      cases h
    · push Not at hnode
      obtain ⟨i, inner, hdir⟩ := hnode
      rw [hdir] at hchild
      rw [openPrivateDir_of_child hchild] at h
      exact ⟨i, inner, by rw [hdir], h⟩

lemma openPrivateDir_cons_notFound
    (h : openPrivateDir inode children (name :: names) = .error (.io .notFound)) :
    child name children = none ∨ ∃ i inner, child name children = some (.directory i inner) ∧
      openPrivateDir i inner names = .error (.io .notFound) := by
  cases hchild : child name children with
  | none => exact .inl rfl
  | some node =>
    by_cases hnode : ∀ i inner, node ≠ .directory i inner
    · rw [openPrivateDir_of_other hchild hnode] at h
      cases h
    · push Not at hnode
      obtain ⟨i, inner, hdir⟩ := hnode
      rw [hdir] at hchild
      rw [openPrivateDir_of_child hchild] at h
      exact .inr ⟨i, inner, by rw [hdir], h⟩

end

/-! ## What a change leaves alone -/

section

variable {inode : Nat × Nat} {children : Children} {f : Children → Children}
  {path : List RawPath} {r : (Nat × Nat) × Children}

lemma openPrivateDir_append (h : openPrivateDir inode children path = .ok r)
    (rest : List RawPath) :
    openPrivateDir inode children (path ++ rest) = openPrivateDir r.1 r.2 rest := by
  induction path generalizing inode children with
  | nil =>
    cases h
    rfl
  | cons name path ih =>
    obtain ⟨i, inner, hchild, hin⟩ := openPrivateDir_cons_ok h
    rw [cons_append, openPrivateDir_of_child hchild]
    exact ih hin

variable {name : RawPath}

lemma modifyDir_of_child {names : List RawPath} {i : Nat × Nat} {inner : Children}
    (h : child name children = some (.directory i inner)) : modifyDir f (name :: names) children =
      replaceChild name (.directory i (modifyDir f names inner)) children := by
  rw [modifyDir, h]

lemma modifyDir_of_other {names : List RawPath}
    (h : ∀ i inner, child name children ≠ some (.directory i inner)) :
    modifyDir f (name :: names) children = children := by
  rw [modifyDir]
  split
  · rename_i i inner hchild
    exact absurd hchild (h i inner)
  · rfl

/-- The directory at the path is changed. -/
lemma openPrivateDir_modifyDir (h : openPrivateDir inode children path = .ok r) :
    openPrivateDir inode (modifyDir f path children) path = .ok (r.1, f r.2) := by
  induction path generalizing inode children with
  | nil =>
    cases h
    rfl
  | cons name path ih =>
    obtain ⟨i, inner, hchild, hin⟩ := openPrivateDir_cons_ok h
    rw [modifyDir_of_child hchild]
    rw [openPrivateDir_of_child (child_replaceChild_self (by rw [hchild]; rfl))]
    exact ih hin

lemma openPrivateDir_removed {q : List RawPath} (hq : ¬(path ++ [name]) <+: q)
    (h : openPrivateDir inode children q = .ok r) :
    ∃ c, openPrivateDir inode (modifyDir (removeChild name) path children) q = .ok (r.1, c) ∧
      ∀ other, child other r.2 = none → child other c = none := by
  induction path generalizing inode children q with
  | nil =>
    cases q with
    | nil =>
      cases h
      refine ⟨_, rfl, ?_⟩
      intro other hother
      by_cases heq : other = name
      · rw [heq]
        exact child_removeChild_self
      · show child other (removeChild name children) = none
        rw [child_removeChild_of_ne heq]
        exact hother
    | cons first q =>
      have hne : first ≠ name := by
        intro heq
        apply hq
        rw [heq]
        exact ⟨q, rfl⟩
      refine ⟨r.2, ?_, fun _ hother => hother⟩
      show openPrivateDir inode (removeChild name children) (first :: q) = _
      rw [openPrivateDir_congr (child_removeChild_of_ne hne), h]
  | cons step path ih =>
    by_cases hdir : ∀ i inner, child step children ≠ some (.directory i inner)
    · rw [modifyDir_of_other hdir]
      exact ⟨r.2, h, fun _ hother => hother⟩
    · push Not at hdir
      obtain ⟨i, inner, hchild⟩ := hdir
      rw [modifyDir_of_child hchild]
      cases q with
      | nil =>
        cases h
        refine ⟨_, rfl, ?_⟩
        intro other hother
        have hne : other ≠ step := by
          intro heq
          rw [heq, hchild] at hother
          cases hother
        show child other (replaceChild step _ children) = none
        rw [child_replaceChild_of_ne hne]
        exact hother
      | cons first q =>
        by_cases hfirst : first = step
        · rw [hfirst] at h hq ⊢
          rw [openPrivateDir_of_child hchild] at h
          rw [openPrivateDir_of_child (child_replaceChild_self (by rw [hchild]; rfl))]
          apply ih
          · intro hpre
            apply hq
            rw [cons_append]
            exact (prefix_cons_inj step).mpr hpre
          · exact h
        · refine ⟨r.2, ?_, fun _ hother => hother⟩
          rw [openPrivateDir_congr (child_replaceChild_of_ne hfirst), h]

/-- Where a name is added, what is not below it is not found either. -/
lemma openPrivateDir_added {node : PrivateNode} {path q : List RawPath}
    (hq : ¬(path ++ [name]) <+: q) (h : openPrivateDir inode children q = .error (.io .notFound)) :
    openPrivateDir inode (modifyDir (addChild name node) path children) q =
      .error (.io .notFound) := by
  induction path generalizing inode children q with
  | nil =>
    cases q with
    | nil => cases h
    | cons first q =>
      have hne : first ≠ name := by
        intro heq
        apply hq
        rw [heq]
        exact ⟨q, rfl⟩
      show openPrivateDir inode (addChild name node children) (first :: q) = _
      rw [openPrivateDir_congr (child_addChild_of_ne hne), h]
  | cons step path ih =>
    by_cases hdir : ∀ i inner, child step children ≠ some (.directory i inner)
    · rw [modifyDir_of_other hdir]
      exact h
    · push Not at hdir
      obtain ⟨i, inner, hchild⟩ := hdir
      rw [modifyDir_of_child hchild]
      cases q with
      | nil => cases h
      | cons first q =>
        by_cases hfirst : first = step
        · rw [hfirst] at h hq ⊢
          rw [openPrivateDir_of_child hchild] at h
          rw [openPrivateDir_of_child (child_replaceChild_self (by rw [hchild]; rfl))]
          apply ih
          · intro hpre
            apply hq
            rw [cons_append]
            exact (prefix_cons_inj step).mpr hpre
          · exact h
        · rw [openPrivateDir_congr (child_replaceChild_of_ne hfirst), h]

end

/-! ## Making the parents -/

structure ParentsMade (inode : Nat × Nat) (names : List RawPath) (children children' : Children) :
    Prop where
  opened : ∃ r, openPrivateDir inode children' names = .ok r ∧
    ∀ leaf, openPrivateDir inode children (names ++ [leaf]) = .error (.io .notFound) →
      child leaf r.2 = none
  others : ∀ q r, ¬q <+: names → openPrivateDir inode children q = .ok r →
    openPrivateDir inode children' q = .ok r

variable {names : List RawPath}

lemma ensureDirectories_of_child {next i : Nat × Nat} {name : RawPath} {children inner : Children}
    (h : child name children = some (.directory i inner)) :
    ensureDirectories next (name :: names) children = (do
      let inner' ← ensureDirectories next names inner
      return replaceChild name (.directory i inner') children) := by
  rw [ensureDirectories, h]

lemma ensureDirectories_of_none {next : Nat × Nat} {name : RawPath} {children : Children}
    (h : child name children = none) :
    ensureDirectories next (name :: names) children = (do
      let inner ← ensureDirectories (next.1, next.2 + 1) names []
      return addChild name (.directory next inner) children) := by
  rw [ensureDirectories, h]

/-- Making the parents of a path opens them, and leaves alone what is not above them. -/
lemma ensureDirectories_spec {inode next : Nat × Nat} {children children' : Children}
    (h : ensureDirectories next names children = .ok children') :
    ParentsMade inode names children children' := by
  induction names generalizing inode next children children' with
  | nil =>
    cases h
    refine ⟨⟨_, rfl, ?_⟩, ?_⟩
    · intro leaf hleaf
      rcases openPrivateDir_cons_notFound hleaf with hnone | ⟨i, inner, -, hin⟩
      · exact hnone
      · cases hin
    · intro q r _ hq
      exact hq
  | cons name names ih =>
    cases hchild : child name children with
    | none =>
      rw [ensureDirectories_of_none hchild] at h
      simp only [bind_ok, pure_ok] at h
      obtain ⟨inner, hinner, rfl⟩ := h
      have hmade : ParentsMade next names [] inner := ih hinner
      have hself : child name (addChild name (.directory next inner) children) =
          some (.directory next inner) := child_addChild_self hchild
      refine ⟨?_, ?_⟩
      · obtain ⟨r, hopen, hnone⟩ := hmade.opened
        refine ⟨r, (openPrivateDir_of_child hself).trans hopen, ?_⟩
        intro leaf _
        -- nothing is in a new directory
        apply hnone
        cases names with
        | nil => exact openPrivateDir_of_none rfl
        | cons _ _ => exact openPrivateDir_of_none rfl
      · intro q r hq hopen
        cases q with
        | nil => exact absurd nil_prefix hq
        | cons first q =>
          have hne : first ≠ name := by
            intro heq
            rw [heq, openPrivateDir_of_none hchild] at hopen
            cases hopen
          rw [openPrivateDir_congr (child_addChild_of_ne hne), hopen]
    | some node =>
      cases node with
      | directory i inner =>
        rw [ensureDirectories_of_child hchild] at h
        simp only [bind_ok, pure_ok] at h
        obtain ⟨inner', hinner, rfl⟩ := h
        have hmade : ParentsMade i names inner inner' := ih hinner
        have hself : child name (replaceChild name (.directory i inner') children) =
            some (.directory i inner') :=
          child_replaceChild_self (by rw [hchild]; rfl)
        refine ⟨?_, ?_⟩
        · obtain ⟨r, hopen, hnone⟩ := hmade.opened
          refine ⟨r, (openPrivateDir_of_child hself).trans hopen, ?_⟩
          intro leaf hleaf
          rw [cons_append, openPrivateDir_of_child hchild] at hleaf
          exact hnone leaf hleaf
        · intro q r hq hopen
          cases q with
          | nil => exact absurd nil_prefix hq
          | cons first q =>
            by_cases hfirst : first = name
            · rw [hfirst] at hq hopen ⊢
              rw [openPrivateDir_of_child hchild] at hopen
              rw [openPrivateDir_of_child hself]
              apply hmade.others q r _ hopen
              intro hpre
              exact hq ((prefix_cons_inj name).mpr hpre)
            · rw [openPrivateDir_congr (child_replaceChild_of_ne hfirst), hopen]
      | regularFile stat content | symlink | special =>
        rw [ensureDirectories, hchild] at h
        cases h

lemma ensureDirectories_ok {inode next : Nat × Nat} {leaf : RawPath} {children : Children}
    (h : openPrivateDir inode children (names ++ [leaf]) = .error (.io .notFound)) :
    ∃ children', ensureDirectories next names children = .ok children' := by
  induction names generalizing inode next children with
  | nil => exact ⟨children, rfl⟩
  | cons name names ih =>
    rcases openPrivateDir_cons_notFound h with hnone | ⟨i, inner, hchild, hin⟩
    · have hempty : openPrivateDir next [] (names ++ [leaf]) = .error (.io .notFound) := by
        cases names with
        | nil => exact openPrivateDir_of_none rfl
        | cons _ _ => exact openPrivateDir_of_none rfl
      obtain ⟨inner, hinner⟩ : ∃ inner,
          ensureDirectories (next.1, next.2 + 1) names [] = .ok inner := ih hempty
      rw [ensureDirectories_of_none hnone, hinner]
      exact ⟨_, rfl⟩
    · obtain ⟨inner', hinner⟩ : ∃ inner', ensureDirectories next names inner = .ok inner' :=
        ih hin
      rw [ensureDirectories_of_child hchild, hinner]
      exact ⟨_, rfl⟩

/-! ## The rename -/

section

variable {inode : Nat × Nat} {children : Children}

lemma openPrivateDir_parent {path rest : List RawPath} {r : (Nat × Nat) × Children}
    (h : openPrivateDir inode children (path ++ rest) = .ok r) :
    ∃ r', openPrivateDir inode children path = .ok r' ∧ openPrivateDir r'.1 r'.2 rest = .ok r := by
  induction path generalizing inode children with
  | nil => exact ⟨(inode, children), rfl, h⟩
  | cons name path ih =>
    obtain ⟨i, inner, hchild, hin⟩ := openPrivateDir_cons_ok h
    obtain ⟨r', hpath, hrest⟩ := ih hin
    exact ⟨r', (openPrivateDir_of_child hchild).trans hpath, hrest⟩

/-- After the rename the directory is opened under its new name, and nothing is found under
    the old one. -/
lemma openPrivateDir_renamed {source destination : List RawPath} {name name' : RawPath}
    {moved r : (Nat × Nat) × Children}
    (hsource : openPrivateDir inode children (source ++ [name]) = .ok moved)
    (hparent : openPrivateDir inode children destination = .ok r) (hvacant : child name' r.2 = none)
    (houtside : ¬(source ++ [name]) <+: destination) :
    ∃ children', renameNoReplace children inode source name destination name' = .ok children' ∧
      openPrivateDir inode children' (destination ++ [name']) = .ok moved ∧
      openPrivateDir inode children' (source ++ [name]) = .error (.io .notFound) := by
  obtain ⟨parent, hopen, hlast⟩ := openPrivateDir_parent hsource
  obtain ⟨i, inner, hchild, hmoved⟩ := openPrivateDir_cons_ok hlast
  cases hmoved
  have hvacant' : openPrivateDir inode children (destination ++ [name']) =
      .error (.io .notFound) := by
    rw [openPrivateDir_append hparent]
    exact openPrivateDir_of_none hvacant
  have habove : ¬(destination ++ [name']) <+: (source ++ [name]) := by
    intro hpre
    obtain ⟨rest, hrest⟩ := hpre
    rw [← hrest] at hsource
    obtain ⟨r', hr', -⟩ := openPrivateDir_parent hsource
    rw [hvacant'] at hr'
    cases hr'
  -- first the old name is removed
  obtain ⟨c, hparent', hnone⟩ := openPrivateDir_removed houtside hparent
  have hgone : openPrivateDir inode (modifyDir (removeChild name) source children)
      (source ++ [name]) = .error (.io .notFound) := by
    rw [openPrivateDir_append (openPrivateDir_modifyDir hopen)]
    exact openPrivateDir_of_none child_removeChild_self
  refine ⟨modifyDir (addChild name' (.directory i inner)) destination
    (modifyDir (removeChild name) source children), ?_, ?_, openPrivateDir_added habove hgone⟩
  · unfold renameNoReplace
    rw [hopen, ok_bind, hchild]
    simp only [okOr, ok_bind, hparent, hvacant, failIf, houtside, isSome_none,
      Bool.false_eq_true, if_false]
    rfl
  · rw [openPrivateDir_append (openPrivateDir_modifyDir hparent')]
    exact openPrivateDir_of_child (child_addChild_self (hnone name' hvacant))

end

/-! ## When a move succeeds -/

variable {tree : Children} {relative : List RawPath} {inode : Nat × Nat}

lemma existingDirectoryIfPresent_ok {r : (Nat × Nat) × Children} (hne : relative ≠ [])
    (h : openPrivateDir inode tree relative = .ok r) :
    existingDirectoryIfPresent inode tree relative = .ok true := by
  unfold existingDirectoryIfPresent
  rw [failIf, if_neg hne, ok_bind, h]

lemma existingDirectoryIfPresent_notFound (hne : relative ≠ [])
    (h : openPrivateDir inode tree relative = .error (.io .notFound)) :
    existingDirectoryIfPresent inode tree relative = .ok false := by
  unfold existingDirectoryIfPresent
  rw [failIf, if_neg hne, ok_bind, h]

lemma existingDirectoryIfPresent_cases {present : Bool}
    (h : existingDirectoryIfPresent inode tree relative = .ok present) :
    relative ≠ [] ∧ ((present = true ∧ ∃ r, openPrivateDir inode tree relative = .ok r) ∨
      (present = false ∧ openPrivateDir inode tree relative = .error (.io .notFound))) := by
  unfold existingDirectoryIfPresent at h
  obtain ⟨_, hne, h⟩ := bind_ok.mp h
  refine ⟨failIf_ok.mp hne, ?_⟩
  cases hopen : openPrivateDir inode tree relative with
  | ok r =>
    rw [hopen] at h
    cases h
    exact .inl ⟨rfl, r, rfl⟩
  | error e =>
    rw [hopen] at h
    cases e with
    | io kind =>
      cases kind with
      | notFound =>
        cases h
        exact .inr ⟨rfl, rfl⟩
      | other => cases h
    | invalid code => cases h
    | integrity code => cases h
    | numerical code => cases h
    | json => cases h

lemma existingDirectoryUnderRoot_ok {r : (Nat × Nat) × Children} (hne : relative ≠ [])
    (h : openPrivateDir inode tree relative = .ok r) :
    existingDirectoryUnderRoot inode tree relative = .ok () := by
  unfold existingDirectoryUnderRoot
  rw [failIf, if_neg hne, ok_bind, h]
  rfl

lemma existingDirectoryUnderRoot_ne {u : Unit}
    (h : existingDirectoryUnderRoot inode tree relative = .ok u) : relative ≠ [] := by
  unfold existingDirectoryUnderRoot at h
  obtain ⟨_, hne, -⟩ := bind_ok.mp h
  exact failIf_ok.mp hne

lemma eq_concat {path : List RawPath} (h : path ≠ []) :
    path = path.dropLast ++ [path.getLastD []] := by
  rw [getLastD_eq_getLast?, getLast?_eq_some_getLast h, getD_some, dropLast_append_getLast h]

lemma not_prefix_dropLast {path destination : List RawPath} (h : ¬path <+: destination) :
    ¬path <+: destination.dropLast := by
  intro hpre
  exact h (hpre.trans ( dropLast_prefix destination))

section

variable [Platform] {ctx : MoveContext} {source destination : List RawPath}
  {expected : PrivateDirectoryIdentity} {tree : Children} {moved : (Nat × Nat) × Children}

/-- A move that is asked for: a directory at a path strictly below the root, with the identity that
    is expected, and a path outside it where nothing is. -/
structure Requested (ctx : MoveContext) (source destination : List RawPath)
    (expected : PrivateDirectoryIdentity) (tree : Children) (moved : (Nat × Nat) × Children) :
    Prop where
  before : ctx.before.Complete
  after : ctx.after.Complete
  source_ne : source ≠ []
  destination_ne : destination ≠ []
  opened : openPrivateDir ctx.rootInode tree source = .ok moved
  distinct : DistinctNames moved.2
  vacant : openPrivateDir ctx.rootInode tree destination = .error (.io .notFound)
  outside : ¬source <+: destination
  identity : inspectPrivateDirectory ctx.root ctx.before ctx.rootInode tree source = .ok expected

structure Moves (ctx : MoveContext) (source destination : List RawPath)
    (expected : PrivateDirectoryIdentity) (tree : Children) : Prop where
  succeeds : ∃ tree', Runs
      (movePrivateDirectoryTransactional ctx source destination expected) tree () tree' ∧
    (∀ enumerate : Enumeration, enumerate.Complete →
      inspectPrivateDirectory ctx.root enumerate ctx.rootInode tree' destination =
        .ok expected) ∧
    openPrivateDir ctx.rootInode tree' source = .error (.io .notFound) ∧
    ∀ before after : Enumeration, after.Complete → Runs
      (movePrivateDirectoryTransactional { ctx with before := before, after := after } source
        destination expected) tree' () tree'
  fails : ∀ (expected' : PrivateDirectoryIdentity) (e : BrainError),
    (movePrivateDirectoryTransactional ctx source destination expected').result tree = .error e →
    openPrivateDir ctx.rootInode
        ((movePrivateDirectoryTransactional ctx source destination expected').final tree) source =
      openPrivateDir ctx.rootInode tree source ∧
    openPrivateDir ctx.rootInode
        ((movePrivateDirectoryTransactional ctx source destination expected').final tree)
        destination =
      openPrivateDir ctx.rootInode tree destination

lemma Requested.identity_at (h : Requested ctx source destination expected tree moved)
    {enumerate : Enumeration} (hcomplete : enumerate.Complete) {tree' : Children}
    {path : List RawPath} (hne : path ≠ [])
    (hopen : openPrivateDir ctx.rootInode tree' path = .ok moved) :
    inspectPrivateDirectory ctx.root enumerate ctx.rootInode tree' path = .ok expected := by
  have hidentity := h.identity
  unfold inspectPrivateDirectory at hidentity ⊢
  rw [failIf, if_neg h.source_ne, ok_bind, h.opened] at hidentity
  rw [failIf, if_neg hne, ok_bind, hopen]
  show inspectChildren ctx.root enumerate moved.1 moved.2 = _
  rw [inspectChildren_enumeration hcomplete h.before h.distinct]
  exact hidentity

lemma Requested.parents (h : Requested ctx source destination expected tree moved) :
    ∃ tree', ensureDirectories ctx.next destination.dropLast tree = .ok tree' ∧
      openPrivateDir ctx.rootInode tree' source = .ok moved ∧
      ∃ r, openPrivateDir ctx.rootInode tree' destination.dropLast = .ok r ∧
        child (destination.getLastD []) r.2 = none := by
  have hvacant := h.vacant
  rw [eq_concat h.destination_ne] at hvacant
  obtain ⟨tree', hmade⟩ : ∃ tree', ensureDirectories ctx.next destination.dropLast tree =
      .ok tree' := ensureDirectories_ok hvacant
  have hspec : ParentsMade ctx.rootInode destination.dropLast tree tree' :=
    ensureDirectories_spec hmade
  obtain ⟨r, hopen, hnone⟩ := hspec.opened
  exact ⟨tree', hmade, hspec.others source moved (not_prefix_dropLast h.outside) h.opened, r, hopen,
    hnone _ hvacant⟩

/-- A move between parents that are not the root succeeds. -/
lemma Requested.moves (h : Requested ctx source destination expected tree moved)
    (hsource : source.dropLast ≠ []) (hdestination : destination.dropLast ≠ []) :
    ∃ tree', Runs (movePrivateDirectoryTransactional ctx source destination expected)
        tree () tree' ∧ openPrivateDir ctx.rootInode tree' destination = .ok moved ∧
      openPrivateDir ctx.rootInode tree' source = .error (.io .notFound) := by
  obtain ⟨made, hmade, hopened, r, hparent, hnone⟩ := h.parents
  have hopened' := hopened
  rw [eq_concat h.source_ne] at hopened'
  have houtside := not_prefix_dropLast h.outside
  rw [eq_concat h.source_ne] at houtside
  obtain ⟨tree', hrename, hdest, hgone⟩ :=
    openPrivateDir_renamed hopened' hparent hnone houtside
  rw [← eq_concat h.source_ne] at hgone
  rw [← eq_concat h.destination_ne] at hdest
  obtain ⟨sourceParent, hsourceParent, -⟩ := openPrivateDir_parent hopened'
  have hne : source ≠ destination := by
    intro heq
    exact h.outside (heq ▸ prefix_refl source)
  refine ⟨tree', ?_, hdest, hgone⟩
  unfold movePrivateDirectoryTransactional moveExistingDirectory ensurePrivateParent
  simp only [runs_bind, runs_liftM, runs_read]
  refine ⟨(), tree, ⟨failIf_ok.mpr hne, rfl⟩, true, tree,
    ⟨existingDirectoryIfPresent_ok h.source_ne h.opened, rfl⟩, ?_⟩
  rw [if_pos rfl]
  simp only [runs_bind, runs_liftM, runs_read, runs_write]
  refine ⟨expected, tree, ⟨h.identity, rfl⟩, (), tree, ⟨failIf_ok.mpr (not_not.mpr rfl), rfl⟩,
    false, tree, ⟨existingDirectoryIfPresent_notFound h.destination_ne h.vacant, rfl⟩, (), tree,
    ⟨failIf_ok.mpr Bool.false_ne_true, rfl⟩, (), made, ?_, (), made,
    ⟨existingDirectoryUnderRoot_ok hsource hsourceParent, rfl⟩, (), made,
    ⟨existingDirectoryUnderRoot_ok hdestination hparent, rfl⟩, (), tree', ?_, expected, tree',
    ⟨h.identity_at h.after h.destination_ne hdest, rfl⟩,
    failIf_ok.mpr (not_not.mpr rfl), rfl⟩
  · rw [failIf, if_neg h.destination_ne, ok_bind, hmade]
    rfl
  · rw [hrename]
    rfl

lemma runs_completed (hne : source ≠ destination) (hsource_ne : source ≠ [])
    (hgone : openPrivateDir ctx.rootInode tree source = .error (.io .notFound))
    (hidentity : inspectPrivateDirectory ctx.root ctx.after ctx.rootInode tree destination =
      .ok expected) : Runs (movePrivateDirectoryTransactional ctx source destination expected)
      tree () tree := by
  unfold movePrivateDirectoryTransactional
  simp only [runs_bind, runs_liftM, runs_read]
  refine ⟨(), tree, ⟨failIf_ok.mpr hne, rfl⟩, false, tree,
    ⟨existingDirectoryIfPresent_notFound hsource_ne hgone, rfl⟩, ?_⟩
  rw [if_neg Bool.false_ne_true]
  simp only [runs_bind, runs_liftM, runs_read]
  exact ⟨expected, tree, ⟨hidentity, rfl⟩, failIf_ok.mpr (not_not.mpr rfl), rfl⟩

/-- A move from or to a name directly under the root fails. -/
lemma Requested.not_moves (h : Requested ctx source destination expected tree moved)
    (hroot : source.dropLast = [] ∨ destination.dropLast = []) (tree' : Children) :
    ¬Runs (movePrivateDirectoryTransactional ctx source destination expected) tree () tree' := by
  intro hruns
  unfold movePrivateDirectoryTransactional at hruns
  simp only [runs_bind, runs_liftM, runs_read] at hruns
  obtain ⟨_, _, ⟨-, rfl⟩, present, _, ⟨hpresent, rfl⟩, hruns⟩ := hruns
  rw [existingDirectoryIfPresent_ok h.source_ne h.opened] at hpresent
  cases hpresent
  rw [if_pos rfl] at hruns
  unfold moveExistingDirectory at hruns
  simp only [runs_bind, runs_liftM, runs_read] at hruns
  obtain ⟨_, _, -, _, _, -, _, _, -, _, _, -, _, made, -, _, _, ⟨hsource, -⟩, _, _,
    ⟨hdestination, -⟩, -⟩ := hruns
  -- the root is no path under the root
  rcases hroot with hempty | hempty
  · rw [hempty] at hsource
    cases hsource
  · rw [hempty] at hdestination
    cases hdestination

/-- What a move can leave behind: what it found, or the parents of the destination, unless
    neither of the two parents is the root. -/
lemma states_cases {tree' : Children}
    (h : tree' ∈ (movePrivateDirectoryTransactional ctx source destination expected).states tree) :
    tree' = tree ∨ source ≠ [] ∧ destination ≠ [] ∧
      (∃ moved, openPrivateDir ctx.rootInode tree source = .ok moved) ∧
      openPrivateDir ctx.rootInode tree destination = .error (.io .notFound) ∧
      inspectPrivateDirectory ctx.root ctx.before ctx.rootInode tree source = .ok expected ∧
      (ensureDirectories ctx.next destination.dropLast tree = .ok tree' ∨
        (source.dropLast ≠ [] ∧ destination.dropLast ≠ [])) := by
  unfold movePrivateDirectoryTransactional at h
  rcases states_after_read h with heq | ⟨_, -, h⟩
  · exact .inl heq
  rcases states_after_read h with heq | ⟨present, hpresent, h⟩
  · exact .inl heq
  obtain ⟨hne, hpresent⟩ := existingDirectoryIfPresent_cases hpresent
  rcases hpresent with ⟨rfl, hopened⟩ | ⟨rfl, -⟩
  · rw [if_pos rfl] at h
    unfold moveExistingDirectory at h
    rcases states_after_read h with heq | ⟨identity, hidentity, h⟩
    · exact .inl heq
    rcases states_after_read h with heq | ⟨_, hsame, h⟩
    · exact .inl heq
    rw [not_not.mp (failIf_ok.mp hsame)] at hidentity
    rcases states_after_read h with heq | ⟨occupied, hoccupied, h⟩
    · exact .inl heq
    obtain ⟨hne', hoccupied⟩ := existingDirectoryIfPresent_cases hoccupied
    rcases states_after_read h with heq | ⟨_, hvacant, h⟩
    · exact .inl heq
    have hnotFound : openPrivateDir ctx.rootInode tree destination = .error (.io .notFound) := by
      rcases hoccupied with ⟨htrue, -⟩ | ⟨-, hnotFound⟩
      · exact absurd htrue (failIf_ok.mp hvacant)
      · exact hnotFound
    have hmade : ∀ made, Runs (ensurePrivateParent ctx.next destination) tree () made →
        ensureDirectories ctx.next destination.dropLast tree = .ok made := by
      intro made hruns
      have hwrite := runs_write.mp hruns
      simp only [bind_ok, pure_ok] at hwrite
      obtain ⟨_, -, made', hensure, heq⟩ := hwrite
      cases heq
      exact hensure
    rcases mem_states_bind_iff.mp h with hensure | ⟨_, made, hrun, h⟩
    · rcases mem_states_write.mp hensure with heq | ⟨_, hwrite⟩
      · exact .inl heq
      · exact .inr ⟨hne, hne', hopened, hnotFound, hidentity,
          .inl (hmade _ (runs_write.mpr hwrite))⟩
    refine .inr ⟨hne, hne', hopened, hnotFound, hidentity, ?_⟩
    have hmade' := hmade made hrun
    rcases states_after_read h with rfl | ⟨_, hsource, h⟩
    · exact .inl hmade'
    rcases states_after_read h with rfl | ⟨_, hdestination, h⟩
    · exact .inl hmade'
    -- from here on both parents were found below the root
    refine .inr ⟨?_, ?_⟩
    · exact existingDirectoryUnderRoot_ne hsource
    · exact existingDirectoryUnderRoot_ne hdestination
  · rw [if_neg Bool.false_ne_true] at h
    rcases states_after_read h with heq | ⟨_, -, h⟩
    · exact .inl heq
    exact .inl (mem_singleton.mp h)

/-- A move that fails leaves both directories as they were. -/
lemma move_error (hbefore : ctx.before.Complete) (hafter : ctx.after.Complete)
    (houtside : ¬source <+: destination)
    (hdistinct : ∀ moved, openPrivateDir ctx.rootInode tree source = .ok moved →
      DistinctNames moved.2) {e : BrainError}
    (h : (movePrivateDirectoryTransactional ctx source destination expected).result tree =
      .error e) :
    let tree' := (movePrivateDirectoryTransactional ctx source destination expected).final tree
    openPrivateDir ctx.rootInode tree' source = openPrivateDir ctx.rootInode tree source ∧
      openPrivateDir ctx.rootInode tree' destination =
        openPrivateDir ctx.rootInode tree destination := by
  intro tree'
  have hstates : tree' ∈
      (movePrivateDirectoryTransactional ctx source destination expected).states tree :=
    final_mem_states
  rcases states_cases hstates with heq | ⟨hne, hne', ⟨moved, hopened⟩, hvacant, hidentity, hcase⟩
  · rw [heq]
    exact ⟨rfl, rfl⟩
  have hrequested : Requested ctx source destination expected tree moved :=
    ⟨hbefore, hafter, hne, hne', hopened, hdistinct moved hopened, hvacant, houtside, hidentity⟩
  rcases hcase with hmade | ⟨hsource, hdestination⟩
  · obtain ⟨made, hmade', hopened', r, hparent, hnone⟩ := hrequested.parents
    rw [hmade] at hmade'
    cases hmade'
    refine ⟨hopened'.trans hopened.symm, ?_⟩
    rw [hvacant, eq_concat hne', openPrivateDir_append hparent]
    exact openPrivateDir_of_none hnone
  · obtain ⟨moved', hruns, -, -⟩ := hrequested.moves hsource hdestination
    rw [hruns.1] at h
    cases h

end

end DirectoryMove

/-- **When a directory is moved.** -/
theorem directory_move_iff [Platform] (ctx : DirectoryMove.MoveContext)
    (source destination : List RawPath) (expected : PrivateDirectoryIdentity) (tree : Children)
    (moved : (Nat × Nat) × Children)
    (h : DirectoryMove.Requested ctx source destination expected tree moved) :
    DirectoryMove.Moves ctx source destination expected tree ↔
      1 < source.length ∧ 1 < destination.length := by
  have hlength : ∀ path : List RawPath, path ≠ [] → (path.dropLast ≠ [] ↔ 1 < path.length) := by
    intro path hne
    rw [← length_pos_iff, length_dropLast]
    omega
  rw [← hlength source h.source_ne, ← hlength destination h.destination_ne]
  constructor
  · intro hmoves
    obtain ⟨tree', hruns, -⟩ := hmoves.succeeds
    by_cases hsource : source.dropLast = []
    · exact absurd hruns (h.not_moves (.inl hsource) tree')
    by_cases hdestination : destination.dropLast = []
    · exact absurd hruns (h.not_moves (.inr hdestination) tree')
    exact ⟨hsource, hdestination⟩
  · intro hparents
    obtain ⟨hsource, hdestination⟩ := hparents
    obtain ⟨tree', hruns, hopened, hgone⟩ := h.moves hsource hdestination
    have hne : source ≠ destination := by
      intro heq
      exact h.outside (heq ▸ prefix_refl source)
    refine ⟨⟨tree', hruns, ?_, hgone, ?_⟩, ?_⟩
    · intro enumerate hcomplete
      exact h.identity_at hcomplete h.destination_ne hopened
    · intro before after hcomplete
      exact DirectoryMove.runs_completed hne h.source_ne hgone
        (h.identity_at hcomplete h.destination_ne hopened)
    · intro expected' e herror
      apply DirectoryMove.move_error h.before h.after h.outside _ herror
      intro moved' hmoved
      rw [h.opened] at hmoved
      cases hmoved
      exact h.distinct

namespace DirectoryMoveSample

attribute [local instance] Platform.reference

open DirectoryMove

def ctx : MoveContext where
  root := ⟨0, 0o700⟩
  rootInode := (1, 0)
  next := (1, 9)
  before _ children := children
  after _ children := children

def tree : Children := [([97], .directory (1, 1) [([98], .directory (1, 2) [])])]

noncomputable def emptyIdentity : PrivateDirectoryIdentity :=
  ⟨digestBytes (treePreimage []), 0, 0, 0⟩
noncomputable def nestedIdentity : PrivateDirectoryIdentity :=
  ⟨digestBytes (treePreimage [directoryEntry [98]]), 1, 0, 0⟩

lemma distinct_nil : DistinctNames [] := by
  refine ⟨nodup_nil, ?_⟩
  intro path inode inner hunder
  cases hunder with
  | here hmem => cases hmem
  | deeper hmem _ => cases hmem

lemma distinct_nested : DistinctNames [([98], .directory (1, 2) [])] := by
  refine ⟨by decide, ?_⟩
  intro path inode inner hunder
  cases hunder with
  | here hmem =>
    cases mem_singleton.mp hmem
    exact nodup_nil
  | deeper hmem hin =>
    cases mem_singleton.mp hmem
    exact distinct_nil.inner _ _ _ hin

lemma requested_deep : Requested ctx [[97], [98]] [[99], [100]] emptyIdentity tree ((1, 2), []) :=
  ⟨fun _ _ => Perm.refl _, fun _ _ => Perm.refl _, by decide, by decide, rfl,
    distinct_nil, rfl, by decide, rfl⟩

lemma requested_shallow :
    Requested ctx [[97]] [[99]] nestedIdentity tree ((1, 1), [([98], .directory (1, 2) [])]) :=
  ⟨fun _ _ => Perm.refl _, fun _ _ => Perm.refl _, by decide, by decide, rfl,
    distinct_nested, rfl, by decide, rfl⟩

/-- `a/b` is moved. -/
theorem deep_moves : Moves ctx [[97], [98]] [[99], [100]] emptyIdentity tree :=
  (directory_move_iff ctx _ _ _ _ _ requested_deep).mpr (by decide)

/-- **A directory that is not moved**, as it is directly under the root. -/
theorem shallow_not_moved :
    Requested ctx [[97]] [[99]] nestedIdentity tree ((1, 1), [([98], .directory (1, 2) [])]) ∧
      ¬Moves ctx [[97]] [[99]] nestedIdentity tree := by
  refine ⟨requested_shallow, ?_⟩
  intro hmoves
  obtain ⟨tree', hruns, -⟩ := hmoves.succeeds
  exact requested_shallow.not_moves (.inl rfl) tree' hruns

end DirectoryMoveSample

end Tidex
