/-
  Lib.Path — slash-separated paths and their components.
-/
import Tidex.Lib.OrdMap

namespace Tidex.Lib

open List Option String

inductive PathComponent where
  | rootDir
  | curDir
  | parentDir
  | normal (name : String)
  deriving DecidableEq

namespace Path

/-! ## Components -/

def isAbsolute (path : String) : Bool := path.toList.head? == some '/'

def pieceComponent (first : Bool) (piece : List Char) : Option PathComponent :=
  if piece = [] then none
  else if piece = ['.'] then if first then some .curDir else none
  else if piece = ['.', '.'] then some .parentDir
  else some (.normal (String.ofList piece))

def components (path : String) : List PathComponent :=
  (if isAbsolute path then [.rootDir] else []) ++
    match path.toList.splitOn '/' with
    | [] => []
    | piece :: pieces =>
      (pieceComponent true piece).toList ++ pieces.filterMap (pieceComponent false)

def fileName (path : String) : Option String :=
  match (components path).getLast? with
  | some (.normal name) => some name
  | _ => none

/-- One more component, which is not absolute. -/
def push (path name : String) : String :=
  if path.toList.isEmpty then name
  else if path.toList.getLast? = some '/' then path ++ name
  else path ++ "/" ++ name

lemma push_injective (path : String) : Function.Injective (push path) := by
  intro a b h
  unfold push at h
  split_ifs at h
  · exact h
  · exact (append_right_inj path).mp h
  · exact (append_right_inj (path ++ "/")).mp h

def componentText : PathComponent → String
  | .rootDir => "/"
  | .curDir => "."
  | .parentDir => ".."
  | .normal name => name

def ofComponents (parts : List PathComponent) : String :=
  parts.foldl (fun path part => push path (componentText part)) ""

/-- The path without its last component. -/
def parent (path : String) : Option String :=
  match (components path).getLast? with
  | none => none
  | some .rootDir => none
  | some _ => some (ofComponents (components path).dropLast)

/-- The components of one path begin with those of another. -/
def startsWith (path base : String) : Bool :=
  (components base).isPrefixOf (components path)

def hasSuffix (text suffix : String) : Bool :=
  suffix.toList.isSuffixOf text.toList

def rank : PathComponent → Nat
  | .rootDir => 0
  | .curDir => 1
  | .parentDir => 2
  | .normal _ => 3

instance : Ord PathComponent := ordByPair rank componentText

/-- The order of paths, component by component. -/
def before (a b : String) : Bool :=
  compare (components a) (components b) == .lt

def splitAtLastDot (name : List Char) : Option (List Char × List Char) :=
  match name.reverse.dropWhile (· != '.') with
  | [] => none
  | _ :: before => some (before.reverse, (name.reverse.takeWhile (· != '.')).reverse)

/-- What follows the last dot of the name, unless the name only starts with a dot. -/
def extension (path : String) : Option String := do
  let name ← fileName path
  match splitAtLastDot name.toList with
  | some (_ :: _, after) => some (String.ofList after)
  | _ => none

def fileStem (path : String) : Option String := do
  let name ← fileName path
  match splitAtLastDot name.toList with
  | some (c :: before, _) => some (String.ofList (c :: before))
  | _ => some name

def parentComponents (path : String) : Option (List PathComponent) :=
  match (components path).getLast? with
  | none => none
  | some .rootDir => none
  | some _ => some (components path).dropLast

def asNormal : PathComponent → Option String
  | .normal name => some name
  | _ => none

def place (root : String) (names : List String) : String := names.foldl push root

/-! ## Paths that never go up -/

lemma sublist_of_mem_splitOn {c : Char} {cs piece : List Char} (h : piece ∈ cs.splitOn c) :
    Sublist piece cs := by
  have hjoin : [c].intercalate (cs.splitOn c) = cs := intercalate_splitOn c
  rw [← hjoin]
  refine sublist_flatten_of_mem ?_
  generalize cs.splitOn c = pieces at h
  induction pieces with
  | nil => cases h
  | cons first pieces ih =>
    cases pieces with
    | nil => exact h
    | cons second pieces =>
      rw [intersperse_cons_cons]
      rcases mem_cons.mp h with rfl | h
      · exact mem_cons_self
      · exact mem_cons_of_mem _ (mem_cons_of_mem _ (ih h))

lemma pieceComponent_parentDir {first : Bool} {piece : List Char}
    (h : pieceComponent first piece = some .parentDir) : piece = ['.', '.'] := by
  unfold pieceComponent at h
  by_cases hempty : piece = []
  · rw [if_pos hempty] at h
    cases h
  by_cases hdot : piece = ['.']
  · rw [if_neg hempty, if_pos hdot] at h
    cases first <;> cases h
  by_cases hup : piece = ['.', '.']
  · exact hup
  · rw [if_neg hempty, if_neg hdot, if_neg hup] at h
    cases h

/-- A path with at most one dot never goes up. -/
lemma not_mem_components_parentDir {path : String} (h : path.toList.count '.' ≤ 1) :
    .parentDir ∉ components path := by
  have hpiece : ∀ piece ∈ path.toList.splitOn '/', ∀ first,
      pieceComponent first piece ≠ some .parentDir := by
    intro piece hmem first hup
    have hcount := (sublist_of_mem_splitOn hmem).count_le '.'
    rw [pieceComponent_parentDir hup] at hcount
    have htwo : count '.' ['.', '.'] = 2 := by decide
    omega
  intro hmem
  unfold components at hmem
  generalize path.toList.splitOn '/' = pieces at hpiece hmem
  rcases mem_append.mp hmem with hroot | hmem
  · split at hroot <;> simp at hroot
  · cases pieces with
    | nil => cases hmem
    | cons piece pieces =>
      rcases mem_append.mp hmem with hfirst | hrest
      · exact hpiece piece mem_cons_self true (mem_toList.mp hfirst)
      · obtain ⟨other, hother, hup⟩ := mem_filterMap.mp hrest
        exact hpiece other (mem_cons_of_mem _ hother) false hup

/-! ## Places under a root -/

/-- A path that another component can be pushed on with a slash. -/
def Open (path : String) : Prop := path.toList ≠ [] ∧ path.toList.getLast? ≠ some '/'

def IsName (name : String) : Prop :=
  '/' ∉ name.toList ∧ name.toList ∉ [[], ['.'], ['.', '.']]

variable {path name root : String} {names : List String}

lemma push_open (h : Open path) (relative : String) :
    push path relative = path ++ "/" ++ relative := by
  have hne : path.toList.isEmpty = false := by
    rw [List.isEmpty_eq_false_iff]
    exact h.1
  unfold push
  rw [hne, if_neg (by decide), if_neg h.2]

lemma components_push (h : Open path) (relative : String) : components (push path relative) =
      components path ++ (relative.toList.splitOn '/').filterMap (pieceComponent false) := by
  have hchars : (push path relative).toList = path.toList ++ '/' :: relative.toList := by
    rw [push_open h, String.toList_append, String.toList_append, List.append_assoc]
    rfl
  have habsolute : isAbsolute (push path relative) = isAbsolute path := by
    unfold isAbsolute
    rw [hchars]
    cases hlist : path.toList with
    | nil => exact absurd hlist h.1
    | cons c cs => rfl
  have hsplit : (push path relative).toList.splitOn '/' =
      path.toList.splitOn '/' ++ relative.toList.splitOn '/' := by
    rw [hchars, splitOn_append_cons_self]
  unfold components
  rw [habsolute, hsplit]
  cases hpieces : path.toList.splitOn '/' with
  | nil => exact absurd hpieces (splitOn_ne_nil _ _)
  | cons piece pieces =>
    rw [cons_append, List.append_assoc]
    congr 1
    show _ ++ (pieces ++ _).filterMap _ = (_ ++ pieces.filterMap _) ++ _
    rw [filterMap_append, List.append_assoc]

lemma pieceComponent_name (h : IsName name) :
    pieceComponent false name.toList = some (.normal name) := by
  obtain ⟨-, hplain⟩ := h
  simp only [mem_cons, not_mem_nil, or_false, not_or] at hplain
  unfold pieceComponent
  rw [if_neg hplain.1, if_neg hplain.2.1, if_neg hplain.2.2, ofList_toList]

lemma components_push_name (hpath : Open path) (hname : IsName name) :
    components (push path name) = components path ++ [.normal name] := by
  rw [components_push hpath, splitOn_eq_singleton hname.1, filterMap_cons,
    pieceComponent_name hname]
  rfl

lemma open_push (hpath : Open path) (hname : IsName name) : Open (push path name) := by
  obtain ⟨hslash, hplain⟩ := hname
  simp only [mem_cons, not_mem_nil, or_false, not_or] at hplain
  rw [push_open hpath]
  refine ⟨?_, ?_⟩
  · rw [toList_append]
    exact append_ne_nil_of_right_ne_nil _ hplain.1
  · rw [toList_append, getLast?_append_of_ne_nil _ hplain.1]
    intro hlast
    exact hslash (mem_of_getLast? hlast)

section

variable (hroot : Open root) (hnames : ∀ n ∈ names, IsName n)
include hroot hnames

lemma components_place :
    components (place root names) = components root ++ names.map .normal := by
  unfold place
  induction names generalizing root with
  | nil => rw [foldl_nil, map_nil, append_nil]
  | cons n names ih =>
    rw [forall_mem_cons] at hnames
    rw [foldl_cons, ih (open_push hroot hnames.1) hnames.2,
      components_push_name hroot hnames.1, List.append_assoc]
    rfl

lemma isAbsolute_place : isAbsolute (place root names) = isAbsolute root := by
  unfold place
  induction names generalizing root with
  | nil => rfl
  | cons n names ih =>
    rw [forall_mem_cons] at hnames
    rw [foldl_cons, ih (open_push hroot hnames.1) hnames.2]
    unfold isAbsolute
    rw [push_open hroot, toList_append, toList_append]
    cases hlist : root.toList with
    | nil => exact absurd hlist hroot.1
    | cons c cs => rfl

lemma place_eq : place root names = root ++ (names.map fun n => "/" ++ n).foldl (· ++ ·) "" := by
  have hgeneral : ∀ (names : List String) (start : String),
      (names.map fun n => "/" ++ n).foldl (· ++ ·) start =
        start ++ (names.map fun n => "/" ++ n).foldl (· ++ ·) "" := by
    intro names
    induction names with
    | nil =>
      intro start
      exact String.append_empty.symm
    | cons n names ih =>
      intro start
      rw [map_cons, foldl_cons, foldl_cons, ih (start ++ ("/" ++ n)),
        ih ("" ++ ("/" ++ n)), String.empty_append, String.append_assoc]
  unfold place
  induction names generalizing root with
  | nil => exact String.append_empty.symm
  | cons n names ih =>
    rw [forall_mem_cons] at hnames
    rw [foldl_cons, ih (open_push hroot hnames.1) hnames.2, push_open hroot, map_cons,
      foldl_cons, hgeneral names ("" ++ ("/" ++ n)), String.empty_append]
    simp only [String.append_assoc]

lemma push_eq_place {relative : String}
    (htext : "/" ++ relative = (names.map fun n => "/" ++ n).foldl (· ++ ·) "") :
    push root relative = place root names := by
  rw [push_open hroot, place_eq hroot hnames, String.append_assoc, htext]

lemma place_injective {names' : List String} (hnames' : ∀ n ∈ names', IsName n)
    (h : place root names = place root names') : names = names' := by
  have hcomponents := congrArg components h
  rw [components_place hroot hnames, components_place hroot hnames'] at hcomponents
  have hmap := append_cancel_left hcomponents
  exact map_injective_iff.mpr (fun _ _ heq => PathComponent.normal.inj heq) hmap

end

lemma fileName_push (hpath : Open path) (hname : IsName name) :
    fileName (push path name) = some name := by
  unfold fileName
  rw [components_push_name hpath hname, getLast?_append_cons]
  rfl

lemma parentComponents_push (hpath : Open path) (hname : IsName name) :
    parentComponents (push path name) = some (components path) := by
  unfold parentComponents
  rw [components_push_name hpath hname, getLast?_append_cons, dropLast_concat]
  rfl

lemma splitAtLastDot_append {before after : List Char} (h : '.' ∉ after) :
    splitAtLastDot (before ++ '.' :: after) = some (before, after) := by
  have hall : ∀ c ∈ after.reverse, (c != '.') = true := by
    intro c hc
    rw [bne_iff_ne]
    intro hdot
    exact h (hdot ▸ mem_reverse.mp hc)
  have hreverse : (before ++ '.' :: after).reverse = after.reverse ++ '.' :: before.reverse := by
    rw [reverse_append, reverse_cons, List.append_assoc]
    rfl
  unfold splitAtLastDot
  rw [hreverse, dropWhile_append_of_pos hall, takeWhile_append_of_pos hall]
  simp

lemma not_mem_of_mem_splitOn {c : Char} {cs : List Char} : ∀ piece ∈ cs.splitOn c, c ∉ piece := by
  induction cs with
  | nil =>
    intro piece hmem
    rw [splitOn_nil, mem_singleton] at hmem
    rw [hmem]
    exact not_mem_nil
  | cons d cs ih =>
    intro piece hmem
    rw [splitOn_cons_eq_if_modifyHead] at hmem
    cases hsplit : cs.splitOn c with
    | nil => exact absurd hsplit (splitOn_ne_nil _ _)
    | cons first rest =>
      rw [hsplit, forall_mem_cons] at ih
      rw [hsplit] at hmem
      by_cases hd : (d == c) = true
      · rw [if_pos hd, mem_cons] at hmem
        rcases hmem with rfl | hmem
        · exact not_mem_nil
        · rcases mem_cons.mp hmem with rfl | hmem
          · exact ih.1
          · exact ih.2 piece hmem
      · rw [if_neg hd, modifyHead_cons] at hmem
        rcases mem_cons.mp hmem with rfl | hmem
        · rw [mem_cons, not_or]
          exact ⟨fun heq => hd (beq_iff_eq.mpr heq.symm), ih.1⟩
        · exact ih.2 piece hmem

lemma isName_of_mem_components (h : .normal name ∈ components path) : IsName name := by
  have hpiece : ∀ first, ∀ piece ∈ path.toList.splitOn '/',
      pieceComponent first piece = some (.normal name) → IsName name := by
    intro first piece hmem hnormal
    have hslash : '/' ∉ piece := not_mem_of_mem_splitOn piece hmem
    unfold pieceComponent at hnormal
    split_ifs at hnormal with hempty hdot hfirst hup
    · cases hnormal
    · cases hnormal
    · rw [some.injEq, PathComponent.normal.injEq] at hnormal
      rw [← hnormal]
      refine ⟨by rwa [toList_ofList], ?_⟩
      simp [hempty, hdot, hup]
  unfold components at h
  rcases mem_append.mp h with hroot | h
  · split at hroot <;> simp at hroot
  · generalize path.toList.splitOn '/' = pieces at hpiece h
    cases pieces with
    | nil => cases h
    | cons piece pieces =>
      rcases mem_append.mp h with hfirst | hrest
      · exact hpiece true piece mem_cons_self (mem_toList.mp hfirst)
      · obtain ⟨other, hother, hnormal⟩ := mem_filterMap.mp hrest
        exact hpiece false other (mem_cons_of_mem _ hother) hnormal

end Path

end Tidex.Lib
