/-
  Lib.Spelling — the spellings of a plain path.
-/
import Tidex.Lib.Path

namespace Tidex.Lib.Path

open List String

/-! ## Pieces -/

/-- The text of pieces with slashes between them. -/
def spell (first : List Char) (rest : List (List Char)) : List Char :=
  first ++ rest.flatMap fun piece => '/' :: piece

lemma intercalate_eq_spell (first : List Char) (rest : List (List Char)) :
    ['/'].intercalate (first :: rest) = spell first rest := by
  induction rest generalizing first with
  | nil => simp [spell, List.intercalate]
  | cons piece rest ih =>
    have htail := ih piece
    simp only [List.intercalate, spell] at htail ⊢
    rw [intersperse_cons_cons, flatten_cons, flatten_cons, htail]
    simp

/-- Whether a component is made of a piece. -/
def kept (piece : List Char) : Bool := !piece.isEmpty && piece != ['.']

lemma kept_iff {piece : List Char} : kept piece = true ↔ piece ≠ [] ∧ piece ≠ ['.'] := by
  unfold kept
  rw [Bool.and_eq_true, bne_iff_ne, Bool.not_eq_true', List.isEmpty_eq_false_iff]

def textBytes (cs : List Char) : Nat := (String.ofList cs).utf8ByteSize

lemma textBytes_append (a b : List Char) : textBytes (a ++ b) = textBytes a + textBytes b := by
  unfold textBytes
  rw [ofList_append, utf8ByteSize_append]

lemma textBytes_slash (piece : List Char) : textBytes ('/' :: piece) = 1 + textBytes piece := by
  have happend := textBytes_append ['/'] piece
  rw [singleton_append] at happend
  rw [happend]
  rfl

lemma textBytes_filter (rest : List (List Char)) :
    textBytes ((rest.filter kept).flatMap fun piece => '/' :: piece) ≤
        textBytes (rest.flatMap fun piece => '/' :: piece) ∧
      (textBytes (rest.flatMap fun piece => '/' :: piece) ≤
          textBytes ((rest.filter kept).flatMap fun piece => '/' :: piece) →
        rest.filter kept = rest) := by
  induction rest with
  | nil => simp
  | cons piece rest ih =>
    obtain ⟨hle, heq⟩ := ih
    rw [flatMap_cons, textBytes_append, textBytes_slash]
    by_cases hkept : kept piece = true
    · rw [filter_cons_of_pos hkept, flatMap_cons, textBytes_append, textBytes_slash]
      constructor
      · omega
      · intro hsize
        rw [heq (by omega)]
    · -- a piece that is left out had a slash at least
      rw [filter_cons_of_neg hkept]
      constructor
      · omega
      · intro hsize
        omega

/-! ## Plain paths -/

def IsPlain (path : String) : Prop :=
  path.toList ≠ [] ∧ isAbsolute path = false ∧
    ∀ component ∈ components path, (asNormal component).isSome = true

structure PlainPieces (first : List Char) (rest : List (List Char)) : Prop where
  noSlash : ∀ piece ∈ first :: rest, '/' ∉ piece
  first_kept : kept first = true
  noParent : ∀ piece ∈ first :: rest, piece ≠ ['.', '.']

section

variable {first : List Char} {rest : List (List Char)}

lemma splitOn_spell (h : ∀ piece ∈ first :: rest, '/' ∉ piece) :
    (spell first rest).splitOn '/' = first :: rest := by
  rw [← intercalate_eq_spell]
  exact splitOn_intercalate '/' h (cons_ne_nil _ _)

lemma PlainPieces.head (h : PlainPieces first rest) : ∃ c cs, first = c :: cs ∧ c ≠ '/' := by
  cases hfirst : first with
  | nil => exact absurd hfirst (kept_iff.mp h.first_kept).1
  | cons c cs =>
    refine ⟨c, cs, rfl, ?_⟩
    intro hc
    apply h.noSlash first mem_cons_self
    rw [hfirst, hc]
    exact mem_cons_self

lemma PlainPieces.not_absolute (h : PlainPieces first rest) :
    isAbsolute (ofList (spell first rest)) = false := by
  obtain ⟨c, cs, hfirst, hc⟩ := h.head
  unfold isAbsolute spell
  rw [toList_ofList, hfirst]
  simpa using hc

lemma pieceComponent_kept {start : Bool} {piece : List Char} (hkept : kept piece = true)
    (hparent : piece ≠ ['.', '.']) :
    pieceComponent start piece = some (.normal (ofList piece)) := by
  unfold pieceComponent
  rw [if_neg (kept_iff.mp hkept).1, if_neg (kept_iff.mp hkept).2, if_neg hparent]

lemma pieceComponent_dropped {piece : List Char} (h : ¬kept piece = true) :
    pieceComponent false piece = none := by
  rw [kept_iff] at h
  unfold pieceComponent
  by_cases hempty : piece = []
  · rw [if_pos hempty]
  · have hdot : piece = ['.'] := by
      by_contra hne
      exact h ⟨hempty, hne⟩
    rw [if_neg hempty, if_pos hdot]
    rfl

lemma filterMap_pieces (hparent : ∀ piece ∈ rest, piece ≠ ['.', '.']) :
    rest.filterMap (pieceComponent false) =
      (rest.filter kept).map fun piece => .normal (ofList piece) := by
  induction rest with
  | nil => rfl
  | cons piece rest ih =>
    have htail := ih (fun other hother => hparent other (mem_cons_of_mem _ hother))
    by_cases hkept : kept piece = true
    · rw [filterMap_cons_some (pieceComponent_kept hkept (hparent piece mem_cons_self)),
        filter_cons_of_pos hkept, map_cons, htail]
    · rw [filterMap_cons_none (pieceComponent_dropped hkept), filter_cons_of_neg hkept, htail]

lemma PlainPieces.components (h : PlainPieces first rest) :
    Path.components (ofList (spell first rest)) =
      (first :: rest.filter kept).map fun piece => .normal (ofList piece) := by
  unfold Path.components
  rw [h.not_absolute, toList_ofList, splitOn_spell h.noSlash, map_cons,
    ← filterMap_pieces fun piece hpiece => h.noParent piece (mem_cons_of_mem _ hpiece)]
  show [] ++ ((pieceComponent true first).toList ++ _) = _
  rw [pieceComponent_kept h.first_kept (h.noParent first mem_cons_self)]
  rfl

lemma PlainPieces.plain (h : PlainPieces first rest) : IsPlain (ofList (spell first rest)) := by
  refine ⟨?_, h.not_absolute, ?_⟩
  · obtain ⟨c, cs, hfirst, -⟩ := h.head
    rw [toList_ofList, hfirst]
    exact cons_ne_nil _ _
  · rw [h.components]
    intro component hmem
    obtain ⟨piece, -, hpiece⟩ := mem_map.mp hmem
    rw [← hpiece]
    rfl

lemma PlainPieces.append (h : PlainPieces first rest) {more : List (List Char)}
    (hmore : ∀ piece ∈ more, ¬kept piece = true) :
    PlainPieces first (rest.filter kept ++ more) := by
  have hpiece : ∀ piece ∈ first :: (rest.filter kept ++ more),
      piece ∈ first :: rest ∨ ¬kept piece = true := by
    intro piece hmem
    rw [mem_cons, mem_append, mem_filter] at hmem
    rcases hmem with hmem | hmem | hmem
    · exact .inl (mem_cons.mpr (.inl hmem))
    · exact .inl (mem_cons_of_mem _ hmem.1)
    · exact .inr (hmore piece hmem)
  have hshort : ∀ piece : List Char, ¬kept piece = true → piece = [] ∨ piece = ['.'] := by
    intro piece hnot
    by_contra hboth
    rw [not_or] at hboth
    exact hnot (kept_iff.mpr hboth)
  refine ⟨?_, h.first_kept, ?_⟩
  · intro piece hmem
    rcases hpiece piece hmem with hmem | hnot
    · exact h.noSlash piece hmem
    · rcases hshort piece hnot with hpiece | hpiece
      · rw [hpiece]
        exact not_mem_nil
      · rw [hpiece]
        decide
  · intro piece hmem
    rcases hpiece piece hmem with hmem | hnot
    · exact h.noParent piece hmem
    · rcases hshort piece hnot with hpiece | hpiece
      · rw [hpiece]
        decide
      · rw [hpiece]
        decide

end

lemma exists_pieces {path : String} (h : IsPlain path) :
    ∃ first rest, PlainPieces first rest ∧ path = ofList (spell first rest) := by
  obtain ⟨hne, habsolute, hnormal⟩ := h
  cases hsplit : path.toList.splitOn '/' with
  | nil => exact absurd hsplit (splitOn_ne_nil _ _)
  | cons first rest =>
    have hjoin : ['/'].intercalate (path.toList.splitOn '/') = path.toList :=
      intercalate_splitOn '/'
    rw [hsplit, intercalate_eq_spell] at hjoin
    have hnoSlash : ∀ piece ∈ first :: rest, '/' ∉ piece := by
      rw [← hsplit]
      exact not_mem_of_mem_splitOn
    have hcomponents : Path.components path =
        (pieceComponent true first).toList ++ rest.filterMap (pieceComponent false) := by
      unfold Path.components
      rw [habsolute, hsplit]
      rfl
    rw [hcomponents] at hnormal
    -- an empty first piece makes the path empty or absolute
    have hfirst : first ≠ [] := by
      intro hempty
      rw [hempty] at hjoin
      cases hrest : rest with
      | nil =>
        rw [hrest] at hjoin
        exact hne hjoin.symm
      | cons piece more =>
        rw [hrest] at hjoin
        unfold isAbsolute at habsolute
        rw [← hjoin] at habsolute
        simp [spell] at habsolute
    have hparent : ∀ start : Bool, pieceComponent start ['.', '.'] = some .parentDir := by
      decide
    refine ⟨first, rest, ⟨hnoSlash, kept_iff.mpr ⟨hfirst, ?_⟩, ?_⟩, ?_⟩
    · intro hdot
      have hbad := hnormal .curDir (by rw [hdot]; exact mem_append_left _ (by decide))
      cases hbad
    · intro piece hpiece hup
      rw [mem_cons] at hpiece
      have hmem : PathComponent.parentDir ∈
          (pieceComponent true first).toList ++ rest.filterMap (pieceComponent false) := by
        rcases hpiece with hpiece | hpiece
        · apply mem_append_left
          rw [← hpiece, hup, hparent]
          exact mem_singleton_self _
        · apply mem_append_right
          rw [mem_filterMap]
          exact ⟨piece, hpiece, by rw [hup, hparent]⟩
      have hbad := hnormal _ hmem
      cases hbad
    · rw [hjoin, ofList_toList]

/-! ## The tidy spelling -/

/-- The names of a plain path with single slashes between them. -/
def tidy (path : String) : String :=
  String.ofList (['/'].intercalate ((components path).map fun c => (componentText c).toList))

lemma tidy_spell {first : List Char} {rest : List (List Char)} (h : PlainPieces first rest) :
    tidy (String.ofList (spell first rest)) = String.ofList (spell first (rest.filter kept)) := by
  have hnames : ((first :: rest.filter kept).map fun piece =>
      PathComponent.normal (String.ofList piece)).map (fun c => (componentText c).toList) =
        first :: rest.filter kept := by
    rw [List.map_map]
    have hid : (fun c => (componentText c).toList) ∘
        (fun piece => PathComponent.normal (String.ofList piece)) = id := by
      funext piece
      exact String.toList_ofList
    rw [hid, List.map_id]
  unfold tidy
  rw [h.components, hnames, intercalate_eq_spell]

section

variable {path other : String}

lemma tidy_congr (h : components other = components path) : tidy other = tidy path := by
  unfold tidy
  rw [h]

/-- No spelling is shorter than the tidy one. -/
lemma size_tidy_le (h : IsPlain path) : (tidy path).utf8ByteSize ≤ path.utf8ByteSize := by
  obtain ⟨first, rest, hpieces, hpath⟩ := exists_pieces h
  rw [hpath, tidy_spell hpieces]
  show textBytes (first ++ _) ≤ textBytes (first ++ _)
  rw [textBytes_append, textBytes_append]
  have hsize := (textBytes_filter rest).1
  omega

lemma eq_tidy_of_size (h : IsPlain path)
    (hsize : path.utf8ByteSize ≤ (tidy path).utf8ByteSize) : path = tidy path := by
  obtain ⟨first, rest, hpieces, hpath⟩ := exists_pieces h
  rw [hpath, tidy_spell hpieces] at hsize
  rw [hpath, tidy_spell hpieces]
  have hbytes : textBytes (first ++ _) ≤ textBytes (first ++ _) := hsize
  rw [textBytes_append, textBytes_append] at hbytes
  rw [(textBytes_filter rest).2 (by omega)]

lemma tidy_spells (h : IsPlain path) :
    IsPlain (tidy path) ∧ components (tidy path) = components path ∧
      IsPlain (tidy path ++ "/") ∧ components (tidy path ++ "/") = components path := by
  obtain ⟨first, rest, hpieces, hpath⟩ := exists_pieces h
  rw [hpath, tidy_spell hpieces, hpieces.components]
  have hslash : ofList (spell first (rest.filter kept)) ++ "/" =
      ofList (spell first (rest.filter kept ++ [[]])) := by
    apply toList_injective
    simp [spell]
  have hnone : ∀ piece ∈ ([] : List (List Char)), ¬kept piece = true := by
    intro piece hmem
    cases hmem
  have hempty : ∀ piece ∈ ([[]] : List (List Char)), ¬kept piece = true := by
    decide
  have htidy := hpieces.append hnone
  have hlonger := hpieces.append hempty
  rw [append_nil] at htidy
  rw [hslash]
  refine ⟨htidy.plain, ?_, hlonger.plain, ?_⟩
  · rw [htidy.components, filter_filter]
    simp
  · rw [hlonger.components, filter_append, filter_filter]
    have hdropped : [([] : List Char)].filter kept = [] := by
      decide
    rw [hdropped]
    simp

lemma unique_spelling {limit : Nat} (h : IsPlain path) (hlimit : path.utf8ByteSize ≤ limit) :
    (∀ other, IsPlain other → components other = components path → other.utf8ByteSize ≤ limit →
      other = path) ↔ (tidy path).utf8ByteSize = limit := by
  have hle := size_tidy_le h
  constructor
  · intro hunique
    by_contra hne
    obtain ⟨hplain, hsame, hplain', hsame'⟩ := tidy_spells h
    -- there is room for a slash after the tidy spelling
    have hroom : (tidy path ++ "/").utf8ByteSize ≤ limit := by
      rw [utf8ByteSize_append]
      show _ + 1 ≤ limit
      omega
    have htidy := hunique _ hplain hsame (hle.trans hlimit)
    have hslash := hunique _ hplain' hsame' hroom
    have hsizes := congrArg utf8ByteSize (htidy.trans hslash.symm)
    rw [utf8ByteSize_append] at hsizes
    have hone : "/".utf8ByteSize = 1 := rfl
    omega
  · intro hfull other hother hsame hsize
    have hsameTidy := tidy_congr hsame
    rw [eq_tidy_of_size hother (by rw [hsameTidy]; omega), hsameTidy]
    exact (eq_tidy_of_size h (by omega)).symm

end

end Tidex.Lib.Path
