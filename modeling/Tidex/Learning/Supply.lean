/-
  Learning.Supply — how many candidates a target has.
-/
import Tidex.Learning.Target
import Tidex.Lib.PathText
import Mathlib.Data.List.Perm.Subperm

namespace Tidex.Learning

open Tidex.Lib List Scalar

/-! ## Names -/

/-- What a row is called after. -/
inductive Label where
  | isolate (index : Nat)
  | pair (left right : Nat)
  | mixed (count : Nat)
  deriving DecidableEq

namespace Label

def text : Label → String
  | isolate index => isolateId index
  | pair left right => pairId left right
  | mixed count => mixedId count

/-- The numbers in the name are machine words. -/
def Small : Label → Prop
  | isolate index => index < 10 ^ 20
  | pair left right => left < 10 ^ 20 ∧ right < 10 ^ 20
  | mixed count => count < 10 ^ 20

lemma text_injective : Function.Injective text := by
  intro a b h
  cases a with
  | isolate i =>
    cases b with
    | isolate j =>
      have hdigits := String.ofList_injective (append_left_cancel h)
      rw [padDecimal_injective 3 hdigits]
    | pair => exact absurd h (append_ne_append (by decide) _ _)
    | mixed => exact absurd h (append_ne_append (by decide) _ _)
  | pair l r =>
    cases b with
    | isolate => exact absurd h (append_ne_append (by decide) _ _)
    | pair l' r' =>
      obtain ⟨hl, hr⟩ := dash_injective (String.ofList_injective (append_left_cancel h))
      rw [hl, hr]
    | mixed => exact absurd h (append_ne_append (by decide) _ _)
  | mixed k =>
    cases b with
    | isolate => exact absurd h (append_ne_append (by decide) _ _)
    | pair => exact absurd h (append_ne_append (by decide) _ _)
    | mixed k' =>
      have hdigits := String.ofList_injective (append_left_cancel h)
      rw [padDecimal_injective 4 hdigits]

end Label

/-- A character of the variable part of a name. -/
def isNumberChar (c : Char) : Prop := c.isDigit = true ∨ c = '-'

lemma numberChar_facts {c : Char} (h : isNumberChar c) :
    (Knowledge.isAsciiAlphanumeric c || c == '-' || c == '_' || (false && c == '.')) = true ∧
      c.utf8Size = 1 := by
  rcases h with h | rfl
  · have hhex : isAsciiHexdigit c = true := by simp [isAsciiHexdigit, h]
    exact ⟨by simp [Knowledge.isAsciiAlphanumeric, h],
      (Knowledge.isIdentifierChar_of_hexdigit hhex).2.2⟩
  · exact ⟨by decide, rfl⟩

/-- A fixed beginning with a dash in it, and numbers, make the name of an aperture. -/
lemma apertureName_valid (stem : String) (rest : List Char)
    (hstem : (!stem.toList.isEmpty && stem.toList.head? != some '.' && stem.toList.contains '-' &&
      stem.toList.all fun c => (Knowledge.isAsciiAlphanumeric c || c == '-') &&
        c.utf8Size == 1) = true)
    (hrest : ∀ c ∈ rest, isNumberChar c) (hlength : stem.toList.length + rest.length ≤ 128) :
    NameKind.aperture.isValid (stem ++ String.ofList rest) = true := by
  have hlist : (stem ++ String.ofList rest).toList = stem.toList ++ rest := by
    rw [String.toList_append, String.toList_ofList]
  simp only [Bool.and_eq_true, Bool.not_eq_true', all_eq_true, beq_iff_eq,
    contains_iff_mem, bne_iff_ne] at hstem
  obtain ⟨⟨⟨hne, hhead⟩, hdash⟩, hall⟩ := hstem
  have hsize : (stem ++ String.ofList rest).utf8ByteSize = stem.toList.length + rest.length := by
    have hone : ∀ c ∈ stem.toList ++ rest, c.utf8Size = 1 := by
      intro c hc
      rcases mem_append.mp hc with hc | hc
      · exact (hall c hc).2
      · exact (numberChar_facts (hrest c hc)).2
    rw [Knowledge.utf8ByteSize_eq_textSize, hlist, Json.textSize, map_congr_left hone,
      map_const', sum_replicate_nat, List.length_append, Nat.mul_one]
  have hascii : validateAsciiId (stem ++ String.ofList rest) false true = true := by
    unfold validateAsciiId
    rw [hsize, hlist]
    simp only [Bool.not_eq_true', Bool.or_eq_false_iff, Bool.true_and, decide_eq_false_iff_not,
      not_lt, Bool.not_eq_false', all_eq_true]
    refine ⟨⟨⟨?_, hlength⟩, ?_⟩, ?_⟩
    · cases hcases : stem.toList with
      | nil => simp [hcases] at hne
      | cons c cs => rfl
    · cases hcases : stem.toList with
      | nil => simp [hcases] at hne
      | cons c cs =>
        rw [hcases] at hhead
        simpa using hhead
    · intro c hc
      rcases mem_append.mp hc with hc | hc
      · have hc := (hall c hc).1
        simp only [Bool.or_eq_true] at hc ⊢
        exact .inl (.inl hc)
      · exact (numberChar_facts (hrest c hc)).1
  have hdigest : Knowledge.isRawSha256 (stem ++ String.ofList rest) = false := by
    unfold Knowledge.isRawSha256
    rw [hlist, Bool.and_eq_false_iff]
    refine .inr ?_
    rw [all_eq_false]
    exact ⟨'-', mem_append_left _ hdash, by decide⟩
  show validateSemanticId false _ = true
  unfold validateSemanticId
  rw [hascii, hdigest]
  rfl

lemma padDecimal_numberChar {width n : Nat} : ∀ c ∈ padDecimal width n, isNumberChar c :=
  fun _ hc => .inl (isDigit_of_mem_padDecimal hc)

lemma Label.text_valid {label : Label} (h : label.Small) :
    NameKind.aperture.isValid label.text = true := by
  cases label with
  | isolate i =>
    have hlength := length_padDecimal_le 3 (by decide) h
    refine apertureName_valid "isolate-" _ (by decide) padDecimal_numberChar ?_
    have hstem : "isolate-".toList.length = 8 := by decide
    omega
  | pair l r =>
    have hl := length_padDecimal_le 3 (by decide) h.1
    have hr := length_padDecimal_le 3 (by decide) h.2
    refine apertureName_valid "pair-" _ (by decide) ?_ ?_
    · intro c hc
      rcases mem_append.mp hc with hc | hc
      · exact padDecimal_numberChar c hc
      · rcases mem_cons.mp hc with rfl | hc
        · exact .inr rfl
        · exact padDecimal_numberChar c hc
    · have hstem : "pair-".toList.length = 5 := by decide
      rw [List.length_append, length_cons]
      omega
  | mixed k =>
    have hlength := length_padDecimal_le 4 (by decide) h
    refine apertureName_valid "mixed-" _ (by decide) padDecimal_numberChar ?_
    have hstem : "mixed-".toList.length = 6 := by decide
    omega

/-! ## Keys -/

def marks (dimension : Nat) (indices : List Nat) : List Bool :=
  indices.foldl (fun key index => key.set index true) (List.replicate dimension false)

lemma foldl_set_length {α : Type} (a : α) (indices : List Nat) (start : List α) :
    (indices.foldl (fun l index => l.set index a) start).length = start.length := by
  induction indices generalizing start with
  | nil => rfl
  | cons i indices ih =>
    rw [foldl_cons, ih, length_set]

lemma length_marks (dimension : Nat) (indices : List Nat) :
    (marks dimension indices).length = dimension := by
  unfold marks
  rw [foldl_set_length, length_replicate]

lemma getElem?_foldl_set {α : Type} (a : α) (indices : List Nat) (start : List α) (i : Nat)
    (hi : i < start.length) : (indices.foldl (fun l index => l.set index a) start)[i]? =
      if i ∈ indices then some a else start[i]? := by
  induction indices generalizing start with
  | nil => simp
  | cons j indices ih =>
    rw [foldl_cons, ih _ (by rwa [length_set])]
    by_cases hmem : i ∈ indices
    · simp [hmem]
    · by_cases hij : j = i
      · subst hij
        simp [hmem, hi]
      · have hne : i ≠ j := fun h => hij h.symm
        simp [hmem, hne, getElem?_set_ne hij]

variable {dimension : Nat} {i : Nat}

lemma getElem?_marks (indices : List Nat) (hi : i < dimension) :
    (marks dimension indices)[i]? = some (decide (i ∈ indices)) := by
  unfold marks
  rw [getElem?_foldl_set true indices _ i (by rwa [length_replicate])]
  by_cases hmem : i ∈ indices <;> simp [hmem, hi]

lemma true_mem_marks {indices : List Nat} (hmem : i ∈ indices) (hi : i < dimension) :
    true ∈ marks dimension indices := by
  have hget := getElem?_marks indices hi
  rw [decide_eq_true hmem] at hget
  exact mem_of_getElem? hget

lemma mem_iff_of_marks_eq {indices indices' : List Nat}
    (h : marks dimension indices = marks dimension indices') (hi : i < dimension) :
    i ∈ indices ↔ i ∈ indices' := by
  have hget := getElem?_marks indices hi
  rw [h, getElem?_marks indices' hi, Option.some.injEq] at hget
  exact (decide_eq_decide.mp hget).symm

def allKeys : Nat → List (List Bool)
  | 0 => [[]]
  | n + 1 => (allKeys n).map (false :: ·) ++ (allKeys n).map (true :: ·)

lemma length_allKeys (n : Nat) : (allKeys n).length = 2 ^ n := by
  induction n with
  | zero => rfl
  | succ n ih =>
    rw [allKeys, List.length_append, List.length_map, List.length_map, ih, pow_succ]
    omega

lemma mem_allKeys (key : List Bool) : key ∈ allKeys key.length := by
  induction key with
  | nil => exact mem_cons_self
  | cons b key ih =>
    rw [length_cons, allKeys, mem_append]
    cases b with
    | false => exact .inl (mem_map_of_mem ih)
    | true => exact .inr (mem_map_of_mem ih)

/-- There are fewer keys with a mark than subsets. -/
lemma length_lt_of_keys {seen : List (List Bool)} (hnodup : seen.Nodup)
    (hlength : ∀ key ∈ seen, key.length = dimension) (hmark : ∀ key ∈ seen, true ∈ key) :
    seen.length < 2 ^ dimension := by
  have hblank : replicate dimension false ∉ seen := by
    intro hmem
    have htrue := hmark _ hmem
    rw [mem_replicate] at htrue
    exact absurd htrue.2 (by decide)
  have hsubset : (replicate dimension false :: seen) ⊆ allKeys dimension := by
    intro key hkey
    have hkeyLength : key.length = dimension := by
      rcases mem_cons.mp hkey with rfl | hkey
      · exact length_replicate
      · exact hlength key hkey
    exact hkeyLength ▸ mem_allKeys key
  have hle := (subperm_of_subset (nodup_cons.mpr ⟨hblank, hnodup⟩) hsubset).length_le
  rw [length_allKeys, length_cons] at hle
  omega

/-! ## Generations -/

section

variable {K : Type} [Scalar K]

/-- Arithmetic in which one is more than rounding noise and zero is not. -/
class MarksOne (K : Type) [Scalar K] : Prop where
  zero_noise : Scalar.lt (Scalar.lit 1 12) (Scalar.abs (0 : K)) = false
  one_marked : Scalar.lt (Scalar.lit 1 12) (Scalar.abs (1 : K)) = true

lemma candidateKey_directionOf [MarksOne K] (dimension : Nat) (indices : List Nat) :
    candidateKey (directionOf dimension indices : List K) = marks dimension indices := by
  have hgeneral : ∀ (start : List K),
      candidateKey (indices.foldl (fun l index => l.set index 1) start) =
        indices.foldl (fun l index => l.set index true) (candidateKey start) := by
    induction indices with
    | nil => intro start; rfl
    | cons i indices ih =>
      intro start
      rw [foldl_cons, foldl_cons, ih]
      congr 1
      unfold candidateKey
      rw [map_set, MarksOne.one_marked]
  have hstart : candidateKey (replicate dimension (0 : K)) =
      replicate dimension false := by
    unfold candidateKey
    rw [map_replicate, MarksOne.zero_noise]
  unfold directionOf marks
  rw [hgeneral, hstart]

/-- The costs and risks of rows: of one capability, of two, and of a drawn subset. -/
def Priced (cost risk : K) : Prop :=
  (cost = Scalar.lit 4 0 ∧ risk = Scalar.lit 2 2) ∨
    (cost = Scalar.lit 8 1 ∧ risk = Scalar.lit 3 2) ∨
      ∃ desired : Nat, cost = Scalar.lit 65 2 + Scalar.lit 4 2 * Scalar.lit desired 0 ∧
        risk = Scalar.min (Scalar.lit 2 2 + Scalar.lit 5 3 * Scalar.lit desired 0) (Scalar.lit 25 2)

/-- A row whose direction marks at least one capability. -/
structure Directed (dimension : Nat) (row : CandidateRow K) : Prop where
  marked : ∃ indices, row.direction = directionOf dimension indices ∧ ∃ i ∈ indices, i < dimension
  priced : Priced row.cost row.risk

/-- Rows with names of their own and keys of their own. -/
structure Supplied (dimension : Nat) (used : Label → Prop) (g : Generation K) : Prop where
  keys_length : ∀ key ∈ g.seen, key.length = dimension
  keys_mark : ∀ key ∈ g.seen, true ∈ key
  keys_nodup : g.seen.Nodup
  count : g.rows.length = g.seen.length
  names : ∃ labels : List Label, g.rows.map (fun row => row.apertureId.asStr) =
    labels.map Label.text ∧ labels.Nodup ∧ ∀ label ∈ labels, used label
  directed : ∀ row ∈ g.rows, Directed dimension row

variable {dimension : Nat} {used used' : Label → Prop} {g : Generation K}

lemma Supplied.mono (h : Supplied dimension used g) (hsub : ∀ label, used label → used' label) :
    Supplied dimension used' g := by
  obtain ⟨labels, htext, hnodup, hused⟩ := h.names
  exact ⟨h.keys_length, h.keys_mark, h.keys_nodup, h.count,
    ⟨labels, htext, hnodup, fun label hlabel => hsub label (hused label hlabel)⟩, h.directed⟩

lemma Supplied.start : Supplied dimension used (⟨[], []⟩ : Generation K) := by
  refine ⟨?_, ?_, nodup_nil, rfl, ⟨[], rfl, nodup_nil, ?_⟩, ?_⟩
  · intro key hkey
    cases hkey
  · intro key hkey
    cases hkey
  · intro label hlabel
    cases hlabel
  · intro row hrow
    cases hrow

lemma Supplied.count_lt (h : Supplied dimension used g) : g.rows.length < 2 ^ dimension := by
  rw [h.count]
  exact length_lt_of_keys h.keys_nodup h.keys_length h.keys_mark

lemma Supplied.names_nodup (h : Supplied dimension used g) :
    (g.rows.map (·.apertureId)).Nodup := by
  obtain ⟨labels, htext, hnodup, -⟩ := h.names
  have hmap : (g.rows.map (·.apertureId)).map Name.asStr = labels.map Label.text := by
    rw [List.map_map]
    exact htext
  have htexts := hnodup.map Label.text_injective
  rw [← hmap] at htexts
  exact Nodup.of_map _ htexts

/-- A new name and a new subset make a new row. -/
lemma Supplied.push [MarksOne K] (h : Supplied dimension used g) (label : Label)
    (indices : List Nat) (cost risk : K) (hsmall : label.Small) (hfresh : ¬used label)
    (hmark : ∃ i ∈ indices, i < dimension) (hprice : Priced cost risk)
    (hkey : marks dimension indices ∉ g.seen) :
    ∃ g', g.push label.text indices dimension cost risk = .ok g' ∧
      Supplied dimension (fun l => used l ∨ l = label) g' ∧
      g'.rows.length = g.rows.length + 1 ∧ g'.seen = marks dimension indices :: g.seen := by
  obtain ⟨labels, htext, hnodup, hused⟩ := h.names
  obtain ⟨i, hi, hlt⟩ := hmark
  have hseen : g.insertKey (candidateKey (directionOf dimension indices : List K)) =
      marks dimension indices :: g.seen := by
    unfold Generation.insertKey
    rw [candidateKey_directionOf, if_neg hkey]
  have hpush : g.push label.text indices dimension cost risk = .ok
      { rows := g.rows ++ [⟨⟨label.text, Label.text_valid hsmall⟩, directionOf dimension indices,
          cost, risk⟩]
        seen := marks dimension indices :: g.seen } := by
    unfold Generation.push
    rw [Name.parse_of_valid (Label.text_valid hsmall), ← hseen]
    rfl
  refine ⟨_, hpush, ?_⟩
  refine ⟨⟨?_, ?_, nodup_cons.mpr ⟨hkey, h.keys_nodup⟩, ?_, ?_, ?_⟩, ?_, rfl⟩
  · exact forall_mem_cons.mpr ⟨length_marks _ _, h.keys_length⟩
  · exact forall_mem_cons.mpr ⟨true_mem_marks hi hlt, h.keys_mark⟩
  · rw [List.length_append, length_cons, length_cons, h.count]
    rfl
  · refine ⟨labels ++ [label], ?_, ?_, ?_⟩
    · rw [map_append, map_append, htext]
      rfl
    · exact nodup_snoc hnodup fun hmem => hfresh (hused label hmem)
    · exact forall_mem_concat (fun l hl => .inl (hused l hl)) (.inr rfl)
  · exact forall_mem_concat h.directed ⟨⟨indices, rfl, i, hi, hlt⟩, hprice⟩
  · rw [List.length_append]
    rfl

/-! ## The rows before the first draw -/

variable {target : LearningTarget K}

lemma validateTarget_counts (h : validateTarget target = .ok ()) :
    2 ≤ target.capabilityIds.length ∧ target.capabilityIds.length ≤ 256 ∧
      target.capabilityIds.length ≤ target.planSteps ∧
      target.planSteps ≤ target.candidateBudget := by
  unfold validateTarget at h
  rw [seq_ok, failIf_ok] at h
  obtain ⟨hcounts, -⟩ := h
  simp only [not_or, not_lt, gt_iff_lt] at hcounts
  exact ⟨hcounts.1, hcounts.2.1, hcounts.2.2.2.1, hcounts.2.2.2.2.1⟩

def IsolateOf (done : List Nat) (label : Label) : Prop :=
  ∃ i ∈ done, label = .isolate i

/-- The subsets of one capability and of some pairs. -/
def pairKeys (dimension : Nat) (done : List (Nat × Nat)) : List (List Bool) :=
  (List.range dimension).map (fun index => marks dimension [index]) ++
    done.map fun pair => marks dimension [pair.1, pair.2]

lemma isolates_ok [MarksOne K] (dimension : Nat) (hdimension : dimension ≤ 256) :
    ∃ g : Generation K, (range dimension).foldlM (isolateStep dimension) ⟨[], []⟩ = .ok g ∧
      Supplied dimension (IsolateOf (range dimension)) g ∧ g.rows.length = dimension ∧
        ∀ key, key ∈ g.seen ↔ key ∈ pairKeys dimension [] := by
  have hrun : ∃ g : Generation K,
      (range dimension).foldlM (isolateStep dimension) ⟨[], []⟩ = .ok g ∧
        Supplied dimension (IsolateOf (range dimension)) g ∧
          g.rows.length = (range dimension).length ∧
            ∀ key, key ∈ g.seen ↔ ∃ i ∈ range dimension, marks dimension [i] = key := by
    refine foldlM_ok_of_prefix (fun done g => Supplied dimension (IsolateOf done) g ∧
      g.rows.length = done.length ∧ ∀ key, key ∈ g.seen ↔ ∃ i ∈ done, marks dimension [i] = key)
      ⟨Supplied.start, rfl, fun key => by simp⟩ ?_
    intro done index g hprefix hinv
    obtain ⟨hsupplied, hcount, hkeys⟩ := hinv
    have hmem : index ∈ range dimension := hprefix.subset (by simp)
    have hlt : index < dimension := mem_range.mp hmem
    have hnew : index ∉ done := by
      have hnodup := (nodup_range (n := dimension)).sublist hprefix.sublist
      intro hdone
      exact (nodup_append.mp hnodup).2.2 index hdone index (mem_singleton_self _) rfl
    have hfresh : ¬IsolateOf done (.isolate index) := by
      intro hused
      obtain ⟨i, hi, heq⟩ := hused
      cases heq
      exact hnew hi
    have hkey : marks dimension [index] ∉ g.seen := by
      intro hseen
      obtain ⟨i, hi, heq⟩ := (hkeys _).mp hseen
      have hsame := (mem_iff_of_marks_eq heq.symm hlt).mp mem_cons_self
      rw [mem_singleton] at hsame
      exact hnew (hsame ▸ hi)
    have hsmall : Label.Small (.isolate index) := by
      show index < 10 ^ 20
      omega
    obtain ⟨g', hpush, hsupplied', hcount', hseen'⟩ := hsupplied.push (.isolate index) [index]
      (lit 4 0) (lit 2 2) hsmall hfresh ⟨index, mem_cons_self, hlt⟩
      (.inl ⟨rfl, rfl⟩) hkey
    refine ⟨g', hpush, hsupplied'.mono ?_, ?_, ?_⟩
    · intro label hlabel
      rcases hlabel with ⟨i, hi, rfl⟩ | rfl
      · exact ⟨i, mem_append_left _ hi, rfl⟩
      · exact ⟨index, by simp, rfl⟩
    · rw [hcount', hcount, List.length_append]
      rfl
    · intro key
      rw [hseen', mem_cons, hkeys, exists_mem_concat, or_comm]
      exact or_congr_right eq_comm
  obtain ⟨g, hrun, hsupplied, hcount, hkeys⟩ := hrun
  refine ⟨g, hrun, hsupplied, by rw [hcount, length_range], ?_⟩
  intro key
  rw [hkeys, pairKeys, map_nil, append_nil, mem_map]

lemma mem_pairs {dimension : Nat} {pair : Nat × Nat} (h : pair ∈ pairs dimension) :
    pair.1 < dimension ∧ pair.2 < dimension := by
  unfold pairs at h
  obtain ⟨left, hleft, hpair⟩ := mem_flatMap.mp h
  obtain ⟨right, hright, rfl⟩ := mem_map.mp hpair
  rw [mem_range] at hleft
  rw [mem_range'_1] at hright
  refine ⟨hleft, ?_⟩
  show right < dimension
  omega

lemma pairs_nodup (dimension : Nat) : (pairs dimension).Nodup := by
  unfold pairs
  rw [nodup_flatMap]
  refine ⟨?_, ?_⟩
  · intro left _
    have hright : (range' (left + 1) (dimension - (left + 1))).Nodup := nodup_range'
    exact hright.map fun a b h => (Prod.mk.inj h).2
  · refine (nodup_range (n := dimension)).imp ?_
    intro a b hab p hpa hpb
    obtain ⟨x, -, rfl⟩ := mem_map.mp hpa
    obtain ⟨y, -, heq⟩ := mem_map.mp hpb
    exact hab (Prod.mk.inj heq).1.symm

def PairOf (done : List (Nat × Nat)) (label : Label) : Prop :=
  (∃ i, label = .isolate i) ∨ ∃ p ∈ done, label = .pair p.1 p.2

/-- The rows of one capability and of some pairs: at most the budget, and all subsets there
    are while the budget lasts. -/
structure Paired (target : LearningTarget K) (done : List (Nat × Nat)) (g : Generation K) :
    Prop where
  supplied : Supplied target.capabilityIds.length (PairOf done) g
  budget : g.rows.length ≤ target.candidateBudget
  seen_sub : ∀ key ∈ g.seen, key ∈ pairKeys target.capabilityIds.length done
  seen_all : g.rows.length < target.candidateBudget →
    ∀ key ∈ pairKeys target.capabilityIds.length done, key ∈ g.seen

lemma pairKeys_snoc (dimension : Nat) (done : List (Nat × Nat)) (pair : Nat × Nat) :
    pairKeys dimension (done ++ [pair]) =
      pairKeys dimension done ++ [marks dimension [pair.1, pair.2]] := by
  unfold pairKeys
  rw [map_append, List.append_assoc]
  rfl

lemma pairs_ok [MarksOne K] (hdimension : target.capabilityIds.length ≤ 256) {g : Generation K}
    (hstart : Paired target [] g) :
    ∃ g', (pairs target.capabilityIds.length).foldlM (pairStep target) g = .ok g' ∧
      Paired target (pairs target.capabilityIds.length) g' := by
  refine foldlM_ok_of_prefix (fun done g => Paired target done g) hstart ?_
  intro done pair g hprefix hinv
  obtain ⟨hsupplied, hbudget, hsub, hall⟩ := hinv
  have hsubNext : ∀ key ∈ g.seen, key ∈ pairKeys target.capabilityIds.length (done ++ [pair]) := by
    intro key hkey
    rw [pairKeys_snoc]
    exact mem_append_left _ (hsub key hkey)
  have hmem : pair ∈ pairs target.capabilityIds.length := hprefix.subset (by simp)
  obtain ⟨hleft, hright⟩ := mem_pairs hmem
  have hskip : Supplied target.capabilityIds.length (PairOf (done ++ [pair])) g := by
    refine hsupplied.mono ?_
    intro label hlabel
    rcases hlabel with hlabel | ⟨p, hp, rfl⟩
    · exact .inl hlabel
    · exact .inr ⟨p, mem_append_left _ hp, rfl⟩
  by_cases hfull : g.rows.length ≥ target.candidateBudget
  · refine ⟨g, ?_, hskip, hbudget, hsubNext, ?_⟩
    · unfold pairStep
      rw [if_pos hfull]
    · intro hlt
      omega
  by_cases hseen : candidateKey (directionOf target.capabilityIds.length [pair.1, pair.2] :
      List K) ∈ g.seen
  · refine ⟨g, ?_, hskip, hbudget, hsubNext, ?_⟩
    · unfold pairStep
      rw [if_neg hfull, if_pos hseen]
    · intro hlt key hkey
      rw [pairKeys_snoc, mem_append, mem_singleton] at hkey
      rw [candidateKey_directionOf] at hseen
      rcases hkey with hkey | rfl
      · exact hall hlt key hkey
      · exact hseen
  -- the pair was not seen, so its row is a new one
  have hfresh : ¬PairOf done (.pair pair.1 pair.2) := by
    intro hused
    rcases hused with ⟨i, heq⟩ | ⟨p, hp, heq⟩
    · cases heq
    · obtain ⟨h1, h2⟩ := Label.pair.inj heq
      have hnodup := (pairs_nodup target.capabilityIds.length).sublist hprefix.sublist
      have hsame : pair = p := Prod.ext h1 h2
      exact (nodup_append.mp hnodup).2.2 p hp pair (mem_singleton_self _) hsame.symm
  have hkey : marks target.capabilityIds.length [pair.1, pair.2] ∉ g.seen := by
    rwa [candidateKey_directionOf] at hseen
  have hsmall : Label.Small (.pair pair.1 pair.2) := by
    show pair.1 < 10 ^ 20 ∧ pair.2 < 10 ^ 20
    omega
  obtain ⟨g', hpush, hsupplied', hcount', hseen'⟩ := hsupplied.push (.pair pair.1 pair.2)
    [pair.1, pair.2] (lit 8 1) (lit 3 2) hsmall hfresh
    ⟨pair.1, mem_cons_self, hleft⟩ (.inr (.inl ⟨rfl, rfl⟩)) hkey
  refine ⟨g', ?_, hsupplied'.mono ?_, ?_, ?_, ?_⟩
  · unfold pairStep
    rw [if_neg hfull, if_neg hseen]
    exact hpush
  · intro label hlabel
    rcases hlabel with hlabel | rfl
    · rcases hlabel with hlabel | ⟨p, hp, rfl⟩
      · exact .inl hlabel
      · exact .inr ⟨p, mem_append_left _ hp, rfl⟩
    · exact .inr ⟨pair, by simp, rfl⟩
  · omega
  · intro key hmem
    rw [hseen'] at hmem
    rcases mem_cons.mp hmem with rfl | hmem
    · rw [pairKeys_snoc]
      exact mem_append_right _ mem_cons_self
    · exact hsubNext key hmem
  · intro _ key hmem
    rw [pairKeys_snoc, mem_append, mem_singleton] at hmem
    rw [hseen']
    rcases hmem with hmem | rfl
    · exact mem_cons_of_mem _ (hall (by omega) key hmem)
    · exact mem_cons_self

/-- The rows before the first draw are those of one capability and of two, within the
    budget. -/
lemma startRows_ok [MarksOne K] (hvalid : validateTarget target = .ok ()) :
    ∃ g, startRows target = .ok g ∧ Paired target (pairs target.capabilityIds.length) g := by
  obtain ⟨-, hdimension, hplan, hbudget⟩ := validateTarget_counts hvalid
  obtain ⟨g, hisolates, hsupplied, hcount, hseen⟩ := isolates_ok (K := K) _ hdimension
  have hpairs : Paired target [] g := by
    refine ⟨hsupplied.mono ?_, by omega, ?_, ?_⟩
    · intro label hlabel
      obtain ⟨i, -, rfl⟩ := hlabel
      exact .inl ⟨i, rfl⟩
    · intro key hkey
      exact (hseen key).mp hkey
    · intro _ key hkey
      exact (hseen key).mpr hkey
  obtain ⟨g', hrun, hpaired⟩ := pairs_ok hdimension hpairs
  refine ⟨g', ?_, hpaired⟩
  unfold startRows
  simp only []
  rw [hisolates]
  exact hrun

end

end Tidex.Learning
