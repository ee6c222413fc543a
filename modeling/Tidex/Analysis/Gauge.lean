/-
  Analysis.Gauge — the alignment of two bases.
-/
import Tidex.Analysis.Hungarian
import Tidex.Foundation.Cosine

namespace Tidex.Analysis

open Tidex.Lib List

/-! ## The alignment -/

structure BasisAlignment (K : Type) where
  assignment : List (Option Nat)
  signs : List K
  meanAbsCosine : K

def readAssignment (rows cols n : Nat) (p : Nat → Nat) : List (Option Nat) :=
  (List.range' 1 n).foldl (fun rowToCol j =>
      if 0 < p j ∧ p j ≤ rows ∧ j ≤ cols then rowToCol.set (p j - 1) (some (j - 1)) else rowToCol)
    (List.replicate rows none)

section

variable {K : Type} [Scalar K]

def costTable (reference candidate : List (List K)) : BrainResult (List (List K)) :=
  reference.mapM fun left => candidate.mapM fun right => do
    let value ← cosine left right
    return 1 - clamp 0 1 (Scalar.abs value)

def paddedCost (table : List (List K)) (i j : Nat) : K := (table.getD i []).getD j 1

/-- The signs, the sum of the absolute cosines, and how many they are. -/
structure Tally (K : Type) where
  signs : List K
  sum : K
  count : Nat

def tallyRow (candidate : List (List K)) (tally : Tally K) (row : List K × Option Nat) :
    BrainResult (Tally K) :=
  match row.2 with
  | none => .ok { tally with signs := tally.signs ++ [1] }
  | some j => do
    let c ← cosine row.1 (candidate.getD j [])
    return ⟨tally.signs ++ [if Scalar.le 0 c then 1 else -1], tally.sum + Scalar.abs c,
      tally.count + 1⟩

def alignBases (reference candidate : List (List K)) : BrainResult (Option (BasisAlignment K)) := do
  failIf (reference.isEmpty ∨ candidate.isEmpty) (invalid "gauge_empty_basis")
  let dim := (reference.headD []).length
  failIf (dim = 0 ∨ (reference ++ candidate).any fun v => v.length != dim)
    (invalid "gauge_dimension_mismatch")
  let n := max reference.length candidate.length
  let table ← costTable reference candidate
  match assign Scalar.lt n (paddedCost table) with
  | none => return none
  | some s =>
    let rowToCol := readAssignment reference.length candidate.length n s.p
    let tally ← (reference.zip rowToCol).foldlM (tallyRow candidate) ⟨[], 0, 0⟩
    return some ⟨rowToCol, tally.signs, tally.sum / Scalar.lit (max tally.count 1) 0⟩

end

/-! ## The partners -/

def partnerOf (assignment : List (Option Nat)) (i : Nat) : Option Nat := assignment.getD i none

/-- The partners are those of the columns, where no two columns have one row. -/
lemma readAssignment_spec (rows : Nat) {cols n : Nat} {p : Nat → Nat}
    (hinj : ∀ j k, 1 ≤ j → j ≤ n → 1 ≤ k → k ≤ n → p j ≠ 0 → p j = p k → j = k) (hcols : cols ≤ n) :
    (readAssignment rows cols n p).length = rows ∧
      ReadsOff rows cols p (partnerOf (readAssignment rows cols n p)) := by
  -- after the columns so far, a row has the partner that one of them gave it
  have hsteps : ∀ m, m ≤ n → (readAssignment rows cols m p).length = rows ∧
      ∀ i, i < rows → ∀ j, partnerOf (readAssignment rows cols m p) i = some j ↔
        j < m ∧ j < cols ∧ p (j + 1) = i + 1 := by
    intro m
    induction m with
    | zero =>
      intro _
      refine ⟨length_replicate, ?_⟩
      intro i hi j
      have hnone : partnerOf (readAssignment rows cols 0 p) i = none := by
        show (replicate rows none).getD i none = none
        simp [hi]
      rw [hnone]
      constructor
      · intro h
        cases h
      · intro h
        omega
    | succ m ih =>
      intro hm
      obtain ⟨hlength, hpartner⟩ := ih (by omega)
      have hstep : readAssignment rows cols (m + 1) p =
          if 0 < p (m + 1) ∧ p (m + 1) ≤ rows ∧ m + 1 ≤ cols then
            (readAssignment rows cols m p).set (p (m + 1) - 1) (some m)
          else readAssignment rows cols m p := by
        unfold readAssignment
        rw [range'_concat, foldl_append, foldl_cons, foldl_nil, Nat.one_mul,
          Nat.add_comm 1 m, Nat.add_sub_cancel]
      rw [hstep]
      by_cases hin : 0 < p (m + 1) ∧ p (m + 1) ≤ rows ∧ m + 1 ≤ cols
      · rw [if_pos hin]
        refine ⟨by rw [length_set, hlength], ?_⟩
        intro i hi j
        by_cases hrow : p (m + 1) = i + 1
        · have hset : partnerOf ((readAssignment rows cols m p).set (p (m + 1) - 1) (some m)) i =
              some m := by
            unfold partnerOf
            rw [hrow, Nat.add_sub_cancel, getD_eq_getElem?_getD,
              getElem?_set_self (by omega), Option.getD_some]
          rw [hset, Option.some.injEq]
          constructor
          · intro hj
            rw [← hj]
            exact ⟨by omega, by omega, hrow⟩
          · intro hj
            have hsame := hinj (j + 1) (m + 1) (by omega) (by omega) (by omega) (by omega)
              (by omega) (by omega)
            omega
        · have hset : partnerOf ((readAssignment rows cols m p).set (p (m + 1) - 1) (some m)) i =
              partnerOf (readAssignment rows cols m p) i := by
            unfold partnerOf
            rw [getD_eq_getElem?_getD, getD_eq_getElem?_getD, getElem?_set_ne (by omega)]
          rw [hset, hpartner i hi j]
          constructor
          · intro hj
            exact ⟨by omega, hj.2⟩
          · intro hj
            have hne : j ≠ m := by
              intro heq
              rw [heq] at hj
              exact hrow hj.2.2
            exact ⟨by omega, hj.2⟩
      · rw [if_neg hin]
        refine ⟨hlength, ?_⟩
        intro i hi j
        rw [hpartner i hi j]
        constructor
        · intro hj
          exact ⟨by omega, hj.2⟩
        · intro hj
          have hne : j ≠ m := by
            intro heq
            rw [heq] at hj
            exact hin ⟨by omega, by omega, by omega⟩
          exact ⟨by omega, hj.2⟩
  obtain ⟨hlength, hpartner⟩ := hsteps n (le_refl n)
  refine ⟨hlength, ?_⟩
  intro i hi j
  rw [hpartner i hi j]
  constructor
  · intro hj
    exact hj.2
  · intro hj
    exact ⟨by omega, hj⟩

/-! ## Over exact reals -/

structure Directions (dim : Nat) (basis : List (List ℝ)) : Prop where
  length : ∀ v ∈ basis, v.length = dim
  nonzero : ∀ v ∈ basis, ∃ x ∈ v, x ≠ 0

/-- The absolute cosine of a pair of directions. -/
noncomputable def similarity (reference candidate : List (List ℝ)) (i j : Nat) : ℝ :=
  |cosineOf (reference.getD i []) (candidate.getD j [])|

variable {dim : Nat} {reference candidate : List (List ℝ)}

lemma similarity_le (hr : Directions dim reference) (hc : Directions dim candidate) {i j : Nat}
    (hi : i < reference.length) (hj : j < candidate.length) :
    similarity reference candidate i j ≤ 1 := by
  unfold similarity
  rw [getD_eq_getElem _ _ hi, getD_eq_getElem _ _ hj]
  apply abs_cosineOf_le
  rw [hr.length _ (getElem_mem hi), hc.length _ (getElem_mem hj)]

lemma costTable_exact (hr : Directions dim reference) (hc : Directions dim candidate) :
    costTable reference candidate =
      .ok (reference.map fun left => candidate.map fun right => 1 - |cosineOf left right|) := by
  have hrow : ∀ left ∈ reference, ∀ rights : List (List ℝ), (∀ right ∈ rights, right ∈ candidate) →
      rights.mapM (fun right => do
        let value ← cosine left right
        return 1 - clamp 0 1 (Scalar.abs value)) =
      (.ok (rights.map fun right => 1 - |cosineOf left right|) : BrainResult (List ℝ)) := by
    intro left hleft rights
    induction rights with
    | nil =>
      intro _
      rfl
    | cons right rights ih =>
      intro hall
      have hright := hall right mem_cons_self
      have hlength : left.length = right.length := by
        rw [hr.length left hleft, hc.length right hright]
      rw [mapM_cons, cosine_exact hlength (hr.nonzero left hleft) (hc.nonzero right hright),
        ok_bind, ih fun v hv => hall v (mem_cons_of_mem _ hv)]
      show Except.ok ((1 - clamp 0 1 |cosineOf left right|) :: _) = _
      rw [clamp_of_mem (abs_nonneg _) (abs_cosineOf_le hlength)]
      rfl
  unfold costTable
  have hall : ∀ lefts : List (List ℝ), (∀ left ∈ lefts, left ∈ reference) →
      lefts.mapM (fun left => candidate.mapM fun right => do
        let value ← cosine left right
        return 1 - clamp 0 1 (Scalar.abs value)) =
      (.ok (lefts.map fun left => candidate.map fun right => 1 - |cosineOf left right|) :
        BrainResult (List (List ℝ))) := by
    intro lefts
    induction lefts with
    | nil =>
      intro _
      rfl
    | cons left lefts ih =>
      intro hmem
      rw [mapM_cons, hrow left (hmem left mem_cons_self) candidate (fun _ h => h),
        ok_bind, ih fun v hv => hmem v (mem_cons_of_mem _ hv)]
      rfl
  exact hall reference fun _ h => h

lemma paddedCost_exact (reference candidate : List (List ℝ)) {r j : Nat} (hr : 1 ≤ r)
    (hj : 1 ≤ j) :
    paddedCost (reference.map fun left => candidate.map fun right => 1 - |cosineOf left right|)
        (r - 1) (j - 1) =
      1 - padded reference.length candidate.length (similarity reference candidate) r j := by
  unfold paddedCost padded similarity
  by_cases hrow : r ≤ reference.length
  · by_cases hcol : j ≤ candidate.length
    · have hri : r - 1 < reference.length := by omega
      have hji : j - 1 < candidate.length := by omega
      rw [if_pos ⟨hr, hrow, hj, hcol⟩]
      simp [getD_eq_getElem?_getD, hri, hji]
    · have hji : candidate.length ≤ j - 1 := by omega
      have hri : r - 1 < reference.length := by omega
      rw [if_neg (by omega)]
      simp [getD_eq_getElem?_getD, hri, hji]
  · have hri : reference.length ≤ r - 1 := by omega
    rw [if_neg (by omega)]
    simp [getD_eq_getElem?_getD, hri]

lemma tally_exact (hr : Directions dim reference) (hc : Directions dim candidate)
    {pairs : List (List ℝ × Option Nat)}
    (hpairs : ∀ pair ∈ pairs, pair.1 ∈ reference ∧ ∀ j, pair.2 = some j → j < candidate.length)
    (start : Tally ℝ) : ∃ tally, pairs.foldlM (tallyRow candidate) start = .ok tally := by
  induction pairs generalizing start with
  | nil => exact ⟨start, rfl⟩
  | cons pair pairs ih =>
    obtain ⟨hmem, hrange⟩ := hpairs pair mem_cons_self
    have hstep : ∃ next, tallyRow candidate start pair = .ok next := by
      unfold tallyRow
      cases hpartner : pair.2 with
      | none => exact ⟨_, rfl⟩
      | some j =>
        have hj := hrange j hpartner
        have hright : candidate.getD j [] ∈ candidate := by
          rw [getD_eq_getElem _ _ hj]
          exact getElem_mem hj
        have hlength : pair.1.length = (candidate.getD j []).length := by
          rw [hr.length _ hmem, hc.length _ hright]
        simp only []
        rw [cosine_exact hlength (hr.nonzero _ hmem) (hc.nonzero _ hright)]
        exact ⟨_, rfl⟩
    obtain ⟨next, hnext⟩ := hstep
    rw [foldlM_cons, hnext]
    exact ih (fun p hp => hpairs p (mem_cons_of_mem _ hp)) next

/-- What a best alignment of two bases is. -/
structure Best (reference candidate : List (List ℝ)) (assignment : List (Option Nat)) : Prop where
  length : assignment.length = reference.length
  matching : Matching reference.length candidate.length (partnerOf assignment)
  card : (matchedRows reference.length (partnerOf assignment)).card =
    min reference.length candidate.length
  /-- No matching has a larger total of absolute cosines. -/
  best : ∀ other, Matching reference.length candidate.length other →
    total reference.length (similarity reference candidate) other ≤
      total reference.length (similarity reference candidate) (partnerOf assignment)

/-- An alignment of two bases of directions is a best matching. -/
lemma align_bases_best (hrne : reference ≠ []) (hcne : candidate ≠ [])
    (hr : Directions dim reference) (hc : Directions dim candidate) :
    ∃ alignment, alignBases reference candidate = .ok (some alignment) ∧
      Best reference candidate alignment.assignment := by
  have hrempty : reference.isEmpty = false := isEmpty_eq_false_iff.mpr hrne
  have hcempty : candidate.isEmpty = false := isEmpty_eq_false_iff.mpr hcne
  have hhead : (reference.headD []).length = dim := by
    cases reference with
    | nil => exact absurd rfl hrne
    | cons v rest => exact hr.length v mem_cons_self
  have hdim : dim ≠ 0 := by
    obtain ⟨v, hv⟩ := exists_mem_of_ne_nil _ hrne
    obtain ⟨x, hx, -⟩ := hr.nonzero v hv
    have hpos := length_pos_of_mem hx
    rw [hr.length v hv] at hpos
    omega
  have hlengths : ((reference ++ candidate).any fun v => v.length != dim) = false := by
    rw [any_eq_false]
    intro v hv
    rcases mem_append.mp hv with hv | hv
    · simp [hr.length v hv]
    · simp [hc.length v hv]
  have hcosts : ∀ i j, i < max reference.length candidate.length →
      j < max reference.length candidate.length →
      0 ≤ paddedCost (reference.map fun left =>
        candidate.map fun right => 1 - |cosineOf left right|) i j := by
    intro i j _ _
    have hpadded := paddedCost_exact reference candidate (Nat.le_add_left 1 i) (Nat.le_add_left 1 j)
    rw [Nat.add_sub_cancel, Nat.add_sub_cancel] at hpadded
    rw [hpadded, sub_nonneg]
    unfold padded
    by_cases hin : 1 ≤ i + 1 ∧ i + 1 ≤ reference.length ∧ 1 ≤ j + 1 ∧ j + 1 ≤ candidate.length
    · rw [if_pos hin]
      exact similarity_le hr hc (by omega) (by omega)
    · rw [if_neg hin]
      exact zero_le_one
  obtain ⟨s, hs, hentered⟩ := assign_spec (fun a b => exact_lt a b) hcosts
  have hapart : ∀ j k, 1 ≤ j → j ≤ max reference.length candidate.length → 1 ≤ k →
      k ≤ max reference.length candidate.length → s.p j ≠ 0 → s.p j = s.p k → j = k := by
    intro j k hj hjn hk hkn hpos heq
    exact hentered.seating.inj j k hjn hkn (by omega) (by omega) hpos heq
  obtain ⟨hlength, hread⟩ :=
    readAssignment_spec reference.length hapart (le_max_right reference.length candidate.length)
  have hmatching := hread.matching
  have hpairs : ∀ pair ∈ reference.zip (readAssignment reference.length candidate.length
      (max reference.length candidate.length) s.p),
      pair.1 ∈ reference ∧ ∀ j, pair.2 = some j → j < candidate.length := by
    intro pair hpair
    refine ⟨(of_mem_zip hpair).1, ?_⟩
    intro j hj
    obtain ⟨i, hi, hget⟩ := getElem_of_mem (of_mem_zip hpair).2
    rw [hlength] at hi
    apply hmatching.range i hi j
    unfold partnerOf
    rw [getD_eq_getElem _ _ (by omega), hget, hj]
  obtain ⟨tally, htally⟩ := tally_exact hr hc hpairs ⟨[], 0, 0⟩
  refine ⟨⟨_, tally.signs, tally.sum / Scalar.lit (max tally.count 1) 0⟩, ?_, hlength, hmatching,
    hread.card_matched hentered.seating, ?_⟩
  · unfold alignBases
    rw [costTable_exact hr hc]
    simp only [hrempty, hcempty, hhead, hlengths, hdim, Bool.false_eq_true, or_self, failIf,
      if_false, ok_bind]
    rw [hs]
    simp only []
    rw [htally]
    rfl
  · intro other hother
    refine hother.total_le (le_max_left _ _) (le_max_right _ _) ?_ hentered.seating hread
      (u := s.u) (v := s.v) ?_ ?_
    · intro i j _ _
      exact abs_nonneg _
    · intro r hr1 hrn j hj1 hjn
      have hslack := hentered.priced.feasible r hr1 hrn j hj1 hjn
      unfold slack at hslack
      rw [paddedCost_exact reference candidate hr1 hj1] at hslack
      linarith
    · intro j hj1 hjn
      have hpos := hentered.seating.pos_of_full hj1 hjn
      have hslack := hentered.priced.tight j hj1 hjn (by omega)
      unfold slack at hslack
      rw [paddedCost_exact reference candidate hpos hj1] at hslack
      linarith

lemma ok_of_mapM {α β : Type} {f : α → BrainResult β} {xs : List α} {ys : List β}
    (h : xs.mapM f = .ok ys) {x : α} (hx : x ∈ xs) : ∃ y, f x = .ok y := by
  have hall := mapM_ok.mp h
  clear h
  induction hall with
  | nil => cases hx
  | cons hhead _ ih =>
    rcases mem_cons.mp hx with hx | hx
    · rw [hx]
      exact ⟨_, hhead⟩
    · exact ih hx

lemma directions_of_ok {result : Option (BasisAlignment ℝ)}
    (h : alignBases reference candidate = .ok result) : reference ≠ [] ∧ candidate ≠ [] ∧
      ∃ dim, Directions dim reference ∧ Directions dim candidate := by
  unfold alignBases at h
  obtain ⟨_, hempty, h⟩ := bind_ok.mp h
  obtain ⟨_, hdim, h⟩ := bind_ok.mp h
  obtain ⟨table, htable, -⟩ := bind_ok.mp h
  rw [failIf_ok, not_or, List.isEmpty_iff, List.isEmpty_iff] at hempty
  rw [failIf_ok, not_or, Bool.not_eq_true, List.any_eq_false] at hdim
  have hlength : ∀ v ∈ reference ++ candidate, v.length = (reference.headD []).length := by
    intro v hv
    have hv' := hdim.2 v hv
    simpa using hv'
  have hne : ∀ v ∈ reference ++ candidate, v ≠ [] := by
    intro v hv hnil
    have hv' := hlength v hv
    rw [hnil, List.length_nil] at hv'
    exact hdim.1 hv'.symm
  -- every pair was given a cosine
  have hpair : ∀ left ∈ reference, ∀ right ∈ candidate, ∃ c, cosine left right = .ok c := by
    intro left hleft right hright
    obtain ⟨row, hrow⟩ := ok_of_mapM htable hleft
    obtain ⟨cell, hcell⟩ := ok_of_mapM hrow hright
    obtain ⟨c, hc, -⟩ := bind_ok.mp hcell
    exact ⟨c, hc⟩
  obtain ⟨left, hleft⟩ := List.exists_mem_of_ne_nil _ hempty.1
  obtain ⟨right, hright⟩ := List.exists_mem_of_ne_nil _ hempty.2
  have hnonzero : ∀ l ∈ reference, ∀ r ∈ candidate, (∃ x ∈ l, x ≠ 0) ∧ ∃ x ∈ r, x ≠ 0 := by
    intro l hl r hr
    exact ((cosine_ok (hne l (List.mem_append_left _ hl))
      (hne r (List.mem_append_right _ hr))).mp (hpair l hl r hr)).2
  refine ⟨hempty.1, hempty.2, (reference.headD []).length, ⟨?_, ?_⟩, ⟨?_, ?_⟩⟩
  · intro v hv
    exact hlength v (List.mem_append_left _ hv)
  · intro v hv
    exact (hnonzero v hv right hright).1
  · intro v hv
    exact hlength v (List.mem_append_right _ hv)
  · intro v hv
    exact (hnonzero left hleft v hv).2

/-- A vector of length zero has no cosine, so it is not aligned. -/
theorem zero_direction_refused :
    ¬∀ reference candidate : List (List ℝ), reference ≠ [] → candidate ≠ [] →
      (∃ dim, 0 < dim ∧ ∀ v ∈ reference ++ candidate, v.length = dim) →
      ∃ alignment, alignBases reference candidate = .ok (some alignment) := by
  intro hall
  have hlength : ∀ v ∈ [[(0 : ℝ)]] ++ [[1]], v.length = 1 := by
    intro v hv
    rcases mem_append.mp hv with hv | hv
    · rw [mem_singleton.mp hv]
      rfl
    · rw [mem_singleton.mp hv]
      rfl
  obtain ⟨alignment, halignment⟩ := hall [[0]] [[1]] (cons_ne_nil _ _)
    (cons_ne_nil _ _) ⟨1, Nat.one_pos, hlength⟩
  obtain ⟨-, -, dim, hdirections, -⟩ := directions_of_ok halignment
  obtain ⟨x, hx, hne⟩ := hdirections.nonzero [0] mem_cons_self
  exact hne (mem_singleton.mp hx)

/-- **The alignment of two bases.** -/
theorem align_bases_correct (reference candidate : List (List ℝ)) :
    alignBases reference candidate ≠ .ok none ∧
    ((∃ alignment, alignBases reference candidate = .ok (some alignment)) ↔
      reference ≠ [] ∧ candidate ≠ [] ∧
        ∃ dim, Directions dim reference ∧ Directions dim candidate) ∧
    ∀ alignment, alignBases reference candidate = .ok (some alignment) →
      Best reference candidate alignment.assignment := by
  refine ⟨?_, ⟨?_, ?_⟩, ?_⟩
  · intro hnone
    obtain ⟨hrne, hcne, dim, hr, hc⟩ := directions_of_ok hnone
    obtain ⟨alignment, halignment, -⟩ := align_bases_best hrne hcne hr hc
    rw [halignment] at hnone
    cases hnone
  · intro h
    obtain ⟨alignment, halignment⟩ := h
    exact directions_of_ok halignment
  · intro h
    obtain ⟨hrne, hcne, dim, hr, hc⟩ := h
    obtain ⟨alignment, halignment, -⟩ := align_bases_best hrne hcne hr hc
    exact ⟨alignment, halignment⟩
  · intro alignment halignment
    obtain ⟨hrne, hcne, dim, hr, hc⟩ := directions_of_ok halignment
    obtain ⟨found, hfound, hbest⟩ := align_bases_best hrne hcne hr hc
    rw [hfound, Except.ok.injEq, Option.some.injEq] at halignment
    rw [← halignment]
    exact hbest

end Tidex.Analysis
