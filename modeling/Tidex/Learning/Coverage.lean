/-
  Learning.Coverage — how many candidates the generation ends with.
-/
import Tidex.Learning.Reach

namespace Tidex.Learning

open Tidex.Lib Tidex.Analysis List Option Set

/-! ## What the generator reaches -/

def drawFrom (dimension seed : Nat) : List Nat :=
  let state := nextRandom seed
  let desired := min (2 + state % max (dimension - 1) 1) dimension
  (shuffle state dimension).take desired

lemma drawIndices_eq {K : Type} [Platform] (target : LearningTarget K) (counter : Nat) :
    drawIndices target counter =
      drawFrom target.capabilityIds.length (stableU64 target.targetId.asStr counter) := rfl

lemma drawFrom_mod (dimension seed : Nat) :
    drawFrom dimension (seed % 2 ^ 64) = drawFrom dimension seed := by
  have hstate : nextRandom (seed % 2 ^ 64) = nextRandom seed := by
    unfold nextRandom
    rw [Nat.add_mod, Nat.mod_mul_mod, ← Nat.add_mod]
  unfold drawFrom
  rw [hstate]

/-- A subset that the generation can come to: of one capability, of two, or drawn from
    some seed. -/
def Reachable (dimension : Nat) (key : List Bool) : Prop :=
  key ∈ pairKeys dimension (pairs dimension) ∨
    ∃ seed < 2 ^ 64, marks dimension (drawFrom dimension seed) = key

/-- How many subsets the generation can come to. -/
noncomputable def reachableCount (dimension : Nat) : Nat :=
  Set.ncard {key | Reachable dimension key}

/-- Every seed comes up after every counter. -/
def Recurrent [Platform] (targetId : String) : Prop :=
  ∀ seed < 2 ^ 64, ∀ counter, ∃ later ≥ counter, stableU64 targetId (later % 2 ^ 64) = seed

variable {dimension : Nat}

lemma Reachable.mem_allKeys {key : List Bool} (h : Reachable dimension key) :
    key ∈ allKeys dimension := by
  have hlength : key.length = dimension := by
    rcases h with h | ⟨seed, -, rfl⟩
    · rcases mem_append.mp h with h | h
      · obtain ⟨i, -, rfl⟩ := mem_map.mp h
        exact length_marks _ _
      · obtain ⟨p, -, rfl⟩ := mem_map.mp h
        exact length_marks _ _
    · exact length_marks _ _
  rw [← hlength]
  exact Learning.mem_allKeys key

lemma reachable_finite (dimension : Nat) : {key | Reachable dimension key}.Finite := by
  refine (finite_toSet (allKeys dimension)).subset ?_
  intro key hkey
  exact Reachable.mem_allKeys hkey

lemma length_le_reachableCount {seen : List (List Bool)} (hnodup : seen.Nodup)
    (hreach : ∀ key ∈ seen, Reachable dimension key) : seen.length ≤ reachableCount dimension := by
  rw [← toFinset_card_of_nodup hnodup, ← ncard_coe_finset]
  refine ncard_le_ncard ?_ (reachable_finite dimension)
  intro key hkey
  exact hreach key (mem_toFinset.mp hkey)

lemma reachableCount_le_length {seen : List (List Bool)}
    (hall : ∀ key, Reachable dimension key → key ∈ seen) :
    reachableCount dimension ≤ seen.length := by
  have hsub : {key | Reachable dimension key} ⊆ (seen.toFinset : Set (List Bool)) := by
    intro key hkey
    exact mem_toFinset.mpr (hall key hkey)
  have hle := ncard_le_ncard hsub (Finset.finite_toSet _)
  rw [ncard_coe_finset] at hle
  exact le_trans hle (toFinset_card_le seen)

section

variable {K : Type} [Platform] {target : LearningTarget K}

lemma reachable_of_keysBefore {c : Nat} {key : List Bool} (h : key ∈ keysBefore target c) :
    Reachable target.capabilityIds.length key := by
  rcases mem_append.mp h with h | h
  · exact .inl h
  · obtain ⟨counter, -, rfl⟩ := mem_map.mp h
    refine .inr ⟨stableU64 target.targetId.asStr (counter % 2 ^ 64) % 2 ^ 64,
      Nat.mod_lt _ (by decide), ?_⟩
    rw [drawFrom_mod]
    rfl

lemma exists_keysBefore (hrecurrent : Recurrent target.targetId.asStr) {key : List Bool}
    (h : Reachable target.capabilityIds.length key) : ∃ c, key ∈ keysBefore target c := by
  rcases h with h | ⟨seed, hseed, rfl⟩
  · exact ⟨0, mem_append_left _ h⟩
  · obtain ⟨counter, -, hcounter⟩ := hrecurrent seed hseed 0
    refine ⟨counter + 1, mem_append_right _ ?_⟩
    refine mem_map.mpr ⟨counter, mem_range.mpr (Nat.lt_succ_self counter), ?_⟩
    unfold drawKey
    rw [drawIndices_eq, hcounter]

/-- From some draw on all subsets that can be reached were seen. -/
lemma exists_saturated (hrecurrent : Recurrent target.targetId.asStr) :
    ∃ c, ∀ key, Reachable target.capabilityIds.length key → key ∈ keysBefore target c := by
  have hchoice : ∀ key, ∃ c, Reachable target.capabilityIds.length key →
      key ∈ keysBefore target c := by
    intro key
    by_cases hkey : Reachable target.capabilityIds.length key
    · obtain ⟨c, hc⟩ := exists_keysBefore hrecurrent hkey
      exact ⟨c, fun _ => hc⟩
    · exact ⟨0, fun h => absurd h hkey⟩
  choose first hfirst using hchoice
  refine ⟨((allKeys target.capabilityIds.length).map first).sum, ?_⟩
  intro key hkey
  refine keysBefore_mono target ?_ (hfirst key hkey)
  exact single_le_sum (fun _ _ => Nat.zero_le _) _ (mem_map_of_mem hkey.mem_allKeys)

lemma subsetsSeen_of_saturated {c : Nat}
    (h : ∀ key, Reachable target.capabilityIds.length key → key ∈ keysBefore target c) :
    subsetsSeen target c = reachableCount target.capabilityIds.length := by
  refine Nat.le_antisymm ?_ ?_
  · refine length_le_reachableCount (nodup_dedup _) ?_
    intro key hkey
    exact reachable_of_keysBefore (mem_dedup.mp hkey)
  · refine reachableCount_le_length ?_
    intro key hkey
    exact mem_dedup.mpr (h key hkey)

end

/-! ## The draws -/

section

variable {K : Type} [Scalar K] [MarksOne K] [Platform] {target : LearningTarget K}
  {g : Generation K}

/-- So many draws either end the generation, or none of them stops it. -/
lemma mixedLoop_ends_or (hpos : 0 < target.capabilityIds.length) (draws : Nat) {c : Nat}
    (h : Drawn target c g) : (∃ r, mixedLoop target draws (c % 2 ^ 64) g = some r) ∨
      ∃ g', Drawn target (c + draws) g' ∧ (∀ i, c ≤ i → i < c + draws → ¬Stops target i) ∧
        ∀ further, mixedLoop target (draws + further) (c % 2 ^ 64) g =
          mixedLoop target further ((c + draws) % 2 ^ 64) g' := by
  induction draws generalizing c g with
  | zero =>
    refine .inr ⟨g, h, ?_, ?_⟩
    · intro i hi hlt
      omega
    · intro further
      rw [Nat.zero_add, Nat.add_zero]
  | succ draws ih =>
    by_cases hroom : g.rows.length < target.candidateBudget
    · rcases mixedStep_ok h hpos hroom with ⟨-, hstep⟩ | ⟨hgoes, next, hstep, hdrawn⟩
      · refine .inl ⟨.ok g, ?_⟩
        unfold mixedLoop
        rw [if_pos hroom, hstep]
      · have hnext : (c % 2 ^ 64 + 1) % 2 ^ 64 = (c + 1) % 2 ^ 64 := Nat.mod_add_mod _ _ _
        have hunfold : ∀ fuel, mixedLoop target (fuel + 1) (c % 2 ^ 64) g =
            mixedLoop target fuel ((c + 1) % 2 ^ 64) next := by
          intro fuel
          rw [mixedLoop, if_pos hroom, hstep]
          dsimp only
          rw [hnext]
        rcases ih hdrawn with ⟨r, hr⟩ | ⟨g', hdrawn', hbefore, hfurther⟩
        · refine .inl ⟨r, ?_⟩
          rw [hunfold]
          exact hr
        · refine .inr ⟨g', ?_, ?_, ?_⟩
          · rw [← Nat.add_assoc, Nat.add_right_comm]
            exact hdrawn'
          · intro i hi hlt
            rcases Nat.eq_or_lt_of_le hi with rfl | hi
            · exact hgoes
            · exact hbefore i hi (by omega)
          · intro further
            have hcount : c + 1 + draws = c + (draws + 1) := by omega
            rw [Nat.add_right_comm, hunfold, hfurther, hcount]
    · refine .inl ⟨.ok g, ?_⟩
      unfold mixedLoop
      rw [if_neg hroom]

/-- Draws that end leave the budget used up, or all subsets seen. -/
lemma mixedLoop_filled (hpos : 0 < target.capabilityIds.length)
    (hfew : target.capabilityIds.length ≤ 20) {fuel : Nat} {r : BrainResult (Generation K)}
    (h : Drawn target 0 g) (hrun : mixedLoop target fuel 0 g = some r) :
    ∃ g' c, r = .ok g' ∧ Drawn target c g' ∧
      g'.rows.length = min target.candidateBudget (2 ^ target.capabilityIds.length - 1) := by
  obtain ⟨g', c, hr, hdrawn, -, hend⟩ := mixedLoop_supply (c := 0) hpos h hrun
  refine ⟨g', c, hr, hdrawn, ?_⟩
  have hcount := hdrawn.supplied.count_lt
  have hbudget := hdrawn.budget
  rcases hend with hfull | ⟨hstops, hlength⟩
  · omega
  · have henough := hstops.2
    unfold exhaustion at henough
    rw [Nat.min_eq_left hfew] at henough
    omega

/-- The draws end where the generator reaches as many subsets as are asked for. -/
lemma mixedLoop_ends (hpos : 0 < target.capabilityIds.length)
    (hfew : target.capabilityIds.length ≤ 20) (hrecurrent : Recurrent target.targetId.asStr)
    (h : Drawn target 0 g)
    (henough : min target.candidateBudget (2 ^ target.capabilityIds.length - 1) ≤
      reachableCount target.capabilityIds.length) :
    ∃ fuel r, mixedLoop target fuel 0 g = some r := by
  obtain ⟨c, hsaturated⟩ := exists_saturated hrecurrent
  rcases mixedLoop_ends_or (c := 0) hpos (c + 1) h with hends | ⟨g', hdrawn, hgoes, hfurther⟩
  · exact ⟨c + 1, hends⟩
  · by_cases hroom : g'.rows.length < target.candidateBudget
    · -- all subsets that can be reached were seen, so the draw before stopped
      have hlater : ∀ key, Reachable target.capabilityIds.length key →
          key ∈ keysBefore target (0 + (c + 1)) := by
        intro key hkey
        exact keysBefore_mono target (by omega) (hsaturated key hkey)
      have hseen := subsetsSeen_of_saturated hlater
      have hlength := hdrawn.length_eq hroom
      refine absurd ⟨?_, ?_⟩ (hgoes c (Nat.zero_le c) (by omega))
      · refine hsaturated _ (reachable_of_keysBefore (c := c + 1) ?_)
        rw [keysBefore_succ]
        exact mem_append_right _ mem_cons_self
      · rw [subsetsSeen_of_saturated hsaturated]
        unfold exhaustion
        rw [Nat.min_eq_left hfew]
        omega
    · refine ⟨c + 1 + 1, .ok g', ?_⟩
      have hlast := hfurther 1
      rw [Nat.zero_mod] at hlast
      rw [hlast, mixedLoop, if_neg hroom]

end

/-! ## Rows and their keys -/

section

variable {K : Type} [Scalar K]

def rowKeys (g : Generation K) : List (List Bool) :=
  g.rows.map fun row => candidateKey row.direction

/-- The keys seen are keys of rows, in the order of the rows. -/
def Recorded (g : Generation K) : Prop :=
  g.seen.reverse.Sublist (rowKeys g)

/-- Rows were added at the end, with their keys. -/
structure Extends (g g' : Generation K) : Prop where
  rows : g.rows <+: g'.rows
  recorded : Recorded g → Recorded g'

lemma Extends.refl (g : Generation K) : Extends g g :=
  ⟨prefix_refl _, id⟩

lemma Extends.trans {g g' g'' : Generation K} (h : Extends g g') (h' : Extends g' g'') :
    Extends g g'' :=
  ⟨h.rows.trans h'.rows, fun hg => h'.recorded (h.recorded hg)⟩

variable {g g' : Generation K}

lemma push_rows {name : String} {indices : List Nat} {dimension : Nat} {cost risk : K}
    (h : g.push name indices dimension cost risk = .ok g') :
    ∃ row : CandidateRow K, row.direction = directionOf dimension indices ∧
      g'.rows = g.rows ++ [row] ∧
      g'.seen = g.insertKey (candidateKey (directionOf dimension indices : List K)) := by
  unfold Generation.push at h
  rw [bind_ok] at h
  obtain ⟨apertureId, -, h⟩ := h
  cases h
  exact ⟨⟨apertureId, directionOf dimension indices, cost, risk⟩, rfl, rfl, rfl⟩

lemma push_extends {name : String} {indices : List Nat} {dimension : Nat} {cost risk : K}
    (h : g.push name indices dimension cost risk = .ok g') : Extends g g' := by
  obtain ⟨row, hdirection, hrows, hseen⟩ := push_rows h
  refine ⟨⟨[row], hrows.symm⟩, ?_⟩
  intro hrecorded
  unfold Recorded rowKeys at hrecorded ⊢
  rw [hrows, hseen, map_append, map_singleton, hdirection]
  unfold Generation.insertKey
  split
  · exact hrecorded.trans (sublist_append_left _ _)
  · rw [reverse_cons]
    exact hrecorded.append (Sublist.refl _)

variable {target : LearningTarget K}

lemma pairStep_extends {pair : Nat × Nat} (h : pairStep target g pair = .ok g') :
    Extends g g' := by
  unfold pairStep at h
  dsimp only at h
  rw [ite_ok, ite_ok] at h
  rcases h with ⟨-, h⟩ | ⟨-, ⟨-, h⟩ | ⟨-, h⟩⟩
  · cases h
    exact Extends.refl g
  · cases h
    exact Extends.refl g
  · exact push_extends h

lemma mixedStep_extends [Platform] {counter : Nat}
    (h : mixedStep target counter g = .ok (some g')) : Extends g g' := by
  unfold mixedStep at h
  dsimp only at h
  split at h
  · split at h
    · cases h
    · cases h
      exact Extends.refl g
  · rw [bind_ok] at h
    obtain ⟨next, hpush, h⟩ := h
    cases h
    exact push_extends hpush

lemma mixedLoop_extends [Platform] {fuel counter : Nat}
    (h : mixedLoop target fuel counter g = some (.ok g')) : Extends g g' := by
  induction fuel generalizing g counter with
  | zero => cases h
  | succ fuel ih =>
    unfold mixedLoop at h
    split at h
    · cases hstep : mixedStep target counter g with
      | error e =>
        rw [hstep] at h
        cases h
      | ok result =>
        rw [hstep] at h
        cases result with
        | none =>
          cases h
          exact Extends.refl _
        | some next => exact (mixedStep_extends hstep).trans (ih h)
    · cases h
      exact Extends.refl _

/-- The rows before the first draw begin with one for each capability. -/
lemma startRows_isolates (h : startRows target = .ok g) :
    Recorded g ∧ (range target.capabilityIds.length).map
      (fun index => candidateKey (directionOf target.capabilityIds.length [index] : List K)) <+:
        rowKeys g := by
  unfold startRows at h
  dsimp only at h
  rw [bind_ok] at h
  obtain ⟨isolates, hisolates, hpairs⟩ := h
  have hempty : Recorded (⟨[], []⟩ : Generation K) := Sublist.refl []
  have hstart : Recorded isolates ∧ rowKeys isolates =
      (range target.capabilityIds.length).map fun index =>
        candidateKey (directionOf target.capabilityIds.length [index] : List K) := by
    refine foldlM_ok_prefix_induction (fun done (g : Generation K) => Recorded g ∧
      rowKeys g = done.map fun index =>
        candidateKey (directionOf target.capabilityIds.length [index] : List K))
      ⟨hempty, rfl⟩ ?_ hisolates
    intro done index g next hinv hstep
    obtain ⟨hrecorded, hkeys⟩ := hinv
    obtain ⟨row, hdirection, hrows, -⟩ := push_rows hstep
    refine ⟨(push_extends hstep).recorded hrecorded, ?_⟩
    unfold rowKeys at hkeys ⊢
    rw [hrows, map_append, map_append, hkeys, map_singleton, hdirection, map_singleton]
  have hextends : Extends isolates g := by
    refine foldlM_ok_induction (fun g => Extends isolates g) (Extends.refl isolates) ?_ hpairs
    intro s pair s' _ hinv hstep
    exact hinv.trans (pairStep_extends hstep)
  refine ⟨hextends.recorded hstart.1, ?_⟩
  rw [← hstart.2]
  exact hextends.rows.map _

end

/-! ## Supports -/

def support (candidate : ApertureCandidate ℝ) : Set Nat :=
  {i | ∃ x, candidate.sensingVector[i]? = some x ∧ x ≠ 0}

def marked (key : List Bool) : Set Nat :=
  {i | key[i]? = some true}

lemma marked_injective {key key' : List Bool} (hlength : key.length = key'.length)
    (h : marked key = marked key') : key = key' := by
  refine ext_getElem hlength ?_
  intro i hi hi'
  have hmem : i ∈ marked key ↔ i ∈ marked key' := by rw [h]
  unfold marked at hmem
  rw [mem_ofPred_eq, mem_ofPred_eq, getElem?_eq_getElem hi,
    getElem?_eq_getElem hi', some.injEq, some.injEq] at hmem
  exact Bool.eq_iff_iff.mpr hmem

lemma marked_nonempty {key : List Bool} (h : true ∈ key) : (marked key).Nonempty := by
  obtain ⟨i, hi, heq⟩ := mem_iff_getElem.mp h
  refine ⟨i, ?_⟩
  show key[i]? = some true
  rw [getElem?_eq_getElem hi, heq]

lemma marked_single {dimension index : Nat} (h : index < dimension) :
    marked (marks dimension [index]) = {index} := by
  ext i
  rw [mem_singleton_iff]
  show (marks dimension [index])[i]? = some true ↔ i = index
  by_cases hi : i < dimension
  · rw [getElem?_marks [index] hi, some.injEq, decide_eq_true_iff, List.mem_singleton]
  · rw [getElem?_eq_none (by rw [length_marks]; omega)]
    constructor
    · intro hnone
      cases hnone
    · intro heq
      omega

lemma support_toCandidate {target : LearningTarget ℝ} {row : CandidateRow ℝ}
    {candidate : ApertureCandidate ℝ} (hdirected : Directed dimension row)
    (h : toCandidate target row = .ok candidate) :
    support candidate = marked (candidateKey row.direction) := by
  obtain ⟨indices, hdirection, -⟩ := hdirected.marked
  unfold toCandidate normalized at h
  simp only [bind_ok, failIf_ok, pure_ok] at h
  obtain ⟨v, ⟨magnitude, -, -, hlarge, rfl⟩, rfl⟩ := h
  have hne : magnitude ≠ 0 := by
    intro hzero
    apply hlarge
    refine .inr ?_
    rw [exact_le, exact_lit, hzero]
    positivity
  rw [hdirection, candidateKey_directionOf]
  ext i
  show (∃ x, ((directionOf dimension indices).map (· / magnitude))[i]? = some x ∧ x ≠ 0) ↔
    (marks dimension indices)[i]? = some true
  by_cases hi : i < dimension
  · have hentry := getElem?_foldl_set (1 : ℝ) indices (replicate dimension 0) i
      (by rwa [length_replicate])
    have hvalue : ((directionOf dimension indices).map (· / magnitude))[i]? =
        some ((if i ∈ indices then 1 else 0) / magnitude) := by
      unfold directionOf
      rw [getElem?_map, hentry, getElem?_replicate, if_pos hi]
      split <;> rfl
    rw [hvalue, getElem?_marks indices hi, some.injEq, decide_eq_true_iff]
    by_cases hmem : i ∈ indices
    · simp [hmem, hne]
    · simp [hmem]
  · have hnone : ((directionOf dimension indices : List ℝ).map (· / magnitude))[i]? = none := by
      rw [getElem?_eq_none]
      rw [length_map, length_directionOf]
      omega
    rw [hnone, getElem?_eq_none (by rw [length_marks]; omega)]
    simp

/-! ## What a generation gives -/

section

variable [Platform] {target : LearningTarget ℝ}

/-- As many candidates as the budget and the subsets allow, with names and supports of their
    own, the first of them those of one capability. -/
structure Filled (target : LearningTarget ℝ) (candidates : List (ApertureCandidate ℝ)) :
    Prop where
  count : candidates.length =
    min target.candidateBudget (2 ^ target.capabilityIds.length - 1)
  names_nodup : (candidates.map (·.apertureId)).Nodup
  supports_nodup : (candidates.map support).Nodup
  supports_nonempty : ∀ candidate ∈ candidates, (support candidate).Nonempty
  isolates : (List.range target.capabilityIds.length).map (fun i => ({i} : Set Nat)) <+:
    candidates.map support

/-- The generation ends, and its candidates are filled. -/
def Fills (target : LearningTarget ℝ) : Prop :=
  ∃ fuel candidates, generateCandidates fuel target = some (.ok candidates) ∧
    Filled target candidates

omit [Platform] in
lemma supports_eq {rows : List (CandidateRow ℝ)} {candidates : List (ApertureCandidate ℝ)}
    {dimension : Nat} (hdirected : ∀ row ∈ rows, Directed dimension row)
    (h : rows.mapM (toCandidate target) = .ok candidates) :
    candidates.map support = rows.map fun row => marked (candidateKey row.direction) := by
  have hall := mapM_ok.mp h
  clear h
  induction hall with
  | nil => rfl
  | cons hrow _ ih =>
    rw [map_cons, map_cons, support_toCandidate (hdirected _ mem_cons_self) hrow,
      ih fun row hmem => hdirected row (mem_cons_of_mem _ hmem)]

/-- A generation that ends gives filled candidates, of subsets that can be reached. -/
lemma generation_filled (hvalid : validateTarget target = .ok ())
    (hfew : target.capabilityIds.length ≤ 20) {fuel : Nat}
    {r : BrainResult (List (ApertureCandidate ℝ))}
    (hrun : generateCandidates fuel target = some r) :
    ∃ candidates, r = .ok candidates ∧ Filled target candidates ∧
      candidates.length ≤ reachableCount target.capabilityIds.length := by
  have hpos := (validateTarget_counts hvalid).1
  obtain ⟨start, hstart, hpaired⟩ := startRows_ok hvalid
  unfold generateCandidates at hrun
  rw [hvalid, ok_bind, hstart] at hrun
  simp only [map_eq_some_iff] at hrun
  obtain ⟨result, hloop, rfl⟩ := hrun
  obtain ⟨g, c, rfl, hdrawn, hlength⟩ := mixedLoop_filled (by omega) hfew
    (Drawn.of_paired hpaired) hloop
  obtain ⟨hrecorded, hisolates⟩ := startRows_isolates hstart
  have hextends := mixedLoop_extends hloop
  -- as many rows as keys, so the keys seen are exactly those of the rows
  have hkeys : g.seen.reverse = rowKeys g := by
    refine (hextends.recorded hrecorded).eq_of_length ?_
    unfold rowKeys
    rw [length_reverse, length_map, hdrawn.supplied.count]
  obtain ⟨candidates, hcandidates, hnames, -⟩ := candidates_usable hvalid g.rows
    hdrawn.supplied.directed
  have hsupports := supports_eq hdrawn.supplied.directed hcandidates
  have hsupportKeys : candidates.map support = (rowKeys g).map marked := by
    unfold rowKeys
    rw [hsupports, List.map_map]
    rfl
  have hcount : candidates.length = g.rows.length := by
    have hmaps := congrArg length hnames
    rwa [length_map, length_map] at hmaps
  have hkeyLength : ∀ key ∈ rowKeys g, key.length = target.capabilityIds.length := by
    intro key hkey
    rw [← hkeys, mem_reverse] at hkey
    exact hdrawn.supplied.keys_length key hkey
  refine ⟨candidates, hcandidates, ⟨?_, ?_, ?_, ?_, ?_⟩, ?_⟩
  · rw [hcount, hlength]
  · rw [hnames]
    exact hdrawn.supplied.names_nodup
  · rw [hsupportKeys]
    refine Nodup.map_on ?_ ?_
    · intro key hkey key' hkey' hsame
      refine marked_injective ?_ hsame
      rw [hkeyLength key hkey, hkeyLength key' hkey']
    · rw [← hkeys, nodup_reverse]
      exact hdrawn.supplied.keys_nodup
  · intro candidate hcandidate
    have hmem : support candidate ∈ (rowKeys g).map marked := by
      rw [← hsupportKeys]
      exact mem_map_of_mem hcandidate
    obtain ⟨key, hkey, heq⟩ := mem_map.mp hmem
    rw [← hkeys, mem_reverse] at hkey
    rw [← heq]
    exact marked_nonempty (hdrawn.supplied.keys_mark key hkey)
  · rw [hsupportKeys]
    have hprefix := (hisolates.trans (hextends.rows.map _)).map marked
    rw [List.map_map] at hprefix
    have hfirst : (range target.capabilityIds.length).map (fun i => ({i} : Set Nat)) =
        (range target.capabilityIds.length).map (marked ∘ fun index =>
          candidateKey (directionOf target.capabilityIds.length [index] : List ℝ)) := by
      refine map_congr_left ?_
      intro index hindex
      show {index} = marked (candidateKey (directionOf _ [index] : List ℝ))
      rw [candidateKey_directionOf, marked_single (mem_range.mp hindex)]
    rw [hfirst]
    exact hprefix
  · rw [hcount, hdrawn.supplied.count]
    refine length_le_reachableCount hdrawn.supplied.keys_nodup ?_
    intro key hkey
    exact reachable_of_keysBefore (hdrawn.seen_sub key hkey)

/-- **The generation ends, filled,** exactly when the generator reaches as many subsets as
    are asked for. -/
theorem fills_iff (hvalid : validateTarget target = .ok ())
    (hfew : target.capabilityIds.length ≤ 20) (hrecurrent : Recurrent target.targetId.asStr) :
    Fills target ↔ min target.candidateBudget (2 ^ target.capabilityIds.length - 1) ≤
      reachableCount target.capabilityIds.length := by
  constructor
  · intro hfills
    obtain ⟨fuel, candidates, hrun, hfilled⟩ := hfills
    obtain ⟨candidates', heq, -, hreach⟩ := generation_filled hvalid hfew hrun
    cases heq
    rw [← hfilled.count]
    exact hreach
  · intro henough
    have hpos := (validateTarget_counts hvalid).1
    obtain ⟨start, hstart, hpaired⟩ := startRows_ok hvalid
    obtain ⟨fuel, result, hloop⟩ := mixedLoop_ends (by omega) hfew hrecurrent
      (Drawn.of_paired hpaired) henough
    have hrun : ∃ r, generateCandidates fuel target = some r := by
      unfold generateCandidates
      rw [hvalid, ok_bind, hstart]
      dsimp only
      rw [hloop]
      exact ⟨_, rfl⟩
    obtain ⟨r, hr⟩ := hrun
    obtain ⟨candidates, rfl, hfilled, -⟩ := generation_filled hvalid hfew hr
    exact ⟨fuel, candidates, hr, hfilled⟩

end

/-! ## Five capabilities -/

/-- With five capabilities, three of them drawn leave the fourth out: its place is
    exchanged with itself, or with the last. -/
lemma drawFrom_five (seed : Nat) :
    marks 5 (drawFrom 5 seed) ≠ [true, true, false, true, false] := by
  have hcases : ∀ (k : Fin 4) (j4 : Fin 5) (j3 : Fin 4) (j2 : Fin 3) (j1 : Fin 2),
      (k.val = 1 → j3.val = 3) →
        marks 5 ((swap (swap (swap (swap [0, 1, 2, 3, 4] 4 j4) 3 j3) 2 j2) 1 j1).take
          (min (2 + k) 5)) ≠ [true, true, false, true, false] := by
    decide +kernel
  generalize hs1 : nextRandom seed = s1
  have hdraw : drawFrom 5 seed = (swap (swap (swap (swap [0, 1, 2, 3, 4]
      4 (nextRandom s1 % 5)) 3 (nextRandom (nextRandom s1) % 4))
      2 (nextRandom (nextRandom (nextRandom s1)) % 3))
      1 (nextRandom (nextRandom (nextRandom (nextRandom s1))) % 2)).take
        (min (2 + s1 % 4) 5) := by
    have hsteps : (range' 1 (5 - 1)).reverse = [4, 3, 2, 1] := rfl
    have hrange : range 5 = [0, 1, 2, 3, 4] := rfl
    unfold drawFrom shuffle
    dsimp only
    rw [hs1, hsteps, hrange]
    simp only [foldl_cons, foldl_nil, shuffleStep]
    rfl
  -- the low bits of the generator repeat after four steps
  have hlow : ∀ s, nextRandom s % 4 = (s + 3) % 4 := by
    intro s
    unfold nextRandom
    omega
  rw [hdraw]
  refine hcases ⟨s1 % 4, by omega⟩ ⟨_, Nat.mod_lt _ (by decide)⟩ ⟨_, Nat.mod_lt _ (by decide)⟩
    ⟨_, Nat.mod_lt _ (by decide)⟩ ⟨_, Nat.mod_lt _ (by decide)⟩ ?_
  intro hk
  show nextRandom (nextRandom s1) % 4 = 3
  have hk' : s1 % 4 = 1 := hk
  rw [hlow, Nat.add_mod, hlow]
  omega

/-- With five capabilities not every subset can be reached. -/
lemma reachableCount_five : reachableCount 5 < 31 := by
  have hblank : ¬Reachable 5 [false, false, false, false, false] := by
    intro hreach
    rcases hreach with hmem | ⟨seed, -, heq⟩
    · exact absurd hmem (by decide +kernel)
    · have hshuffled := shuffle_positions (nextRandom seed) (show 0 < 5 by decide)
      have hmark : true ∈ marks 5 (drawFrom 5 seed) := by
        cases hcases : shuffle (nextRandom seed) 5 with
        | nil =>
          rw [hcases] at hshuffled
          exact absurd hshuffled.1 (by decide)
        | cons i rest =>
          refine true_mem_marks (i := i) ?_ (hshuffled.2 i (by rw [hcases]; simp))
          unfold drawFrom
          dsimp only
          rw [hcases]
          have hdesired : min (2 + nextRandom seed % max (5 - 1) 1) 5 =
              min (1 + nextRandom seed % max (5 - 1) 1) 4 + 1 := by omega
          rw [hdesired, take_succ_cons]
          exact mem_cons_self
      rw [heq] at hmark
      exact absurd hmark (by decide)
  have hnever : ¬Reachable 5 [true, true, false, true, false] := by
    intro hreach
    rcases hreach with hmem | ⟨seed, -, heq⟩
    · exact absurd hmem (by decide +kernel)
    · exact drawFrom_five seed heq
  have hle : reachableCount 5 ≤ (((allKeys 5).erase [false, false, false, false, false]).erase
      [true, true, false, true, false]).length := by
    refine reachableCount_le_length ?_
    intro key hkey
    have hne : key ≠ [true, true, false, true, false] := by
      intro heq
      exact hnever (heq ▸ hkey)
    have hne' : key ≠ [false, false, false, false, false] := by
      intro heq
      exact hblank (heq ▸ hkey)
    rw [mem_erase_of_ne hne, mem_erase_of_ne hne']
    exact hkey.mem_allKeys
  refine lt_of_le_of_lt hle ?_
  decide +kernel

namespace Sample

def lastWord (bytes : ByteArray) : Nat :=
  (bytes.data.toList.drop (bytes.data.toList.length - 8)).foldl (fun n b => 256 * n + b.toNat) 0

def lastWordDigest (bytes : ByteArray) : Sha256Digest :=
  ⟨String.ofList (hexText 16 (lastWord bytes) ++ List.replicate 48 '0'),
    isValidStr_of_hexDigits
      (by rw [List.length_append, length_hexText, List.length_replicate])
      (by
        intro c hc
        rcases List.mem_append.mp hc with hc | hc
        · exact mem_hexDigits_of_mem_hexText hc
        · rw [List.eq_of_mem_replicate hc]
          exact List.mem_cons_self)⟩

@[reducible] noncomputable def counting : Platform where
  sha256 := lastWordDigest
  fromSlice := Platform.reference.fromSlice

attribute [local instance] counting

lemma foldl_hexText (n x start : Nat) :
    (hexText n x).foldl (fun n c => 16 * n + hexValue c) start = start * 16 ^ n + x % 16 ^ n := by
  have hdigit : ∀ k : Fin 16, hexValue (hexDigits.getD k '0') = k := by decide
  induction n generalizing x with
  | zero =>
    rw [pow_zero, Nat.mod_one]
    simp [hexText]
  | succ n ih =>
    have hlast : hexValue (hexDigit x) = x % 16 := hdigit ⟨x % 16, Nat.mod_lt _ (by decide)⟩
    rw [hexText, foldl_append, ih, foldl_cons, foldl_nil, hlast]
    show 16 * (start * 16 ^ n + x / 16 % 16 ^ n) + x % 16 = _
    rw [pow_succ, Nat.mul_comm (16 ^ n) 16, Nat.mod_mul]
    ring

lemma lastWord_beBytes (front : ByteArray) {n : Nat} (h : n < 2 ^ 64) :
    lastWord (front ++ beBytes n) = n := by
  have hbytes : (beBytes n).data.toList = [(n / 256 ^ 7).toUInt8, (n / 256 ^ 6).toUInt8,
      (n / 256 ^ 5).toUInt8, (n / 256 ^ 4).toUInt8, (n / 256 ^ 3).toUInt8,
      (n / 256 ^ 2).toUInt8, (n / 256 ^ 1).toUInt8, (n / 256 ^ 0).toUInt8] := rfl
  have hdrop : ((front ++ beBytes n).data.toList.drop
      ((front ++ beBytes n).data.toList.length - 8)) = (beBytes n).data.toList := by
    rw [ByteArray.data_append, Array.toList_append, length_append]
    have hlength : (beBytes n).data.toList.length = 8 := rfl
    rw [hlength, Nat.add_sub_cancel, drop_left]
  unfold lastWord
  rw [hdrop, hbytes]
  simp only [foldl_cons, foldl_nil, Nat.toUInt8, UInt8.toNat_ofNat']
  omega

lemma stableU64_counting (targetId : String) {counter : Nat} (h : counter < 2 ^ 64) :
    stableU64 targetId counter = counter := by
  unfold stableU64 Sha256Digest.digestBytes
  show leadingWord (lastWordDigest _) = counter
  unfold leadingWord lastWordDigest
  dsimp only
  rw [String.toList_ofList, lastWord_beBytes _ h, take_left' (length_hexText 16 counter),
    foldl_hexText, Nat.zero_mul, Nat.zero_add, Nat.mod_eq_of_lt (lt_of_lt_of_eq h (by norm_num))]

lemma recurrent_counting (targetId : String) : Recurrent targetId := by
  intro seed hseed counter
  refine ⟨counter * 2 ^ 64 + seed, ?_, ?_⟩
  · have hle := Nat.le_mul_of_pos_right counter (show 0 < 2 ^ 64 by decide)
    exact le_trans hle (Nat.le_add_right _ _)
  · rw [Nat.mul_add_mod_self_right, Nat.mod_eq_of_lt hseed, stableU64_counting _ hseed]

def gamma : CapabilityId := ⟨"gamma", by decide⟩

def delta : CapabilityId := ⟨"delta", by decide⟩

def epsilon : CapabilityId := ⟨"epsilon", by decide⟩

noncomputable def five (budget : Nat) (h : budget < 2 ^ 64) : LearningTarget ℝ where
  targetId := ⟨"five-skills", by decide⟩
  capabilityIds := [alpha, beta, gamma, delta, epsilon]
  candidateBudget := budget
  planSteps := 5
  noiseVariance := 1
  costWeight := 0
  riskWeight := 0
  candidateBudget_lt := h
  planSteps_lt := by decide

lemma five_valid {budget : Nat} (h : budget < 2 ^ 64) (hmin : 5 ≤ budget) :
    validateTarget (five budget h) = .ok () := by
  unfold validateTarget
  rw [seq_ok, failIf_ok, failIf_ok, not_not]
  refine ⟨?_, ?_⟩
  · simp only [five, length_cons, length_nil, not_or, not_lt, exact_isFinite, exact_le,
      exact_lt, not_true_eq_false, not_false_eq_true, true_and, gt_iff_lt, not_le]
    exact ⟨by decide, by decide, hmin, by decide, hmin, zero_lt_one, le_refl 0, le_refl 0⟩
  · show [alpha, beta, gamma, delta, epsilon].Nodup
    decide

/-- A budget of all subsets of one and two capabilities is filled. -/
theorem five_fills_fifteen : Fills (five 15 (by decide)) := by
  have hwidth : 15 < 2 ^ 64 := by decide
  rw [fills_iff (five_valid hwidth (by decide)) (show 5 ≤ 20 by decide) (recurrent_counting _)]
  show min 15 (2 ^ 5 - 1) ≤ reachableCount 5
  have hnodup : (pairKeys 5 (pairs 5)).Nodup := by decide +kernel
  exact length_le_reachableCount hnodup fun key hkey => .inl hkey

/-- **A budget of all subsets of five capabilities** is never filled, although every seed
    comes up again and again. -/
theorem five_never_filled :
    validateTarget (five 31 (by decide)) = .ok () ∧
      (five 31 (by decide)).capabilityIds.length = 5 ∧
      Recurrent (five 31 (by decide)).targetId.asStr ∧ ¬Fills (five 31 (by decide)) := by
  have hwidth : 31 < 2 ^ 64 := by decide
  have hvalid := five_valid hwidth (by decide)
  refine ⟨hvalid, rfl, recurrent_counting _, ?_⟩
  intro hfills
  obtain ⟨fuel, candidates, hrun, hfilled⟩ := hfills
  obtain ⟨candidates', heq, -, hreach⟩ := generation_filled hvalid (show 5 ≤ 20 by decide) hrun
  cases heq
  have hcount : candidates.length = min 31 (2 ^ 5 - 1) := hfilled.count
  have hfive := reachableCount_five
  have hreach' : candidates.length ≤ reachableCount 5 := hreach
  omega

end Sample

end Tidex.Learning
