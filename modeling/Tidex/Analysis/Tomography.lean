/-
  Analysis.Tomography — the identities of recovered fields.
-/
import Tidex.Analysis.Gauge
import Tidex.Foundation.Names
import Tidex.Lib.Swap

namespace Tidex.Analysis

open Tidex.Lib List Option Scalar

/-! ## Fields and banks -/

structure SkillField (K D : Type) where
  skillId : SkillId
  lineageId : LineageId
  generationCreated : Nat
  direction : List K
  persistence : K
  coherence : K
  uncertainty : K
  parentSkillIds : List SkillId
  carried : D

structure SkillBank (K D : Type) where
  generation : Nat
  fields : List (SkillField K D)

section

variable {K D : Type} [Scalar K]

def enterPair (old incoming : List (SkillField K D)) (threshold : K)
    (incomingToOld : List (Option (Nat × K))) (pair : Option Nat × Nat) :
    BrainResult (List (Option (Nat × K))) :=
  match pair.1 with
  | none => .ok incomingToOld
  | some incomingIndex => do
    let similarity ← cosine ((old.map SkillField.direction).getD pair.2 [])
      ((incoming.map SkillField.direction).getD incomingIndex [])
    if Scalar.le threshold (Scalar.abs similarity) then
      return incomingToOld.set incomingIndex
        (some (pair.2, if Scalar.le 0 similarity then 1 else -1))
    else return incomingToOld

/-- The prior field of each recovered one, with a sign. -/
def globalFieldAlignment (old incoming : List (SkillField K D)) (threshold : K) :
    BrainResult (Option (List (Option (Nat × K)))) := do
  failIf (¬Scalar.isFinite threshold ∨ ¬(Scalar.le 0 threshold ∧ Scalar.le threshold 1))
    (invalid "skill_alignment_threshold_invalid")
  if incoming.isEmpty then return some []
  if old.isEmpty then return some (List.replicate incoming.length none)
  match ← alignBases (old.map SkillField.direction) (incoming.map SkillField.direction) with
  | none => return none
  | some alignment =>
    let matched ← alignment.assignment.zipIdx.foldlM (enterPair old incoming threshold)
      (List.replicate incoming.length none)
    return some matched

def durableIdentity (prior incoming : SkillField K D) : SkillId × LineageId × List SkillId :=
  let legacyPrior := prior.lineageId.asStr.isEmpty
  let skillId := if legacyPrior then incoming.skillId else prior.skillId
  let lineageId := if legacyPrior then incoming.lineageId else prior.lineageId
  let parents := [prior.skillId, incoming.skillId].foldl (fun parents id =>
      if id ≠ skillId ∧ id ∉ parents then parents ++ [id] else parents) prior.parentSkillIds
  (skillId, lineageId, (parents.mergeSort fun a b => (compare a b).isLE).eraseReps)

def recoveredField (prior newf : SkillField K D) (sign : K) : SkillField K D :=
  let identity := durableIdentity prior newf
  { newf with
    direction := newf.direction.map fun value => sign * value
    skillId := identity.1
    lineageId := identity.2.1
    generationCreated :=
      if prior.lineageId.asStr.isEmpty then newf.generationCreated else prior.generationCreated
    parentSkillIds := identity.2.2 }

/-- A recovered field as it enters the bank. -/
def reconciledField (old : List (SkillField K D)) (field : SkillField K D × Option (Nat × K)) :
    SkillField K D :=
  match field.2.bind fun choice => old[choice.1]?.map fun prior => (prior, choice.2) with
  | some choice => recoveredField choice.1 field.1 choice.2
  | none => field.1

def decayedPrior (prior : SkillField K D) : Option (SkillField K D) :=
  let persistence := prior.persistence * Scalar.lit 85 2
  let coherence := prior.coherence * Scalar.lit 90 2
  let uncertainty := prior.uncertainty * Scalar.lit 115 2
  if Scalar.le (Scalar.lit 15 2) persistence ∧ Scalar.le (Scalar.lit 15 2) coherence then
    some { prior with
      persistence := persistence, coherence := coherence, uncertainty := uncertainty }
  else none

def sortFields (fields : List (SkillField K D)) : List (SkillField K D) :=
  fields.mergeSort fun left right => (compare left.skillId right.skillId).isLE

/-- One more, as far as sixty-four bits go. -/
def saturatingSucc (n : Nat) : Nat := min (n + 1) (2 ^ 64 - 1)

def reconcileFullCorpus (bank : SkillBank K D) (incoming : List (SkillField K D)) (threshold : K) :
    BrainResult (Option (SkillBank K D)) := do
  match ← globalFieldAlignment bank.fields incoming threshold with
  | none => return none
  | some alignment =>
    let usedOld := alignment.filterMap fun choice => choice.map Prod.fst
    let recovered := (incoming.zip alignment).map (reconciledField bank.fields)
    let decayed := (bank.fields.zipIdx.filter fun prior => prior.2 ∉ usedOld).filterMap
      fun prior => decayedPrior prior.1
    let next := sortFields (recovered ++ decayed)
    let nextRevision := saturatingSucc bank.generation
    let newestFieldGeneration :=
      ((next.map SkillField.generationCreated).max?).getD nextRevision
    return some ⟨max nextRevision newestFieldGeneration, next⟩

end

/-! ## The matching over exact reals -/

def priorOf (matched : List (Option (Nat × ℝ))) (j : Nat) : Option Nat :=
  (matched.getD j none).map Prod.fst

lemma getD_replicate_none (n j : Nat) :
    (replicate n (none : Option (Nat × ℝ))).getD j none = none := by
  rw [getD_eq_getElem?_getD, getElem?_replicate]
  by_cases hj : j < n
  · rw [if_pos hj]
    rfl
  · rw [if_neg hj]
    rfl

lemma priorOf_replicate (n j : Nat) : priorOf (replicate n none) j = none := by
  unfold priorOf
  rw [getD_replicate_none]
  rfl

section

variable {D : Type} {old incoming : List (SkillField ℝ D)} {threshold : ℝ}

/-- The absolute cosine of the directions of two fields. -/
noncomputable def fieldSimilarity (old incoming : List (SkillField ℝ D)) (i j : Nat) : ℝ :=
  similarity (old.map SkillField.direction) (incoming.map SkillField.direction) i j

lemma enterPairs_spec (threshold : ℝ) {dim : Nat} (ho : Directions dim (old.map SkillField.direction))
    (hn : Directions dim (incoming.map SkillField.direction)) {partner : List (Option Nat)}
    (hlength : partner.length = old.length)
    (hmatching : Matching old.length incoming.length (partnerOf partner)) :
    ∃ matched, partner.zipIdx.foldlM (enterPair old incoming threshold)
        (replicate incoming.length none) = .ok matched ∧ matched.length = incoming.length ∧
      ∀ i j, priorOf matched j = some i ↔ i < old.length ∧ partnerOf partner i = some j ∧
        threshold ≤ fieldSimilarity old incoming i j := by
  -- the rows enter in order, and no two have one column
  have hsteps : ∀ m, m ≤ partner.length → ∃ matched,
      (partner.take m).zipIdx.foldlM (enterPair old incoming threshold)
        (replicate incoming.length none) = .ok matched ∧
      matched.length = incoming.length ∧
      ∀ i j, priorOf matched j = some i ↔ i < m ∧ partnerOf partner i = some j ∧
        threshold ≤ fieldSimilarity old incoming i j := by
    intro m
    induction m with
    | zero =>
      intro _
      refine ⟨_, rfl, length_replicate, ?_⟩
      intro i j
      rw [priorOf_replicate]
      constructor
      · intro h
        cases h
      · intro h
        omega
    | succ m ih =>
      intro hm
      obtain ⟨matched, hfold, hmatched, hprior⟩ := ih (by omega)
      have htake : (partner.take (m + 1)).zipIdx =
          (partner.take m).zipIdx ++ [(partnerOf partner m, m)] := by
        rw [take_succ_eq_append_getElem (by omega), zipIdx_append]
        unfold partnerOf
        rw [getD_eq_getElem _ _ (by omega)]
        simp [length_take, Nat.min_eq_left (show m ≤ partner.length by omega)]
      rw [htake, foldlM_append, hfold, ok_bind, foldlM_cons]
      cases hpartner : partnerOf partner m with
      | none =>
        refine ⟨matched, rfl, hmatched, ?_⟩
        intro i j
        rw [hprior]
        constructor
        · intro h
          exact ⟨by omega, h.2⟩
        · intro h
          have hne : i ≠ m := by
            intro heq
            rw [heq, hpartner] at h
            cases h.2.1
          exact ⟨by omega, h.2⟩
      | some l =>
        have hl := hmatching.range m (by omega) l hpartner
        have hleft : (old.map SkillField.direction).getD m [] ∈ old.map SkillField.direction := by
          rw [getD_eq_getElem _ _ (by rw [length_map]; omega)]
          exact getElem_mem _
        have hright : (incoming.map SkillField.direction).getD l [] ∈
            incoming.map SkillField.direction := by
          rw [getD_eq_getElem _ _ (by rw [length_map]; omega)]
          exact getElem_mem _
        have hcosine := cosine_exact (by rw [ho.length _ hleft, hn.length _ hright])
          (ho.nonzero _ hleft) (hn.nonzero _ hright)
        have hstep : enterPair old incoming threshold matched (some l, m) =
            if le threshold (fieldSimilarity old incoming m l) then
              .ok (matched.set l (some (m, if le 0 (cosineOf
                ((old.map SkillField.direction).getD m [])
                ((incoming.map SkillField.direction).getD l [])) then 1 else -1)))
            else .ok matched := by
          unfold enterPair
          simp only []
          rw [hcosine]
          rfl
        rw [hstep]
        by_cases hover : le threshold (fieldSimilarity old incoming m l) = true
        · rw [if_pos hover]
          rw [exact_le] at hover
          refine ⟨_, rfl, by rw [length_set, hmatched], ?_⟩
          intro i j
          by_cases hjl : j = l
          · have hset : ∀ choice : Nat × ℝ, priorOf (matched.set l (some choice)) j =
                some choice.1 := by
              intro choice
              unfold priorOf
              rw [hjl, getD_eq_getElem?_getD, getElem?_set_self (by omega)]
              rfl
            rw [hset, some.injEq]
            constructor
            · intro heq
              rw [← heq, hjl]
              exact ⟨by omega, hpartner, hover⟩
            · intro h
              rw [hjl] at h
              exact hmatching.inj m i (by omega) (by omega) l hpartner h.2.1
          · have hset : ∀ choice : Nat × ℝ, priorOf (matched.set l (some choice)) j =
                priorOf matched j := by
              intro choice
              unfold priorOf
              rw [getD_eq_getElem?_getD, getElem?_set_ne (by omega), getD_eq_getElem?_getD]
            rw [hset, hprior]
            constructor
            · intro h
              exact ⟨by omega, h.2⟩
            · intro h
              have hne : i ≠ m := by
                intro heq
                rw [heq, hpartner, some.injEq] at h
                exact hjl h.2.1.symm
              exact ⟨by omega, h.2⟩
        · rw [if_neg hover]
          rw [exact_le] at hover
          refine ⟨matched, rfl, hmatched, ?_⟩
          intro i j
          rw [hprior]
          constructor
          · intro h
            exact ⟨by omega, h.2⟩
          · intro h
            have hne : i ≠ m := by
              intro heq
              rw [heq, hpartner, some.injEq] at h
              rw [← h.2.1] at h
              exact hover h.2.2
            exact ⟨by omega, h.2⟩
  obtain ⟨matched, hfold, hmatched, hprior⟩ := hsteps partner.length (le_refl _)
  rw [take_length] at hfold
  refine ⟨matched, hfold, hmatched, ?_⟩
  intro i j
  rw [hprior, hlength]

/-- The bases of a matching that is not decided before the assignment. -/
def Aligned (old incoming : List (SkillField ℝ D)) : Prop :=
  ∃ dim, Directions dim (old.map SkillField.direction) ∧
    Directions dim (incoming.map SkillField.direction)

/-- The matching is the best one, above the threshold. -/
lemma alignment_spec (hold : old ≠ []) (hincoming : incoming ≠ []) (hlow : 0 ≤ threshold)
    (hhigh : threshold ≤ 1) (haligned : Aligned old incoming) :
    ∃ matched partner, globalFieldAlignment old incoming threshold = .ok (some matched) ∧
      Best (old.map SkillField.direction) (incoming.map SkillField.direction) partner ∧
      matched.length = incoming.length ∧
      ∀ i j, priorOf matched j = some i ↔ i < old.length ∧ partnerOf partner i = some j ∧
        threshold ≤ fieldSimilarity old incoming i j := by
  obtain ⟨dim, ho, hn⟩ := haligned
  have hone : old.map SkillField.direction ≠ [] := by
    rw [ne_eq, map_eq_nil_iff]
    exact hold
  have hnne : incoming.map SkillField.direction ≠ [] := by
    rw [ne_eq, map_eq_nil_iff]
    exact hincoming
  obtain ⟨alignment, halignment, hbest⟩ := align_bases_best hone hnne ho hn
  have hlength := hbest.length
  rw [length_map] at hlength
  have hmatching := hbest.matching
  rw [length_map, length_map] at hmatching
  obtain ⟨matched, hmatched, hmatchedLength, hprior⟩ :=
    enterPairs_spec threshold ho hn hlength hmatching
  refine ⟨matched, alignment.assignment, ?_, hbest, hmatchedLength, hprior⟩
  have hiempty : incoming.isEmpty = false := isEmpty_eq_false_iff.mpr hincoming
  have hoempty : old.isEmpty = false := isEmpty_eq_false_iff.mpr hold
  have hthreshold : ¬(¬isFinite threshold = true ∨
      ¬(le 0 threshold = true ∧ le threshold 1 = true)) := by
    simp [hlow, hhigh]
  unfold globalFieldAlignment
  rw [failIf, if_neg hthreshold, ok_bind, hiempty, hoempty, halignment]
  simp only [Bool.false_eq_true, if_false, ok_bind]
  rw [hmatched]
  rfl

/-- The recovered fields come with a threshold, and with directions where they are matched. -/
def Admitted (old incoming : List (SkillField ℝ D)) (threshold : ℝ) : Prop :=
  (0 ≤ threshold ∧ threshold ≤ 1) ∧ (incoming = [] ∨ old = [] ∨ Aligned old incoming)

lemma matching_of_admitted (h : Admitted old incoming threshold) :
    ∃ matched partner, globalFieldAlignment old incoming threshold = .ok (some matched) ∧
      Matching old.length incoming.length partner ∧
      (∀ other, Matching old.length incoming.length other →
        total old.length (fieldSimilarity old incoming) other ≤
          total old.length (fieldSimilarity old incoming) partner) ∧
      matched.length = incoming.length ∧
      ∀ i j, priorOf matched j = some i ↔ i < old.length ∧ partner i = some j ∧
        threshold ≤ fieldSimilarity old incoming i j := by
  obtain ⟨⟨hlow, hhigh⟩, hcase⟩ := h
  have hthreshold : ¬(¬isFinite threshold = true ∨
      ¬(le 0 threshold = true ∧ le threshold 1 = true)) := by
    simp [hlow, hhigh]
  -- where a side is empty, no row has a partner
  have hempty : ∀ rows cols, rows = 0 ∨ cols = 0 → ∀ other, Matching rows cols other →
      total rows (fieldSimilarity old incoming) other = 0 := by
    intro rows cols hzero other hother
    apply Finset.sum_eq_zero
    intro i hi
    rw [Finset.mem_range] at hi
    cases hpartner : other i with
    | none => rfl
    | some j =>
      have hj := hother.range i hi j hpartner
      omega
  have hnobody : ∀ rows cols, Matching rows cols fun _ => none := by
    intro rows cols
    refine ⟨?_, ?_⟩
    · intro i _ j hj
      cases hj
    · intro i k _ _ j hj
      cases hj
  by_cases hsides : old.length = 0 ∨ incoming.length = 0
  · refine ⟨List.replicate incoming.length none, fun _ => none, ?_, hnobody _ _, ?_,
      List.length_replicate, ?_⟩
    · unfold globalFieldAlignment
      rw [failIf, if_neg hthreshold, ok_bind]
      by_cases hincoming : incoming = []
      · rw [hincoming]
        rfl
      · have hold : old = [] := by
          rw [List.length_eq_zero_iff, List.length_eq_zero_iff] at hsides
          exact hsides.resolve_right hincoming
        rw [if_neg (by rw [List.isEmpty_iff]; exact hincoming), hold]
        rfl
    · intro other hother
      rw [hempty _ _ hsides other hother, hempty _ _ hsides _ (hnobody _ _)]
    · intro i j
      constructor
      · intro hj
        rw [priorOf_replicate] at hj
        cases hj
      · intro hj
        cases hj.2.1
  · rw [List.length_eq_zero_iff, List.length_eq_zero_iff, not_or] at hsides
    have haligned := (hcase.resolve_left hsides.2).resolve_left hsides.1
    obtain ⟨matched, partner, hmatched, hbest, hlength, hprior⟩ :=
      alignment_spec hsides.1 hsides.2 hlow hhigh haligned
    have hmatching := hbest.matching
    have hleast := hbest.best
    rw [List.length_map, List.length_map] at hmatching hleast
    exact ⟨matched, partnerOf partner, hmatched, hmatching, hleast, hlength, hprior⟩

variable {result : Option (List (Option (Nat × ℝ)))}

lemma alignment_ok (h : globalFieldAlignment old incoming threshold = .ok result) :
    (0 ≤ threshold ∧ threshold ≤ 1) ∧ (incoming = [] ∧ result = some [] ∨
        incoming ≠ [] ∧ old = [] ∧ result = some (List.replicate incoming.length none) ∨
        incoming ≠ [] ∧ old ≠ [] ∧ Aligned old incoming) := by
  unfold globalFieldAlignment at h
  obtain ⟨_, hthreshold, h⟩ := bind_ok.mp h
  rw [failIf_ok, not_or, not_not, not_not, exact_le, exact_le] at hthreshold
  refine ⟨hthreshold.2, ?_⟩
  by_cases hincoming : incoming.isEmpty = true
  · rw [if_pos hincoming] at h
    exact .inl ⟨List.isEmpty_iff.mp hincoming, (pure_ok.mp h).symm⟩
  · rw [if_neg hincoming] at h
    rw [List.isEmpty_iff] at hincoming
    by_cases hold : old.isEmpty = true
    · rw [if_pos hold] at h
      exact .inr (.inl ⟨hincoming, List.isEmpty_iff.mp hold, (pure_ok.mp h).symm⟩)
    · rw [if_neg hold] at h
      rw [List.isEmpty_iff] at hold
      obtain ⟨alignment, halignment, -⟩ := bind_ok.mp h
      obtain ⟨-, -, haligned⟩ := directions_of_ok halignment
      exact .inr (.inr ⟨hincoming, hold, haligned⟩)

lemma admitted_of_ok (h : globalFieldAlignment old incoming threshold = .ok result) :
    Admitted old incoming threshold := by
  obtain ⟨hthreshold, hcase⟩ := alignment_ok h
  refine ⟨hthreshold, ?_⟩
  rcases hcase with ⟨hincoming, -⟩ | ⟨-, hold, -⟩ | ⟨-, -, haligned⟩
  · exact .inl hincoming
  · exact .inr (.inl hold)
  · exact .inr (.inr haligned)

/-! ## What the matching leaves behind -/

/-- Neither side of a pair is matched, though it is not below the threshold. -/
structure LeftBehind (old incoming : List (SkillField ℝ D)) (threshold : ℝ)
    (matched : List (Option (Nat × ℝ))) (i j : Nat) : Prop where
  prior_lt : i < old.length
  incoming_lt : j < incoming.length
  prior_free : ∀ l, priorOf matched l ≠ some i
  incoming_free : priorOf matched j = none
  admissible : threshold ≤ fieldSimilarity old incoming i j

/-- Two pairs below the threshold that together outweigh the pair that is left behind. -/
structure Displaced (old incoming : List (SkillField ℝ D)) (threshold : ℝ)
    (matched : List (Option (Nat × ℝ))) (i j k l : Nat) : Prop where
  prior_lt : k < old.length
  incoming_lt : l < incoming.length
  prior_free : ∀ m, priorOf matched m ≠ some k
  incoming_free : priorOf matched l = none
  left_below : fieldSimilarity old incoming i l < threshold
  right_below : fieldSimilarity old incoming k j < threshold
  outweighed : fieldSimilarity old incoming i j + fieldSimilarity old incoming k l ≤
    fieldSimilarity old incoming i l + fieldSimilarity old incoming k j

structure IdentityMatching (old incoming : List (SkillField ℝ D)) (threshold : ℝ)
    (matched : List (Option (Nat × ℝ))) : Prop where
  length : matched.length = incoming.length
  distinct : ∀ j k i, priorOf matched j = some i → priorOf matched k = some i → j = k
  above : ∀ i j, priorOf matched j = some i →
    i < old.length ∧ j < incoming.length ∧ threshold ≤ fieldSimilarity old incoming i j
  /-- A pair is left behind only where two others displaced it. -/
  displaced : ∀ i j, LeftBehind old incoming threshold matched i j →
    ∃ k l, Displaced old incoming threshold matched i j k l

variable {matched : List (Option (Nat × ℝ))}

lemma IdentityMatching.of_best {matched : List (Option (Nat × ℝ))} {partner : List (Option Nat)}
    (hbest : Best (old.map SkillField.direction) (incoming.map SkillField.direction) partner)
    (hlength : matched.length = incoming.length)
    (hprior : ∀ i j, priorOf matched j = some i ↔ i < old.length ∧ partnerOf partner i = some j ∧
      threshold ≤ fieldSimilarity old incoming i j) :
    IdentityMatching old incoming threshold matched := by
  have hmatching := hbest.matching
  have hcard := hbest.card
  have hlargest := hbest.best
  rw [length_map, length_map] at hmatching hcard
  rw [length_map, length_map] at hlargest
  -- a pair of the assignment that was not entered is below the threshold
  have hbelow : ∀ i j, i < old.length → partnerOf partner i = some j →
      priorOf matched j ≠ some i → fieldSimilarity old incoming i j < threshold := by
    intro i j hi hpartner hfree
    by_contra hge
    exact hfree ((hprior i j).mpr ⟨hi, hpartner, not_lt.mp hge⟩)
  refine ⟨hlength, ?_, ?_, ?_⟩
  · intro j k i hj hk
    have hpj := ((hprior i j).mp hj).2.1
    have hpk := ((hprior i k).mp hk).2.1
    rw [hpj, some.injEq] at hpk
    exact hpk
  · intro i j hj
    obtain ⟨hi, hpartner, hge⟩ := (hprior i j).mp hj
    exact ⟨hi, hmatching.range i hi j hpartner, hge⟩
  · intro i j hleft
    have hrow : ∀ l, partnerOf partner i = some l →
        fieldSimilarity old incoming i l < fieldSimilarity old incoming i j := by
      intro l hl
      exact (hbelow i l hleft.prior_lt hl (hleft.prior_free l)).trans_le hleft.admissible
    have hcolumn : ∀ k, k < old.length → partnerOf partner k = some j →
        fieldSimilarity old incoming k j < fieldSimilarity old incoming i j := by
      intro k hk hkj
      apply (hbelow k j hk hkj _).trans_le hleft.admissible
      rw [hleft.incoming_free]
      exact fun h => some_ne_none k h.symm
    have hpair : partnerOf partner i ≠ some j := by
      intro heq
      exact absurd (hrow j heq) (lt_irrefl _)
    obtain ⟨k, l, hk, hkj, hil, hle⟩ := exchange_le hmatching hcard hlargest hleft.prior_lt
      hleft.incoming_lt hpair hrow hcolumn
    have hkfree : ∀ m, priorOf matched m ≠ some k := by
      intro m hm
      obtain ⟨-, hkm, -⟩ := (hprior k m).mp hm
      rw [hkj, some.injEq] at hkm
      rw [← hkm, hleft.incoming_free] at hm
      cases hm
    have hlfree : priorOf matched l = none := by
      cases hl : priorOf matched l with
      | none => rfl
      | some m =>
        obtain ⟨hm, hml, -⟩ := (hprior m l).mp hl
        have hmi := hmatching.inj m i hm hleft.prior_lt l hml hil
        rw [hmi] at hl
        exact absurd hl (hleft.prior_free l)
    exact ⟨k, l, hk, hmatching.range i hleft.prior_lt l hil, hkfree, hlfree,
      hbelow i l hleft.prior_lt hil (hleft.prior_free l), hbelow k j hk hkj (hkfree j), hle⟩

lemma identityMatching_of_ok
    (h : globalFieldAlignment old incoming threshold = .ok (some matched)) :
    IdentityMatching old incoming threshold matched := by
  obtain ⟨⟨hlow, hhigh⟩, hcase⟩ := alignment_ok h
  rcases hcase with ⟨hincoming, hresult⟩ | ⟨-, hold, hresult⟩ | ⟨hincoming, hold, haligned⟩
  · rw [some.injEq] at hresult
    rw [hresult, hincoming]
    refine ⟨rfl, ?_, ?_, ?_⟩
    · intro j k i hj
      cases hj
    · intro i j hj
      cases hj
    · intro i j hleft
      exact absurd hleft.incoming_lt (Nat.not_lt_zero j)
  · rw [some.injEq] at hresult
    have hnone : ∀ j i, priorOf matched j ≠ some i := by
      intro j i hj
      rw [hresult, priorOf_replicate] at hj
      cases hj
    refine ⟨?_, ?_, ?_, ?_⟩
    · rw [hresult, length_replicate]
    · intro j k i hj
      exact absurd hj (hnone j i)
    · intro i j hj
      exact absurd hj (hnone j i)
    · intro i j hleft
      have hlt := hleft.prior_lt
      rw [hold] at hlt
      exact absurd hlt (Nat.not_lt_zero i)
  · obtain ⟨found, partner, hfound, hbest, hlength, hprior⟩ :=
      alignment_spec hold hincoming hlow hhigh haligned
    rw [hfound, Except.ok.injEq, some.injEq] at h
    rw [← h]
    exact IdentityMatching.of_best hbest hlength hprior

/-! ## The identities of the bank -/

lemma recoveredField_identity {prior newf : SkillField ℝ D} (sign : ℝ)
    (h : prior.lineageId.asStr.isEmpty = false) :
    (recoveredField prior newf sign).skillId = prior.skillId ∧
      (recoveredField prior newf sign).lineageId = prior.lineageId := by
  unfold recoveredField durableIdentity
  simp only [h, Bool.false_eq_true, if_false, and_self]

lemma keeps_identity {bank next : SkillBank ℝ D}
    (hmatched : globalFieldAlignment bank.fields incoming threshold = .ok (some matched))
    (hnext : reconcileFullCorpus bank incoming threshold = .ok (some next)) {i j : Nat}
    {prior : SkillField ℝ D} (hj : priorOf matched j = some i)
    (hprior : bank.fields[i]? = some prior) (hlineage : prior.lineageId.asStr.isEmpty = false) :
    ∃ field ∈ next.fields, field.skillId = prior.skillId ∧ field.lineageId = prior.lineageId := by
  have hidentities := identityMatching_of_ok hmatched
  unfold reconcileFullCorpus at hnext
  rw [hmatched, ok_bind] at hnext
  simp only [] at hnext
  have hfields := congrArg SkillBank.fields (some.inj (pure_ok.mp hnext))
  rw [← hfields]
  obtain ⟨hi, hjlt, -⟩ := hidentities.above i j hj
  -- the choice of the field, and the field itself
  have hjm : j < matched.length := by
    rw [hidentities.length]
    exact hjlt
  obtain ⟨choice, hchoice, hfst⟩ := map_eq_some_iff.mp hj
  rw [getD_eq_getElem _ _ hjm] at hchoice
  have hmem : (incoming[j], some choice) ∈ incoming.zip matched := by
    rw [← hchoice]
    have hz : j < (incoming.zip matched).length := by
      rw [length_zip]
      omega
    have hget : (incoming.zip matched)[j] = (incoming[j], matched[j]) := getElem_zip
    rw [← hget]
    exact getElem_mem hz
  have hrecovered : reconciledField bank.fields (incoming[j], some choice) =
      recoveredField prior incoming[j] choice.2 := by
    unfold reconciledField
    simp only [bind_some, hfst, hprior, map_some]
  refine ⟨recoveredField prior incoming[j] choice.2, ?_, recoveredField_identity _ hlineage⟩
  unfold sortFields
  rw [mem_mergeSort]
  apply mem_append_left
  rw [← hrecovered]
  exact mem_map_of_mem hmem

end

/-! ## A pair that is left behind -/

namespace DisplacedSample

lemma cosineOf_eq {a b : List ℝ} {s t d : ℝ} (hs : squareSum a = s * s)
    (ht : squareSum b = t * t) (hspos : 0 ≤ s) (htpos : 0 ≤ t)
    (hd : (zipWith (· * ·) a b).sum = d) : cosineOf a b = d / (s * t) := by
  unfold cosineOf
  rw [hs, ht, hd, Real.sqrt_mul_self hspos, Real.sqrt_mul_self htpos]

def skill : SkillId := ⟨"cap-a", by decide⟩
def lineage : LineageId := ⟨"lineage-a.1", by decide⟩

noncomputable def field (direction : List ℝ) : SkillField ℝ Unit :=
  ⟨skill, lineage, 1, direction, 1, 1, 0, [], ()⟩

noncomputable def prior : List (SkillField ℝ Unit) := [field [1, 0, 0], field [0, 1, 0]]

noncomputable def whole (n : Nat) : ℝ := n

noncomputable def recovered : List (SkillField ℝ Unit) :=
  [field [whole 3, whole 2, whole 6], field [whole 5, 0, whole 12]]

lemma similarities :
    fieldSimilarity prior recovered 0 0 = 3 / 7 ∧ fieldSimilarity prior recovered 0 1 = 5 / 13 ∧
      fieldSimilarity prior recovered 1 0 = 2 / 7 ∧ fieldSimilarity prior recovered 1 1 = 0 := by
  have hfirst : squareSum [1, 0, 0] = 1 * 1 := by norm_num [squareSum]
  have hsecond : squareSum [0, 1, 0] = 1 * 1 := by norm_num [squareSum]
  have hthird : squareSum [3, 2, 6] = 7 * 7 := by norm_num [squareSum]
  have hfourth : squareSum [5, 0, 12] = 13 * 13 := by norm_num [squareSum]
  refine ⟨?_, ?_, ?_, ?_⟩
  · show |cosineOf [1, 0, 0] [3, 2, 6]| = 3 / 7
    rw [cosineOf_eq (d := 3) hfirst hthird (by norm_num) (by norm_num) (by norm_num)]
    norm_num [abs_of_pos]
  · show |cosineOf [1, 0, 0] [5, 0, 12]| = 5 / 13
    rw [cosineOf_eq (d := 5) hfirst hfourth (by norm_num) (by norm_num) (by norm_num)]
    norm_num [abs_of_pos]
  · show |cosineOf [0, 1, 0] [3, 2, 6]| = 2 / 7
    rw [cosineOf_eq (d := 2) hsecond hthird (by norm_num) (by norm_num) (by norm_num)]
    norm_num [abs_of_pos]
  · show |cosineOf [0, 1, 0] [5, 0, 12]| = 0
    rw [cosineOf_eq (d := 0) hsecond hfourth (by norm_num) (by norm_num) (by norm_num)]
    norm_num

lemma aligned : Aligned prior recovered := by
  have hone : ∀ v ∈ ([[1, 0, 0], [0, 1, 0]] : List (List ℝ)),
      v.length = 3 ∧ ∃ x ∈ v, x ≠ 0 := by
    intro v hv
    rw [mem_cons, mem_singleton] at hv
    rcases hv with hv | hv
    · rw [hv]
      exact ⟨rfl, 1, by simp, one_ne_zero⟩
    · rw [hv]
      exact ⟨rfl, 1, by simp, one_ne_zero⟩
  have htwo : ∀ v ∈ ([[3, 2, 6], [5, 0, 12]] : List (List ℝ)),
      v.length = 3 ∧ ∃ x ∈ v, x ≠ 0 := by
    intro v hv
    rw [mem_cons, mem_singleton] at hv
    rcases hv with hv | hv
    · rw [hv]
      exact ⟨rfl, 3, by simp, by norm_num⟩
    · rw [hv]
      exact ⟨rfl, 5, by simp, by norm_num⟩
  exact ⟨3, ⟨fun v hv => (hone v hv).1, fun v hv => (hone v hv).2⟩,
    ⟨fun v hv => (htwo v hv).1, fun v hv => (htwo v hv).2⟩⟩

end DisplacedSample

end Tidex.Analysis
