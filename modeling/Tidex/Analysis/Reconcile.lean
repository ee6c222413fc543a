/-
  Analysis.Reconcile — the order of the recovered fields.
-/
import Tidex.Analysis.Tomography
import Tidex.Lib.Pairing
import Tidex.Lib.StableSort

namespace Tidex.Analysis

open Tidex.Lib List Scalar SkillField

/-! ## The bank of a pairing -/

section

variable {D : Type} {old incoming : List (SkillField ℝ D)} {threshold : ℝ}

noncomputable def likeness (old : List (SkillField ℝ D)) (i : Nat) (field : SkillField ℝ D) : ℝ :=
  cosineOf ((old.map SkillField.direction).getD i []) field.direction

/-- The choice of a pair, where it is not below the threshold. -/
noncomputable def keptPrior (old : List (SkillField ℝ D)) (threshold : ℝ)
    (pair : SkillField ℝ D × Option Nat) : Option (Nat × ℝ) :=
  (pair.2.filter fun i => Scalar.le threshold |likeness old i pair.1|).map fun i =>
    (i, if Scalar.le 0 (likeness old i pair.1) then 1 else -1)

noncomputable def recoveredOf (old : List (SkillField ℝ D)) (threshold : ℝ)
    (pairs : List (SkillField ℝ D × Option Nat)) : List (SkillField ℝ D) :=
  pairs.map fun pair => reconciledField old (pair.1, keptPrior old threshold pair)

/-- The prior fields that a pairing leaves. -/
noncomputable def leftOf (old : List (SkillField ℝ D)) (threshold : ℝ)
    (pairs : List (SkillField ℝ D × Option Nat)) : List (SkillField ℝ D) :=
  (old.zipIdx.filter fun prior =>
      prior.2 ∉ pairs.filterMap fun pair => (keptPrior old threshold pair).map Prod.fst).filterMap
    fun prior => decayedPrior prior.1

def nextBank {K : Type} (bank : SkillBank K D) (recovered left : List (SkillField K D)) :
    SkillBank K D :=
  let next := sortFields (recovered ++ left)
  let nextRevision := saturatingSucc bank.generation
  ⟨max nextRevision (((next.map SkillField.generationCreated).max?).getD nextRevision), next⟩

variable {bank : SkillBank ℝ D} {pairs : List (SkillField ℝ D × Option Nat)}

lemma reconcile_of_matched {bank : SkillBank ℝ D}
    {pairs : List (SkillField ℝ D × Option Nat)} (hfst : pairs.map Prod.fst = incoming)
    (hmatched : globalFieldAlignment bank.fields incoming threshold =
      .ok (some (pairs.map (keptPrior bank.fields threshold)))) :
    reconcileFullCorpus bank incoming threshold =
      .ok (some (nextBank bank (recoveredOf bank.fields threshold pairs)
        (leftOf bank.fields threshold pairs))) := by
  have hzip : (incoming.zip (pairs.map (keptPrior bank.fields threshold))).map
      (reconciledField bank.fields) = recoveredOf bank.fields threshold pairs := by
    rw [← hfst, zip_map']
    unfold recoveredOf
    rw [map_map]
    rfl
  have hused : (pairs.map (keptPrior bank.fields threshold)).filterMap
      (fun choice => choice.map Prod.fst) =
      pairs.filterMap fun pair => (keptPrior bank.fields threshold pair).map Prod.fst := by
    rw [filterMap_map]
    rfl
  unfold reconcileFullCorpus
  rw [hmatched, ok_bind]
  simp only [hzip, hused]
  rfl

/-! ## The matching as a pairing -/

/-- What an entry of the matching says of its pair. -/
def Signed (old incoming : List (SkillField ℝ D)) (matched : List (Option (Nat × ℝ))) : Prop :=
  ∀ j choice, matched.getD j none = some choice →
    ∃ c, cosine ((old.map SkillField.direction).getD choice.1 [])
        ((incoming.map SkillField.direction).getD j []) = .ok c ∧
      choice.2 = if Scalar.le 0 c then 1 else -1

lemma enterPair_signed {matched next : List (Option (Nat × ℝ))} {pair : Option Nat × Nat}
    (hsigned : Signed old incoming matched)
    (h : enterPair old incoming threshold matched pair = .ok next) : Signed old incoming next := by
  unfold enterPair at h
  cases hpair : pair.1 with
  | none =>
    rw [hpair] at h
    cases h
    exact hsigned
  | some k =>
    rw [hpair] at h
    obtain ⟨c, hc, h⟩ := bind_ok.mp h
    by_cases hover : le threshold (Scalar.abs c) = true
    · rw [if_pos hover, pure_ok] at h
      intro j choice hj
      rw [← h, getD_eq_getElem?_getD] at hj
      by_cases hjk : k = j
      · by_cases hlt : k < matched.length
        · rw [← hjk, getElem?_set_self hlt, Option.getD_some, Option.some.injEq] at hj
          rw [← hj, ← hjk]
          exact ⟨c, hc, rfl⟩
        · rw [set_eq_of_length_le (by omega), ← getD_eq_getElem?_getD] at hj
          exact hsigned j choice hj
      · rw [getElem?_set_ne hjk, ← getD_eq_getElem?_getD] at hj
        exact hsigned j choice hj
    · rw [if_neg hover, pure_ok] at h
      rw [← h]
      exact hsigned

lemma signed_of_ok {matched : List (Option (Nat × ℝ))}
    (h : globalFieldAlignment old incoming threshold = .ok (some matched)) :
    Signed old incoming matched := by
  have hnone : ∀ n, Signed old incoming (replicate n none) := by
    intro n j choice hj
    rw [getD_replicate_none] at hj
    cases hj
  unfold globalFieldAlignment at h
  obtain ⟨_, -, h⟩ := bind_ok.mp h
  by_cases hincoming : incoming.isEmpty = true
  · rw [if_pos hincoming, pure_ok, Option.some.injEq] at h
    rw [← h]
    exact hnone 0
  rw [if_neg hincoming] at h
  by_cases hold : old.isEmpty = true
  · rw [if_pos hold, pure_ok, Option.some.injEq] at h
    rw [← h]
    exact hnone _
  rw [if_neg hold] at h
  obtain ⟨alignment, -, h⟩ := bind_ok.mp h
  cases alignment with
  | none => cases h
  | some alignment =>
    obtain ⟨found, hfound, h⟩ := bind_ok.mp h
    rw [pure_ok, Option.some.injEq] at h
    rw [← h]
    refine foldlM_ok_induction (Signed old incoming) (hnone _) ?_ hfound
    intro s pair s' _ hs hstep
    exact enterPair_signed hs hstep

variable {field : SkillField ℝ D}

lemma fieldSimilarity_eq (i : Nat) {j : Nat} (hj : incoming[j]? = some field) :
    fieldSimilarity old incoming i j = |likeness old i field| := by
  have hget : (incoming.map direction).getD j [] = field.direction := by
    rw [getD_eq_getElem?_getD, getElem?_map, hj]
    rfl
  show |cosineOf ((old.map direction).getD i [])
    ((incoming.map direction).getD j [])| = _
  rw [hget]
  rfl

lemma cosine_of_admitted (h : Admitted old incoming threshold) {i j : Nat} (hi : i < old.length)
    (hj : incoming[j]? = some field) : cosine ((old.map direction).getD i [])
      ((incoming.map direction).getD j []) = .ok (likeness old i field) := by
  have hmem : field ∈ incoming := mem_of_getElem? hj
  have hold : old ≠ [] := ne_nil_of_length_pos (by omega)
  obtain ⟨dim, ho, hn⟩ := (h.2.resolve_left (ne_nil_of_mem hmem)).resolve_left hold
  have hleft : (old.map direction).getD i [] ∈ old.map direction := by
    rw [getD_eq_getElem _ _ (by rw [length_map]; exact hi)]
    exact getElem_mem _
  have hget : (incoming.map direction).getD j [] = field.direction := by
    rw [getD_eq_getElem?_getD, getElem?_map, hj]
    rfl
  have hright : field.direction ∈ incoming.map direction :=
    mem_map_of_mem hmem
  rw [hget]
  exact cosine_exact (by rw [ho.length _ hleft, hn.length _ hright]) (ho.nonzero _ hleft)
    (hn.nonzero _ hright)

def BestFields (old incoming : List (SkillField ℝ D))
    (pairs : List (SkillField ℝ D × Option Nat)) : Prop :=
  BestPairing old.length (fun i field => |likeness old i field|) incoming pairs

/-- The matching is the one of a best assignment, in the order of the recovered fields. -/
lemma alignment_pairs (h : Admitted old incoming threshold) :
    ∃ pairs, BestFields old incoming pairs ∧ pairs.map Prod.fst = incoming ∧
      globalFieldAlignment old incoming threshold =
        .ok (some (pairs.map (keptPrior old threshold))) := by
  obtain ⟨matched, partner, hmatched, hmatching, hbest, hlength, hprior⟩ := matching_of_admitted h
  have hplaces : ∀ i j field, incoming[j]? = some field →
      fieldSimilarity old incoming i j = |likeness old i field| := by
    intro i j field hj
    exact fieldSimilarity_eq i hj
  refine ⟨pairsOf old.length partner incoming,
    BestPairing.of_matching hmatching (fun i field => |likeness old i field|) hplaces hbest,
    map_fst_pairsOf _ _ _, ?_⟩
  rw [hmatched]
  congr 2
  apply List.ext_getElem?
  intro j
  rw [List.getElem?_map, getElem_pairsOf]
  cases hj : incoming[j]? with
  | none =>
    have hlt := List.getElem?_eq_none_iff.mp hj
    rw [List.getElem?_eq_none_iff.mpr (by omega)]
    rfl
  | some field =>
    have hlt := (List.getElem?_eq_some_iff.mp hj).1
    have hget : matched[j]? = some (matched.getD j none) := by
      rw [List.getD_eq_getElem _ _ (by omega), List.getElem?_eq_getElem (by omega)]
    rw [hget, Option.map_some, Option.map_some]
    congr 1
    cases hentry : matched.getD j none with
    | none =>
      have hnone : priorOf matched j = none := by
        unfold priorOf
        rw [hentry]
        rfl
      cases hrow : rowOf old.length partner j with
      | none => rfl
      | some i =>
        obtain ⟨hi, hpartner⟩ := (rowOf_eq_some hmatching).mp hrow
        have hbelow : le threshold |likeness old i field| = false := by
          rw [← Bool.not_eq_true, exact_le]
          intro hle
          rw [← fieldSimilarity_eq i hj] at hle
          rw [(hprior i j).mpr ⟨hi, hpartner, hle⟩] at hnone
          cases hnone
        unfold keptPrior
        rw [Option.filter_some, hbelow]
        rfl
    | some choice =>
      have hsome : priorOf matched j = some choice.1 := by
        unfold priorOf
        rw [hentry]
        rfl
      obtain ⟨hi, hpartner, hover⟩ := (hprior choice.1 j).mp hsome
      rw [fieldSimilarity_eq choice.1 hj, ← exact_le] at hover
      obtain ⟨c, hc, hsign⟩ := signed_of_ok hmatched j choice hentry
      have hlikeness : c = likeness old choice.1 field := by
        rw [cosine_of_admitted h hi hj, Except.ok.injEq] at hc
        exact hc.symm
      unfold keptPrior
      rw [(rowOf_eq_some hmatching).mpr ⟨hi, hpartner⟩, Option.filter_some, hover]
      rw [hlikeness] at hsign
      show some choice = some (choice.1, _)
      rw [← hsign]

/-! ## Another order -/

noncomputable def bankAfter (bank : SkillBank ℝ D) (incoming : List (SkillField ℝ D))
    (threshold : ℝ) : SkillBank ℝ D :=
  ((reconcileFullCorpus bank incoming threshold).toOption.bind id).getD bank

lemma bankAfter_of_ok {bank next : SkillBank ℝ D}
    (h : reconcileFullCorpus bank incoming threshold = .ok (some next)) :
    bankAfter bank incoming threshold = next := by
  unfold bankAfter
  rw [h]
  rfl

def OrderFree (bank : SkillBank ℝ D) (incoming : List (SkillField ℝ D)) (threshold : ℝ) : Prop :=
  ∀ others, incoming.Perm others → bankAfter bank others threshold =
    bankAfter bank incoming threshold

def DistinctSkills (old incoming : List (SkillField ℝ D)) (threshold : ℝ) : Prop :=
  ∀ p, BestFields old incoming p → ∀ field ∈ recoveredOf old threshold p,
    ∀ other ∈ recoveredOf old threshold p, field.skillId = other.skillId → field = other

/-- All best assignments give one bank. -/
structure Determined (old incoming : List (SkillField ℝ D)) (threshold : ℝ) : Prop where
  /-- They give the same recovered fields. -/
  recovered : ∀ p q, BestFields old incoming p → BestFields old incoming q →
    (recoveredOf old threshold p).Perm (recoveredOf old threshold q)
  /-- They leave the same prior fields. -/
  left : ∀ p q, BestFields old incoming p → BestFields old incoming q →
    leftOf old threshold p = leftOf old threshold q
  distinct : DistinctSkills old incoming threshold

def Untied (old incoming : List (SkillField ℝ D)) : Prop :=
  ∀ p q, BestFields old incoming p → BestFields old incoming q → p.Perm q

lemma eq_of_perm_of_all_eq {α : Type} {xs ys : List α} (hperm : xs.Perm ys)
    (h : ∀ x ∈ xs, ∀ y ∈ xs, x = y) : xs = ys := by
  cases xs with
  | nil => exact hperm.nil_eq
  | cons x xs =>
    have hxs : x :: xs = replicate (x :: xs).length x := by
      rw [eq_replicate_iff]
      refine ⟨rfl, ?_⟩
      intro y hy
      exact h y hy x mem_cons_self
    rw [hxs] at hperm ⊢
    exact (perm_replicate.mp hperm.symm).symm

lemma sortFields_perm {recovered others left : List (SkillField ℝ D)}
    (hperm : recovered.Perm others) (hdistinct : ∀ field ∈ recovered, ∀ other ∈ recovered,
      field.skillId = other.skillId → field = other) :
    sortFields (others ++ left) = sortFields (recovered ++ left) := by
  apply mergeSort_congr skillId
  -- the recovered fields of one skill are all equal
  intro k
  unfold part
  rw [filter_append, filter_append]
  congr 1
  symm
  apply eq_of_perm_of_all_eq (hperm.filter _)
  intro field hfield other hother
  rw [mem_filter, decide_eq_true_eq] at hfield hother
  exact hdistinct field hfield.1 other hother.1 (by rw [hfield.2, hother.2])

lemma Admitted.reorder (h : Admitted old incoming threshold)
    {others : List (SkillField ℝ D)} (hperm : incoming.Perm others) :
    Admitted old others threshold := by
  refine ⟨h.1, ?_⟩
  rcases h.2 with hincoming | hold | ⟨dim, ho, hn⟩
  · rw [hincoming] at hperm
    exact .inl hperm.nil_eq.symm
  · exact .inr (.inl hold)
  · refine .inr (.inr ⟨dim, ho, ?_, ?_⟩)
    · intro v hv
      exact hn.length v ((hperm.map _).mem_iff.mpr hv)
    · intro v hv
      exact hn.nonzero v ((hperm.map _).mem_iff.mpr hv)

lemma bankAfter_of_not_admitted (h : ¬Admitted bank.fields incoming threshold) :
    bankAfter bank incoming threshold = bank := by
  unfold bankAfter reconcileFullCorpus
  cases halignment : globalFieldAlignment bank.fields incoming threshold with
  | error e => rfl
  | ok result => exact absurd (admitted_of_ok halignment) h

lemma orderFree_of_determined {bank : SkillBank ℝ D}
    (h : Admitted bank.fields incoming threshold →
      (∀ field ∈ incoming, ∀ other ∈ incoming, field = other) ∨
        Determined bank.fields incoming threshold) : OrderFree bank incoming threshold := by
  intro others hperm
  by_cases hadmitted : Admitted bank.fields incoming threshold
  · rcases h hadmitted with hequal | hdetermined
    · rw [eq_of_perm_of_all_eq hperm hequal]
    obtain ⟨p, hp, hpfst, hpmatched⟩ := alignment_pairs hadmitted
    obtain ⟨q, hq, hqfst, hqmatched⟩ := alignment_pairs (hadmitted.reorder hperm)
    have hqbest : BestFields bank.fields incoming q := hq.reorder hperm.symm
    have hnext : nextBank bank (recoveredOf bank.fields threshold q)
        (leftOf bank.fields threshold q) = nextBank bank (recoveredOf bank.fields threshold p)
          (leftOf bank.fields threshold p) := by
      unfold nextBank
      rw [hdetermined.left q p hqbest hp,
        sortFields_perm (hdetermined.recovered p q hp hqbest) (hdetermined.distinct p hp)]
    rw [bankAfter_of_ok (reconcile_of_matched hpfst hpmatched),
      bankAfter_of_ok (reconcile_of_matched hqfst hqmatched), hnext]
  · have hothers : ¬Admitted bank.fields others threshold := by
      intro hadmittedOthers
      exact hadmitted (hadmittedOthers.reorder hperm.symm)
    rw [bankAfter_of_not_admitted hadmitted, bankAfter_of_not_admitted hothers]

lemma leftOf_perm {pairs others : List (SkillField ℝ D × Option Nat)}
    (hperm : pairs.Perm others) : leftOf old threshold pairs = leftOf old threshold others := by
  unfold leftOf
  congr 1
  apply filter_congr
  intro prior _
  rw [decide_eq_decide, not_iff_not]
  exact (hperm.filterMap _).mem_iff

lemma Untied.determined (h : Untied old incoming)
    (hdistinct : DistinctSkills old incoming threshold) : Determined old incoming threshold := by
  refine ⟨?_, ?_, hdistinct⟩
  · intro p q hp hq
    exact (h p q hp hq).map _
  · intro p q hp hq
    exact leftOf_perm (h p q hp hq)

lemma eq_of_perm_of_map_eq {α β : Type} {f : α → β} :
    ∀ {xs ys : List α}, xs.Perm ys → xs.map f = ys.map f → (xs.map f).Nodup → xs = ys := by
  intro xs
  induction xs with
  | nil =>
    intro ys hperm _ _
    exact hperm.nil_eq
  | cons x xs ih =>
    intro ys hperm hmap hnodup
    cases ys with
    | nil => exact absurd hperm.symm.nil_eq (cons_ne_nil x xs).symm
    | cons y ys =>
      rw [map_cons, map_cons, cons.injEq] at hmap
      rw [map_cons, nodup_cons] at hnodup
      -- the first element is not in the rest of the other list
      have hxy : x = y := by
        rcases mem_cons.mp (hperm.mem_iff.mp mem_cons_self) with hx | hx
        · exact hx
        · have hmem : f x ∈ ys.map f := mem_map_of_mem hx
          rw [← hmap.2] at hmem
          exact absurd hmem hnodup.1
      rw [← hxy] at hperm ⊢
      rw [ih ((perm_cons x).mp hperm) hmap.2 hnodup.2]

lemma bankAfter_of_pairs (huntied : Untied bank.fields incoming) (hnodup : incoming.Nodup)
    (hadmitted : Admitted bank.fields incoming threshold)
    (hbest : BestFields bank.fields incoming pairs) :
    bankAfter bank (pairs.map Prod.fst) threshold =
      nextBank bank (recoveredOf bank.fields threshold pairs)
        (leftOf bank.fields threshold pairs) := by
  have hperm : incoming.Perm (pairs.map Prod.fst) := hbest.elements.symm
  obtain ⟨q, hq, hfst, hmatched⟩ := alignment_pairs (hadmitted.reorder hperm)
  have hsame : q = pairs := by
    refine eq_of_perm_of_map_eq (huntied q pairs (hq.reorder hperm.symm) hbest) hfst ?_
    rw [hfst]
    exact hperm.nodup_iff.mp hnodup
  rw [hsame] at hfst hmatched
  exact bankAfter_of_ok (reconcile_of_matched hfst hmatched)

lemma part_nextBank (bank : SkillBank ℝ D) (recovered left : List (SkillField ℝ D))
    (k : SkillId) : part skillId k (nextBank bank recovered left).fields =
      part skillId k recovered ++ part skillId k left := by
  show part skillId k (sortFields (recovered ++ left)) = _
  unfold sortFields
  rw [filter_mergeSort skillId]
  exact filter_append _ _

lemma distinctSkills_of_orderFree (huntied : Untied bank.fields incoming)
    (hnodup : incoming.Nodup) (hadmitted : Admitted bank.fields incoming threshold)
    (hfree : OrderFree bank incoming threshold) :
    DistinctSkills bank.fields incoming threshold := by
  classical
  intro p hp field hfield other hother hskill
  unfold recoveredOf at hfield hother
  obtain ⟨left, hleft, hleftField⟩ := mem_map.mp hfield
  obtain ⟨right, hright, hrightField⟩ := mem_map.mp hother
  by_cases hsame : left = right
  · rw [← hleftField, ← hrightField, hsame]
  -- the two pairs come first, in either order
  have hright' : right ∈ p.erase left := (mem_erase_of_ne (Ne.symm hsame)).mpr hright
  have hfront : p.Perm (left :: right :: (p.erase left).erase right) :=
    (perm_cons_erase hleft).trans ((perm_cons_erase hright').cons left)
  have hback : p.Perm (right :: left :: (p.erase left).erase right) :=
    hfront.trans (Perm.swap _ _ _)
  have hbest : BestFields bank.fields incoming (left :: right :: (p.erase left).erase right) :=
    hp.perm hfront
  have hbest' : BestFields bank.fields incoming (right :: left :: (p.erase left).erase right) :=
    hp.perm hback
  have hbanks := (hfree _ hbest.elements.symm).trans (hfree _ hbest'.elements.symm).symm
  rw [bankAfter_of_pairs huntied hnodup hadmitted hbest,
    bankAfter_of_pairs huntied hnodup hadmitted hbest'] at hbanks
  have hparts := congrArg (fun b => part skillId field.skillId (SkillBank.fields b))
    hbanks
  simp only [part_nextBank] at hparts
  have hcons : ∀ pair rest first, reconciledField bank.fields
      (pair.1, keptPrior bank.fields threshold pair) = first → first.skillId = field.skillId →
      part skillId field.skillId (recoveredOf bank.fields threshold (pair :: rest)) =
        first :: part skillId field.skillId
          (recoveredOf bank.fields threshold rest) := by
    intro pair rest first hfirst hkey
    unfold recoveredOf part
    rw [map_cons, hfirst, filter_cons_of_pos (by rw [hkey]; exact decide_eq_true rfl)]
  rw [hcons left _ field hleftField rfl, hcons right _ other hrightField hskill.symm,
    hcons right _ other hrightField hskill.symm, hcons left _ field hleftField rfl] at hparts
  exact (cons.inj hparts).1

lemma mem_nextBank {recovered left : List (SkillField ℝ D)} :
    field ∈ (nextBank bank recovered left).fields ↔ field ∈ recovered ∨ field ∈ left := by
  show field ∈ sortFields (recovered ++ left) ↔ _
  unfold sortFields
  rw [mem_mergeSort, mem_append]

lemma skillId_of_left (h : field ∈ leftOf old threshold pairs) :
    ∃ prior ∈ old, field.skillId = prior.skillId := by
  unfold leftOf at h
  obtain ⟨entry, hentry, hdecayed⟩ := mem_filterMap.mp h
  refine ⟨entry.1, fst_mem_of_mem_zipIdx (mem_of_mem_filter hentry), ?_⟩
  unfold decayedPrior at hdecayed
  simp only [] at hdecayed
  split at hdecayed
  · rw [Option.some.injEq] at hdecayed
    rw [← hdecayed]
  · cases hdecayed

end

/-! ## Two fields of one direction -/

namespace TwinSample

def firstSkill : SkillId := ⟨"cap-twin-first", by decide⟩
def secondSkill : SkillId := ⟨"cap-twin-second", by decide⟩

noncomputable def field (skill : SkillId) : SkillField ℝ Unit :=
  ⟨skill, DisplacedSample.lineage, 1, [1], 1, 1, 0, [], ()⟩

noncomputable def prior : SkillField ℝ Unit := field DisplacedSample.skill
noncomputable def first : SkillField ℝ Unit := field firstSkill
noncomputable def second : SkillField ℝ Unit := field secondSkill
noncomputable def bank : SkillBank ℝ Unit := ⟨1, [prior]⟩

lemma likeness_eq (skill : SkillId) : likeness [prior] 0 (field skill) = 1 := by
  show cosineOf [1] [1] = 1
  have hone : squareSum [1] = 1 * 1 := by norm_num [squareSum]
  rw [DisplacedSample.cosineOf_eq (d := 1) hone hone (by norm_num) (by norm_num) (by norm_num)]
  norm_num

lemma admitted : Admitted [prior] [first, second] 1 := by
  have hone : ∀ v ∈ ([[1], [1]] : List (List ℝ)), v.length = 1 ∧ ∃ x ∈ v, x ≠ 0 := by
    intro v hv
    rw [mem_cons, mem_singleton, or_self] at hv
    rw [hv]
    exact ⟨rfl, 1, mem_singleton.mpr rfl, one_ne_zero⟩
  refine ⟨⟨zero_le_one, le_refl 1⟩, .inr (.inr ⟨1, ⟨?_, ?_⟩, ⟨?_, ?_⟩⟩)⟩
  · intro v hv
    exact (hone v (mem_cons_of_mem _ hv)).1
  · intro v hv
    exact (hone v (mem_cons_of_mem _ hv)).2
  · intro v hv
    exact (hone v hv).1
  · intro v hv
    exact (hone v hv).2

lemma keptPrior_some (skill : SkillId) :
    keptPrior [prior] 1 (field skill, some 0) = some (0, 1) := by
  have hover : le (1 : ℝ) |1| = true := by
    rw [exact_le, abs_one]
  have hsign : le (0 : ℝ) 1 = true := by
    rw [exact_le]
    exact zero_le_one
  unfold keptPrior
  rw [Option.filter_some, likeness_eq, hover]
  show some (0, if le 0 (likeness [prior] 0 (field skill)) = true then (1 : ℝ) else -1) = _
  rw [likeness_eq, if_pos hsign]

variable {pairs : List (SkillField ℝ Unit × Option Nat)}

lemma skills_of_pairs {kept free : SkillId} (hne : kept ≠ free)
    (hskill : DisplacedSample.skill ≠ kept)
    (hperm : pairs.Perm [(field kept, some 0), (field free, none)]) :
    (∃ f ∈ (nextBank bank (recoveredOf [prior] 1 pairs) (leftOf [prior] 1 pairs)).fields,
        f.skillId = free) ∧
      ∀ f ∈ (nextBank bank (recoveredOf [prior] 1 pairs) (leftOf [prior] 1 pairs)).fields,
        f.skillId ≠ kept := by
  have hmem : ∀ f, f ∈ recoveredOf [prior] 1 pairs ↔
      f = recoveredField prior (field kept) 1 ∨ f = field free := by
    intro f
    unfold recoveredOf
    rw [(hperm.map _).mem_iff, map_cons, map_cons, map_nil, mem_cons, mem_singleton, keptPrior_some]
    rfl
  refine ⟨⟨field free, mem_nextBank.mpr (.inl ((hmem _).mpr (.inr rfl))), rfl⟩, ?_⟩
  intro f hf
  rcases mem_nextBank.mp hf with hf | hf
  · rcases (hmem f).mp hf with hf | hf
    · rw [hf, (recoveredField_identity 1 (by decide)).1]
      exact hskill
    · rw [hf]
      exact hne.symm
  · obtain ⟨left, hleft, hskillId⟩ := skillId_of_left hf
    rw [mem_singleton.mp hleft] at hskillId
    rw [hskillId]
    exact hskill

lemma pairs_of_best (hbest : BestFields [prior] [first, second] pairs)
    (hfst : pairs.map Prod.fst = [first, second]) :
    pairs = [(first, some 0), (second, none)] ∨ pairs = [(first, none), (second, some 0)] := by
  obtain ⟨left, rest, hpairs, hleft, hrest⟩ := map_eq_cons_iff.mp hfst
  obtain ⟨right, rest', hrestEq, hright, hnil⟩ := map_eq_cons_iff.mp hrest
  rw [map_eq_nil_iff] at hnil
  rw [hrestEq, hnil] at hpairs
  have hrow : ∀ pair ∈ pairs, ∀ field, pair.1 = field →
      pair = (field, none) ∨ pair = (field, some 0) := by
    intro pair hpair field hfield
    cases hsnd : pair.2 with
    | none => exact .inl (Prod.ext hfield hsnd)
    | some i =>
      have hi : i < 1 := hbest.range pair hpair i hsnd
      have hzero : i = 0 := by omega
      rw [hzero] at hsnd
      exact .inr (Prod.ext hfield hsnd)
  rw [hpairs] at hrow
  have hleftRow := hrow left mem_cons_self first hleft
  have hrightRow := hrow right (mem_cons_of_mem _ mem_cons_self) second hright
  have hone : Pairing 1 [first, second] [(first, some 0), (second, none)] := by
    refine ⟨Perm.refl _, ?_, ?_⟩
    · intro pair hpair i hi
      rw [mem_cons, mem_singleton] at hpair
      rcases hpair with hpair | hpair
      · rw [hpair, Option.some.injEq] at hi
        omega
      · rw [hpair] at hi
        cases hi
    · exact nodup_singleton 0
  have hweight : 1 ≤ weight (fun i f => |likeness [prior] i f|) pairs := by
    have hle := hbest.best _ hone
    have hvalue : weight (fun i f => |likeness [prior] i f|)
        [(first, some 0), (second, none)] = 1 := by
      show |likeness [prior] 0 (field firstSkill)| + (0 + 0) = 1
      rw [likeness_eq, abs_one]
      norm_num
    rw [hvalue] at hle
    exact hle
  have hdistinct := hbest.distinct
  rw [hpairs] at hweight hdistinct ⊢
  rcases hleftRow with hl | hl
  · rcases hrightRow with hr | hr
    · -- nothing is paired
      exfalso
      have hzero : weight (fun i f => |likeness [prior] i f|)
          [(first, none), (second, none)] = 0 := by
        show (0 : ℝ) + (0 + 0) = 0
        norm_num
      rw [hl, hr, hzero] at hweight
      linarith
    · right
      rw [hl, hr]
  · rcases hrightRow with hr | hr
    · left
      rw [hl, hr]
    · -- the prior field is paired once
      rw [hl, hr] at hdistinct
      have htwice : ¬[0, 0].Nodup := by decide
      exact absurd hdistinct htwice

end TwinSample

end Tidex.Analysis
