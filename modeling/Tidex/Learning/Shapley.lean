/-
  Learning.Shapley — the Shapley values of skills.

  The value of a skill is its mean marginal utility over the coalitions it may join, each by
  its weight. The coalitions are picked out by masks, and with more than twenty skills only
  those of the first ten others are.
-/
import Tidex.Foundation.Names
import Tidex.Lib.Coalition

namespace Tidex.Learning

open Tidex.Lib List Std.ExtTreeSet BTreeSet

/-! ## The values -/

/-- The utility of some active skills in a context. -/
structure CounterfactualEvaluation where
  contextId : String
  activeFields : List SkillId
  utility : ℚ

def canonicalSet (fields : List SkillId) : Finset SkillId := fields.toFinset

def CounterfactualEvaluation.IsCell (evaluation : CounterfactualEvaluation) (context : String)
    (set : Finset SkillId) : Prop :=
  evaluation.contextId = context ∧ canonicalSet evaluation.activeFields = set

instance (evaluation : CounterfactualEvaluation) (context : String) (set : Finset SkillId) :
    Decidable (evaluation.IsCell context set) :=
  inferInstanceAs (Decidable (_ ∧ _))

variable (evaluations : List CounterfactualEvaluation)

/-- The table of cells: a later evaluation takes the place of an earlier one. -/
def table (context : String) (set : Finset SkillId) : Option ℚ :=
  (evaluations.reverse.find? fun evaluation => evaluation.IsCell context set).map (·.utility)

def allSkills : List SkillId :=
  (BTreeSet.extend ∅ (evaluations.flatMap (·.activeFields))).toList

def contexts : List String := (BTreeSet.extend ∅ (evaluations.map (·.contextId))).toList

def factorial (n : Nat) : ℚ := ((List.range' 1 n).map fun x : Nat => (x : ℚ)).prod

def totalSubsets (m : Nat) : Nat := if m < 20 then 2 ^ m else 1024

/-- The differences that a skill makes to a coalition, in each context that has both cells. -/
def diffs (field : SkillId) (subset : Finset SkillId) : List ℚ :=
  (contexts evaluations).filterMap fun context =>
    match table evaluations context (insert field subset), table evaluations context subset with
    | some withField, some without => some (withField - without)
    | _, _ => none

/-- One mask: the sum of weighted differences, and the sum of weights. -/
def shapleyStep (field : SkillId) (others : List SkillId) (n : Nat) (acc : ℚ × ℚ) (mask : Nat) :
    ℚ × ℚ :=
  let subset := maskSubset (others.take 20) mask
  let diffs := diffs evaluations field subset
  if diffs.isEmpty then acc
  else
    let avgDiff := diffs.sum / diffs.length
    let weight := factorial subset.card * factorial (n - 1 - subset.card) / factorial n
    (acc.1 + weight * avgDiff, acc.2 + weight)

def otherSkills (field : SkillId) : List SkillId :=
  (allSkills evaluations).filter fun other => other ≠ field

def shapleySums (field : SkillId) (total : Nat) : ℚ × ℚ :=
  (List.range total).foldl (shapleyStep evaluations field (otherSkills evaluations field)
    (allSkills evaluations).length) (0, 0)

def shapleyValue (field : SkillId) : ℚ :=
  let (totalShapley, totalWeight) := shapleySums evaluations field
    (totalSubsets (otherSkills evaluations field).length)
  if 0 < totalWeight then totalShapley / totalWeight else 0

def computeShapleyValues : List (SkillId × ℚ) :=
  (allSkills evaluations).map fun field => (field, shapleyValue evaluations field)

/-! ## Complete designs -/

/-- Every context has exactly one evaluation for every subset of the skills. -/
def Complete (utility : String → Finset SkillId → ℚ) : Prop :=
  ∀ context ∈ contexts evaluations, ∀ set ⊆ (allSkills evaluations).toFinset,
    ∃ evaluation, evaluations.filter (fun evaluation => evaluation.IsCell context set) =
      [evaluation] ∧ evaluation.utility = utility context set

def meanUtility (utility : String → Finset SkillId → ℚ) (set : Finset SkillId) : ℚ :=
  ((contexts evaluations).map fun context => utility context set).sum /
    (contexts evaluations).length

/-- The Shapley values of the mean utilities, which share it out without loss. -/
structure AreShapley (utility : String → Finset SkillId → ℚ) (values : List (SkillId × ℚ)) :
    Prop where
  formula : ∀ entry ∈ values, entry.2 =
    ∑ set ∈ ((allSkills evaluations).toFinset.erase entry.1).powerset,
      (set.card.factorial * ((allSkills evaluations).length - set.card - 1).factorial : ℚ) /
          (allSkills evaluations).length.factorial *
        (((contexts evaluations).map fun context =>
          utility context (insert entry.1 set) - utility context set).sum /
            (contexts evaluations).length)
  efficient : allSkills evaluations ≠ [] → (values.map (·.2)).sum =
    meanUtility evaluations utility (allSkills evaluations).toFinset -
      meanUtility evaluations utility ∅

def NullsGetZero (utility : String → Finset SkillId → ℚ) (values : List (SkillId × ℚ)) : Prop :=
  ∀ entry ∈ values,
    (∀ context ∈ contexts evaluations, ∀ set ⊆ (allSkills evaluations).toFinset,
      utility context (insert entry.1 set) = utility context set) → entry.2 = 0

variable {evaluations} {utility : String → Finset SkillId → ℚ} {field : SkillId}
  {set : Finset SkillId}

lemma factorial_eq (n : Nat) : factorial n = n.factorial := by
  induction n with
  | zero => simp [factorial]
  | succ n ih =>
    unfold factorial at ih ⊢
    rw [range'_concat, map_append, prod_append, ih, Nat.factorial_succ]
    simp only [map_cons, map_nil, prod_cons, prod_nil]
    push_cast
    ring

lemma Complete.table_eq (h : Complete evaluations utility) {context : String}
    (hcontext : context ∈ contexts evaluations) (hset : set ⊆ (allSkills evaluations).toFinset) :
    table evaluations context set = some (utility context set) := by
  obtain ⟨evaluation, hfilter, hutility⟩ := h context hcontext set hset
  unfold table
  rw [← head?_filter, filter_reverse, hfilter, ← hutility]
  rfl

lemma Complete.diffs_eq (h : Complete evaluations utility)
    (hfield : field ∈ allSkills evaluations) (hset : set ⊆ (allSkills evaluations).toFinset) :
    diffs evaluations field set = (contexts evaluations).map fun context =>
      utility context (insert field set) - utility context set := by
  have hinsert : insert field set ⊆ (allSkills evaluations).toFinset :=
    Finset.insert_subset (mem_toFinset.mpr hfield) hset
  unfold diffs
  rw [← filterMap_eq_map]
  refine filterMap_congr ?_
  intro context hcontext
  rw [h.table_eq hcontext hinsert, h.table_eq hcontext hset]
  rfl

lemma contexts_ne_nil (hfield : field ∈ allSkills evaluations) : contexts evaluations ≠ [] := by
  unfold allSkills at hfield
  rw [mem_toList, mem_extend, mem_flatMap] at hfield
  obtain hempty | ⟨evaluation, hevaluation, -⟩ := hfield
  · exact absurd hempty not_mem_empty
  · refine ne_nil_of_mem (a := evaluation.contextId) ?_
    unfold contexts
    rw [mem_toList, mem_extend]
    exact .inr (mem_map_of_mem hevaluation)

variable (evaluations field) in
lemma otherSkills_toFinset : (otherSkills evaluations field).toFinset =
    (allSkills evaluations).toFinset.erase field := by
  unfold otherSkills
  ext other
  simp [and_comm]

lemma allSkills_nodup : (allSkills evaluations).Nodup := nodup_toList _

lemma allSkills_card : (allSkills evaluations).toFinset.card = (allSkills evaluations).length :=
  toFinset_card_of_nodup allSkills_nodup

lemma otherSkills_nodup : (otherSkills evaluations field).Nodup :=
  allSkills_nodup.filter _

lemma otherSkills_length (hfield : field ∈ allSkills evaluations) :
    (otherSkills evaluations field).length + 1 = (allSkills evaluations).length := by
  have hpos := length_pos_of_mem hfield
  rw [← toFinset_card_of_nodup otherSkills_nodup, otherSkills_toFinset,
    Finset.card_erase_of_mem (mem_toFinset.mpr hfield), allSkills_card]
  omega

lemma masked_subset (mask : Nat) : maskSubset ((otherSkills evaluations field).take 20) mask ⊆
      (allSkills evaluations).toFinset := by
  intro skill hskill
  have hother := mem_toFinset.mp (maskSubset_subset _ mask hskill)
  exact mem_toFinset.mpr (mem_filter.mp (mem_of_mem_take hother)).1

/-! ## What is computed -/

lemma shapleySums_succ (k : Nat) : shapleySums evaluations field (k + 1) =
    shapleyStep evaluations field (otherSkills evaluations field) (allSkills evaluations).length
      (shapleySums evaluations field k) k := by
  unfold shapleySums
  rw [range_succ, foldl_append]
  rfl

/-- Where a skill makes no difference to any coalition that is looked at, it gets nothing. -/
lemma shapleyValue_eq_zero (h : ∀ mask < totalSubsets (otherSkills evaluations field).length,
      ∀ d ∈ diffs evaluations field
        (maskSubset ((otherSkills evaluations field).take 20) mask), d = 0) :
    shapleyValue evaluations field = 0 := by
  have hsums : ∀ k ≤ totalSubsets (otherSkills evaluations field).length,
      (shapleySums evaluations field k).1 = 0 := by
    intro k
    induction k with
    | zero =>
      intro _
      rfl
    | succ k ih =>
      intro hk
      rw [shapleySums_succ]
      unfold shapleyStep
      simp only
      split
      · exact ih (by omega)
      · simp only [ih (by omega), sum_eq_zero (h k (by omega)), zero_div, mul_zero, add_zero]
  unfold shapleyValue
  simp only [hsums _ le_rfl, zero_div, ite_self]

variable (evaluations field) in
lemma shapleySums_eq (k : Nat) (average : Finset SkillId → ℚ) (h : ∀ mask, diffs evaluations field
          (maskSubset ((otherSkills evaluations field).take 20) mask) ≠ [] ∧
      (diffs evaluations field (maskSubset ((otherSkills evaluations field).take 20) mask)).sum /
        (diffs evaluations field
          (maskSubset ((otherSkills evaluations field).take 20) mask)).length =
        average (maskSubset ((otherSkills evaluations field).take 20) mask)) :
    shapleySums evaluations field k =
      (∑ mask ∈ Finset.range k, joinWeight (allSkills evaluations).length
            (maskSubset ((otherSkills evaluations field).take 20) mask).card *
          average (maskSubset ((otherSkills evaluations field).take 20) mask),
        ∑ mask ∈ Finset.range k, joinWeight (allSkills evaluations).length
            (maskSubset ((otherSkills evaluations field).take 20) mask).card) := by
  induction k with
  | zero => rfl
  | succ k ih =>
    obtain ⟨hsome, haverage⟩ := h k
    rw [shapleySums_succ, ih, Finset.sum_range_succ, Finset.sum_range_succ]
    unfold shapleyStep joinWeight
    simp only [List.isEmpty_iff, hsome, haverage, factorial_eq, if_false]
    push_cast
    rfl

lemma meanUtility_sub (set set' : Finset SkillId) :
    ((contexts evaluations).map fun context => utility context set - utility context set').sum /
        (contexts evaluations).length =
      meanUtility evaluations utility set - meanUtility evaluations utility set' := by
  have hsum : ∀ names : List String,
      (names.map fun context => utility context set - utility context set').sum =
        (names.map fun context => utility context set).sum -
          (names.map fun context => utility context set').sum := by
    intro names
    induction names with
    | nil => simp
    | cons context names ih =>
      simp only [map_cons, sum_cons, ih]
      ring
  unfold meanUtility
  rw [hsum, sub_div]

/-- Up to twenty skills, the value is the share in the mean utilities. -/
lemma shapleyValue_eq_share (h : Complete evaluations utility)
    (hfield : field ∈ allSkills evaluations) (hfew : (allSkills evaluations).length ≤ 20) :
    shapleyValue evaluations field =
      share (allSkills evaluations).toFinset (meanUtility evaluations utility) field := by
  have hlength := otherSkills_length hfield
  have hothers := otherSkills_toFinset evaluations field
  have hcardOthers : ((allSkills evaluations).toFinset.erase field).card =
      (otherSkills evaluations field).length := by
    rw [← hothers, toFinset_card_of_nodup otherSkills_nodup]
  have htake : (otherSkills evaluations field).take 20 = otherSkills evaluations field :=
    take_of_length_le (by omega)
  have hmasks : totalSubsets (otherSkills evaluations field).length =
      2 ^ (otherSkills evaluations field).length := by
    unfold totalSubsets
    rw [if_pos (by omega)]
  have hsums := shapleySums_eq evaluations field
    (2 ^ (otherSkills evaluations field).length) (fun set => meanUtility evaluations utility
      (insert field set) - meanUtility evaluations utility set) <| by
    intro mask
    rw [h.diffs_eq hfield (masked_subset mask), length_map, meanUtility_sub]
    refine ⟨?_, rfl⟩
    intro hnil
    exact contexts_ne_nil hfield (map_eq_nil_iff.mp hnil)
  unfold shapleyValue share
  rw [hmasks, hsums, htake]
  -- each subset of the other skills has its mask, and the weights sum to one
  rw [sum_masks otherSkills_nodup fun set => joinWeight (allSkills evaluations).length set.card *
      (meanUtility evaluations utility (insert field set) - meanUtility evaluations utility set),
    sum_masks otherSkills_nodup fun set => joinWeight (allSkills evaluations).length set.card,
    hothers]
  have hweights := sum_joinWeight ((allSkills evaluations).toFinset.erase field)
  rw [hcardOthers, hlength] at hweights
  simp only [hweights, zero_lt_one, if_true, div_one, allSkills_card]

lemma shapleyValue_of_null (h : Complete evaluations utility)
    (hfield : field ∈ allSkills evaluations)
    (hnull : ∀ context ∈ contexts evaluations, ∀ set ⊆ (allSkills evaluations).toFinset,
      utility context (insert field set) = utility context set) :
    shapleyValue evaluations field = 0 := by
  refine shapleyValue_eq_zero ?_
  intro mask _
  rw [h.diffs_eq hfield (masked_subset mask)]
  intro d hd
  obtain ⟨context, hcontext, rfl⟩ := mem_map.mp hd
  rw [hnull context hcontext _ (masked_subset mask), sub_self]

noncomputable def designOf (skills : List SkillId) (utility : String → Finset SkillId → ℚ) :
    List CounterfactualEvaluation :=
  skills.toFinset.powerset.toList.map fun set =>
    { contextId := "only"
      activeFields := skills.filter fun skill => skill ∈ set
      utility := utility "only" set }

variable {skills : List SkillId}

lemma canonicalSet_filter (h : set ⊆ skills.toFinset) :
    canonicalSet (skills.filter fun skill => skill ∈ set) = set := by
  ext skill
  simp only [canonicalSet, mem_toFinset, mem_filter, decide_eq_true_eq]
  refine ⟨fun hskill => hskill.2, fun hskill => ⟨?_, hskill⟩⟩
  exact mem_toFinset.mp (h hskill)

lemma allSkills_designOf : (allSkills (designOf skills utility)).toFinset = skills.toFinset := by
  ext skill
  unfold allSkills
  rw [mem_toFinset, mem_toFinset, mem_toList, mem_extend, mem_flatMap]
  unfold designOf
  constructor
  · intro h
    obtain hempty | ⟨evaluation, hevaluation, hskill⟩ := h
    · exact absurd hempty not_mem_empty
    · obtain ⟨set, -, rfl⟩ := mem_map.mp hevaluation
      exact (mem_filter.mp hskill).1
  · intro h
    refine .inr ⟨_, mem_map_of_mem
      (Finset.mem_toList.mpr (Finset.mem_powerset_self skills.toFinset)), ?_⟩
    exact mem_filter.mpr ⟨h, decide_eq_true (mem_toFinset.mpr h)⟩

lemma length_designOf (hnodup : skills.Nodup) :
    (allSkills (designOf skills utility)).length = skills.length := by
  rw [← allSkills_card, ← toFinset_card_of_nodup hnodup]
  exact congrArg Finset.card allSkills_designOf

lemma complete_designOf : Complete (designOf skills utility) utility := by
  intro context hcontext set hset
  rw [allSkills_designOf] at hset
  have honly : context = "only" := by
    unfold contexts at hcontext
    rw [mem_toList, mem_extend] at hcontext
    obtain hempty | hmem := hcontext
    · exact absurd hempty not_mem_empty
    · obtain ⟨evaluation, hevaluation, rfl⟩ := mem_map.mp hmem
      obtain ⟨set', -, rfl⟩ := mem_map.mp hevaluation
      rfl
  subst honly
  refine ⟨{ contextId := "only", activeFields := skills.filter fun skill => skill ∈ set,
            utility := utility "only" set }, ?_, rfl⟩
  unfold designOf
  rw [filter_map]
  have hcell : ∀ set' ∈ skills.toFinset.powerset.toList,
      ((fun evaluation : CounterfactualEvaluation => decide (evaluation.IsCell "only" set)) ∘
        fun set' => { contextId := "only", activeFields := skills.filter fun skill => skill ∈ set',
                      utility := utility "only" set' }) set' = decide (set' = set) := by
    intro set' hset'
    refine decide_eq_decide.mpr ?_
    show "only" = "only" ∧ canonicalSet (skills.filter fun skill => skill ∈ set') = set ↔ _
    rw [canonicalSet_filter (Finset.mem_powerset.mp (Finset.mem_toList.mp hset'))]
    exact and_iff_right rfl
  rw [filter_congr hcell, filter_eq, count_eq_one_of_mem
    (Finset.nodup_toList _) (Finset.mem_toList.mpr (Finset.mem_powerset.mpr hset))]
  rfl

def crowdName (i : Fin 21) : SkillId :=
  ⟨String.ofList (List.replicate (i + 1) 'a'), by revert i; decide⟩

lemma crowdName_injective : Function.Injective crowdName := by
  intro i j heq
  have hlength := congrArg (fun name : SkillId => name.asStr.length) heq
  unfold crowdName at hlength
  simp only [String.length_ofList, length_replicate] at hlength
  omega

/-- Only all of some skills together have a utility. -/
def unanimity (n : Nat) (_ : String) (set : Finset SkillId) : ℚ := if set.card = n then 1 else 0

def crowd : List SkillId := List.ofFn crowdName

end Tidex.Learning
