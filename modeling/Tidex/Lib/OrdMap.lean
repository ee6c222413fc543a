/-
  Lib.OrdMap — ordered maps and sets, iterated in key order.
-/
import Tidex.Lib.Checked
import Std.Data.ExtTreeMap
import Std.Data.ExtTreeSet
import Mathlib.Data.List.Nodup
import Mathlib.Data.List.Induction
import Mathlib.Algebra.Order.BigOperators.Group.List
import Mathlib.Algebra.Order.Ring.Nat

namespace Tidex.Lib

open List Std.ExtTreeSet Std.ExtTreeMap

abbrev BTreeMap (K V : Type) [Ord K] : Type := Std.ExtTreeMap K V compare

abbrev BTreeSet (K : Type) [Ord K] : Type := Std.ExtTreeSet K compare

/-! ## Orders taken from a key -/

section

variable {α β : Type} [Ord β]

@[reducible] def ordBy (key : α → β) : Ord α :=
  ⟨compareOn key⟩

lemma transOrd_ordBy [Std.TransOrd β] (key : α → β) : @Std.TransOrd α (ordBy key) :=
  inferInstanceAs (Std.TransCmp (compareOn key))

lemma lawfulEqOrd_ordBy [Std.LawfulEqOrd β] {key : α → β} (hkey : Function.Injective key) :
    @Std.LawfulEqOrd α (ordBy key) :=
  letI := ordBy key
  { compare_self := fun {a} => @Std.ReflCmp.compare_self β compare _ (key a)
    eq_of_compare := fun h =>
      hkey (@Std.LawfulEqCmp.eq_of_compare β compare _ _ _ h) }

@[reducible] def ordByPair {γ : Type} [Ord γ] (key : α → β) (key' : α → γ) : Ord α :=
  ⟨compareLex (compareOn key) (compareOn key')⟩

lemma transOrd_ordByPair {γ : Type} [Ord γ] [Std.TransOrd β] [Std.TransOrd γ] (key : α → β)
    (key' : α → γ) : @Std.TransOrd α (ordByPair key key') :=
  inferInstanceAs (Std.TransCmp (compareLex (compareOn key) (compareOn key')))

lemma lawfulEqOrd_ordByPair {γ : Type} [Ord γ] [Std.LawfulEqOrd β] [Std.LawfulEqOrd γ]
    {key : α → β} {key' : α → γ} (hkey : ∀ a b, key a = key b → key' a = key' b → a = b) :
    @Std.LawfulEqOrd α (ordByPair key key') :=
  letI := ordByPair key key'
  { compare_self := fun {a} =>
      @Std.ReflCmp.compare_self _ (compareLex (compareOn key) (compareOn key')) _ a
    eq_of_compare := by
      intro a b h
      obtain ⟨hfirst, hsecond⟩ := compareLex_eq_eq.mp h
      exact hkey a b (@Std.LawfulEqCmp.eq_of_compare β compare _ _ _ hfirst)
        (@Std.LawfulEqCmp.eq_of_compare γ compare _ _ _ hsecond) }

end

/-! ## Maps -/

namespace BTreeMap

variable {K V : Type} [Ord K] [Std.TransOrd K]

def values (m : BTreeMap K V) : List V :=
  m.toList.map Prod.snd

variable {m : BTreeMap K V}

@[simp] lemma length_values : (values m).length = m.size := by
  simp [values]

lemma flatMap_toList {β : Type} {f : V → List β} :
    m.toList.flatMap (fun entry => f entry.2) = (values m).flatMap f := by
  simp [values, flatMap_map]

variable {k : K}

lemma mem_iff_getElem? : k ∈ m ↔ ∃ v, m[k]? = some v := by
  rw [mem_iff_isSome_getElem?, Option.isSome_iff_exists]

lemma nodup_toList (m : BTreeMap K V) : m.toList.Nodup := by
  have h := nodup_keys (t := m)
  rw [← map_fst_toList_eq_keys] at h
  exact Nodup.of_map _ h

variable [Std.LawfulEqOrd K]

lemma mem_toList_iff {p : K × V} : p ∈ m.toList ↔ m[p.1]? = some p.2 :=
  mem_toList_iff_getElem?_eq_some

variable {v : V}

lemma mem_values : v ∈ values m ↔ ∃ k : K, m[k]? = some v := by
  simp only [values, mem_map, mem_toList_iff]
  constructor
  · rintro ⟨⟨k, w⟩, h, rfl⟩
    exact ⟨k, h⟩
  · rintro ⟨k, h⟩
    exact ⟨(k, v), h, rfl⟩

lemma forall_values {P : V → Prop} :
    (∀ v ∈ values m, P v) ↔ ∀ (k : K) (v : V), m[k]? = some v → P v := by
  constructor
  · intro h k v hk
    exact h v (mem_values.mpr ⟨k, hk⟩)
  · intro h v hv
    obtain ⟨k, hk⟩ := mem_values.mp hv
    exact h k v hk

lemma forall_toList {P : K × V → Prop} :
    (∀ p ∈ m.toList, P p) ↔ ∀ (k : K) (v : V), m[k]? = some v → P (k, v) := by
  constructor
  · intro h k v hk
    exact h (k, v) (mem_toList_iff.mpr hk)
  · rintro h ⟨k, v⟩ hp
    exact h k v (mem_toList_iff.mp hp)

variable {k k' : K}

lemma getElem?_insert_of_ne (h : k ≠ k') : (m.insert k v)[k']? = m[k']? := by
  rw [Std.ExtTreeMap.getElem?_insert]
  simp [Std.LawfulEqCmp.compare_eq_iff_eq, h]

lemma getElem?_insert_iff [DecidableEq K] :
    (m.insert k v)[k']? = if k = k' then some v else m[k']? := by
  rw [Std.ExtTreeMap.getElem?_insert]
  simp [Std.LawfulEqCmp.compare_eq_iff_eq]

lemma getElem?_insert_new [DecidableEq K] (h : k ∉ m) (k' : K) (w : V) :
    (m.insert k v)[k']? = some w ↔ m[k']? = some w ∨ k' = k ∧ w = v := by
  rw [getElem?_insert_iff]
  by_cases hk : k = k'
  · subst hk
    simp [getElem?_eq_none h, eq_comm]
  · have hk' : ¬k' = k := fun heq => hk heq.symm
    simp [hk, hk']

section

omit [Std.LawfulEqOrd K]

lemma size_insert_new (h : k ∉ m) : (m.insert k v).size = m.size + 1 := by
  rw [Std.ExtTreeMap.size_insert, if_neg (mt Std.ExtTreeMap.mem_iff_contains.mpr h)]

lemma size_insert_old (h : k ∈ m) : (m.insert k v).size = m.size := by
  rw [Std.ExtTreeMap.size_insert, if_pos (Std.ExtTreeMap.mem_iff_contains.mp h)]

end

lemma getElem?_erase_iff [DecidableEq K] :
    (m.erase k)[k']? = if k = k' then none else m[k']? := by
  rw [getElem?_erase]
  simp [Std.LawfulEqCmp.compare_eq_iff_eq]

/-- Inserting replaces the entry under its key and keeps every other one. -/
lemma toList_insert_perm (m : BTreeMap K V) (k : K) (v : V) :
    (m.insert k v).toList.Perm ((k, v) :: (m.erase k).toList) := by
  classical
  have hk : (k, v) ∉ (m.erase k).toList := by
    rw [mem_toList_iff, getElem?_erase_iff]
    simp
  rw [perm_ext_iff_of_nodup (nodup_toList _)
    (nodup_cons.mpr ⟨hk, nodup_toList _⟩)]
  rintro ⟨k', v'⟩
  rw [mem_cons, mem_toList_iff, mem_toList_iff, getElem?_insert_iff, getElem?_erase_iff]
  by_cases h : k = k'
  · subst h
    simp [eq_comm]
  · have h' : ¬k' = k := fun he => h he.symm
    simp [h, h']

lemma toList_insert_empty (k : K) (v : V) : ((∅ : BTreeMap K V).insert k v).toList = [(k, v)] := by
  have hperm := toList_insert_perm (∅ : BTreeMap K V) k v
  have hempty : ((∅ : BTreeMap K V).erase k).toList = [] := by
    rw [Std.ExtTreeMap.erase_empty]
    rfl
  rw [hempty] at hperm
  exact perm_singleton.mp hperm

lemma toList_perm_erase (h : m[k]? = some v) : m.toList.Perm ((k, v) :: (m.erase k).toList) := by
  classical
  have heq : m.insert k v = m := by
    apply Std.ExtTreeMap.ext_getElem?
    intro k'
    rw [getElem?_insert_iff]
    split
    · next hk => rw [← hk, h]
    · rfl
  have hp := toList_insert_perm m k v
  rwa [heq] at hp

lemma erase_of_getElem?_none (h : m[k]? = none) : m.erase k = m := by
  classical
  apply Std.ExtTreeMap.ext_getElem?
  intro k'
  rw [getElem?_erase_iff]
  split
  · next hk => rw [← hk, h]
  · rfl

/-! ## Sums over the values of a map -/

def valuesSum (m : BTreeMap K V) (f : V → Nat) : Nat :=
  ((values m).map f).sum

lemma valuesSum_insert_new {f : V → Nat} (h : m[k]? = none) :
    valuesSum (m.insert k v) f = f v + valuesSum m f := by
  have hp := toList_insert_perm m k v
  rw [erase_of_getElem?_none h] at hp
  have hs := ((hp.map Prod.snd).map f).sum_eq
  simpa [valuesSum, values] using hs

lemma valuesSum_insert_old {v w : V} {f : V → Nat} (h : m[k]? = some w) :
    valuesSum (m.insert k v) f + f w = valuesSum m f + f v := by
  have hp := (((toList_insert_perm m k v).map Prod.snd).map f).sum_eq
  have hq := (((toList_perm_erase h).map Prod.snd).map f).sum_eq
  simp only [map_cons, sum_cons] at hp hq
  unfold valuesSum values
  omega

/-! ## Grouping a list by a key -/

variable {α : Type}

def groupBy (key : α → K) (xs : List α) : BTreeMap K (List α) :=
  xs.foldl (fun groups x => groups.insert (key x) (groups.getD (key x) [] ++ [x])) ∅

/-- A group is what a filter keeps, where it keeps anything. -/
lemma getElem?_groupBy [DecidableEq K] (key : α → K) (xs : List α) (k : K) :
    (groupBy key xs)[k]? =
      if xs.filter (key · = k) = [] then none else some (xs.filter (key · = k)) := by
  induction xs using reverseRec generalizing k with
  | nil => simp [groupBy]
  | append_singleton xs x ih =>
    have hstep : groupBy key (xs ++ [x]) =
        (groupBy key xs).insert (key x) ((groupBy key xs).getD (key x) [] ++ [x]) := by
      simp [groupBy]
    have hgroup : (groupBy key xs).getD (key x) [] = xs.filter (key · = key x) := by
      rw [getD_eq_getD_getElem?, ih]
      split
      · next h => rw [h, Option.getD_none]
      · rw [Option.getD_some]
    rw [hstep, getElem?_insert_iff, hgroup, filter_append]
    by_cases hk : key x = k
    · subst hk
      simp
    · simp [hk, ih]

variable {key : α → K} {xs : List α}

lemma groupBy_eq_some [DecidableEq K] {group : List α} :
    (groupBy key xs)[k]? = some group ↔ group ≠ [] ∧ group = xs.filter (key · = k) := by
  rw [getElem?_groupBy]
  split
  · next h =>
    rw [h]
    constructor
    · intro hn
      cases hn
    · rintro ⟨hne, rfl⟩
      exact absurd rfl hne
  · next h =>
    rw [Option.some.injEq]
    constructor
    · rintro rfl
      exact ⟨h, rfl⟩
    · rintro ⟨-, rfl⟩
      rfl

lemma mem_groupBy [DecidableEq K] : k ∈ groupBy key xs ↔ ∃ x ∈ xs, key x = k := by
  rw [mem_iff_getElem?]
  simp only [groupBy_eq_some, exists_eq_right, ne_eq, filter_eq_nil_iff, not_forall,
    decide_eq_true_eq, not_not, exists_prop]

/-! ## Entering and rewriting what a list names -/

variable {ε : Type}

/-- Enter an item under its key, which must be new. -/
def insertEach (key : α → K) (val : α → V) (duplicate : ε) (m : BTreeMap K V) (x : α) :
    Except ε (BTreeMap K V) := do
  failIf (key x ∈ m) duplicate
  return m.insert (key x) (val x)

variable {m m' : BTreeMap K V}

omit [Std.LawfulEqOrd K] in
lemma insertEach_ok {val : α → V} {duplicate : ε} {x : α} :
    insertEach key val duplicate m x = .ok m' ↔ key x ∉ m ∧ m' = m.insert (key x) (val x) := by
  simp only [insertEach, bind_ok, failIf_ok, pure_ok, exists_const, eq_comm (b := m')]

/-- A pass that enters a list succeeds exactly on distinct new keys, and then the
    map holds what it held and the list. -/
lemma foldlM_insertEach_ok [DecidableEq K] {val : α → V} {duplicate : ε} :
    xs.foldlM (insertEach key val duplicate) m = .ok m' ↔
      (xs.map key).Nodup ∧ (∀ x ∈ xs, key x ∉ m) ∧ ∀ (k : K) (v : V), m'[k]? = some v ↔
          m[k]? = some v ∨ ∃ x ∈ xs, key x = k ∧ val x = v := by
  induction xs generalizing m with
  | nil =>
    rw [foldlM_nil, pure_ok]
    constructor
    · rintro rfl
      simp
    · rintro ⟨-, -, h⟩
      apply Std.ExtTreeMap.ext_getElem?
      intro k
      apply Option.ext
      intro v
      simp [h k v]
  | cons x xs ih =>
    simp only [foldlM_cons, bind_ok, insertEach_ok, ih, map_cons,
      nodup_cons, forall_mem_cons, exists_mem_cons_iff]
    have hentry : ∀ (k : K) (v : V), key x ∉ m →
        ((m.insert (key x) (val x))[k]? = some v ↔ m[k]? = some v ∨ key x = k ∧ val x = v) := by
      intro k v hnew
      rw [getElem?_insert_iff]
      by_cases hk : key x = k
      · subst hk
        simp [Std.ExtTreeMap.getElem?_eq_none hnew]
      · simp [hk]
    constructor
    · rintro ⟨_, ⟨hnew, rfl⟩, hnodup, hfresh, hget⟩
      refine ⟨⟨?_, hnodup⟩, ⟨hnew, fun y hy hmem => hfresh y hy ?_⟩, fun k v => ?_⟩
      · intro hmem
        obtain ⟨y, hy, heq⟩ := mem_map.mp hmem
        exact hfresh y hy (heq ▸ Std.ExtTreeMap.mem_insert_self)
      · exact Std.ExtTreeMap.mem_insert.mpr (.inr hmem)
      · rw [hget, hentry k v hnew, or_assoc]
    · rintro ⟨⟨hhead, hnodup⟩, ⟨hnew, hfresh⟩, hget⟩
      refine ⟨_, ⟨hnew, rfl⟩, hnodup, ?_, fun k v => ?_⟩
      · intro y hy hmem
        rcases Std.ExtTreeMap.mem_insert.mp hmem with heq | hmem
        · exact hhead (mem_map.mpr ⟨y, hy, (Std.LawfulEqCmp.eq_of_compare heq).symm⟩)
        · exact hfresh y hy hmem
      · rw [hget, hentry k v hnew, or_assoc]

lemma nodup_map_values {key : V → K} (hkey : ∀ (k : K) (v : V), m[k]? = some v → key v = k) :
    ((values m).map key).Nodup := by
  have hkeys : (values m).map key = m.keys := by
    rw [← Std.ExtTreeMap.map_fst_toList_eq_keys, values, List.map_map]
    refine map_congr_left fun entry hentry => ?_
    exact hkey entry.1 entry.2 (mem_toList_iff.mp hentry)
  rw [hkeys]
  exact Std.ExtTreeMap.nodup_keys

/-- Rewrite the entry under an item's key, which must be there. -/
def updateEach (key : α → K) (f : α → V → Except ε V) (missing : ε) (m : BTreeMap K V) (x : α) :
    Except ε (BTreeMap K V) := do
  let v ← okOr m[key x]? missing
  let v' ← f x v
  return m.insert (key x) v'

variable {f : α → V → Except ε V} {missing : ε}

omit [Std.LawfulEqOrd K] in
lemma updateEach_ok {x : α} : updateEach key f missing m x = .ok m' ↔
      ∃ v v', m[key x]? = some v ∧ f x v = .ok v' ∧ m' = m.insert (key x) v' := by
  simp only [updateEach, bind_ok, okOr_ok, pure_ok, eq_comm (b := m')]
  constructor
  · rintro ⟨v, hv, v', hf, h⟩
    exact ⟨v, v', hv, hf, h⟩
  · rintro ⟨v, v', hv, hf, h⟩
    exact ⟨v, hv, v', hf, h⟩

/-- A pass over distinct keys rewrites exactly their entries. -/
lemma foldlM_updateEach [DecidableEq K] (hnodup : (xs.map key).Nodup)
    (h : xs.foldlM (updateEach key f missing) m = .ok m') :
    (∀ x ∈ xs, ∃ v v', m[key x]? = some v ∧ f x v = .ok v' ∧ m'[key x]? = some v') ∧
      ∀ k, k ∉ xs.map key → m'[k]? = m[k]? := by
  induction xs generalizing m with
  | nil =>
    rw [foldlM_nil, pure_ok] at h
    simp [h]
  | cons x xs ih =>
    rw [map_cons, nodup_cons] at hnodup
    simp only [foldlM_cons, bind_ok, updateEach_ok] at h
    obtain ⟨_, ⟨v, v', hv, hf, rfl⟩, hrest⟩ := h
    obtain ⟨hin, hout⟩ := ih hnodup.2 hrest
    constructor
    · intro y hy
      rcases mem_cons.mp hy with rfl | hy
      · refine ⟨v, v', hv, hf, ?_⟩
        rw [hout _ hnodup.1, getElem?_insert_iff, if_pos rfl]
      · obtain ⟨w, w', hw, hfw, hw'⟩ := hin y hy
        have hne : key x ≠ key y := fun heq => hnodup.1 (heq ▸ mem_map_of_mem hy)
        rw [getElem?_insert_of_ne hne] at hw
        exact ⟨w, w', hw, hfw, hw'⟩
    · intro k hk
      rw [map_cons, mem_cons, not_or] at hk
      rw [hout k hk.2, getElem?_insert_of_ne (Ne.symm hk.1)]

/-- Two maps with the same keys and related entries. -/
structure Pointwise (R : V → V → Prop) (m m' : BTreeMap K V) : Prop where
  entry : ∀ (k : K) (v : V), m[k]? = some v → ∃ v', m'[k]? = some v' ∧ R v v'
  keys : ∀ k : K, k ∈ m' → k ∈ m

namespace Pointwise

variable {R S : V → V → Prop} {m m' : BTreeMap K V}

section

omit [Std.LawfulEqOrd K]

lemma refl (h : ∀ v, R v v) : Pointwise R m m :=
  ⟨fun _ v hv => ⟨v, hv, h v⟩, fun _ hk => hk⟩

lemma mono (h : Pointwise R m m') (hRS : ∀ v v', R v v' → S v v') : Pointwise S m m' := by
  refine ⟨fun k v hv => ?_, h.keys⟩
  obtain ⟨v', hv', hR⟩ := h.entry k v hv
  exact ⟨v', hv', hRS v v' hR⟩

lemma origin (h : Pointwise R m m') {k : K} {v' : V} (hv' : m'[k]? = some v') :
    ∃ v, m[k]? = some v ∧ R v v' := by
  obtain ⟨v, hv⟩ := mem_iff_getElem?.mp (h.keys k (mem_iff_getElem?.mpr ⟨v', hv'⟩))
  obtain ⟨w, hw, hR⟩ := h.entry k v hv
  rw [hv'] at hw
  cases hw
  exact ⟨v, hv, hR⟩

lemma getElem?_map_eq (h : Pointwise R m m') {β : Type} {g : V → β}
    (hg : ∀ v v', R v v' → g v' = g v) (k : K) : (m'[k]?).map g = (m[k]?).map g := by
  cases hk : m[k]? with
  | none =>
    have hnone : m'[k]? = none := by
      by_contra hne
      obtain ⟨v', hv'⟩ := Option.ne_none_iff_exists'.mp hne
      obtain ⟨v, hv, -⟩ := h.origin hv'
      rw [hk] at hv
      cases hv
    rw [hnone]
  | some v =>
    obtain ⟨v', hv', hR⟩ := h.entry k v hk
    rw [hv']
    simp [hg v v' hR]

end

end Pointwise

lemma foldlM_updateEach_rel [DecidableEq K] (hnodup : (xs.map key).Nodup)
    (h : xs.foldlM (updateEach key f missing) m = .ok m') :
    Pointwise (fun v v' => v' = v ∨ ∃ x ∈ xs, f x v = .ok v') m m' := by
  obtain ⟨hin, hout⟩ := foldlM_updateEach hnodup h
  constructor
  · intro k v hv
    by_cases hk : k ∈ xs.map key
    · obtain ⟨x, hx, rfl⟩ := mem_map.mp hk
      obtain ⟨w, v', hw, hf, hv'⟩ := hin x hx
      rw [hv] at hw
      cases hw
      exact ⟨v', hv', .inr ⟨x, hx, hf⟩⟩
    · exact ⟨v, (hout k hk).trans hv, .inl rfl⟩
  · intro k hk
    by_cases hkx : k ∈ xs.map key
    · obtain ⟨x, hx, rfl⟩ := mem_map.mp hkx
      obtain ⟨w, v', hw, -, -⟩ := hin x hx
      exact mem_iff_getElem?.mpr ⟨w, hw⟩
    · obtain ⟨v', hv'⟩ := mem_iff_getElem?.mp hk
      exact mem_iff_getElem?.mpr ⟨v', (hout k hkx).symm.trans hv'⟩

lemma foldlM_updateEach_ok [DecidableEq K] (hnodup : (xs.map key).Nodup)
    (h : ∀ x ∈ xs, ∃ v v', m[key x]? = some v ∧ f x v = .ok v') :
    ∃ m', xs.foldlM (updateEach key f missing) m = .ok m' := by
  induction xs generalizing m with
  | nil => exact ⟨m, rfl⟩
  | cons x xs ih =>
    rw [map_cons, nodup_cons] at hnodup
    obtain ⟨v, v', hv, hf⟩ := h x (by simp)
    obtain ⟨m', hm'⟩ := ih (m := m.insert (key x) v') hnodup.2 (by
      intro y hy
      have hne : key x ≠ key y := fun heq => hnodup.1 (heq ▸ mem_map_of_mem hy)
      rw [getElem?_insert_of_ne hne]
      exact h y (by simp [hy]))
    refine ⟨m', ?_⟩
    simp only [foldlM_cons, bind_ok, updateEach_ok]
    exact ⟨_, ⟨v, v', hv, hf, rfl⟩, hm'⟩

lemma ext_some (h : ∀ (k : K) (v : V), m[k]? = some v ↔ m'[k]? = some v) : m = m' := by
  apply Std.ExtTreeMap.ext_getElem?
  intro k
  exact Option.ext (h k)

lemma map_values_congr {β : Type} {g : V → β} (h : ∀ k : K, (m[k]?).map g = (m'[k]?).map g) :
    (values m).map g = (values m').map g := by
  have hmap : m.map (fun _ v => g v) = m'.map (fun _ v => g v) := by
    apply Std.ExtTreeMap.ext_getElem?
    intro k
    rw [Std.ExtTreeMap.getElem?_map, Std.ExtTreeMap.getElem?_map]
    simpa using h k
  have hlist := congrArg (fun t => values t) hmap
  simpa [values, Std.ExtTreeMap.toList_map, Function.comp_def] using hlist

lemma Pointwise.size_eq {R : V → V → Prop} (h : Pointwise R m m') : m'.size = m.size := by
  have hunits := map_values_congr (h.getElem?_map_eq (g := fun _ => ()) fun _ _ _ => rfl)
  simpa using congrArg length hunits

lemma filter_values_congr {test : V → Bool}
    (h : ∀ (k : K) (v : V), test v = true → (m[k]? = some v ↔ m'[k]? = some v)) :
    (values m).filter test = (values m').filter test := by
  have hvalues : ∀ t : BTreeMap K V,
      (values t).filter test = values (t.filter fun _ v => test v) := by
    intro t
    rw [values, values, Std.ExtTreeMap.toList_filter, filter_map]
    rfl
  have hfilter : (m.filter fun _ v => test v) = m'.filter fun _ v => test v := by
    apply ext_some
    intro k v
    simp only [Std.ExtTreeMap.getElem?_filter', Option.filter_eq_some_iff]
    constructor
    · rintro ⟨hv, htest⟩
      exact ⟨(h k v htest).mp hv, htest⟩
    · rintro ⟨hv, htest⟩
      exact ⟨(h k v htest).mpr hv, htest⟩
  rw [hvalues, hvalues, hfilter]

/-- A map whose keys are within another's, and that is as large, has the same keys. -/
lemma mem_iff_of_subset_of_size_eq {W : Type} {m' : BTreeMap K W} (hsub : ∀ k ∈ m, k ∈ m')
    (hsize : m.size = m'.size) : k ∈ m ↔ k ∈ m' := by
  refine ⟨hsub k, ?_⟩
  have hsubperm : m.keys.Subperm m'.keys := by
    refine subperm_of_subset nodup_keys ?_
    intro a ha
    exact mem_keys.mpr (hsub a (mem_keys.mp ha))
  have hperm : m.keys.Perm m'.keys := by
    refine hsubperm.perm_of_length_le ?_
    rw [length_keys, length_keys, hsize]
  intro hk
  exact mem_keys.mp (hperm.mem_iff.mpr (mem_keys.mpr hk))

end BTreeMap

/-! ## Sets -/

namespace BTreeSet

variable {K : Type} [Ord K] [Std.TransOrd K] [Std.LawfulEqOrd K] {s : BTreeSet K}

@[simp] lemma mem_insert_iff {a b : K} : b ∈ s.insert a ↔ b = a ∨ b ∈ s := by
  rw [Std.ExtTreeSet.mem_insert, Std.LawfulEqCmp.compare_eq_iff_eq]
  constructor
  · rintro (rfl | h)
    · exact .inl rfl
    · exact .inr h
  · rintro (rfl | h)
    · exact .inl rfl
    · exact .inr h

def insertOnce {α ε : Type} (key : α → K) (duplicate : ε) (s : BTreeSet K) (x : α) :
    Except ε (BTreeSet K) := do
  failIf (key x ∈ s) duplicate
  return s.insert (key x)

variable {α ε : Type} {key : α → K} {duplicate : ε}

omit [Std.LawfulEqOrd K] in
lemma insertOnce_ok {s s' : BTreeSet K} {x : α} :
    insertOnce key duplicate s x = .ok s' ↔ key x ∉ s ∧ s' = s.insert (key x) := by
  simp only [insertOnce, bind_ok, failIf_ok, pure_ok, exists_const, eq_comm (b := s')]

variable {a : K}

omit [Std.LawfulEqOrd K] in
lemma size_insert_new (h : a ∉ s) : (s.insert a).size = s.size + 1 := by
  rw [Std.ExtTreeSet.size_insert, if_neg (mt Std.ExtTreeSet.mem_iff_contains.mpr h)]

variable {xs : List α}

lemma foldlM_insertOnce_spec {s s' : BTreeSet K}
    (h : xs.foldlM (insertOnce key duplicate) s = .ok s') :
    (∀ a, a ∈ s' ↔ a ∈ s ∨ a ∈ xs.map key) ∧ s'.size = s.size + xs.length := by
  induction xs generalizing s with
  | nil =>
    rw [foldlM_nil, pure_ok] at h
    simp [h]
  | cons x xs ih =>
    simp only [foldlM_cons, bind_ok, insertOnce_ok] at h
    obtain ⟨_, ⟨hnew, rfl⟩, hrest⟩ := h
    obtain ⟨hmem, hsize⟩ := ih hrest
    constructor
    · intro a
      rw [hmem, mem_insert_iff, map_cons, mem_cons]
      tauto
    · rw [hsize, size_insert_new hnew, length_cons]
      omega

lemma foldlM_insertOnce_ok (duplicate : ε) (s : BTreeSet K) (hnodup : (xs.map key).Nodup)
    (hnew : ∀ x ∈ xs, key x ∉ s) : ∃ s', xs.foldlM (insertOnce key duplicate) s = .ok s' := by
  induction xs generalizing s with
  | nil => exact ⟨s, rfl⟩
  | cons x xs ih =>
    rw [map_cons, nodup_cons] at hnodup
    obtain ⟨s', hs'⟩ := ih (s.insert (key x)) hnodup.2 (by
      intro y hy hmem
      rcases mem_insert_iff.mp hmem with heq | hmem
      · exact hnodup.1 (mem_map.mpr ⟨y, hy, heq⟩)
      · exact hnew y (by simp [hy]) hmem)
    refine ⟨s', ?_⟩
    rw [foldlM_cons, bind_ok]
    refine ⟨s.insert (key x), ?_, hs'⟩
    rw [insertOnce, bind_ok]
    exact ⟨(), failIf_ok.mpr (hnew x (by simp)), rfl⟩

lemma nodup_toList (s : BTreeSet K) : s.toList.Nodup := by
  have h := distinct_toList (t := s)
  exact h.imp fun hne heq => hne (Std.LawfulEqCmp.compare_eq_iff_eq.mpr heq)

lemma toList_insert_empty (a : K) : ((∅ : BTreeSet K).insert a).toList = [a] := by
  apply perm_singleton.mp
  rw [perm_ext_iff_of_nodup (nodup_toList _) (nodup_singleton a)]
  intro b
  rw [mem_toList, mem_insert_iff, mem_singleton]
  constructor
  · intro hb
    exact hb.resolve_right Std.ExtTreeSet.not_mem_empty
  · intro hb
    exact .inl hb

/-- A pass that adds a list to nothing succeeds exactly on distinct keys. -/
lemma foldlM_insertOnce_ok_iff {s' : BTreeSet K} :
    xs.foldlM (insertOnce key duplicate) ∅ = .ok s' ↔
      (xs.map key).Nodup ∧ ∀ a, a ∈ s' ↔ a ∈ xs.map key := by
  constructor
  · intro h
    obtain ⟨hmem, hsize⟩ := foldlM_insertOnce_spec h
    have hkeys : ∀ a, a ∈ s' ↔ a ∈ xs.map key := by
      intro a
      rw [hmem]
      simp
    refine ⟨?_, hkeys⟩
    -- the set has as many elements as the list, so the list repeats none
    have hsub : s'.toList ⊆ xs.map key := by
      intro a ha
      exact (hkeys a).mp (mem_toList.mp ha)
    have hperm : s'.toList.Perm (xs.map key) := by
      refine (subperm_of_subset (nodup_toList s') hsub).perm_of_length_le ?_
      rw [Std.ExtTreeSet.length_toList, hsize, length_map, Std.ExtTreeSet.size_empty]
      omega
    exact hperm.nodup_iff.mp (nodup_toList s')
  · rintro ⟨hnodup, hkeys⟩
    obtain ⟨t, ht⟩ := foldlM_insertOnce_ok duplicate ∅ hnodup (by simp)
    have heq : t = s' := by
      apply ext_mem
      intro a
      rw [(foldlM_insertOnce_spec ht).1 a, hkeys a]
      simp
    rw [ht, heq]

variable {V : Type} {m : BTreeMap K V}

lemma size_le_of_subset_keys (h : ∀ a ∈ s, a ∈ m) : s.size ≤ m.size := by
  rw [← Std.ExtTreeSet.length_toList, ← Std.ExtTreeMap.length_keys]
  refine (subperm_of_subset (nodup_toList s) ?_).length_le
  intro a ha
  exact Std.ExtTreeMap.mem_keys.mpr (h a (mem_toList.mp ha))

lemma size_keys_le_of_subset (h : ∀ a ∈ m, a ∈ s) : m.size ≤ s.size := by
  rw [← Std.ExtTreeSet.length_toList, ← Std.ExtTreeMap.length_keys]
  refine (subperm_of_subset Std.ExtTreeMap.nodup_keys ?_).length_le
  intro a ha
  exact mem_toList.mpr (h a (Std.ExtTreeMap.mem_keys.mp ha))

lemma mem_of_subset_keys_of_size_eq (hsub : ∀ a ∈ s, a ∈ m) (hsize : s.size = m.size)
    (ha : a ∈ m) : a ∈ s := by
  have hsubperm : s.toList.Subperm m.keys := by
    refine subperm_of_subset (nodup_toList s) ?_
    intro b hb
    exact Std.ExtTreeMap.mem_keys.mpr (hsub b (mem_toList.mp hb))
  have hperm : s.toList.Perm m.keys := by
    refine hsubperm.perm_of_length_le ?_
    rw [Std.ExtTreeMap.length_keys, Std.ExtTreeSet.length_toList, hsize]
  exact mem_toList.mp (hperm.mem_iff.mpr (Std.ExtTreeMap.mem_keys.mpr ha))

def extend (s : BTreeSet K) (xs : List K) : BTreeSet K :=
  xs.foldl (fun s x => s.insert x) s

@[simp] lemma mem_extend {xs : List K} : a ∈ extend s xs ↔ a ∈ s ∨ a ∈ xs := by
  unfold extend
  induction xs generalizing s with
  | nil => simp
  | cons x xs ih =>
    rw [foldl_cons, ih, mem_insert_iff, mem_cons]
    tauto

/-- Whether two sets have no element in common. -/
def isDisjoint (s t : BTreeSet K) : Bool :=
  s.toList.all (· ∉ t)

lemma isDisjoint_iff {s t : BTreeSet K} : isDisjoint s t = true ↔ ∀ a ∈ s, a ∉ t := by
  simp [isDisjoint]

/-- Whether every element of the second set is one of the first. -/
def isSuperset (s t : BTreeSet K) : Bool :=
  t.toList.all (· ∈ s)

end BTreeSet

end Tidex.Lib
