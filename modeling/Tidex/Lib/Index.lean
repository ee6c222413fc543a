/-
  Lib.Index — maps that are derived from a set of records.
-/
import Tidex.Lib.OrdMap

namespace Tidex.Lib

open List Option Std.ExtTreeMap

namespace BTreeMap

variable {α K V : Type} [Ord K] [Std.TransOrd K] [Std.LawfulEqOrd K]

lemma ext_entries {m m' : BTreeMap K V}
    (h : ∀ (k : K) (v : V), m[k]? = some v ↔ m'[k]? = some v) : m = m' := by
  apply Std.ExtTreeMap.ext_getElem?
  intro k
  apply ext
  intro v
  exact h k v

omit [Std.LawfulEqOrd K] in
lemma getElem?_none {m : BTreeMap K V} {k : K} : m[k]? = none ↔ k ∉ m := by
  rw [mem_iff_getElem?, not_exists]
  exact eq_none_iff_forall_ne_some

/-! ## Entries -/

def Indexes (m : BTreeMap K V) (entry : α → Option (K × V)) (s : Set α) : Prop :=
  ∀ (k : K) (v : V), m[k]? = some v ↔ ∃ x ∈ s, entry x = some (k, v)

namespace Indexes

variable {m m' : BTreeMap K V} {entry : α → Option (K × V)} {s : Set α} {x : α}

omit [Std.LawfulEqOrd K] in
lemma empty : Indexes (∅ : BTreeMap K V) entry (∅ : Set α) := by
  intro k v
  simp

section

variable (h : Indexes m entry s)
include h

lemma unique (h' : Indexes m' entry s) : m = m' := by
  apply ext_entries
  intro k v
  rw [h k v, h' k v]

variable {k : K}

section

omit [Std.LawfulEqOrd K]

lemma functional {x y : α} (hx : x ∈ s) (hy : y ∈ s) {v w : V} (hv : entry x = some (k, v))
    (hw : entry y = some (k, w)) : v = w := by
  have hkv : m[k]? = some v := (h k v).mpr ⟨x, hx, hv⟩
  have hkw : m[k]? = some w := (h k w).mpr ⟨y, hy, hw⟩
  rw [hkv] at hkw
  exact some.inj hkw

lemma skip (hx : entry x = none) : Indexes m entry (insert x s) := by
  intro k v
  rw [h k v, Set.exists_mem_insert, hx]
  refine (or_iff_right ?_).symm
  intro hnone
  cases hnone

end

variable {v : V}

omit [Std.LawfulEqOrd K] in
lemma present (hx : entry x = some (k, v)) (hold : m[k]? = some v) :
    Indexes m entry (insert x s) := by
  intro k' v'
  rw [Set.exists_mem_insert, ← h k' v', hx]
  refine (or_iff_right_of_imp ?_).symm
  intro heq
  cases heq
  exact hold

/-- A record with a new key is entered. -/
lemma insert [DecidableEq K] (hx : entry x = some (k, v)) (hnew : m[k]? = none) :
    Indexes (m.insert k v) entry (insert x s) := by
  have hmem : k ∉ m := by
    intro hk
    obtain ⟨w, hw⟩ := mem_iff_getElem?.mp hk
    rw [hnew] at hw
    cases hw
  intro k' v'
  rw [getElem?_insert_new hmem, h k' v', Set.exists_mem_insert, hx, or_comm]
  refine or_congr_left ⟨?_, ?_⟩
  · rintro ⟨rfl, rfl⟩
    rfl
  · intro heq
    cases heq
    exact ⟨rfl, rfl⟩

lemma insertIfNew [DecidableEq K] (hx : entry x = some (k, v))
    (hsame : ∀ w, m[k]? = some w → w = v) :
    Indexes (m.insertIfNew k v) entry (Insert.insert x s) := by
  cases hk : m[k]? with
  | none =>
    have hmem : k ∉ m := by
      intro hmem
      obtain ⟨w, hw⟩ := mem_iff_getElem?.mp hmem
      rw [hk] at hw
      cases hw
    have heq : m.insertIfNew k v = m.insert k v := by
      apply Std.ExtTreeMap.ext_getElem?
      intro k'
      rw [Std.ExtTreeMap.getElem?_insertIfNew, Std.ExtTreeMap.getElem?_insert]
      simp [hmem]
    rw [heq]
    exact h.insert hx hk
  | some w =>
    have hw := hsame w hk
    subst hw
    have hmem : k ∈ m := mem_iff_getElem?.mpr ⟨w, hk⟩
    have heq : m.insertIfNew k w = m := by
      apply Std.ExtTreeMap.ext_getElem?
      intro k'
      rw [Std.ExtTreeMap.getElem?_insertIfNew]
      simp [hmem]
    rw [heq]
    exact h.present hx hk

omit [Std.LawfulEqOrd K] in
/-- A key is new to a map over part of the records where no other record of them has
    its entry. -/
lemma fresh {part : Set α} (hpart : Indexes m' entry part) (hsub : part ⊆ s) (hx : x ∈ s)
    (hentry : entry x = some (k, v)) (hother : ∀ y ∈ part, entry y ≠ some (k, v)) :
    m'[k]? = none := by
  cases hk : m'[k]? with
  | none => rfl
  | some w =>
    obtain ⟨y, hy, hyentry⟩ := (hpart k w).mp hk
    have hw : w = v := h.functional (hsub hy) hx hyentry hentry
    subst hw
    exact absurd hyentry (hother y hy)

end

end Indexes

/-! ## Groups -/

section

variable {T : Type} [Ord T] [Std.TransOrd T] [Std.LawfulEqOrd T]

/-- Under each key is the set of the values of the records with that key. -/
structure Groups (m : BTreeMap K (BTreeSet T)) (key : α → K) (val : α → T) (s : Set α) :
    Prop where
  keys : ∀ k, k ∈ m ↔ ∃ x ∈ s, key x = k
  values : ∀ (k : K) (t : BTreeSet T), m[k]? = some t →
    ∀ v, v ∈ t ↔ ∃ x ∈ s, key x = k ∧ val x = v

namespace Groups

variable {m m' : BTreeMap K (BTreeSet T)} {key : α → K} {val : α → T} {s : Set α} {x : α}

omit [Std.LawfulEqOrd K] [Std.LawfulEqOrd T] in
lemma empty : Groups (∅ : BTreeMap K (BTreeSet T)) key val (∅ : Set α) where
  keys := by
    intro k
    simp
  values := by
    intro k t h
    simp at h

lemma unique (h : Groups m key val s) (h' : Groups m' key val s) : m = m' := by
  apply ext_entries
  have hsub : ∀ {m m' : BTreeMap K (BTreeSet T)}, Groups m key val s → Groups m' key val s →
      ∀ (k : K) (t : BTreeSet T), m[k]? = some t → m'[k]? = some t := by
    intro m m' h h' k t hget
    have hmem : k ∈ m' := (h'.keys k).mpr ((h.keys k).mp (mem_iff_getElem?.mpr ⟨t, hget⟩))
    obtain ⟨t', hget'⟩ := mem_iff_getElem?.mp hmem
    have heq : t' = t := by
      apply Std.ExtTreeSet.ext_mem
      intro v
      rw [h'.values k t' hget' v, h.values k t hget v]
    rw [hget', heq]
  intro k t
  exact ⟨hsub h h' k t, hsub h' h k t⟩

/-- A record joins its group. -/
lemma insert [DecidableEq K] (h : Groups m key val s) :
    Groups (m.insert (key x) ((m.getD (key x) ∅).insert (val x))) key val (insert x s) where
  keys := by
    intro k
    rw [mem_insert, Std.LawfulEqCmp.compare_eq_iff_eq, h.keys k, Set.exists_mem_insert]
  values := by
    -- what the group of `x` held before
    have hbefore : ∀ v, v ∈ m.getD (key x) ∅ ↔ ∃ y ∈ s, key y = key x ∧ val y = v := by
      intro v
      rw [getD_eq_getD_getElem?]
      cases hget : m[key x]? with
      | none =>
        rw [getD_none]
        constructor
        · intro hv
          simp at hv
        · intro hrecord
          obtain ⟨y, hy, hkey, -⟩ := hrecord
          obtain ⟨t, ht⟩ := mem_iff_getElem?.mp ((h.keys (key x)).mpr ⟨y, hy, hkey⟩)
          rw [hget] at ht
          cases ht
      | some t =>
        rw [getD_some]
        exact h.values (key x) t hget v
    intro k t hget v
    rw [getElem?_insert_iff] at hget
    by_cases hk : key x = k
    · rw [if_pos hk] at hget
      cases hget
      subst hk
      rw [BTreeSet.mem_insert_iff, hbefore v]
      constructor
      · intro hv
        rcases hv with heq | hold
        · exact ⟨x, Set.mem_insert x s, rfl, heq.symm⟩
        · obtain ⟨y, hy, hkey, hval⟩ := hold
          exact ⟨y, Set.mem_insert_of_mem x hy, hkey, hval⟩
      · intro hrecord
        obtain ⟨y, hy, hkey, hval⟩ := hrecord
        rcases Set.mem_insert_iff.mp hy with heq | hy
        · subst heq
          exact .inl hval.symm
        · exact .inr ⟨y, hy, hkey, hval⟩
    · rw [if_neg hk] at hget
      rw [h.values k t hget v]
      constructor
      · intro hold
        obtain ⟨y, hy, hkey, hval⟩ := hold
        exact ⟨y, Set.mem_insert_of_mem x hy, hkey, hval⟩
      · intro hrecord
        obtain ⟨y, hy, hkey, hval⟩ := hrecord
        rcases Set.mem_insert_iff.mp hy with heq | hy
        · subst heq
          exact absurd hkey hk
        · exact ⟨y, hy, hkey, hval⟩

end Groups

end

/-! ## Maxima -/

/-- Under each key is the largest value of the records with that key. -/
structure Maxima (m : BTreeMap K Nat) (key : α → K) (val : α → Nat) (s : Set α) : Prop where
  keys : ∀ k, k ∈ m ↔ ∃ x ∈ s, key x = k
  attained : ∀ (k : K) (n : Nat), m[k]? = some n → ∃ x ∈ s, key x = k ∧ val x = n
  bound : ∀ (k : K) (n : Nat), m[k]? = some n → ∀ x ∈ s, key x = k → val x ≤ n

namespace Maxima

variable {m m' : BTreeMap K Nat} {key : α → K} {val : α → Nat} {s : Set α} {x : α}

omit [Std.LawfulEqOrd K] in
lemma empty : Maxima (∅ : BTreeMap K Nat) key val (∅ : Set α) where
  keys := by
    intro k
    simp
  attained := by
    intro k n h
    simp at h
  bound := by
    intro k n h
    simp at h

lemma unique (h : Maxima m key val s) (h' : Maxima m' key val s) : m = m' := by
  apply ext_entries
  have hsub : ∀ {m m' : BTreeMap K Nat}, Maxima m key val s → Maxima m' key val s →
      ∀ (k : K) (n : Nat), m[k]? = some n → m'[k]? = some n := by
    intro m m' h h' k n hget
    have hmem : k ∈ m' := (h'.keys k).mpr ((h.keys k).mp (mem_iff_getElem?.mpr ⟨n, hget⟩))
    obtain ⟨n', hget'⟩ := mem_iff_getElem?.mp hmem
    obtain ⟨y, hy, hykey, hyval⟩ := h.attained k n hget
    obtain ⟨z, hz, hzkey, hzval⟩ := h'.attained k n' hget'
    have hle := h'.bound k n' hget' y hy hykey
    have hge := h.bound k n hget z hz hzkey
    have heq : n' = n := by omega
    rw [hget', heq]
  intro k n
  exact ⟨hsub h h' k n, hsub h' h k n⟩

/-- The largest value so far, with one more. -/
def raise (known : Option Nat) (n : Nat) : Nat :=
  match known with
  | none => n
  | some known => max known n

/-- A record raises the maximum under its key. -/
lemma insert [DecidableEq K] (h : Maxima m key val s) :
    Maxima (m.insert (key x) (raise m[key x]? (val x))) key val (Insert.insert x s) where
  keys := by
    intro k
    rw [mem_insert, Std.LawfulEqCmp.compare_eq_iff_eq, h.keys k, Set.exists_mem_insert]
  attained := by
    intro k n hget
    rw [getElem?_insert_iff] at hget
    by_cases hk : key x = k
    · subst hk
      rw [if_pos rfl, some.injEq] at hget
      -- the maximum is the new value or the one there was
      cases hknown : m[key x]? with
      | none =>
        rw [hknown] at hget
        exact ⟨x, Set.mem_insert x s, rfl, hget⟩
      | some known =>
        rw [hknown] at hget
        obtain ⟨y, hy, hykey, hyval⟩ := h.attained (key x) known hknown
        have hmax : max known (val x) = n := hget
        by_cases hle : known ≤ val x
        · exact ⟨x, Set.mem_insert x s, rfl, by omega⟩
        · exact ⟨y, Set.mem_insert_of_mem x hy, hykey, by omega⟩
    · rw [if_neg hk] at hget
      obtain ⟨y, hy, hykey, hyval⟩ := h.attained k n hget
      exact ⟨y, Set.mem_insert_of_mem x hy, hykey, hyval⟩
  bound := by
    intro k n hget z hz hzkey
    rw [getElem?_insert_iff] at hget
    by_cases hk : key x = k
    · subst hk
      rw [if_pos rfl, some.injEq] at hget
      cases hknown : m[key x]? with
      | none =>
        rw [hknown] at hget
        have hn : val x = n := hget
        rcases Set.mem_insert_iff.mp hz with heq | hz
        · rw [heq]
          omega
        · obtain ⟨w, hw⟩ := mem_iff_getElem?.mp ((h.keys (key x)).mpr ⟨z, hz, hzkey⟩)
          rw [hknown] at hw
          cases hw
      | some known =>
        rw [hknown] at hget
        have hmax : max known (val x) = n := hget
        rcases Set.mem_insert_iff.mp hz with heq | hz
        · rw [heq]
          omega
        · have hle := h.bound (key x) known hknown z hz hzkey
          omega
    · rw [if_neg hk] at hget
      rcases Set.mem_insert_iff.mp hz with heq | hz
      · subst heq
        exact absurd hzkey hk
      · exact h.bound k n hget z hz hzkey

end Maxima

end BTreeMap

/-! ## Passes over the records -/

section

variable {α : Type}

lemma setOf_mem_append (xs : List α) (x : α) :
    {y | y ∈ xs ++ [x]} = insert x {y | y ∈ xs} := by
  ext y
  simp only [Set.mem_ofPred_eq, mem_append, mem_singleton, Set.mem_insert_iff]
  exact or_comm

lemma prefix_next {xs done : List α} {x : α} (hpart : done ++ [x] <+: xs)
    (hnodup : xs.Nodup) : (∀ y ∈ done, y ∈ xs) ∧ x ∈ xs ∧ x ∉ done ∧ done.length < xs.length := by
  obtain ⟨rest, hrest⟩ := hpart
  subst hrest
  rw [nodup_append', nodup_append'] at hnodup
  obtain ⟨⟨-, -, hdisjoint⟩, -, -⟩ := hnodup
  refine ⟨?_, ?_, ?_, ?_⟩
  · intro y hy
    simp [hy]
  · simp
  · intro hmem
    exact hdisjoint hmem (mem_singleton_self x)
  · simp only [length_append, length_singleton]
    omega

/-- What a sorted list has before its next item includes all that sort strictly before it. -/
lemma mem_done_of_lt {le : α → α → Bool} {xs done : List α} {x y : α}
    (hpart : done ++ [x] <+: xs) (hsorted : xs.Pairwise fun a b => le a b = true)
    (hy : y ∈ xs) (hlt : le x y = false) (hne : y ≠ x) : y ∈ done := by
  obtain ⟨rest, hrest⟩ := hpart
  subst hrest
  rw [append_assoc, mem_append] at hy
  rcases hy with hdone | hlater
  · exact hdone
  · rw [singleton_append, mem_cons] at hlater
    rcases hlater with heq | hmem
    · exact absurd heq hne
    · -- an item after `x` does not sort before it
      rw [append_assoc, pairwise_append] at hsorted
      have hle := rel_of_pairwise_cons hsorted.2.1 hmem
      rw [hlt] at hle
      cases hle

lemma foldlM_filter {ε σ : Type} {f g : σ → α → Except ε σ} {p : α → Bool} {xs : List α}
    (hskip : ∀ x ∈ xs, p x = false → ∀ s, f s x = .ok s)
    (hsame : ∀ x ∈ xs, p x = true → ∀ s, f s x = g s x) (s : σ) :
    xs.foldlM f s = (xs.filter p).foldlM g s := by
  induction xs generalizing s with
  | nil => rfl
  | cons x xs ih =>
    have hrest := ih (fun y hy => hskip y (mem_cons_of_mem x hy))
      (fun y hy => hsame y (mem_cons_of_mem x hy))
    rw [foldlM_cons]
    by_cases hx : p x = true
    · rw [filter_cons_of_pos hx, foldlM_cons, hsame x mem_cons_self hx]
      exact bind_congr fun s' => hrest s'
    · have hfalse : p x = false := Bool.eq_false_iff.mpr hx
      rw [filter_cons_of_neg hx, hskip x mem_cons_self hfalse]
      exact hrest s

end

end Tidex.Lib
