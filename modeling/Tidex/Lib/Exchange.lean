/-
  Lib.Exchange — loops whose steps may be exchanged.
-/
import Tidex.Lib.OrdMap

namespace Tidex.Lib

open List Std.ExtTreeMap

/-! ## Steps in either order -/

section

variable {ε σ α : Type}

/-- Two steps in either order succeed alike, with the same state. -/
def Exchangeable (f : σ → α → Except ε σ) : Prop :=
  ∀ (s : σ) (x y : α) (t : σ),
    (f s x >>= fun s' => f s' y) = .ok t ↔ (f s y >>= fun s' => f s' x) = .ok t

/-- A loop of exchangeable steps succeeds alike on every order of its list. -/
lemma foldlM_perm {f : σ → α → Except ε σ} (hf : Exchangeable f) {xs ys : List α}
    (hperm : xs.Perm ys) {s t : σ} : xs.foldlM f s = .ok t ↔ ys.foldlM f s = .ok t := by
  induction hperm generalizing s with
  | nil => exact Iff.rfl
  | cons x _ ih =>
    rw [foldlM_cons, foldlM_cons, bind_ok, bind_ok]
    constructor
    · intro h
      obtain ⟨s', hx, hrest⟩ := h
      exact ⟨s', hx, ih.mp hrest⟩
    · intro h
      obtain ⟨s', hx, hrest⟩ := h
      exact ⟨s', hx, ih.mpr hrest⟩
  | swap x y zs =>
    have hstep : ∀ a b : α, foldlM f s (a :: b :: zs) =
        ((f s a >>= fun s' => f s' b) >>= fun s' => foldlM f s' zs) := by
      intro a b
      rw [foldlM_cons, bind_assoc]
      exact bind_congr fun _ => foldlM_cons
    rw [hstep, hstep, bind_ok, bind_ok]
    constructor
    · intro h
      obtain ⟨s', hpair, hrest⟩ := h
      exact ⟨s', (hf s y x s').mp hpair, hrest⟩
    · intro h
      obtain ⟨s', hpair, hrest⟩ := h
      exact ⟨s', (hf s y x s').mpr hpair, hrest⟩
  | trans _ _ ih₁ ih₂ => exact ih₁.trans ih₂

end

namespace BTreeMap

variable {K V ε α : Type} [Ord K] [Std.TransOrd K] [Std.LawfulEqOrd K] {m : BTreeMap K V} {k : K}

omit [Std.LawfulEqOrd K] in
lemma getElem?_insert_same {v : V} : (m.insert k v)[k]? = some v :=
  getElem?_insert_self

lemma insert_comm [DecidableEq K] {k k' : K} {v v' : V} (hne : k ≠ k') :
    (m.insert k v).insert k' v' = (m.insert k' v').insert k v := by
  apply ext_some
  intro i w
  rw [getElem?_insert_iff, getElem?_insert_iff, getElem?_insert_iff, getElem?_insert_iff]
  by_cases hk : k = i
  · have hk' : k' ≠ i := fun h => hne (hk.trans h.symm)
    simp [hk, hk']
  · simp [hk]

lemma insert_insert [DecidableEq K] {v v' : V} : (m.insert k v).insert k v' = m.insert k v' := by
  apply ext_some
  intro i w
  rw [getElem?_insert_iff, getElem?_insert_iff, getElem?_insert_iff]
  by_cases hk : k = i
  · simp [hk]
  · simp [hk]

lemma insert_of_getElem? [DecidableEq K] {v : V} (h : m[k]? = some v) : m.insert k v = m := by
  apply ext_some
  intro i w
  rw [getElem?_insert_iff]
  by_cases hk : k = i
  · subst hk
    rw [if_pos rfl, h, Option.some.injEq]
  · rw [if_neg hk]

/-! ## Elements of a key agree -/

/-- Enter a value under a key; a value that is already there must be the same. -/
def insertAgreeing [DecidableEq V] (key : α → K) (val : α → V) (mismatch : ε)
    (m : BTreeMap K V) (x : α) : Except ε (BTreeMap K V) :=
  match m[key x]? with
  | some existing => do
    failIf (existing ≠ val x) mismatch
    return m
  | none => .ok (m.insert (key x) (val x))

variable [DecidableEq K] [DecidableEq V] {key : α → K} {val : α → V} {mismatch : ε}

lemma insertAgreeing_ok {m m' : BTreeMap K V} {x : α} :
    insertAgreeing key val mismatch m x = .ok m' ↔
      (∀ v, m[key x]? = some v → v = val x) ∧ m' = m.insert (key x) (val x) := by
  unfold insertAgreeing
  cases hfound : m[key x]? with
  | none =>
    rw [Except.ok.injEq]
    constructor
    · intro h
      exact ⟨by simp, h.symm⟩
    · intro h
      exact h.2.symm
  | some existing =>
    simp only [bind_ok, failIf_ok, ne_eq, not_not, exists_const, pure_ok,
      Option.some.injEq, forall_eq']
    constructor
    · intro h
      obtain ⟨rfl, rfl⟩ := h
      exact ⟨rfl, (insert_of_getElem? hfound).symm⟩
    · intro h
      obtain ⟨rfl, rfl⟩ := h
      exact ⟨rfl, (insert_of_getElem? hfound).symm⟩

/-- Elements that must agree may be exchanged. -/
lemma exchangeable_insertAgreeing : Exchangeable (insertAgreeing (V := V) key val mismatch) := by
  have hhalf : ∀ (m : BTreeMap K V) (x y : α) (t : BTreeMap K V),
      (insertAgreeing key val mismatch m x >>= fun m' => insertAgreeing key val mismatch m' y) =
        .ok t →
      (insertAgreeing key val mismatch m y >>= fun m' => insertAgreeing key val mismatch m' x) =
        .ok t := by
    intro m x y t h
    rw [bind_ok] at h
    obtain ⟨m₁, hx, hy⟩ := h
    obtain ⟨hxagree, rfl⟩ := insertAgreeing_ok.mp hx
    obtain ⟨hyagree, rfl⟩ := insertAgreeing_ok.mp hy
    rw [bind_ok]
    refine ⟨m.insert (key y) (val y), insertAgreeing_ok.mpr ⟨?_, rfl⟩,
      insertAgreeing_ok.mpr ⟨?_, ?_⟩⟩
    · intro v hv
      by_cases hkey : key x = key y
      · have hval : val x = val y := hyagree _ (by rw [hkey]; exact getElem?_insert_same)
        rw [← hval]
        exact hxagree v (by rw [hkey]; exact hv)
      · exact hyagree v ((getElem?_insert_of_ne hkey).trans hv)
    · intro v hv
      by_cases hkey : key x = key y
      · have hval : val x = val y := hyagree _ (by rw [hkey]; exact getElem?_insert_same)
        rw [hkey, getElem?_insert_same, Option.some.injEq] at hv
        rw [← hv, hval]
      · rw [getElem?_insert_of_ne (Ne.symm hkey)] at hv
        exact hxagree v hv
    · by_cases hkey : key x = key y
      · have hval : val x = val y := hyagree _ (by rw [hkey]; exact getElem?_insert_same)
        rw [hkey, hval]
      · exact insert_comm hkey
  intro m x y t
  exact ⟨hhalf m x y t, hhalf m y x t⟩

/-- The map of agreeing elements holds the value of every element, and no other. -/
lemma foldlM_insertAgreeing {xs : List α}
    (h : xs.foldlM (insertAgreeing key val mismatch) ∅ = .ok m) (k : K) (v : V) :
    m[k]? = some v ↔ ∃ x ∈ xs, key x = k ∧ val x = v := by
  refine foldlM_ok_prefix_induction
    (fun done m => ∀ (k : K) (v : V), m[k]? = some v ↔ ∃ x ∈ done, key x = k ∧ val x = v)
    ?_ ?_ h k v
  · intro k v
    simp
  · intro done x m m' hm hstep k v
    obtain ⟨hagree, rfl⟩ := insertAgreeing_ok.mp hstep
    rw [getElem?_insert_iff, exists_mem_concat]
    by_cases hkey : key x = k
    · rw [if_pos hkey, Option.some.injEq]
      constructor
      · intro hval
        exact .inr ⟨hkey, hval⟩
      · intro hfound
        rcases hfound with ⟨y, hy, hykey, hyval⟩ | hnew
        · have hold : m[key x]? = some v := (hm _ _).mpr ⟨y, hy, hykey.trans hkey.symm, hyval⟩
          exact (hagree v hold).symm
        · exact hnew.2
    · rw [if_neg hkey, hm, or_iff_left fun hnew => hkey hnew.1]

lemma agree_of_foldlM_insertAgreeing {xs : List α}
    (h : xs.foldlM (insertAgreeing key val mismatch) ∅ = .ok m) {x y : α} (hx : x ∈ xs)
    (hy : y ∈ xs) (hkey : key x = key y) : val x = val y := by
  have hxval := (foldlM_insertAgreeing h (key x) (val x)).mpr ⟨x, hx, rfl, rfl⟩
  have hyval := (foldlM_insertAgreeing h (key y) (val y)).mpr ⟨y, hy, rfl, rfl⟩
  rw [hkey, hyval, Option.some.injEq] at hxval
  exact hxval.symm

/-! ## Elements of two keys, each pair of keys once -/

section

variable {K' : Type} [Ord K'] [Std.TransOrd K'] [Std.LawfulEqOrd K'] [DecidableEq K']
  {key' : α → K'} {duplicate : ε}

/-- Enter a value under a key and a second key that the first one does not have yet. -/
def insertNested (key : α → K) (key' : α → K') (val : α → V) (duplicate : ε)
    (m : BTreeMap K (BTreeMap K' V)) (x : α) : Except ε (BTreeMap K (BTreeMap K' V)) := do
  let inner := m.getD (key x) ∅
  failIf (key' x ∈ inner) duplicate
  return m.insert (key x) (inner.insert (key' x) (val x))

omit [DecidableEq K] [DecidableEq V] [DecidableEq K'] [Std.LawfulEqOrd K]
  [Std.LawfulEqOrd K'] in
lemma insertNested_ok {m m' : BTreeMap K (BTreeMap K' V)} {x : α} :
    insertNested key key' val duplicate m x = .ok m' ↔ key' x ∉ m.getD (key x) ∅ ∧
        m' = m.insert (key x) ((m.getD (key x) ∅).insert (key' x) (val x)) := by
  simp only [insertNested, bind_ok, failIf_ok, exists_const, pure_ok, eq_comm (b := m')]

variable {m : BTreeMap K (BTreeMap K' V)}

omit [DecidableEq V] [DecidableEq K'] [Std.TransOrd K'] [Std.LawfulEqOrd K'] in
lemma getD_insert {k k' : K} {inner : BTreeMap K' V} :
    (m.insert k inner).getD k' ∅ = if k = k' then inner else m.getD k' ∅ := by
  rw [getD_eq_getD_getElem?, getD_eq_getD_getElem?]
  by_cases hk : k = k'
  · subst hk
    rw [getElem?_insert_same, if_pos rfl, Option.getD_some]
  · rw [getElem?_insert_of_ne hk, if_neg hk]

omit [DecidableEq V] in
/-- Elements of two keys may be exchanged. -/
lemma exchangeable_insertNested :
    Exchangeable (insertNested (V := V) key key' val duplicate) := by
  have hhalf : ∀ (m : BTreeMap K (BTreeMap K' V)) (x y : α) (t : BTreeMap K (BTreeMap K' V)),
      (insertNested key key' val duplicate m x >>= fun m' =>
        insertNested key key' val duplicate m' y) = .ok t →
      (insertNested key key' val duplicate m y >>= fun m' =>
        insertNested key key' val duplicate m' x) = .ok t := by
    intro m x y t h
    rw [bind_ok] at h
    obtain ⟨m₁, hx, hy⟩ := h
    obtain ⟨hxnew, rfl⟩ := insertNested_ok.mp hx
    obtain ⟨hynew, rfl⟩ := insertNested_ok.mp hy
    rw [getD_insert] at hynew
    rw [bind_ok]
    refine ⟨_, insertNested_ok.mpr ⟨?_, rfl⟩, insertNested_ok.mpr ⟨?_, ?_⟩⟩
    · by_cases hkey : key x = key y
      · rw [if_pos hkey] at hynew
        rw [← hkey]
        intro hmem
        exact hynew (mem_insert.mpr (.inr hmem))
      · rw [if_neg hkey] at hynew
        exact hynew
    · rw [getD_insert]
      by_cases hkey : key x = key y
      · rw [if_pos hkey] at hynew
        rw [if_pos hkey.symm, ← hkey]
        intro hmem
        rcases mem_insert.mp hmem with heq | hmem
        · have hsame : key' y = key' x := Std.LawfulEqCmp.eq_of_compare heq
          rw [hsame] at hynew
          exact hynew mem_insert_self
        · exact hxnew hmem
      · rw [if_neg (Ne.symm hkey)]
        exact hxnew
    · rw [getD_insert, getD_insert]
      by_cases hkey : key x = key y
      · rw [if_pos hkey] at hynew ⊢
        rw [if_pos hkey.symm, ← hkey, insert_insert, insert_insert]
        have hne : key' x ≠ key' y := by
          intro heq
          rw [← heq] at hynew
          exact hynew mem_insert_self
        rw [insert_comm hne]
      · rw [if_neg hkey, if_neg (Ne.symm hkey), insert_comm hkey]
  intro m x y t
  exact ⟨hhalf m x y t, hhalf m y x t⟩

/-- A map of maps holds the elements of a list under their two keys. -/
structure Nests (key : α → K) (key' : α → K') (val : α → V) (xs : List α)
    (m : BTreeMap K (BTreeMap K' V)) : Prop where
  distinct : (xs.map fun x => (key x, key' x)).Nodup
  mem_iff : ∀ k : K, k ∈ m ↔ ∃ x ∈ xs, key x = k
  getElem?_iff : ∀ (k : K) (k' : K') (v : V),
    (m.getD k ∅)[k']? = some v ↔ ∃ x ∈ xs, key x = k ∧ key' x = k' ∧ val x = v

omit [DecidableEq V] in
/-- Entering a list makes the map of its elements, no two of one pair of keys. -/
lemma foldlM_insertNested {xs : List α}
    (h : xs.foldlM (insertNested key key' val duplicate) ∅ = .ok m) : Nests key key' val xs m := by
  refine foldlM_ok_prefix_induction (fun done m => Nests key key' val done m) ?_ ?_ h
  · refine ⟨nodup_nil, ?_, ?_⟩
    · intro k
      simp
    · intro k k' v
      simp
  · intro done x m m' hm hstep
    obtain ⟨hnew, rfl⟩ := insertNested_ok.mp hstep
    refine ⟨?_, ?_, ?_⟩
    · rw [map_append, nodup_append_comm]
      show ((key x, key' x) :: done.map fun x => (key x, key' x)).Nodup
      refine nodup_cons.mpr ⟨?_, hm.distinct⟩
      intro hmem
      obtain ⟨y, hy, heq⟩ := mem_map.mp hmem
      rw [Prod.mk.injEq] at heq
      apply hnew
      rw [mem_iff_getElem?]
      exact ⟨val y, (hm.getElem?_iff _ _ _).mpr ⟨y, hy, heq.1, heq.2, rfl⟩⟩
    · intro k
      rw [mem_insert, hm.mem_iff, exists_mem_concat, or_comm, Std.LawfulEqCmp.compare_eq_iff_eq]
    · intro k k' v
      rw [getD_insert, exists_mem_concat]
      by_cases hkey : key x = k
      · subst hkey
        rw [if_pos rfl, getElem?_insert_iff]
        by_cases hkey' : key' x = k'
        · rw [if_pos hkey', Option.some.injEq]
          constructor
          · intro hval
            exact .inr ⟨rfl, hkey', hval⟩
          · intro hfound
            rcases hfound with ⟨y, hy, hyk, hyk', hyval⟩ | hadded
            · have hold : key' x ∈ m.getD (key x) ∅ := by
                rw [mem_iff_getElem?]
                exact ⟨val y, (hm.getElem?_iff _ _ _).mpr ⟨y, hy, hyk, hyk'.trans hkey'.symm, rfl⟩⟩
              exact absurd hold hnew
            · exact hadded.2.2
        · rw [if_neg hkey', hm.getElem?_iff, or_iff_left fun hadded => hkey' hadded.2.1]
      · rw [if_neg hkey, hm.getElem?_iff, or_iff_left fun hadded => hkey hadded.1]

end

end BTreeMap

end Tidex.Lib
