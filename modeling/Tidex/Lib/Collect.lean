/-
  Lib.Collect — ordered maps collected from lists.
-/
import Tidex.Lib.Ascending

namespace Tidex.Lib

open List Std.ExtTreeMap BTreeMap

variable {α K V : Type} [Ord K] [Std.TransOrd K] [Std.LawfulEqOrd K]

def collect (key : α → K) (val : α → V) (xs : List α) : BTreeMap K V :=
  xs.foldl (fun m x => m.insert (key x) (val x)) ∅

variable {key : α → K} {val : α → V} {xs : List α}

lemma toList_foldl_insert_perm {m : BTreeMap K V} (hnew : ∀ x ∈ xs, key x ∉ m)
    (hnodup : (xs.map key).Nodup) : (xs.foldl (fun m x => m.insert (key x) (val x)) m).toList.Perm
      (xs.map (fun x => (key x, val x)) ++ m.toList) := by
  induction xs generalizing m with
  | nil => exact Perm.refl _
  | cons x xs ih =>
    rw [map_cons, nodup_cons] at hnodup
    rw [forall_mem_cons] at hnew
    have hrest : ∀ y ∈ xs, key y ∉ m.insert (key x) (val x) := by
      intro y hy hmem
      rw [mem_insert, Std.LawfulEqCmp.compare_eq_iff_eq] at hmem
      rcases hmem with heq | hmem
      · exact hnodup.1 (heq ▸ mem_map_of_mem hy)
      · exact hnew.2 y hy hmem
    have hone : (m.insert (key x) (val x)).toList.Perm ((key x, val x) :: m.toList) := by
      have hperm := toList_insert_perm m (key x) (val x)
      have habsent : m[key x]? = none := getElem?_eq_none hnew.1
      rwa [erase_of_getElem?_none habsent] at hperm
    rw [foldl_cons]
    refine (ih hrest hnodup.2).trans ?_
    refine (Perm.append_left _ hone).trans ?_
    exact perm_middle

/-- Without repeated keys the entries are the elements. -/
lemma toList_collect_perm (hnodup : (xs.map key).Nodup) :
    (collect key val xs).toList.Perm (xs.map fun x => (key x, val x)) := by
  have hfold : (collect key val xs).toList.Perm _ :=
    toList_foldl_insert_perm (fun x _ => not_mem_empty) hnodup
  have hempty : (∅ : BTreeMap K V).toList = [] := rfl
  rwa [hempty, append_nil] at hfold

/-- A lookup finds the element of its key. -/
lemma getElem?_collect (hnodup : (xs.map key).Nodup) {k : K} {v : V} :
    (collect key val xs)[k]? = some v ↔ ∃ x ∈ xs, key x = k ∧ val x = v := by
  rw [← mem_toList_iff (p := (k, v)), (toList_collect_perm hnodup).mem_iff, mem_map]
  simp only [Prod.mk.injEq]

lemma getElem?_collect_of_mem (hnodup : (xs.map key).Nodup) {x : α} (hx : x ∈ xs) :
    (collect key val xs)[key x]? = some (val x) :=
  (getElem?_collect hnodup).mpr ⟨x, hx, rfl, rfl⟩

/-- Elements in the order of their keys are the entries of their map. -/
lemma toList_collect (hsorted : xs.Pairwise fun a b => compare (key a) (key b) = .lt) :
    (collect key val xs).toList = xs.map fun x => (key x, val x) := by
  have hmap : Ascending Prod.fst (xs.map fun x => (key x, val x)) := pairwise_map.mpr hsorted
  apply eq_of_ascending ordered_keys_toList hmap
  intro entry
  rw [(toList_collect_perm (nodup_of_ascending hsorted)).mem_iff]

lemma collect_toList (m : BTreeMap K V) : collect Prod.fst Prod.snd m.toList = m := by
  refine toList_inj.mp ?_
  have hlist : (collect Prod.fst Prod.snd m.toList).toList = m.toList.map fun x => (x.1, x.2) :=
    toList_collect ordered_keys_toList
  rw [hlist]
  exact map_id _

lemma toList_insert_empty (k : K) : ((∅ : BTreeSet K).insert k).toList = [k] := by
  refine perm_singleton.mp ?_
  rw [perm_ext_iff_of_nodup (BTreeSet.nodup_toList _) (nodup_singleton k)]
  intro other
  rw [Std.ExtTreeSet.mem_toList, BTreeSet.mem_insert_iff, mem_singleton]
  simp

end Tidex.Lib
