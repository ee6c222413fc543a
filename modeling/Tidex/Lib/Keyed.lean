/-
  Lib.Keyed — a list entered into a map, each element under its own key.
-/
import Tidex.Lib.OrdMap

namespace Tidex.Lib.BTreeMap

open Std.ExtTreeMap

variable {K V ε : Type} [Ord K] [Std.TransOrd K] [Std.LawfulEqOrd K]

/-- A map holds the elements of a list, each under its key, which are distinct. -/
structure Keyed (key : V → K) (xs : List V) (m : BTreeMap K V) : Prop where
  distinct : (xs.map key).Nodup
  getElem?_iff : ∀ (k : K) (v : V), m[k]? = some v ↔ v ∈ xs ∧ key v = k

/-- A pass that enters a list under its keys succeeds exactly when the map is keyed by it. -/
lemma foldlM_insertEach_keyed [DecidableEq K] {key : V → K} {duplicate : ε} {xs : List V}
    {m : BTreeMap K V} : xs.foldlM (insertEach key id duplicate) ∅ = .ok m ↔ Keyed key xs m := by
  rw [foldlM_insertEach_ok]
  have hentry : ∀ (k : K) (v : V), (∃ x ∈ xs, key x = k ∧ id x = v) ↔ v ∈ xs ∧ key v = k := by
    intro k v
    constructor
    · intro h
      obtain ⟨x, hx, hk, rfl⟩ := h
      exact ⟨hx, hk⟩
    · intro h
      exact ⟨v, h.1, h.2, rfl⟩
  simp only [getElem?_empty, reduceCtorEq, false_or, hentry]
  constructor
  · intro h
    exact ⟨h.1, h.2.2⟩
  · intro h
    exact ⟨h.distinct, by simp, h.getElem?_iff⟩

namespace Keyed

variable {key : V → K} {xs : List V} {m : BTreeMap K V}

lemma mem_values (h : Keyed key xs m) {v : V} : v ∈ values m ↔ v ∈ xs := by
  rw [BTreeMap.mem_values]
  constructor
  · intro hfound
    obtain ⟨k, hv⟩ := hfound
    exact ((h.getElem?_iff k v).mp hv).1
  · intro hv
    exact ⟨key v, (h.getElem?_iff _ _).mpr ⟨hv, rfl⟩⟩

lemma distinct_values (h : Keyed key xs m) : ((values m).map key).Nodup :=
  nodup_map_values fun k v hv => ((h.getElem?_iff k v).mp hv).2

lemma values_perm (h : Keyed key xs m) : (values m).Perm xs := by
  have hvalues : (values m).Nodup := h.distinct_values.of_map
  have hlist : xs.Nodup := h.distinct.of_map
  rw [List.perm_ext_iff_of_nodup hvalues hlist]
  intro v
  exact h.mem_values

lemma size_eq (h : Keyed key xs m) : m.size = xs.length := by
  rw [← length_values, h.values_perm.length_eq]

lemma ascending (h : Keyed key xs m) :
    ((values m).map key).Pairwise fun a b => compare a b = .lt := by
  have hkeys : (values m).map key = m.keys := by
    rw [← map_fst_toList_eq_keys, values, List.map_map]
    apply List.map_congr_left
    intro entry hentry
    exact ((h.getElem?_iff entry.1 entry.2).mp (mem_toList_iff.mp hentry)).2
  rw [hkeys]
  exact ordered_keys

omit [Std.LawfulEqOrd K] in
lemma perm (h : Keyed key xs m) {ys : List V} (hperm : ys.Perm xs) : Keyed key ys m where
  distinct := (hperm.map _).nodup_iff.mpr h.distinct
  getElem?_iff := by
    intro k v
    rw [h.getElem?_iff, hperm.mem_iff]

end Keyed

end Tidex.Lib.BTreeMap
