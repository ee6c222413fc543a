/-
  Analysis.Persistence — what a topology report says of its points.
-/
import Tidex.Analysis.Topology
import Tidex.Lib.SortedCount

namespace Tidex.Analysis

open Tidex.Lib Tidex.Lib.UnionFind List Function

/-! ## Lengths -/

section

variable {n : Nat}

/-- Distances of points: the same both ways, and nothing from a point to itself. -/
structure Lengths (dist : Fin n → Fin n → ℝ) : Prop where
  symm : ∀ i j, dist i j = dist j i
  self : ∀ i, dist i i = 0
  nonneg : ∀ i j, 0 ≤ dist i j

lemma pairDistance_comm (left right : List ℝ) :
    pairDistance left right = pairDistance right left := by
  unfold pairDistance
  rw [zipWith_comm]
  congr 3
  funext a b
  ring

lemma pairDistance_self (point : List ℝ) : pairDistance point point = 0 := by
  have hzero : (zipWith (fun left right : ℝ => (left - right) * (left - right))
      point point).sum = 0 := by
    induction point with
    | nil => rfl
    | cons x point ih =>
      rw [zipWith_cons_cons, sum_cons, ih]
      ring
  unfold pairDistance
  rw [exact_sqrt, sumFrom_exact, hzero, add_zero, Real.sqrt_zero]

lemma lengths_pointDistances (points : List (List ℝ)) : Lengths (pointDistances points) :=
  ⟨fun _ _ => pairDistance_comm _ _, fun _ => pairDistance_self _, fun _ _ => Real.sqrt_nonneg _⟩

variable {dist : Fin n → Fin n → ℝ}

lemma Lengths.comp (h : Lengths dist) (σ : Equiv.Perm (Fin n)) :
    Lengths fun i j => dist (σ i) (σ j) :=
  ⟨fun _ _ => h.symm _ _, fun _ => h.self _, fun _ _ => h.nonneg _ _⟩

lemma thresholdGraph_adj (h : Lengths dist) (v : ℝ) (i j : Fin n) :
    (thresholdGraph dist v).Adj i j ↔ i ≠ j ∧ dist i j ≤ v := by
  unfold thresholdGraph
  rw [SimpleGraph.fromRel_adj, exact_le, exact_le, h.symm j i]
  constructor
  · intro hadj
    exact ⟨hadj.1, hadj.2.elim And.right And.right⟩
  · intro hadj
    rcases lt_or_gt_of_ne hadj.1 with hlt | hgt
    · exact ⟨hadj.1, .inl ⟨hlt, hadj.2⟩⟩
    · exact ⟨hadj.1, .inr ⟨hgt, hadj.2⟩⟩

/-- Points in another order have the same graph under other names. -/
def thresholdIso (h : Lengths dist) (σ : Equiv.Perm (Fin n)) (v : ℝ) :
    thresholdGraph (fun i j => dist (σ i) (σ j)) v ≃g thresholdGraph dist v where
  toEquiv := σ
  map_rel_iff' := by
    intro i j
    rw [thresholdGraph_adj h, thresholdGraph_adj (h.comp σ), ne_eq, ne_eq,
      EmbeddingLike.apply_eq_iff_eq]

lemma components_comp (h : Lengths dist) (σ : Equiv.Perm (Fin n)) (v : ℝ) :
    components (thresholdGraph (fun i j => dist (σ i) (σ j)) v) =
      components (thresholdGraph dist v) :=
  components_iso (thresholdIso h σ v)

lemma card_edgeSet_comp (h : Lengths dist) (σ : Equiv.Perm (Fin n)) (v : ℝ) :
    Nat.card (thresholdGraph (fun i j => dist (σ i) (σ j)) v).edgeSet =
      Nat.card (thresholdGraph dist v).edgeSet :=
  Nat.card_congr (thresholdIso h σ v).mapEdgeSet

/-! ## Pairs and triples in another order -/

lemma vertexPairs_perm (σ : Equiv.Perm (Fin n)) :
    ((vertexPairs n).map fun e => s(σ e.1, σ e.2)).Perm
      ((vertexPairs n).map fun e => s(e.1, e.2)) := by
  have hmem : ∀ i j : Fin n, s(i, j) ∈ (vertexPairs n).map (fun e => s(e.1, e.2)) ↔ i ≠ j := by
    intro i j
    rw [mem_map]
    constructor
    · intro h
      obtain ⟨e, he, heq⟩ := h
      have hne := (mem_vertexPairs.mp he).ne
      rw [Sym2.eq_iff] at heq
      rcases heq with ⟨rfl, rfl⟩ | ⟨rfl, rfl⟩
      · exact hne
      · exact hne.symm
    · intro hne
      rcases lt_or_gt_of_ne hne with hlt | hgt
      · exact ⟨(i, j), mem_vertexPairs.mpr hlt, rfl⟩
      · exact ⟨(j, i), mem_vertexPairs.mpr hgt, Sym2.eq_swap⟩
  have hmap : ((vertexPairs n).map fun e => s(σ e.1, σ e.2)) =
      ((vertexPairs n).map fun e => s(e.1, e.2)).map (Sym2.map σ) := by
    rw [map_map]
    rfl
  rw [hmap, perm_ext_iff_of_nodup
    (vertexPairs_simple.1.map (Sym2.map.injective σ.injective)) vertexPairs_simple.1]
  intro z
  induction z using Sym2.ind with
  | h i j =>
    have hback : s(i, j) = Sym2.map σ s(σ.symm i, σ.symm j) := by
      rw [Sym2.map_mk]
      simp
    rw [hback, mem_map_of_injective (Sym2.map.injective σ.injective), hmem, ← hback, hmem,
      ne_eq, ne_eq, EmbeddingLike.apply_eq_iff_eq]

/-- The values of a symmetric function on pairs do not depend on the order of the points. -/
lemma pairs_map_perm {β : Type} (σ : Equiv.Perm (Fin n)) (f : Fin n → Fin n → β)
    (hf : ∀ i j, f i j = f j i) : ((vertexPairs n).map fun e => f (σ e.1) (σ e.2)).Perm
      ((vertexPairs n).map fun e => f e.1 e.2) := by
  have hlift := (vertexPairs_perm σ).map (Sym2.lift ⟨f, hf⟩)
  rw [map_map, map_map] at hlift
  exact hlift

lemma mem_vertexTriples {t : Fin n × Fin n × Fin n} :
    t ∈ vertexTriples n ↔ t.1 < t.2.1 ∧ t.2.1 < t.2.2 := by
  obtain ⟨i, j, k⟩ := t
  unfold vertexTriples
  rw [mem_flatMap]
  constructor
  · intro h
    obtain ⟨e, he, hk⟩ := h
    obtain ⟨k', hk', heq⟩ := mem_map.mp hk
    rw [mem_filter, decide_eq_true_iff] at hk'
    cases heq
    exact ⟨mem_vertexPairs.mp he, hk'.2⟩
  · intro h
    refine ⟨(i, j), mem_vertexPairs.mpr h.1, mem_map.mpr ⟨k, ?_, rfl⟩⟩
    rw [mem_filter, decide_eq_true_iff]
    exact ⟨mem_finRange k, h.2⟩

lemma vertexPairs_nodup : (vertexPairs n).Nodup :=
  Nodup.of_map _ vertexPairs_simple.1

lemma vertexTriples_nodup : (vertexTriples n).Nodup := by
  unfold vertexTriples
  rw [nodup_flatMap]
  refine ⟨?_, ?_⟩
  · intro e _
    exact ((nodup_finRange n).filter _).map fun a b h => (Prod.mk.inj (Prod.mk.inj h).2).2
  · refine vertexPairs_nodup.imp ?_
    intro a b hab t hta htb
    obtain ⟨x, -, rfl⟩ := mem_map.mp hta
    obtain ⟨y, -, heq⟩ := mem_map.mp htb
    have h1 := Prod.mk.inj heq
    exact hab (Prod.ext h1.1.symm (Prod.mk.inj h1.2).1.symm)

def tripleSet (t : Fin n × Fin n × Fin n) : Finset (Fin n) := [t.1, t.2.1, t.2.2].toFinset

lemma tripleSet_sort {t : Fin n × Fin n × Fin n} (h : t ∈ vertexTriples n) :
    (tripleSet t).sort (· ≤ ·) = [t.1, t.2.1, t.2.2] := by
  obtain ⟨h1, h2⟩ := mem_vertexTriples.mp h
  have h3 := h1.trans h2
  have hnodup : [t.1, t.2.1, t.2.2].Nodup := by
    simp [h1.ne, h2.ne, h3.ne]
  unfold tripleSet
  rw [toFinset_sort _ hnodup]
  simp [h1.le, h2.le, h3.le]

lemma mem_tripleSets {s : Finset (Fin n)} : s ∈ (vertexTriples n).map tripleSet ↔ s.card = 3 := by
  rw [mem_map]
  constructor
  · intro h
    obtain ⟨t, ht, rfl⟩ := h
    rw [← Finset.length_sort (· ≤ ·), tripleSet_sort ht]
    rfl
  · intro h
    have hlength : (s.sort (· ≤ ·)).length = 3 := by rw [Finset.length_sort, h]
    obtain ⟨i, j, k, hsort⟩ := length_eq_three.mp hlength
    have hle := s.pairwise_sort (· ≤ ·)
    have hne := s.sort_nodup (· ≤ ·)
    rw [hsort] at hle hne
    simp only [pairwise_cons, nodup_cons, mem_cons, not_mem_nil, or_false, not_or] at hle hne
    refine ⟨(i, j, k), mem_vertexTriples.mpr ⟨?_, ?_⟩, ?_⟩
    · exact lt_of_le_of_ne (hle.1 j (.inl rfl)) hne.1.1
    · exact lt_of_le_of_ne (hle.2.1 k rfl) hne.2.1
    · unfold tripleSet
      rw [← hsort, Finset.sort_toFinset]

lemma tripleSets_nodup : ((vertexTriples n).map tripleSet).Nodup := by
  refine vertexTriples_nodup.map_on ?_
  intro t ht t' ht' heq
  have hsort := tripleSet_sort ht
  rw [heq, tripleSet_sort ht'] at hsort
  simp only [cons.injEq, and_true] at hsort
  exact Prod.ext hsort.1.symm (Prod.ext hsort.2.1.symm hsort.2.2.symm)

lemma vertexTriples_perm (σ : Equiv.Perm (Fin n)) :
    ((vertexTriples n).map fun t => (tripleSet t).image σ).Perm
      ((vertexTriples n).map tripleSet) := by
  have hinjective : Injective fun s : Finset (Fin n) => s.image σ :=
    Finset.image_injective σ.injective
  have hmap : ((vertexTriples n).map fun t => (tripleSet t).image σ) =
      ((vertexTriples n).map tripleSet).map fun s => s.image σ := by
    rw [map_map]
    rfl
  rw [hmap, perm_ext_iff_of_nodup (tripleSets_nodup.map hinjective) tripleSets_nodup]
  intro s
  have hback : s = (s.image σ.symm).image σ := by
    rw [Finset.image_image]
    simp
  rw [hback, mem_map_of_injective hinjective, mem_tripleSets, ← hback, mem_tripleSets,
    Finset.card_image_of_injective s σ.symm.injective]

/-- The largest distance within a set of points. -/
noncomputable def diameter (dist : Fin n → Fin n → ℝ) (s : Finset (Fin n)) : ℝ :=
  (s ×ˢ s).fold max 0 fun p => dist p.1 p.2

lemma diameter_triple (h : Lengths dist) (i j k : Fin n) :
    max (max (dist i j) (dist j k)) (dist i k) = diameter dist [i, j, k].toFinset := by
  refine eq_of_forall_ge_iff ?_
  intro v
  unfold diameter
  rw [Finset.fold_max_le, max_le_iff, max_le_iff]
  constructor
  · intro hle
    have hzero : 0 ≤ v := le_trans (h.nonneg i j) hle.1.1
    refine ⟨hzero, ?_⟩
    intro p hp
    obtain ⟨a, b⟩ := p
    rw [Finset.mem_product, mem_toFinset, mem_toFinset] at hp
    simp only [mem_cons, not_mem_nil, or_false] at hp
    show dist a b ≤ v
    rcases hp with ⟨rfl | rfl | rfl, rfl | rfl | rfl⟩
    · rwa [h.self]
    · exact hle.1.1
    · exact hle.2
    · rw [h.symm]
      exact hle.1.1
    · rwa [h.self]
    · exact hle.1.2
    · rw [h.symm]
      exact hle.2
    · rw [h.symm]
      exact hle.1.2
    · rwa [h.self]
  · intro hall
    have hpair : ∀ a b, a ∈ [i, j, k] → b ∈ [i, j, k] → dist a b ≤ v := by
      intro a b ha hb
      exact hall.2 (a, b) (Finset.mem_product.mpr ⟨mem_toFinset.mpr ha,
        mem_toFinset.mpr hb⟩)
    exact ⟨⟨hpair i j (by simp) (by simp), hpair j k (by simp) (by simp)⟩,
      hpair i k (by simp) (by simp)⟩

lemma triples_map_perm (h : Lengths dist) (σ : Equiv.Perm (Fin n)) :
    ((vertexTriples n).map fun t => max (max (dist (σ t.1) (σ t.2.1)) (dist (σ t.2.1) (σ t.2.2)))
        (dist (σ t.1) (σ t.2.2))).Perm ((vertexTriples n).map fun t =>
        max (max (dist t.1 t.2.1) (dist t.2.1 t.2.2)) (dist t.1 t.2.2)) := by
  have hdiameter := (vertexTriples_perm σ).map (diameter dist)
  rw [map_map, map_map] at hdiameter
  have hright : (fun t : Fin n × Fin n × Fin n =>
      max (max (dist t.1 t.2.1) (dist t.2.1 t.2.2)) (dist t.1 t.2.2)) =
      diameter dist ∘ tripleSet := by
    funext t
    exact diameter_triple h t.1 t.2.1 t.2.2
  have hleft : (fun t : Fin n × Fin n × Fin n =>
      max (max (dist (σ t.1) (σ t.2.1)) (dist (σ t.2.1) (σ t.2.2))) (dist (σ t.1) (σ t.2.2))) =
      diameter dist ∘ fun t => (tripleSet t).image σ := by
    funext t
    have himage : (tripleSet t).image σ = [σ t.1, σ t.2.1, σ t.2.2].toFinset := by
      unfold tripleSet
      simp [Finset.image_insert]
    show _ = diameter dist ((tripleSet t).image σ)
    rw [himage]
    exact diameter_triple h (σ t.1) (σ t.2.1) (σ t.2.2)
  rw [hleft, hright]
  exact hdiameter

/-! ## Events in order -/

/-- Events are ordered by length and then by type. -/
def eventKey : FiltrationEvent n ℝ → ℝ ×ₗ Bool
  | .edge d _ _ => toLex (d, false)
  | .triangle d => toLex (d, true)

lemma notAfter_iff (a b : FiltrationEvent n ℝ) :
    FiltrationEvent.notAfter a b = true ↔ eventKey a ≤ eventKey b := by
  have hkey : ∀ event : FiltrationEvent n ℝ,
      eventKey event = toLex (event.dist, decide (event.evType = 1)) := by
    intro event
    cases event <;> rfl
  have htype : a.evType ≤ b.evType ↔ decide (a.evType = 1) ≤ decide (b.evType = 1) := by
    cases a <;> cases b <;> simp [FiltrationEvent.evType]
  rw [hkey, hkey, Prod.Lex.toLex_le_toLex]
  unfold FiltrationEvent.notAfter
  by_cases hlt : a.dist < b.dist
  · rw [if_pos (exact_lt _ _ |>.mpr hlt)]
    exact ⟨fun _ => .inl hlt, fun _ => rfl⟩
  · rw [if_neg (fun h => hlt ((exact_lt _ _).mp h))]
    by_cases hgt : b.dist < a.dist
    · rw [if_pos (exact_lt _ _ |>.mpr hgt)]
      constructor
      · intro h
        cases h
      · intro h
        rcases h with h | h
        · exact absurd h hlt
        · exact absurd h.1 (ne_of_gt hgt)
    · rw [if_neg (fun h => hgt ((exact_lt _ _).mp h)), decide_eq_true_iff, htype]
      have heq : a.dist = b.dist := le_antisymm (not_lt.mp hgt) (not_lt.mp hlt)
      exact ⟨fun h => .inr ⟨heq, h⟩, fun h => h.elim (fun h => absurd h hlt) And.right⟩

lemma filtered_perm (dist : Fin n → Fin n → ℝ) : (filtered dist).Perm (filtration dist) :=
  mergeSort_perm _ _

lemma filtered_pairwise (dist : Fin n → Fin n → ℝ) :
    ((filtered dist).map eventKey).Pairwise (· ≤ ·) := by
  rw [pairwise_map]
  have hsorted : (filtered dist).Pairwise fun a b => FiltrationEvent.notAfter a b = true := by
    refine pairwise_mergeSort ?_ ?_ _
    · intro a b c hab hbc
      rw [notAfter_iff] at hab hbc ⊢
      exact le_trans hab hbc
    · intro a b
      rw [Bool.or_eq_true, notAfter_iff, notAfter_iff]
      exact le_total _ _
  exact hsorted.imp fun hab => (notAfter_iff _ _).mp hab

lemma filtration_keys_perm (h : Lengths dist) (σ : Equiv.Perm (Fin n)) :
    ((filtration fun i j => dist (σ i) (σ j)).map eventKey).Perm
      ((filtration dist).map eventKey) := by
  unfold filtration
  rw [map_append, map_append, map_map, map_map, map_map, map_map]
  refine Perm.append ?_ ?_
  · exact pairs_map_perm σ (fun i j => toLex (dist i j, false)) fun i j => by rw [h.symm]
  · have hmap := (triples_map_perm h σ).map fun d => toLex (d, true)
    rw [map_map, map_map] at hmap
    exact hmap

def ends : FiltrationEvent n ℝ → Option (Fin n × Fin n)
  | .edge _ i j => some (i, j)
  | .triangle _ => none

/-- The pairs among events, in order. -/
def edgesOf (events : List (FiltrationEvent n ℝ)) : List (Fin n × Fin n) := events.filterMap ends

def Measured (dist : Fin n → Fin n → ℝ) (event : FiltrationEvent n ℝ) : Prop :=
  ∀ d i j, event = .edge d i j → d = dist i j

lemma filtered_measured (dist : Fin n → Fin n → ℝ) : ∀ event ∈ filtered dist,
    Measured dist event := by
  intro event hevent d i j heq
  have hmem := (filtered_perm dist).mem_iff.mp hevent
  subst heq
  unfold filtration at hmem
  rcases mem_append.mp hmem with hmem | hmem
  · obtain ⟨e, -, heq⟩ := mem_map.mp hmem
    cases heq
    rfl
  · obtain ⟨t, -, heq⟩ := mem_map.mp hmem
    cases heq

lemma edgesOf_filtered_perm (dist : Fin n → Fin n → ℝ) :
    (edgesOf (filtered dist)).Perm (vertexPairs n) := by
  have hperm := (filtered_perm dist).filterMap ends
  have hedges : (filtration dist).filterMap ends = vertexPairs n := by
    unfold filtration
    rw [filterMap_append, filterMap_map, filterMap_map]
    have hpairs : (ends ∘ fun e : Fin n × Fin n =>
        (FiltrationEvent.edge (dist e.1 e.2) e.1 e.2 : FiltrationEvent n ℝ)) = some := by
      funext e
      rfl
    rw [hpairs, filterMap_some]
    have htriples : ((vertexTriples n).filterMap (ends ∘ fun t => (FiltrationEvent.triangle
        (Scalar.max (Scalar.max (dist t.1 t.2.1) (dist t.2.1 t.2.2)) (dist t.1 t.2.2)) :
          FiltrationEvent n ℝ))) = [] := by
      rw [filterMap_eq_nil_iff]
      intro t _
      rfl
    rw [htriples, append_nil]
  rw [hedges] at hperm
  exact hperm

lemma edgesOf_filtered_simple (dist : Fin n → Fin n → ℝ) :
    Simple ⊥ (edgesOf (filtered dist)) := by
  have hperm := edgesOf_filtered_perm dist
  refine ⟨(hperm.map _).nodup_iff.mpr vertexPairs_simple.1, ?_⟩
  intro e he
  exact vertexPairs_simple.2 e (hperm.mem_iff.mp he)

variable {events : List (FiltrationEvent n ℝ)}

lemma deaths_eq {G : SimpleGraph (Fin n)} (h : ∀ event ∈ events, Measured dist event) :
    deaths G events = (joining G (edgesOf events)).map fun e => dist e.1 e.2 := by
  induction events generalizing G with
  | nil => rfl
  | cons event events ih =>
    have hrest : ∀ event ∈ events, Measured dist event :=
      fun event hmem => h event (mem_cons_of_mem _ hmem)
    cases event with
    | edge d i j =>
      have hlength := h _ mem_cons_self d i j rfl
      have hedges : edgesOf (.edge d i j :: events) = (i, j) :: edgesOf events := rfl
      rw [hedges]
      by_cases hreach : G.Reachable i j
      · have hdeaths : deaths G (.edge d i j :: events) =
            deaths (G ⊔ SimpleGraph.edge i j) events := if_pos hreach
        rw [hdeaths, joining_of_reachable hreach, ih hrest]
      · have hdeaths : deaths G (.edge d i j :: events) =
            d :: deaths (G ⊔ SimpleGraph.edge i j) events := if_neg hreach
        rw [hdeaths, joining_of_not_reachable hreach, ih hrest, map_cons, hlength]
    | triangle d => exact ih hrest

lemma edgesOf_sublist (h : ∀ event ∈ events, Measured dist event) :
    ((edgesOf events).map fun e => toLex (dist e.1 e.2, false)).Sublist (events.map eventKey) := by
  induction events with
  | nil => exact Sublist.refl _
  | cons event events ih =>
    have hrest := ih fun event hmem => h event (mem_cons_of_mem _ hmem)
    cases event with
    | edge d i j =>
      have hlength := h _ mem_cons_self d i j rfl
      have hkey : eventKey (.edge d i j : FiltrationEvent n ℝ) = toLex (dist i j, false) := by
        rw [← hlength]
        rfl
      rw [map_cons, hkey]
      exact hrest.cons_cons _
    | triangle d => exact hrest.cons _

lemma edgesOf_filtered_pairwise (dist : Fin n → Fin n → ℝ) :
    ((edgesOf (filtered dist)).map fun e => dist e.1 e.2).Pairwise (· ≤ ·) := by
  have hsorted := (filtered_pairwise dist).sublist (edgesOf_sublist (filtered_measured dist))
  rw [pairwise_map] at hsorted ⊢
  refine hsorted.imp ?_
  intro a b hab
  rw [Prod.Lex.toLex_le_toLex] at hab
  rcases hab with hlt | heq
  · exact le_of_lt hlt
  · exact le_of_eq heq.1

/-! ## Deaths -/

lemma withEdges_short (h : Lengths dist) (v : ℝ) :
    withEdges ⊥ ((edgesOf (filtered dist)).filter fun e => decide (dist e.1 e.2 ≤ v)) =
      thresholdGraph dist v := by
  ext i j
  have hmem : ∀ a b : Fin n, (a, b) ∈ (edgesOf (filtered dist)).filter
      (fun e => decide (dist e.1 e.2 ≤ v)) ↔ a < b ∧ dist a b ≤ v := by
    intro a b
    rw [mem_filter, (edgesOf_filtered_perm dist).mem_iff, mem_vertexPairs, decide_eq_true_iff]
  rw [thresholdGraph_adj h, withEdges_adj, hmem, hmem, h.symm j i]
  constructor
  · intro hadj
    rcases hadj with hbot | ⟨hlt | hlt, hne⟩
    · exact absurd hbot id
    · exact ⟨hne, hlt.2⟩
    · exact ⟨hne, hlt.2⟩
  · intro hadj
    refine .inr ⟨?_, hadj.1⟩
    rcases lt_or_gt_of_ne hadj.1 with hlt | hgt
    · exact .inl ⟨hlt, hadj.2⟩
    · exact .inr ⟨hgt, hadj.2⟩

/-- As many deaths are at most a bound as there are components fewer than points. -/
lemma countLe_deaths (h : Lengths dist) (v : ℝ) :
    countLe v (deaths ⊥ (filtered dist)) + components (thresholdGraph dist v) = n := by
  rw [deaths_eq (filtered_measured dist), ← withEdges_short h v]
  have hsplit := filter_append_filter_of_sorted (f := fun e : Fin n × Fin n => dist e.1 e.2) v
    (edgesOf_filtered_pairwise dist)
  have hshort := length_joining (G := ⊥)
    ((edgesOf (filtered dist)).filter fun e => decide (dist e.1 e.2 ≤ v))
  rw [components_bot, Nat.card_eq_fintype_card, Fintype.card_fin] at hshort
  have hcount : countLe v ((joining ⊥ (edgesOf (filtered dist))).map fun e => dist e.1 e.2) =
      (joining ⊥ ((edgesOf (filtered dist)).filter fun e => decide (dist e.1 e.2 ≤ v))).length := by
    rw [hsplit, joining_append, ← hsplit]
    unfold countLe
    rw [countP_map, countP_append]
    have hall : countP ((fun x => decide (x ≤ v)) ∘ fun e : Fin n × Fin n => dist e.1 e.2)
        (joining ⊥ ((edgesOf (filtered dist)).filter fun e => decide (dist e.1 e.2 ≤ v))) =
        (joining ⊥ ((edgesOf (filtered dist)).filter fun e => decide (dist e.1 e.2 ≤ v))).length := by
      rw [countP_eq_length]
      intro e he
      exact (mem_filter.mp ((joining_sublist _).subset he)).2
    rw [hall, Nat.add_eq_left, countP_eq_zero]
    intro e he hle
    have hlong := (mem_filter.mp ((joining_sublist _).subset he)).2
    rw [Bool.not_eq_true'] at hlong
    rw [comp_apply, hlong] at hle
    cases hle
  rw [hcount]
  exact hshort

lemma deaths_pairwise (dist : Fin n → Fin n → ℝ) :
    (deaths ⊥ (filtered dist)).Pairwise (· ≤ ·) := by
  rw [deaths_eq (filtered_measured dist)]
  exact (edgesOf_filtered_pairwise dist).sublist ((joining_sublist _).map _)

lemma withEdges_filtered (dist : Fin n → Fin n → ℝ) :
    withEdges ⊥ (edgesOf (filtered dist)) = ⊤ := by
  ext i j
  rw [withEdges_adj, (edgesOf_filtered_perm dist).mem_iff, (edgesOf_filtered_perm dist).mem_iff,
    mem_vertexPairs, mem_vertexPairs, SimpleGraph.top_adj]
  constructor
  · intro hadj
    rcases hadj with hbot | hadj
    · exact absurd hbot id
    · exact hadj.2
  · intro hne
    exact .inr ⟨lt_or_gt_of_ne hne, hne⟩

lemma length_deaths [Nonempty (Fin n)] (dist : Fin n → Fin n → ℝ) :
    (deaths ⊥ (filtered dist)).length + 1 = n := by
  have hjoin := length_joining (G := ⊥) (edgesOf (filtered dist))
  rw [withEdges_filtered, components_of_connected SimpleGraph.connected_top, components_bot,
    Nat.card_eq_fintype_card, Fintype.card_fin] at hjoin
  rw [deaths_eq (filtered_measured dist), length_map]
  exact hjoin

/-! ## Spanning trees -/

def edgeLength (h : Lengths dist) : Sym2 (Fin n) → ℝ := Sym2.lift ⟨dist, h.symm⟩

noncomputable def edgeLengths (h : Lengths dist) (G : SimpleGraph (Fin n)) : Multiset ℝ :=
  (Set.toFinite G.edgeSet).toFinset.val.map (edgeLength h)

lemma edgeLengths_withEdges (h : Lengths dist) {es : List (Fin n × Fin n)}
    (hsimple : Simple ⊥ es) :
    edgeLengths h (withEdges ⊥ es) = ((es.map fun e => dist e.1 e.2 : List ℝ) : Multiset ℝ) := by
  have hset : (Set.toFinite (withEdges ⊥ es).edgeSet).toFinset =
      (es.map fun e => s(e.1, e.2)).toFinset := by
    ext z
    rw [Set.Finite.mem_toFinset, mem_edgeSet_withEdges hsimple, mem_toFinset]
  unfold edgeLengths
  rw [hset, toFinset_val, dedup_eq_self.mpr hsimple.1, Multiset.map_coe, map_map]
  rfl

/-- The edges of a graph without cycles, up to a length, are at most the deaths up to it. -/
lemma countLe_acyclic (h : Lengths dist) {es : List (Fin n × Fin n)} (hsimple : Simple ⊥ es)
    (hacyclic : (withEdges ⊥ es).IsAcyclic) (v : ℝ) :
    countLe v (es.map fun e => dist e.1 e.2) ≤ countLe v (deaths ⊥ (filtered dist)) := by
  have hsub : (es.filter fun e => decide (dist e.1 e.2 ≤ v)).Sublist es := filter_sublist
  have hless : withEdges ⊥ (es.filter fun e => decide (dist e.1 e.2 ≤ v)) ≤ withEdges ⊥ es := by
    intro i j hadj
    rw [withEdges_adj] at hadj ⊢
    exact hadj.imp_right fun hmem => ⟨hmem.1.imp (hsub.subset ·) (hsub.subset ·), hmem.2⟩
  have hbelow : withEdges ⊥ (es.filter fun e => decide (dist e.1 e.2 ≤ v)) ≤
      thresholdGraph dist v := by
    intro i j hadj
    rw [withEdges_adj] at hadj
    rw [thresholdGraph_adj h]
    rcases hadj with hbot | ⟨hmem | hmem, hne⟩
    · exact absurd hbot id
    · exact ⟨hne, by simpa using (mem_filter.mp hmem).2⟩
    · refine ⟨hne, ?_⟩
      rw [h.symm]
      simpa using (mem_filter.mp hmem).2
  have hcard := (isAcyclic_iff_card _).mp (hacyclic.anti hless)
  have hcomponents := SimpleGraph.ConnectedComponent.card_le_card_of_le hbelow
  have hdeaths := countLe_deaths h v
  have hcount : countLe v (es.map fun e => dist e.1 e.2) =
      (es.filter fun e => decide (dist e.1 e.2 ≤ v)).length := by
    unfold countLe
    rw [countP_map, countP_eq_length_filter]
    rfl
  rw [card_edgeSet_withEdges (hsimple.sublist hsub), Nat.card_eq_fintype_card,
    Fintype.card_fin] at hcard
  rw [hcount]
  unfold components at hcard hdeaths
  omega

lemma deaths_spanning_tree [Nonempty (Fin n)] (h : Lengths dist) :
    ∃ T : SimpleGraph (Fin n), T.IsTree ∧
      edgeLengths h T = ((deaths ⊥ (filtered dist) : List ℝ) : Multiset ℝ) ∧
      ∀ T' : SimpleGraph (Fin n), T'.IsTree → (edgeLengths h T).sum ≤ (edgeLengths h T').sum := by
  have hsimple : Simple ⊥ (joining ⊥ (edgesOf (filtered dist))) :=
    (edgesOf_filtered_simple dist).sublist (joining_sublist _)
  have hlengths := edgeLengths_withEdges h hsimple
  rw [← deaths_eq (filtered_measured dist)] at hlengths
  have hacyclic := isAcyclic_joining (edgesOf (filtered dist)) (G := ⊥) rfl
    SimpleGraph.isAcyclic_bot
  have hconnected : (withEdges ⊥ (joining ⊥ (edgesOf (filtered dist)))).Connected := by
    have hreach := reachable_joining (edgesOf (filtered dist)) (G := ⊥) rfl
    rw [withEdges_filtered] at hreach
    refine ⟨?_⟩
    intro i j
    rw [hreach]
    exact SimpleGraph.connected_top.preconnected i j
  refine ⟨_, ⟨hconnected, hacyclic⟩, hlengths, ?_⟩
  intro T' hT'
  obtain ⟨es, hes, rfl⟩ := exists_edge_list T'
  rw [hlengths, edgeLengths_withEdges h hes, Multiset.sum_coe, Multiset.sum_coe]
  refine sum_le_of_countP ?_ fun v => countLe_acyclic h hes hT'.isAcyclic v
  have hcard := (isAcyclic_iff_card _).mp hT'.isAcyclic
  rw [card_edgeSet_withEdges hes, components_of_connected hT'.connected, Nat.card_eq_fintype_card,
    Fintype.card_fin] at hcard
  have hdeaths := length_deaths dist
  rw [length_map]
  omega

/-! ## Births and deaths -/

/-- A cycle that opens, or a triple, in the order of events. -/
def cycleKey (c : Bool × ℝ) : ℝ ×ₗ Bool := toLex (c.2, c.1)

lemma cycleKey_injective : Injective cycleKey := by
  intro a b hab
  have heq : (a.2, a.1) = (b.2, b.1) := hab
  exact Prod.ext (Prod.mk.inj heq).2 (Prod.mk.inj heq).1

lemma cycles_sublist (events : List (FiltrationEvent n ℝ)) (G : SimpleGraph (Fin n)) :
    ((cycles G events).map cycleKey).Sublist (events.map eventKey) := by
  induction events generalizing G with
  | nil => exact Sublist.refl _
  | cons event events ih =>
    cases event with
    | edge d i j =>
      by_cases hreach : G.Reachable i j
      · have hopen : cycles G (.edge d i j :: events) =
            (false, d) :: cycles (G ⊔ SimpleGraph.edge i j) events := if_pos hreach
        rw [hopen]
        exact (ih _).cons_cons _
      · have hopen : cycles G (.edge d i j :: events) =
            cycles (G ⊔ SimpleGraph.edge i j) events := if_neg hreach
        rw [hopen]
        exact (ih _).cons _
    | triangle d => exact (ih G).cons_cons _

lemma cycles_append_deaths_perm (events : List (FiltrationEvent n ℝ)) (G : SimpleGraph (Fin n)) :
    ((cycles G events).map cycleKey ++ (deaths G events).map fun d => toLex (d, false)).Perm
      (events.map eventKey) := by
  induction events generalizing G with
  | nil => exact Perm.refl _
  | cons event events ih =>
    cases event with
    | edge d i j =>
      by_cases hreach : G.Reachable i j
      · have hopen : cycles G (.edge d i j :: events) =
            (false, d) :: cycles (G ⊔ SimpleGraph.edge i j) events := if_pos hreach
        have hdeaths : deaths G (.edge d i j :: events) =
            deaths (G ⊔ SimpleGraph.edge i j) events := if_pos hreach
        rw [hopen, hdeaths]
        exact (ih _).cons _
      · have hopen : cycles G (.edge d i j :: events) =
            cycles (G ⊔ SimpleGraph.edge i j) events := if_neg hreach
        have hdeaths : deaths G (.edge d i j :: events) =
            d :: deaths (G ⊔ SimpleGraph.edge i j) events := if_neg hreach
        rw [hopen, hdeaths, map_cons]
        exact perm_middle.trans ((ih _).cons _)
    | triangle d => exact (ih G).cons _

/-- The deaths do not depend on the order of the points. -/
lemma deaths_comp [Nonempty (Fin n)] (h : Lengths dist) (σ : Equiv.Perm (Fin n)) :
    deaths ⊥ (filtered fun i j => dist (σ i) (σ j)) = deaths ⊥ (filtered dist) := by
  refine eq_of_countP (deaths_pairwise _) (deaths_pairwise _) ?_ ?_
  · have h1 := length_deaths dist
    have h2 := length_deaths fun i j => dist (σ i) (σ j)
    omega
  · intro v
    have h1 := countLe_deaths h v
    have h2 := countLe_deaths (h.comp σ) v
    rw [components_comp h σ v] at h2
    omega

/-- The cycles do not depend on the order of the points. -/
lemma cycles_comp [Nonempty (Fin n)] (h : Lengths dist) (σ : Equiv.Perm (Fin n)) :
    cycles ⊥ (filtered fun i j => dist (σ i) (σ j)) = cycles ⊥ (filtered dist) := by
  have hkeys : ((filtered fun i j => dist (σ i) (σ j)).map eventKey).Perm
      ((filtered dist).map eventKey) :=
    ((filtered_perm _).map _).trans
      ((filtration_keys_perm h σ).trans ((filtered_perm dist).map _).symm)
  have hall := (cycles_append_deaths_perm (filtered fun i j => dist (σ i) (σ j)) ⊥).trans
    (hkeys.trans (cycles_append_deaths_perm (filtered dist) ⊥).symm)
  rw [deaths_comp h σ, perm_append_right_iff] at hall
  have hsorted : ∀ dist' : Fin n → Fin n → ℝ,
      ((cycles ⊥ (filtered dist')).map cycleKey).Pairwise (· ≤ ·) :=
    fun dist' => (filtered_pairwise dist').sublist (cycles_sublist _ _)
  have heq := hall.eq_of_pairwise' (hsorted _) (hsorted _)
  exact map_injective_iff.mpr cycleKey_injective heq

lemma closeStep_ordered {events : List (Bool × ℝ)} {active : List ℝ} {pairs : List (ℝ × ℝ)}
    (hsorted : (events.map Prod.snd).Pairwise (· ≤ ·))
    (hactive : ∀ b ∈ active, ∀ e ∈ events, b ≤ e.2) (hpairs : ∀ p ∈ pairs, p.1 ≤ p.2) :
    ∀ p ∈ (events.foldl closeStep (active, pairs)).2, p.1 ≤ p.2 := by
  induction events generalizing active pairs with
  | nil => exact hpairs
  | cons event events ih =>
    rw [map_cons, pairwise_cons] at hsorted
    have hlater : ∀ b ∈ active, ∀ e ∈ events, b ≤ e.2 :=
      fun b hb e he => hactive b hb e (mem_cons_of_mem _ he)
    obtain ⟨closes, d⟩ := event
    rw [foldl_cons]
    cases closes with
    | false =>
      refine ih hsorted.2 ?_ hpairs
      intro b hb e he
      rcases mem_cons.mp hb with rfl | hb
      · exact hsorted.1 e.2 (mem_map_of_mem he)
      · exact hlater b hb e he
    | true =>
      cases active with
      | nil => exact ih hsorted.2 hlater hpairs
      | cons birth rest =>
        refine ih hsorted.2 (fun b hb => hlater b (mem_cons_of_mem _ hb)) ?_
        intro p hp
        rcases mem_append.mp hp with hp | hp
        · exact hpairs p hp
        · rw [mem_singleton] at hp
          rw [hp]
          exact hactive birth mem_cons_self _ mem_cons_self

lemma deaths_nonneg (h : Lengths dist) : ∀ d ∈ deaths ⊥ (filtered dist), 0 ≤ d := by
  intro d hd
  rw [deaths_eq (filtered_measured dist)] at hd
  obtain ⟨e, -, rfl⟩ := mem_map.mp hd
  exact h.nonneg _ _

lemma closed_ordered (dist : Fin n → Fin n → ℝ) :
    ∀ p ∈ ((cycles ⊥ (filtered dist)).foldl closeStep ([], [])).2, p.1 ≤ p.2 := by
  refine closeStep_ordered ?_ ?_ ?_
  · have hsorted : ((cycles ⊥ (filtered dist)).map cycleKey).Pairwise (· ≤ ·) :=
      (filtered_pairwise dist).sublist (cycles_sublist _ _)
    rw [pairwise_map] at hsorted ⊢
    refine hsorted.imp ?_
    intro a b hab
    unfold cycleKey at hab
    rw [Prod.Lex.toLex_le_toLex] at hab
    exact hab.elim le_of_lt fun heq => le_of_eq heq.1
  · intro b hb
    cases hb
  · intro p hp
    cases hp

end

/-! ## Reports of points in another order -/

/-- The total length of the pairs that join, within the threshold and in the order of the
    points. -/
noncomputable def scanLength {n : Nat} (dist : Fin n → Fin n → ℝ) (threshold : ℝ) : ℝ :=
  ((joining ⊥ (withinPairs dist threshold)).map fun e => dist e.1 e.2).sum

section

variable {n : Nat} {dist : Fin n → Fin n → ℝ}

/-- The mean lifetime of the pairs that join, by how many they are and their total length. -/
lemma meanLifetime_eq (dist : Fin n → Fin n → ℝ) (threshold : ℝ) :
    meanLifetime ((joining ⊥ (withinPairs dist threshold)).map fun e => threshold - dist e.1 e.2) =
      if (joining ⊥ (withinPairs dist threshold)).length = 0 then 0
      else threshold - scanLength dist threshold /
        ((joining ⊥ (withinPairs dist threshold)).length : ℝ) := by
  have hsum : ∀ es : List (Fin n × Fin n), (es.map fun e => threshold - dist e.1 e.2).sum =
      es.length * threshold - (es.map fun e => dist e.1 e.2).sum := by
    intro es
    induction es with
    | nil => simp
    | cons e es ih =>
      rw [map_cons, sum_cons, ih, map_cons, sum_cons, length_cons]
      push_cast
      ring
  unfold meanLifetime scanLength
  by_cases hempty : (joining ⊥ (withinPairs dist threshold)).length = 0
  · rw [eq_nil_of_length_eq_zero hempty]
    rfl
  · have hne : ((joining ⊥ (withinPairs dist threshold)).map
        fun e => threshold - dist e.1 e.2).isEmpty = false := by
      rw [isEmpty_eq_false_iff, ne_eq, map_eq_nil_iff]
      intro hnil
      exact hempty (by rw [hnil]; rfl)
    have hcount : ((joining ⊥ (withinPairs dist threshold)).length : ℝ) ≠ 0 :=
      Nat.cast_ne_zero.mpr hempty
    rw [hne, if_neg Bool.false_ne_true, if_neg hempty, sumFrom_exact, hsum, length_map,
      exact_lit, pow_zero, div_one, zero_add, sub_div, mul_div_cancel_left₀ _ hcount]

lemma length_joining_comp (h : Lengths dist) (σ : Equiv.Perm (Fin n)) (threshold : ℝ) :
    (joining ⊥ (withinPairs (fun i j => dist (σ i) (σ j)) threshold)).length =
      (joining ⊥ (withinPairs dist threshold)).length := by
  have hleft := length_joining (G := ⊥) (withinPairs (fun i j => dist (σ i) (σ j)) threshold)
  have hright := length_joining (G := ⊥) (withinPairs dist threshold)
  rw [withEdges_withinPairs] at hleft hright
  rw [components_comp h σ threshold] at hleft
  omega

lemma analyzeDistances_eq (dim : Nat) (dist : Fin n → Fin n → ℝ) (threshold : ℝ) :
    ∃ report, analyzeDistances dim dist threshold = some report ∧
      report.schema = "topological_skill_manifold:v2" ∧ report.sampleCount = n ∧
      report.featureDim = dim ∧
      report.betti0Components = components (thresholdGraph dist threshold) ∧
      report.betti1Cycles = cycleCount n (Nat.card (thresholdGraph dist threshold).edgeSet)
        (components (thresholdGraph dist threshold)) ∧ report.meanPersistenceLifetime = meanLifetime
        ((joining ⊥ (withinPairs dist threshold)).map fun e => threshold - dist e.1 e.2) ∧
      report.topologicalHomotopyScore =
        clamp 0 1 (1 / Scalar.lit (components (thresholdGraph dist threshold)) 0) ∧
      report.persistencePairs0 = (deaths ⊥ (filtered dist)).map (fun d => (0, d)) ∧
      report.persistencePairs1 = ((cycles ⊥ (filtered dist)).foldl closeStep ([], [])).2 ∧
      report.totalPersistence0 = totalPersistence report.persistencePairs0 ∧
      report.totalPersistence1 = totalPersistence report.persistencePairs1 ∧
      report.maxPersistenceLifetime =
        maxPersistence (maxPersistence 0 report.persistencePairs0) report.persistencePairs1 := by
  obtain ⟨scan, persistence, hscan, hpersistence, hreport⟩ := analyzeDistances_spec dim dist
    threshold
  obtain ⟨scan', hscan', -, -, hlifetimes⟩ := thresholdScan_spec dist threshold
  obtain ⟨persistence', hpersistence', hpairs0, hpairs1⟩ := persistenceScan_spec dist
  rw [hscan] at hscan'
  rw [hpersistence] at hpersistence'
  cases hscan'
  cases hpersistence'
  refine ⟨_, hreport, rfl, rfl, rfl, rfl, rfl, ?_, rfl, hpairs0, hpairs1, rfl, rfl, rfl⟩
  rw [← hlifetimes]

/-- Points in another order have the same report exactly when their scan at the threshold
    has the same total length. -/
lemma analyzeDistances_comp [Nonempty (Fin n)] (h : Lengths dist) (σ : Equiv.Perm (Fin n))
    (dim : Nat) (threshold : ℝ) : analyzeDistances dim (fun i j => dist (σ i) (σ j)) threshold =
        analyzeDistances dim dist threshold ↔
      scanLength (fun i j => dist (σ i) (σ j)) threshold = scanLength dist threshold := by
  obtain ⟨left, hleft, l1, l2, l3, l4, l5, l6, l7, l8, l9, l10, l11, l12⟩ :=
    analyzeDistances_eq dim (fun i j => dist (σ i) (σ j)) threshold
  obtain ⟨right, hright, r1, r2, r3, r4, r5, r6, r7, r8, r9, r10, r11, r12⟩ :=
    analyzeDistances_eq dim dist threshold
  have hmeans := meanLifetime_eq (fun i j => dist (σ i) (σ j)) threshold
  replace l6 := l6.trans hmeans
  rw [length_joining_comp h σ threshold] at l6
  rw [meanLifetime_eq] at r6
  rw [components_comp h σ threshold] at l4 l5 l7
  rw [card_edgeSet_comp h σ threshold] at l5
  rw [deaths_comp h σ] at l8
  rw [cycles_comp h σ] at l9
  rw [hleft, hright, Option.some.injEq]
  constructor
  · intro heq
    have hmean := congrArg TopologicalManifoldReport.meanPersistenceLifetime heq
    rw [l6, r6] at hmean
    by_cases hempty : (joining ⊥ (withinPairs dist threshold)).length = 0
    · have hnil := eq_nil_of_length_eq_zero hempty
      have hnil' := eq_nil_of_length_eq_zero
        ((length_joining_comp h σ threshold).trans hempty)
      unfold scanLength
      rw [hnil, hnil']
      rfl
    · have hcount : ((joining ⊥ (withinPairs dist threshold)).length : ℝ) ≠ 0 :=
        Nat.cast_ne_zero.mpr hempty
      rw [if_neg hempty, if_neg hempty, sub_right_inj] at hmean
      exact (div_left_inj' hcount).mp hmean
  · intro hscan
    rw [hscan, ← r6] at l6
    rw [l8, ← r8] at l10
    rw [l9, ← r9] at l11
    rw [l8, l9, ← r8, ← r9, ← r12] at l12
    cases left
    cases right
    simp only [TopologicalManifoldReport.mk.injEq]
    exact ⟨l1.trans r1.symm, l2.trans r2.symm, l3.trans r3.symm, l4.trans r4.symm,
      l5.trans r5.symm, l6, l7.trans r7.symm, l8.trans r8.symm, l9.trans r9.symm,
      l10.trans r10.symm, l11.trans r11.symm, l12⟩

end

/-! ## The topology of a list of points -/

lemma exists_equiv_of_perm {α : Type} {xs ys : List α} (h : xs.Perm ys) :
    ∃ σ : Fin xs.length ≃ Fin ys.length, ∀ i, xs.get i = ys.get (σ i) := by
  induction h with
  | nil => exact ⟨Equiv.refl _, fun i => i.elim0⟩
  | @cons x xs ys _ ih =>
    obtain ⟨σ, hσ⟩ := ih
    refine ⟨(finSuccEquiv xs.length).trans
      ((Equiv.optionCongr σ).trans (finSuccEquiv ys.length).symm), ?_⟩
    intro i
    cases i using Fin.cases with
    | zero => rfl
    | succ i =>
      have hplace : (finSuccEquiv xs.length).trans
          ((Equiv.optionCongr σ).trans (finSuccEquiv ys.length).symm) i.succ = (σ i).succ := by
        simp
      rw [hplace]
      exact hσ i
  | swap x y xs =>
    refine ⟨Equiv.swap (0 : Fin (xs.length + 2)) 1, ?_⟩
    intro i
    cases i using Fin.cases with
    | zero => rfl
    | succ i =>
      cases i using Fin.cases with
      | zero => rfl
      | succ i =>
        have hplace : Equiv.swap (0 : Fin (xs.length + 2)) 1 i.succ.succ = i.succ.succ :=
          Equiv.swap_apply_of_ne_of_ne (Fin.succ_ne_zero _) (by
            intro heq
            exact Fin.succ_ne_zero i (Fin.succ_injective _ heq))
        show (y :: x :: xs).get i.succ.succ = (x :: y :: xs).get _
        rw [hplace]
        rfl
  | trans _ _ ih₁ ih₂ =>
    obtain ⟨σ, hσ⟩ := ih₁
    obtain ⟨τ, hτ⟩ := ih₂
    refine ⟨σ.trans τ, ?_⟩
    intro i
    rw [hσ, hτ]
    rfl

noncomputable def pointScanLength (points : List (List ℝ)) (threshold : ℝ) : ℝ :=
  scanLength (pointDistances points) threshold

lemma analyzePoints_iff {points others : List (List ℝ)} (hperm : others.Perm points)
    (hnonempty : points ≠ []) (dim : Nat) (threshold : ℝ) :
    analyzeDistances dim (pointDistances others) threshold =
        analyzeDistances dim (pointDistances points) threshold ↔
      pointScanLength others threshold = pointScanLength points threshold := by
  obtain ⟨σ, hσ⟩ := exists_equiv_of_perm hperm
  have hgeneral : ∀ (m : Nat) (σ : Fin m ≃ Fin points.length) (other : Fin m → Fin m → ℝ),
      m = points.length → (∀ i j, other i j = pointDistances points (σ i) (σ j)) →
      (analyzeDistances dim other threshold =
          analyzeDistances dim (pointDistances points) threshold ↔
        scanLength other threshold = pointScanLength points threshold) := by
    intro m σ other hm hother
    subst hm
    have hplace : Nonempty (Fin points.length) := by
      rw [← Fin.pos_iff_nonempty]
      exact length_pos_of_ne_nil hnonempty
    have hcomp : other = fun i j => pointDistances points (σ i) (σ j) := by
      funext i j
      exact hother i j
    rw [hcomp]
    exact analyzeDistances_comp (lengths_pointDistances points) σ dim threshold
  refine hgeneral others.length σ (pointDistances others) hperm.length_eq ?_
  intro i j
  unfold pointDistances
  rw [hσ, hσ]

structure TopologyOfPoints (points : List (List ℝ)) (threshold : ℝ)
    (report : TopologicalManifoldReport ℝ) : Prop where
  reported : analyzeTopology points threshold = some (.ok report)
  /-- The report on the same points in any other order. -/
  orderless : ∀ others : List (List ℝ), others.Perm points →
    analyzeTopology others threshold = some (.ok report)
  ordered : ∀ p ∈ report.persistencePairs0 ++ report.persistencePairs1, p.1 ≤ p.2
  count : report.persistencePairs0.length = points.length - 1
  /-- The deaths are the lengths of the edges of a spanning tree, and no spanning tree is
      shorter. -/
  tree : ∃ T : SimpleGraph (Fin points.length), T.IsTree ∧
    edgeLengths (lengths_pointDistances points) T =
      ((report.persistencePairs0.map Prod.snd : List ℝ) : Multiset ℝ) ∧
    ∀ T' : SimpleGraph (Fin points.length), T'.IsTree →
      (edgeLengths (lengths_pointDistances points) T).sum ≤
        (edgeLengths (lengths_pointDistances points) T').sum

lemma report_sound {points : List (List ℝ)} {dim : Nat} (h : Cloud points dim)
    (threshold : ℝ) : ∃ report, analyzeTopology points threshold = some (.ok report) ∧
      ((∀ others : List (List ℝ), others.Perm points →
        analyzeTopology others threshold = some (.ok report)) →
        TopologyOfPoints points threshold report) := by
  have hplace : Nonempty (Fin points.length) := by
    rw [← Fin.pos_iff_nonempty]
    exact length_pos_of_ne_nil h.nonempty
  obtain ⟨T, htree, hedges, hleast⟩ :=
    deaths_spanning_tree (lengths_pointDistances points)
  have hlength := length_deaths (pointDistances points)
  rw [analyzeTopology_cloud h]
  by_cases hone : points.length = 1
  · rw [if_pos hone]
    refine ⟨_, rfl, ?_⟩
    intro horder
    refine ⟨horder points (Perm.refl _), horder, ?_, ?_, T, htree, ?_, hleast⟩
    · intro p hp
      cases hp
    · rw [hone]
      rfl
    · have hnil : deaths ⊥ (filtered (pointDistances points)) = [] := by
        rw [← length_eq_zero_iff]
        omega
      rw [hedges, hnil]
      rfl
  · rw [if_neg hone]
    obtain ⟨report, hreport, -, -, -, -, -, -, -, hpairs0, hpairs1, -, -, -⟩ :=
      analyzeDistances_eq dim (pointDistances points) threshold
    rw [hreport]
    refine ⟨report, rfl, ?_⟩
    intro horder
    refine ⟨horder points (Perm.refl _), horder, ?_, ?_, T, htree, ?_, hleast⟩
    · intro p hp
      rcases mem_append.mp hp with hp | hp
      · rw [hpairs0] at hp
        obtain ⟨d, hd, rfl⟩ := mem_map.mp hp
        exact deaths_nonneg (lengths_pointDistances points) d hd
      · rw [hpairs1] at hp
        exact closed_ordered (pointDistances points) p hp
    · rw [hpairs0, length_map]
      omega
    · have hsnd : (Prod.snd ∘ fun d : ℝ => ((0 : ℝ), d)) = id := by
        funext d
        rfl
      rw [hedges, hpairs0, map_map, hsnd, map_id]

lemma reports_same {points : List (List ℝ)} {dim : Nat} (h : Cloud points dim)
    {others : List (List ℝ)} (hperm : others.Perm points) (threshold : ℝ) :
    analyzeTopology others threshold = analyzeTopology points threshold ↔
      pointScanLength others threshold = pointScanLength points threshold := by
  have hothers : Cloud others dim := by
    refine ⟨?_, fun p hp => h.shape p (hperm.mem_iff.mp hp)⟩
    intro hnil
    rw [hnil] at hperm
    exact h.nonempty hperm.nil_eq.symm
  have hiff := analyzePoints_iff hperm h.nonempty dim threshold
  rw [analyzeTopology_cloud h, analyzeTopology_cloud hothers]
  by_cases hone : points.length = 1
  · -- a single point is in its place
    have hsame : others = points := by
      obtain ⟨p, rfl⟩ := length_eq_one_iff.mp hone
      exact perm_singleton.mp hperm
    rw [hsame]
    exact ⟨fun _ => rfl, fun _ => rfl⟩
  · have hothersOne : ¬others.length = 1 := by rwa [hperm.length_eq]
    rw [if_neg hone, if_neg hothersOne, ← hiff]
    constructor
    · intro heq
      obtain ⟨left, hleft, -⟩ := analyzeDistances_eq dim (pointDistances others) threshold
      obtain ⟨right, hright, -⟩ := analyzeDistances_eq dim (pointDistances points) threshold
      rw [hleft, hright] at heq ⊢
      cases heq
      rfl
    · intro heq
      rw [heq]

lemma scanLength_three (dist : Fin 3 → Fin 3 → ℝ) {threshold : ℝ}
    (hle : ∀ i j : Fin 3, dist i j ≤ threshold) :
    scanLength dist threshold = dist 0 1 + dist 0 2 := by
  have hwithin : withinPairs dist threshold = [(0, 1), (0, 2), (1, 2)] := by
    unfold withinPairs
    rw [filter_eq_self.mpr]
    · rfl
    · intro e _
      rw [exact_le]
      exact hle e.1 e.2
  have hfirst : ¬(⊥ : SimpleGraph (Fin 3)).Reachable 0 1 := by
    rw [SimpleGraph.reachable_bot]
    decide
  have hsecond : ¬((⊥ : SimpleGraph (Fin 3)) ⊔ SimpleGraph.edge 0 1).Reachable 0 2 := by
    rw [reachable_sup_edge]
    simp only [SimpleGraph.reachable_bot]
    decide
  have hthird : ((⊥ : SimpleGraph (Fin 3)) ⊔ SimpleGraph.edge 0 1 ⊔
      SimpleGraph.edge 0 2).Reachable 1 2 := by
    rw [reachable_sup_edge, reachable_sup_edge, reachable_sup_edge, reachable_sup_edge]
    simp only [SimpleGraph.reachable_bot]
    decide
  unfold scanLength
  rw [hwithin, joining_of_not_reachable hfirst, joining_of_not_reachable hsecond,
    joining_of_reachable hthird]
  show (map _ [((0 : Fin 3), (1 : Fin 3)), (0, 2)]).sum = _
  rw [map_cons, map_cons, map_nil, sum_cons, sum_cons, sum_nil, add_zero]

/-- A point, one at a distance of one from it, and one at a distance of three. -/
def onLine : List (List ℝ) := [[0], [1], [3]]

def onLineAgain : List (List ℝ) := [[1], [0], [3]]

lemma pairDistance_line (a b : ℝ) : pairDistance [a] [b] = |a - b| := by
  unfold pairDistance
  rw [exact_sqrt, sumFrom_exact, zipWith_cons_cons, zipWith_nil_right, sum_cons,
    sum_nil, add_zero, zero_add, Real.sqrt_mul_self_eq_abs]

lemma line_scanLength (a b c : ℝ) (hab : |a - b| ≤ 3) (hac : |a - c| ≤ 3) (hbc : |b - c| ≤ 3) :
    pointScanLength [[a], [b], [c]] 3 = |a - b| + |a - c| := by
  have hdist : ∀ i j : Fin 3, pointDistances [[a], [b], [c]] i j =
      |([a, b, c].get i) - ([a, b, c].get j)| := by
    intro i j
    have hget : ∀ k : Fin 3, [[a], [b], [c]].get k = [[a, b, c].get k] := by
      intro k
      match k with
      | 0 => rfl
      | 1 => rfl
      | 2 => rfl
    show pairDistance ([[a], [b], [c]].get i) ([[a], [b], [c]].get j) = _
    rw [hget, hget, pairDistance_line]
  have hself : ∀ x : ℝ, |x - x| ≤ 3 := by
    intro x
    rw [sub_self, abs_zero]
    norm_num
  have hba : |b - a| ≤ 3 := by rwa [abs_sub_comm]
  have hca : |c - a| ≤ 3 := by rwa [abs_sub_comm]
  have hcb : |c - b| ≤ 3 := by rwa [abs_sub_comm]
  have hle : ∀ i j : Fin 3, pointDistances [[a], [b], [c]] i j ≤ 3 := by
    intro i j
    rw [hdist]
    match i, j with
    | 0, 0 => exact hself a
    | 0, 1 => exact hab
    | 0, 2 => exact hac
    | 1, 0 => exact hba
    | 1, 1 => exact hself b
    | 1, 2 => exact hbc
    | 2, 0 => exact hca
    | 2, 1 => exact hcb
    | 2, 2 => exact hself c
  have hscan := scanLength_three (pointDistances [[a], [b], [c]]) hle
  unfold pointScanLength
  rw [hscan, hdist, hdist]
  rfl

end Tidex.Analysis
