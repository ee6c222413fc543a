/-
  Lib.Closure — what depends on a set, by passes until nothing is added.
-/
import Tidex.Lib.OrdMap

namespace Tidex.Lib

open Relation List Std.ExtTreeSet BTreeSet

variable {K : Type} [Ord K] [Std.TransOrd K]

/-! ## Passes -/

section

variable [Std.LawfulEqOrd K]

def grow (nodes : List (K × List K)) (s : BTreeSet K) : BTreeSet K :=
  nodes.foldl (fun (s : BTreeSet K) node =>
    if node.2.any (fun dependency => dependency ∈ s) then s.insert node.1 else s) s

def Feeds (nodes : List (K × List K)) (a b : K) : Prop :=
  ∃ node ∈ nodes, node.1 = b ∧ a ∈ node.2

variable {nodes : List (K × List K)} {s : BTreeSet K} {a : K}

lemma subset_grow (h : a ∈ s) : a ∈ grow nodes s := by
  unfold grow
  induction nodes generalizing s with
  | nil => exact h
  | cons node nodes ih =>
    rw [foldl_cons]
    apply ih
    split
    · exact mem_insert_iff.mpr (.inr h)
    · exact h

lemma mem_grow (h : a ∈ grow nodes s) :
    a ∈ s ∨ (a ∈ nodes.map Prod.fst ∧ ∃ start ∈ s, ReflTransGen (Feeds nodes) start a) := by
  -- the pass may reach a node through nodes that it added before
  have hgeneral : ∀ rest : List (K × List K), (∀ node ∈ rest, node ∈ nodes) →
      ∀ t : BTreeSet K, (∀ b ∈ t, b ∈ s ∨ (b ∈ nodes.map Prod.fst ∧
        ∃ start ∈ s, ReflTransGen (Feeds nodes) start b)) →
      ∀ b ∈ rest.foldl (fun (s : BTreeSet K) node =>
        if node.2.any (fun dependency => dependency ∈ s) then s.insert node.1 else s) t,
        b ∈ s ∨ (b ∈ nodes.map Prod.fst ∧
          ∃ start ∈ s, ReflTransGen (Feeds nodes) start b) := by
    intro rest
    induction rest with
    | nil =>
      intro _ t ht b hb
      exact ht b hb
    | cons node rest ih =>
      intro hrest t ht b hb
      rw [foldl_cons] at hb
      have hnode := hrest node mem_cons_self
      refine ih (fun n hn => hrest n (mem_cons_of_mem _ hn)) _ ?_ b hb
      intro c hc
      split at hc
      · next hany =>
        obtain ⟨dependency, hdependency, hmem⟩ := any_eq_true.mp hany
        rw [decide_eq_true_eq] at hmem
        rcases mem_insert_iff.mp hc with rfl | hc
        · right
          refine ⟨mem_map_of_mem hnode, ?_⟩
          have hfeeds : Feeds nodes dependency node.1 := ⟨node, hnode, rfl, hdependency⟩
          rcases ht dependency hmem with hstart | ⟨-, start, hstart, hreach⟩
          · exact ⟨dependency, hstart, ReflTransGen.single hfeeds⟩
          · exact ⟨start, hstart, hreach.tail hfeeds⟩
        · exact ht c hc
      · exact ht c hc
  exact hgeneral nodes (fun _ h => h) s (fun b hb => .inl hb) a h

def Closed (nodes : List (K × List K)) (s : BTreeSet K) : Prop :=
  ∀ a b, a ∈ s → Feeds nodes a b → b ∈ s

lemma mem_grow_of_feeds {b : K} (ha : a ∈ s) (h : Feeds nodes a b) : b ∈ grow nodes s := by
  obtain ⟨node, hnode, rfl, hdependency⟩ := h
  unfold grow
  induction nodes generalizing s with
  | nil => cases hnode
  | cons n nodes ih =>
    rw [foldl_cons]
    rcases mem_cons.mp hnode with rfl | hnode
    · have hany : (node.2.any fun dependency => dependency ∈ s) = true :=
        any_eq_true.mpr ⟨a, hdependency, decide_eq_true ha⟩
      rw [if_pos hany]
      exact subset_grow (mem_insert_iff.mpr (.inl rfl))
    · apply ih _ hnode
      split
      · exact mem_insert_iff.mpr (.inr ha)
      · exact ha

/-- A pass that keeps the size changes nothing. -/
lemma grow_eq_self_of_size (h : (grow nodes s).size = s.size) : grow nodes s = s := by
  apply ext_mem
  intro b
  constructor
  · intro hb
    by_contra hnew
    -- a set with one more element would be larger
    have hlt : s.size < (grow nodes s).size := by
      have hsubset : ∀ c ∈ s.insert b, c ∈ grow nodes s := by
        intro c hc
        rcases mem_insert_iff.mp hc with rfl | hc
        · exact hb
        · exact subset_grow hc
      have hle : (s.insert b).size ≤ (grow nodes s).size := by
        rw [← length_toList, ← length_toList]
        apply (subperm_of_subset (nodup_toList _) _).length_le
        intro c hc
        rw [mem_toList] at hc ⊢
        exact hsubset c hc
      rw [size_insert_new hnew] at hle
      omega
    omega
  · exact subset_grow

lemma closed_of_size (h : (grow nodes s).size = s.size) : Closed nodes s := by
  intro b c hb hfeeds
  have hmem := mem_grow_of_feeds hb hfeeds
  rwa [grow_eq_self_of_size h] at hmem

/-! ## Passes until nothing is added -/

def missing (nodes : List (K × List K)) (s : BTreeSet K) : List (K × List K) :=
  nodes.filter fun node => node.1 ∉ s

lemma length_missing_grow (h : (grow nodes s).size ≠ s.size) :
    (missing nodes (grow nodes s)).length < (missing nodes s).length := by
  have hnew : ∃ b, b ∈ grow nodes s ∧ b ∉ s := by
    by_contra hnone
    apply h
    have hsame : grow nodes s = s := by
      apply ext_mem
      intro b
      constructor
      · intro hb
        by_contra hn
        exact hnone ⟨b, hb, hn⟩
      · exact subset_grow
    rw [hsame]
  obtain ⟨b, hb, hfresh⟩ := hnew
  obtain ⟨node, hnode, rfl⟩ := mem_map.mp ((mem_grow hb).resolve_left hfresh).1
  have hsublist : (missing nodes (grow nodes s)).Sublist (missing nodes s) := by
    apply monotone_filter_right
    intro e he
    rw [decide_eq_true_eq] at he ⊢
    exact fun hmem => he (subset_grow hmem)
  have hmem : node ∈ missing nodes s := by
    unfold missing
    rw [mem_filter, decide_eq_true_eq]
    exact ⟨hnode, hfresh⟩
  have hgone : node ∉ missing nodes (grow nodes s) := by
    unfold missing
    rw [mem_filter, decide_eq_true_eq, not_and, not_not]
    intro _
    exact hb
  apply Nat.lt_of_le_of_ne hsublist.length_le
  intro hlength
  rw [hsublist.eq_of_length hlength] at hgone
  exact hgone hmem

end

/-- Passes over the nodes until one adds nothing. -/
def close [Std.LawfulEqOrd K] (nodes : List (K × List K)) (s : BTreeSet K) : BTreeSet K :=
  if (grow nodes s).size = s.size then grow nodes s else close nodes (grow nodes s)
termination_by (missing nodes s).length
decreasing_by exact length_missing_grow ‹_›

variable [Std.LawfulEqOrd K] {nodes : List (K × List K)} {s : BTreeSet K} {a : K}

/-- The passes end in what is reached from the set. -/
lemma mem_close : a ∈ close nodes s ↔ ∃ start ∈ s, ReflTransGen (Feeds nodes) start a := by
  induction s using close.induct nodes with
  | case1 s hsize =>
    rw [close, if_pos hsize, grow_eq_self_of_size hsize]
    constructor
    · intro ha
      exact ⟨a, ha, ReflTransGen.refl⟩
    · intro h
      obtain ⟨start, hstart, hreach⟩ := h
      induction hreach with
      | refl => exact hstart
      | tail _ hfeeds ih => exact closed_of_size hsize _ _ ih hfeeds
  | case2 s hsize ih =>
    rw [close, if_neg hsize, ih]
    constructor
    · intro h
      obtain ⟨start, hstart, hreach⟩ := h
      rcases mem_grow hstart with hs | ⟨-, first, hfirst, hbefore⟩
      · exact ⟨start, hs, hreach⟩
      · exact ⟨first, hfirst, hbefore.trans hreach⟩
    · intro h
      obtain ⟨start, hstart, hreach⟩ := h
      exact ⟨start, subset_grow hstart, hreach⟩

end Tidex.Lib
