/-
  Lib.Components — the components of a graph, edge by edge.
-/
import Mathlib.Combinatorics.SimpleGraph.Acyclic
import Mathlib.Combinatorics.SimpleGraph.Connectivity.Finite

namespace Tidex.Lib

open SimpleGraph List Set

variable {V : Type}

/-! ## One more edge -/

noncomputable def components (G : SimpleGraph V) : Nat :=
  Nat.card G.ConnectedComponent

lemma reachable_edge (u v : V) : (edge u v).Reachable u v := by
  by_cases h : u = v
  · rw [h]
  · exact Adj.reachable ((edge_adj u v u v).mpr ⟨.inl ⟨rfl, rfl⟩, h⟩)

variable {G : SimpleGraph V}

lemma reachable_sup_edge {u v x y : V} : (G ⊔ edge u v).Reachable x y ↔ G.Reachable x y ∨
      (G.Reachable x u ∧ G.Reachable v y) ∨ (G.Reachable x v ∧ G.Reachable u y) := by
  constructor
  · intro h
    obtain ⟨walk⟩ := h
    induction walk with
    | nil => exact .inl (Reachable.refl _)
    | @cons x z y hadj _ ih =>
      rw [sup_adj] at hadj
      rcases hadj with hadj | hadj
      · have hstep : G.Reachable x z := hadj.reachable
        rcases ih with ih | ⟨h1, h2⟩ | ⟨h1, h2⟩
        · exact .inl (hstep.trans ih)
        · exact .inr (.inl ⟨hstep.trans h1, h2⟩)
        · exact .inr (.inr ⟨hstep.trans h1, h2⟩)
      · -- the new edge is crossed, in one of its directions
        rw [edge_adj] at hadj
        rcases hadj.1 with ⟨rfl, rfl⟩ | ⟨rfl, rfl⟩
        · rcases ih with ih | ⟨h1, h2⟩ | ⟨-, h2⟩
          · exact .inr (.inl ⟨Reachable.refl _, ih⟩)
          · exact .inr (.inl ⟨Reachable.refl _, h2⟩)
          · exact .inl h2
        · rcases ih with ih | ⟨-, h2⟩ | ⟨h1, h2⟩
          · exact .inr (.inr ⟨Reachable.refl _, ih⟩)
          · exact .inl h2
          · exact .inr (.inr ⟨Reachable.refl _, h2⟩)
  · intro h
    have hold : ∀ a b, G.Reachable a b → (G ⊔ edge u v).Reachable a b :=
      fun a b hab => hab.mono le_sup_left
    have hnew : (G ⊔ edge u v).Reachable u v := (reachable_edge u v).mono le_sup_right
    rcases h with h | ⟨h1, h2⟩ | ⟨h1, h2⟩
    · exact hold x y h
    · exact ((hold x u h1).trans hnew).trans (hold v y h2)
    · exact ((hold x v h1).trans hnew.symm).trans (hold u y h2)

variable {u v : V}

lemma reachable_sup_edge_of_reachable (h : G.Reachable u v) :
    (G ⊔ edge u v).Reachable = G.Reachable := by
  funext x y
  rw [eq_iff_iff, reachable_sup_edge]
  constructor
  · intro hxy
    rcases hxy with hxy | ⟨h1, h2⟩ | ⟨h1, h2⟩
    · exact hxy
    · exact (h1.trans h).trans h2
    · exact (h1.trans h.symm).trans h2
  · exact .inl

variable {G H : SimpleGraph V}

lemma components_congr (h : G.Reachable = H.Reachable) : components G = components H := by
  unfold components ConnectedComponent
  rw [h]

lemma components_sup_edge_of_reachable (h : G.Reachable u v) :
    components (G ⊔ edge u v) = components G :=
  components_congr (reachable_sup_edge_of_reachable h)

/-- An edge between two components makes one of them. -/
lemma components_sup_edge [Finite V] (h : ¬G.Reachable u v) :
    components (G ⊔ edge u v) + 1 = components G := by
  -- the components but that of `v` are the new components
  let f : {c : G.ConnectedComponent // c ≠ G.connectedComponentMk v} →
      (G ⊔ edge u v).ConnectedComponent := fun c => c.1.map (Hom.ofLE le_sup_left)
  have hf : Function.Bijective f := by
    constructor
    · intro a b hab
      obtain ⟨a, ha⟩ := a
      obtain ⟨b, hb⟩ := b
      induction a using ConnectedComponent.ind with
      | h x =>
        induction b using ConnectedComponent.ind with
        | h y =>
          have hxy : (G ⊔ edge u v).Reachable x y := ConnectedComponent.exact hab
          rw [Subtype.mk.injEq, ConnectedComponent.eq]
          rcases reachable_sup_edge.mp hxy with hxy | ⟨-, h2⟩ | ⟨h1, -⟩
          · exact hxy
          · exact absurd (ConnectedComponent.sound h2.symm) hb
          · exact absurd (ConnectedComponent.sound h1) ha
    · intro c
      induction c using ConnectedComponent.ind with
      | h x =>
        by_cases hx : G.Reachable x v
        · refine ⟨⟨G.connectedComponentMk u, fun heq => h (ConnectedComponent.exact heq)⟩, ?_⟩
          refine ConnectedComponent.sound ?_
          exact reachable_sup_edge.mpr (.inr (.inl ⟨Reachable.refl _, hx.symm⟩))
        · exact ⟨⟨G.connectedComponentMk x, fun heq => hx (ConnectedComponent.exact heq)⟩, rfl⟩
  have hcard := Nat.card_eq_of_bijective f hf
  have hsplit := ncard_sdiff_singleton_add_one (mem_univ (G.connectedComponentMk v))
    finite_univ
  rw [ncard_univ] at hsplit
  have hothers : (univ \ {G.connectedComponentMk v} : Set G.ConnectedComponent).ncard =
      Nat.card {c : G.ConnectedComponent // c ≠ G.connectedComponentMk v} := by
    rw [← Nat.card_coe_set_eq]
    refine Nat.card_congr (Equiv.subtypeEquivRight ?_)
    intro c
    simp
  unfold components
  omega

lemma components_bot [Finite V] : components (⊥ : SimpleGraph V) = Nat.card V := by
  unfold components
  refine (Nat.card_eq_of_bijective (fun v => (⊥ : SimpleGraph V).connectedComponentMk v) ?_).symm
  constructor
  · intro a b hab
    exact reachable_bot.mp (ConnectedComponent.exact hab)
  · intro c
    induction c using ConnectedComponent.ind with
    | h v => exact ⟨v, rfl⟩

lemma components_pos [Finite V] [Nonempty V] (G : SimpleGraph V) : 0 < components G := by
  exact Nat.card_pos

lemma components_of_connected (h : G.Connected) : components G = 1 := by
  have hnonempty := h.nonempty
  have hsub := h.preconnected.subsingleton_connectedComponent
  unfold components
  rw [Nat.card_eq_one_iff_unique]
  exact ⟨hsub, ⟨G.connectedComponentMk (Classical.arbitrary V)⟩⟩

lemma components_iso {W : Type} {H : SimpleGraph W} (e : G ≃g H) : components G = components H :=
  Nat.card_congr e.connectedComponentEquiv

/-! ## Edges in order -/

def withEdges (G : SimpleGraph V) : List (V × V) → SimpleGraph V
  | [] => G
  | e :: es => withEdges (G ⊔ edge e.1 e.2) es

open Classical in
/-- The edges that connect what was not connected before them. -/
noncomputable def joining (G : SimpleGraph V) : List (V × V) → List (V × V)
  | [] => []
  | e :: es =>
    if G.Reachable e.1 e.2 then joining (G ⊔ edge e.1 e.2) es
    else e :: joining (G ⊔ edge e.1 e.2) es

variable {G : SimpleGraph V} {e : V × V}

lemma joining_of_reachable (h : G.Reachable e.1 e.2) (es : List (V × V)) :
    joining G (e :: es) = joining (G ⊔ edge e.1 e.2) es :=
  if_pos h

lemma joining_of_not_reachable (h : ¬G.Reachable e.1 e.2) (es : List (V × V)) :
    joining G (e :: es) = e :: joining (G ⊔ edge e.1 e.2) es :=
  if_neg h

variable {es : List (V × V)}

lemma withEdges_adj {x y : V} :
    (withEdges G es).Adj x y ↔ G.Adj x y ∨ ((x, y) ∈ es ∨ (y, x) ∈ es) ∧ x ≠ y := by
  induction es generalizing G with
  | nil => simp [withEdges]
  | cons e es ih =>
    obtain ⟨a, b⟩ := e
    show (withEdges (G ⊔ edge a b) es).Adj x y ↔ _
    rw [ih, sup_adj, edge_adj]
    simp only [mem_cons, Prod.mk.injEq]
    tauto

lemma joining_append (es es' : List (V × V)) :
    joining G (es ++ es') = joining G es ++ joining (withEdges G es) es' := by
  induction es generalizing G with
  | nil => rfl
  | cons e es ih =>
    show joining G (e :: (es ++ es')) = _
    by_cases h : G.Reachable e.1 e.2
    · rw [joining_of_reachable h, joining_of_reachable h, ih]
      rfl
    · rw [joining_of_not_reachable h, joining_of_not_reachable h, ih]
      rfl

lemma joining_sublist (es : List (V × V)) : (joining G es).Sublist es := by
  induction es generalizing G with
  | nil => exact Sublist.refl _
  | cons e es ih =>
    by_cases h : G.Reachable e.1 e.2
    · rw [joining_of_reachable h]
      exact ih.cons e
    · rw [joining_of_not_reachable h]
      exact ih.cons_cons e

/-- The edges that join components, and the components left, are as many as the
    components there were. -/
lemma length_joining [Finite V] (es : List (V × V)) :
    (joining G es).length + components (withEdges G es) = components G := by
  induction es generalizing G with
  | nil => exact Nat.zero_add _
  | cons e es ih =>
    have hrest := ih (G := G ⊔ edge e.1 e.2)
    show (joining G (e :: es)).length + components (withEdges (G ⊔ edge e.1 e.2) es) = _
    by_cases h : G.Reachable e.1 e.2
    · rw [joining_of_reachable h, hrest, components_sup_edge_of_reachable h]
    · have hjoin := components_sup_edge h
      rw [joining_of_not_reachable h, length_cons]
      omega

lemma reachable_joining (es : List (V × V)) (h : G.Reachable = H.Reachable) :
    (withEdges H (joining G es)).Reachable = (withEdges G es).Reachable := by
  induction es generalizing G H with
  | nil => exact h.symm
  | cons e es ih =>
    show (withEdges H (joining G (e :: es))).Reachable =
      (withEdges (G ⊔ edge e.1 e.2) es).Reachable
    by_cases hreach : G.Reachable e.1 e.2
    · rw [joining_of_reachable hreach]
      exact ih ((reachable_sup_edge_of_reachable hreach).trans h)
    · rw [joining_of_not_reachable hreach]
      refine ih ?_
      funext x y
      rw [eq_iff_iff, reachable_sup_edge, reachable_sup_edge, h]

lemma isAcyclic_joining (es : List (V × V)) (h : G.Reachable = H.Reachable)
    (hacyclic : H.IsAcyclic) : (withEdges H (joining G es)).IsAcyclic := by
  induction es generalizing G H with
  | nil => exact hacyclic
  | cons e es ih =>
    by_cases hreach : G.Reachable e.1 e.2
    · rw [joining_of_reachable hreach]
      exact ih ((reachable_sup_edge_of_reachable hreach).trans h) hacyclic
    · rw [joining_of_not_reachable hreach]
      refine ih ?_ (hacyclic.sup_edge_of_not_reachable (h ▸ hreach))
      funext x y
      rw [eq_iff_iff, reachable_sup_edge, reachable_sup_edge, h]

/-! ## Cycles -/

/-- Edges between different vertices, none of them twice and none of them old. -/
def Simple (G : SimpleGraph V) (es : List (V × V)) : Prop :=
  (es.map fun e => s(e.1, e.2)).Nodup ∧ ∀ e ∈ es, e.1 ≠ e.2 ∧ ¬G.Adj e.1 e.2

lemma Simple.tail (h : Simple G (e :: es)) : Simple (G ⊔ edge e.1 e.2) es := by
  obtain ⟨hnodup, hnew⟩ := h
  rw [map_cons, nodup_cons] at hnodup
  refine ⟨hnodup.2, ?_⟩
  intro e' he'
  have hne : s(e'.1, e'.2) ≠ s(e.1, e.2) := by
    intro heq
    refine hnodup.1 ?_
    rw [← heq]
    exact mem_map_of_mem he'
  refine ⟨(hnew e' (mem_cons_of_mem _ he')).1, ?_⟩
  rw [sup_adj, not_or]
  refine ⟨(hnew e' (mem_cons_of_mem _ he')).2, ?_⟩
  rw [adj_edge]
  exact fun hadj => hne hadj.1.symm

/-- Edges make no cycle exactly when each of them joins two components. -/
lemma isAcyclic_iff_joining (hsimple : Simple G es) :
    (withEdges G es).IsAcyclic ↔ G.IsAcyclic ∧ (joining G es).length = es.length := by
  induction es generalizing G with
  | nil => simp [withEdges, joining]
  | cons e es ih =>
    obtain ⟨hne, hnew⟩ := hsimple.2 e mem_cons_self
    have hshort := (joining_sublist (G := G ⊔ edge e.1 e.2) es).length_le
    show (withEdges (G ⊔ edge e.1 e.2) es).IsAcyclic ↔ _
    rw [ih hsimple.tail, isAcyclic_sup_fromEdgeSet_iff]
    by_cases h : G.Reachable e.1 e.2
    · have hcycle : ¬(G.Reachable e.1 e.2 → e.1 = e.2 ∨ G.Adj e.1 e.2) := by
        intro hall
        exact (hall h).elim hne hnew
      rw [joining_of_reachable h, length_cons]
      constructor
      · intro hleft
        exact absurd hleft.1.2 hcycle
      · intro hright
        omega
    · rw [joining_of_not_reachable h, length_cons, length_cons]
      constructor
      · intro hleft
        exact ⟨hleft.1.1, by omega⟩
      · intro hright
        exact ⟨⟨hright.1, fun hreach => absurd hreach h⟩, by omega⟩

lemma exists_edge_list [Finite V] (G : SimpleGraph V) :
    ∃ es : List (V × V), Simple ⊥ es ∧ withEdges ⊥ es = G := by
  classical
  have hfintype : Fintype G.edgeSet := Fintype.ofFinite _
  have hmem : ∀ e ∈ G.edgeFinset.toList, e ∈ G.edgeSet := by
    intro e he
    rwa [Finset.mem_toList, mem_edgeFinset] at he
  have hout : ∀ e : Sym2 V, s((Quot.out e).1, (Quot.out e).2) = e := fun e => Quot.out_eq e
  refine ⟨G.edgeFinset.toList.map Quot.out, ⟨?_, ?_⟩, ?_⟩
  · rw [List.map_map]
    have hid : (fun e : V × V => s(e.1, e.2)) ∘ Quot.out = (id : Sym2 V → Sym2 V) := by
      funext e
      exact hout e
    rw [hid, List.map_id]
    exact G.edgeFinset.nodup_toList
  · intro p hp
    obtain ⟨e, he, rfl⟩ := List.mem_map.mp hp
    have hadj : G.Adj (Quot.out e).1 (Quot.out e).2 := by
      rw [← mem_edgeSet, hout]
      exact hmem e he
    exact ⟨hadj.ne, fun hbot => hbot⟩
  · ext x y
    rw [withEdges_adj]
    constructor
    · intro h
      rcases h with hbot | ⟨hlist, -⟩
      · exact absurd hbot id
      · rcases hlist with hlist | hlist
        · obtain ⟨e, he, heq⟩ := List.mem_map.mp hlist
          have hsame : e = s(x, y) := by rw [← hout e, heq]
          rw [← mem_edgeSet, ← hsame]
          exact hmem e he
        · obtain ⟨e, he, heq⟩ := List.mem_map.mp hlist
          have hsame : e = s(y, x) := by rw [← hout e, heq]
          refine Adj.symm ?_
          rw [← mem_edgeSet, ← hsame]
          exact hmem e he
    · intro h
      refine .inr ⟨?_, h.ne⟩
      have hpair : Quot.out s(x, y) ∈ G.edgeFinset.toList.map Quot.out := by
        refine List.mem_map_of_mem ?_
        rw [Finset.mem_toList, mem_edgeFinset]
        exact h
      have hends := hout s(x, y)
      rw [Sym2.eq_iff] at hends
      rcases hends with ⟨h1, h2⟩ | ⟨h1, h2⟩
      · rw [show Quot.out s(x, y) = (x, y) from Prod.ext h1 h2] at hpair
        exact .inl hpair
      · rw [show Quot.out s(x, y) = (y, x) from Prod.ext h1 h2] at hpair
        exact .inr hpair

lemma Simple.sublist {es es' : List (V × V)} (h : Simple G es) (hsub : es'.Sublist es) :
    Simple G es' :=
  ⟨h.1.sublist (hsub.map _), fun e he => h.2 e (hsub.subset he)⟩

lemma mem_edgeSet_withEdges (h : Simple ⊥ es) (z : Sym2 V) :
    z ∈ (withEdges ⊥ es).edgeSet ↔ z ∈ es.map fun e => s(e.1, e.2) := by
  induction z using Sym2.ind with
  | h x y =>
    rw [mem_edgeSet, withEdges_adj, mem_map]
    constructor
    · intro hadj
      rcases hadj with hbot | ⟨hmem | hmem, -⟩
      · exact absurd hbot id
      · exact ⟨(x, y), hmem, rfl⟩
      · exact ⟨(y, x), hmem, Sym2.eq_swap⟩
    · intro hmem
      obtain ⟨e, he, heq⟩ := hmem
      have hne := (h.2 e he).1
      refine .inr ?_
      rw [Sym2.eq_iff] at heq
      rcases heq with ⟨rfl, rfl⟩ | ⟨rfl, rfl⟩
      · exact ⟨.inl he, hne⟩
      · exact ⟨.inr he, hne.symm⟩

lemma card_edgeSet_withEdges [Finite V] (h : Simple ⊥ es) :
    Nat.card (withEdges ⊥ es).edgeSet = es.length := by
  classical
  have hsame : Nat.card (withEdges ⊥ es).edgeSet =
      Nat.card {z : Sym2 V // z ∈ es.map fun e => s(e.1, e.2)} :=
    Nat.card_congr (Equiv.subtypeEquivRight (mem_edgeSet_withEdges h))
  rw [hsame, Nat.card_eq_fintype_card, Fintype.card_of_subtype
    (es.map fun e => s(e.1, e.2)).toFinset (fun z => mem_toFinset),
    toFinset_card_of_nodup h.1, length_map]

/-- A graph has a cycle exactly when it has more edges than its components account for. -/
lemma isAcyclic_iff_card [Finite V] (G : SimpleGraph V) :
    G.IsAcyclic ↔ Nat.card G.edgeSet + components G = Nat.card V := by
  obtain ⟨es, hsimple, rfl⟩ := exists_edge_list G
  have hjoin := length_joining (G := ⊥) es
  rw [components_bot] at hjoin
  rw [isAcyclic_iff_joining hsimple, card_edgeSet_withEdges hsimple]
  constructor
  · intro h
    omega
  · intro h
    exact ⟨isAcyclic_bot, by omega⟩

lemma card_le_edges_add_components [Finite V] (G : SimpleGraph V) :
    Nat.card V ≤ Nat.card G.edgeSet + components G := by
  obtain ⟨es, hsimple, rfl⟩ := exists_edge_list G
  have hjoin := length_joining (G := ⊥) es
  have hshort := (joining_sublist (G := ⊥) es).length_le
  rw [components_bot] at hjoin
  rw [card_edgeSet_withEdges hsimple]
  omega

end Tidex.Lib
