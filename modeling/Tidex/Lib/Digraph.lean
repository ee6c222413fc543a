/-
  Lib.Digraph — finite directed graphs: reachability and acyclicity.
-/
import Mathlib.Order.WellFounded
import Mathlib.Data.Fintype.EquivFin

namespace Tidex.Lib

open Relation List

variable {V : Type} {E F : V → V → Prop}

/-- No node reaches itself by one edge or more. -/
def Acyclic (E : V → V → Prop) : Prop :=
  ∀ v, ¬TransGen E v v

/-! ## Reachability -/

variable {a b : V}

lemma mem_of_reaches {S : V → Prop} (hclosed : ∀ a b, S a → E a b → S b)
    (hab : ReflTransGen E a b) (ha : S a) : S b := by
  induction hab with
  | refl => exact ha
  | tail _ hbc ih => exact hclosed _ _ ih hbc

lemma eq_of_reaches_of_sink (hsink : ∀ c, ¬E a c) (hab : ReflTransGen E a b) : a = b := by
  rcases ReflTransGen.cases_head hab with rfl | ⟨c, hac, -⟩
  · rfl
  · exact absurd hac (hsink c)

/-! ## Acyclic graphs under new edges -/

/-- A path over the old edges and new edges out of one node either avoids the new
    edges, or runs from its start to their source and from one of their targets to
    its end. -/
lemma transGen_insertEdges {s : V} {T : V → Prop} (hF : ∀ a b, F a b → E a b ∨ (a = s ∧ T b))
    (hT : ∀ t, T t → ¬ReflTransGen E t s) (hab : TransGen F a b) :
    TransGen E a b ∨ (ReflTransGen E a s ∧ ∃ t, T t ∧ ReflTransGen E t b) := by
  induction hab with
  | single h =>
    rcases hF _ _ h with hE | ⟨rfl, ht⟩
    · exact .inl (TransGen.single hE)
    · exact .inr ⟨ReflTransGen.refl, _, ht, ReflTransGen.refl⟩
  | tail _ h ih =>
    rcases hF _ _ h with hE | ⟨rfl, ht⟩
    · rcases ih with ih | ⟨has, t, ht, htb⟩
      · exact .inl (ih.tail hE)
      · exact .inr ⟨has, t, ht, htb.tail hE⟩
    · rcases ih with ih | ⟨-, t, ht, htb⟩
      · exact .inr ⟨ih.to_reflTransGen, _, ht, ReflTransGen.refl⟩
      · exact absurd htb (hT t ht)

/-- Edges out of one node, to targets that do not reach it, close no cycle. -/
lemma Acyclic.insertEdges {s : V} {T : V → Prop} (hE : Acyclic E)
    (hF : ∀ a b, F a b → E a b ∨ (a = s ∧ T b)) (hT : ∀ t, T t → ¬ReflTransGen E t s) :
    Acyclic F := by
  intro v hv
  rcases transGen_insertEdges hF hT hv with h | ⟨hvs, t, ht, htv⟩
  · exact hE v h
  · exact hT t ht (htv.trans hvs)

/-- A new edge closes a cycle exactly when its source can be reached from its target. -/
lemma Acyclic.insertEdge_iff {u v : V} (hE : Acyclic E)
    (hF : ∀ a b, F a b ↔ E a b ∨ (a = u ∧ b = v)) : Acyclic F ↔ ¬ReflTransGen E v u := by
  constructor
  · intro h hvu
    have hback : ReflTransGen F v u :=
      ReflTransGen.mono (fun a b hab => (hF a b).mpr (.inl hab)) v u hvu
    exact h u (TransGen.head' ((hF u v).mpr (.inr ⟨rfl, rfl⟩)) hback)
  · intro hvu
    exact hE.insertEdges (fun a b hab => (hF a b).mp hab) fun t ht => ht ▸ hvu

/-! ## Taking nodes after their predecessors -/

/-- The nodes taken so far, latest first: each was new and came after all of its
    predecessors. -/
inductive PeelOrder (E : V → V → Prop) : List V → Prop
  | nil : PeelOrder E []
  | cons {v : V} {taken : List V} : PeelOrder E taken → v ∉ taken →
      (∀ u, E u v → u ∈ taken) → PeelOrder E (v :: taken)

variable {taken : List V}

lemma PeelOrder.congr {F : V → V → Prop} (h : PeelOrder E taken)
    (hnew : ∀ u v, v ∈ taken → F u v → E u v) : PeelOrder F taken := by
  induction h with
  | nil => exact PeelOrder.nil
  | @cons v taken hrest hv hpred ih =>
    apply PeelOrder.cons
    · exact ih (fun u w hw hF => hnew u w (mem_cons_of_mem _ hw) hF)
    · exact hv
    · intro u hF
      exact hpred u (hnew u v mem_cons_self hF)

lemma PeelOrder.nodup (h : PeelOrder E taken) : taken.Nodup := by
  induction h with
  | nil => exact nodup_nil
  | cons _ hnew _ ih => exact nodup_cons.mpr ⟨hnew, ih⟩

lemma PeelOrder.pred_mem (h : PeelOrder E taken) {u v : V} (hv : v ∈ taken) (huv : E u v) :
    u ∈ taken := by
  induction h with
  | nil => cases hv
  | cons _ _ hpred ih =>
    rcases mem_cons.mp hv with rfl | hv
    · exact mem_cons_of_mem _ (hpred u huv)
    · exact mem_cons_of_mem _ (ih hv)

lemma PeelOrder.mem_of_transGen (h : PeelOrder E taken) {u v : V} (hv : v ∈ taken)
    (huv : TransGen E u v) : u ∈ taken := by
  induction huv using TransGen.head_induction_on with
  | single hE => exact h.pred_mem hv hE
  | head hE _ ih => exact h.pred_mem ih hE

lemma PeelOrder.not_transGen_self (h : PeelOrder E taken) {v : V} (hv : v ∈ taken) :
    ¬TransGen E v v := by
  induction h with
  | nil => cases hv
  | @cons w taken hrest hnew hpred ih =>
    rcases mem_cons.mp hv with rfl | hv
    · intro hcycle
      obtain ⟨u, hvu, huv⟩ := TransGen.tail'_iff.mp hcycle
      have hu : u ∈ taken := hpred u huv
      rcases (reflTransGen_iff_eq_or_transGen.mp hvu) with rfl | hvu
      · exact hnew hu
      · exact hnew (hrest.mem_of_transGen hu hvu)
    · exact ih hv

/-- An order that takes every edge's target proves the graph acyclic. -/
lemma PeelOrder.acyclic (h : PeelOrder E taken) (hall : ∀ u v, E u v → v ∈ taken) :
    Acyclic E := by
  intro v hcycle
  obtain ⟨u, -, huv⟩ := TransGen.tail'_iff.mp hcycle
  exact h.not_transGen_self (hall u v huv) hcycle

lemma Acyclic.exists_source (hE : Acyclic E) (nodes : List V) (hnodes : ∀ u v, E u v → u ∈ nodes)
    (hleft : ∃ v ∈ nodes, v ∉ taken) : ∃ v ∈ nodes, v ∉ taken ∧ ∀ u, E u v → u ∈ taken := by
  classical
  -- the nodes left, ordered by reachability: a minimal one is the next node
  let Left : Type := {v : V // v ∈ nodes ∧ v ∉ taken}
  have hfinite : Finite Left := by
    refine Finite.of_injective (fun v : Left => (⟨v.1, v.2.1⟩ : {v : V // v ∈ nodes})) ?_
    intro a b hab
    exact Subtype.ext (Subtype.mk.inj hab)
  let R : Left → Left → Prop := fun a b => TransGen E a.1 b.1
  have hirrefl : Std.Irrefl R := ⟨fun a ha => hE a.1 ha⟩
  have hwf : WellFounded R := Finite.wellFounded_of_trans_of_irrefl R
  obtain ⟨v, hv, hvt⟩ := hleft
  obtain ⟨m, -, hmin⟩ := hwf.has_min Set.univ ⟨⟨v, hv, hvt⟩, trivial⟩
  refine ⟨m.1, m.2.1, m.2.2, ?_⟩
  intro u hum
  by_contra hut
  exact hmin ⟨u, hnodes u m.1 hum, hut⟩ trivial (TransGen.single hum)

end Tidex.Lib
