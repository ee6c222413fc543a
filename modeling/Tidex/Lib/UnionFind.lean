/-
  Lib.UnionFind — parents that lead to a representative.
-/
import Tidex.Lib.Components

namespace Tidex.Lib.UnionFind

open SimpleGraph List Function

variable {n : Nat}

/-! ## The search -/

/-- The representative of a vertex, and the parents with the path to it shortened; nothing
    where the path is longer than the fuel. -/
def find : Nat → (Fin n → Fin n) → Fin n → Option (Fin n × (Fin n → Fin n))
  | 0, _, _ => none
  | fuel + 1, parent, i =>
    if parent i = i then some (i, parent)
    else (find fuel parent (parent i)).map fun found =>
      (found.1, update found.2 i found.1)

/-- Whether an edge connects two representatives, and the parents after it. -/
def connect (parent : Fin n → Fin n) (i j : Fin n) : Option (Bool × (Fin n → Fin n)) := do
  let (rootI, parent) ← find n parent i
  let (rootJ, parent) ← find n parent j
  if rootI ≠ rootJ then return (true, update parent rootI rootJ)
  else return (false, parent)

/-! ## Parents of a graph -/

/-- Every vertex leads, by parents of falling depth, to the representative of its component. -/
structure Leads (parent : Fin n → Fin n) (G : SimpleGraph (Fin n)) (root : Fin n → Fin n)
    (depth : Fin n → Nat) : Prop where
  root_parent : ∀ x, root (parent x) = root x
  root_self : ∀ x, parent (root x) = root x
  fixed : ∀ x, parent x = x → root x = x
  falls : ∀ x, parent x ≠ x → depth (parent x) < depth x
  root_depth : ∀ x, depth (root x) = 0
  same : ∀ x y, root x = root y ↔ G.Reachable x y
  bounded : ∀ x, depth x + components G ≤ n

def Represents (parent : Fin n → Fin n) (G : SimpleGraph (Fin n)) : Prop :=
  ∃ root depth, Leads parent G root depth

lemma represents_start : Represents (id : Fin n → Fin n) ⊥ := by
  refine ⟨id, fun _ => 0, fun _ => rfl, fun _ => rfl, fun _ _ => rfl, ?_, fun _ => rfl, ?_, ?_⟩
  · intro x h
    exact absurd rfl h
  · intro x y
    rw [reachable_bot]
    rfl
  · intro x
    rw [components_bot, Nat.card_eq_fintype_card, Fintype.card_fin, Nat.zero_add]

section

variable {parent : Fin n → Fin n} {G : SimpleGraph (Fin n)} {root : Fin n → Fin n}
  {depth : Fin n → Nat}

section

variable (h : Leads parent G root depth)
include h

lemma Leads.congr {H : SimpleGraph (Fin n)} (hsame : G.Reachable = H.Reachable) :
    Leads parent H root depth := by
  refine ⟨h.root_parent, h.root_self, h.fixed, h.falls, h.root_depth, ?_, ?_⟩
  · intro x y
    rw [h.same, hsame]
  · intro x
    rw [← components_congr hsame]
    exact h.bounded x

lemma Leads.root_root (x : Fin n) : root (root x) = root x :=
  h.fixed (root x) (h.root_self x)

lemma Leads.depth_pos {x : Fin n} (hx : parent x ≠ x) : 0 < depth x :=
  Nat.lt_of_le_of_lt (Nat.zero_le _) (h.falls x hx)

lemma Leads.compress {i : Fin n} (hi : parent i ≠ i) :
    Leads (update parent i (root i)) G root depth := by
  refine ⟨?_, ?_, ?_, ?_, h.root_depth, h.same, h.bounded⟩
  · intro x
    by_cases hx : x = i
    · subst hx
      rw [update_self, h.root_root]
    · rw [update_of_ne hx, h.root_parent]
  · intro x
    have hroot : root x ≠ i := by
      intro heq
      exact hi (heq ▸ h.root_self x)
    rw [update_of_ne hroot, h.root_self]
  · intro x
    by_cases hx : x = i
    · subst hx
      rw [update_self]
      exact id
    · rw [update_of_ne hx]
      exact h.fixed x
  · intro x
    by_cases hx : x = i
    · subst hx
      rw [update_self, h.root_depth]
      intro _
      exact h.depth_pos hi
    · rw [update_of_ne hx]
      exact h.falls x

lemma Leads.find_of_depth {fuel : Nat} {i : Fin n} (hfuel : depth i < fuel) :
    ∃ parent', find fuel parent i = some (root i, parent') ∧ Leads parent' G root depth := by
  induction fuel generalizing i with
  | zero => exact absurd hfuel (Nat.not_lt_zero _)
  | succ fuel ih =>
    by_cases hi : parent i = i
    · refine ⟨parent, ?_, h⟩
      unfold UnionFind.find
      rw [if_pos hi, h.fixed i hi]
    · have hfalls := h.falls i hi
      obtain ⟨parent', hfind, hleads⟩ := ih (i := parent i) (by omega)
      have hkeeps : parent' i ≠ i := by
        intro heq
        -- a representative has no depth to fall
        have hroot : root i = i := hleads.fixed i heq
        have hzero := h.root_depth i
        rw [hroot] at hzero
        have := h.depth_pos hi
        omega
      refine ⟨update parent' i (root i), ?_, hleads.compress hkeeps⟩
      unfold UnionFind.find
      rw [if_neg hi, hfind, h.root_parent]
      rfl

/-- The search ends with the representative, and the parents it leaves lead as before. -/
lemma Leads.find_spec (i : Fin n) :
    ∃ parent', find n parent i = some (root i, parent') ∧ Leads parent' G root depth := by
  have hnonempty : Nonempty (Fin n) := ⟨i⟩
  have hbound := h.bounded i
  have hpos := components_pos G
  exact h.find_of_depth (by omega)

end

end

/-! ## One more edge -/

section

variable {parent : Fin n → Fin n} {G : SimpleGraph (Fin n)} {root : Fin n → Fin n}
  {depth : Fin n → Nat}

lemma Leads.link (h : Leads parent G root depth) {i j : Fin n} (hij : root i ≠ root j) :
    Leads (update parent (root i) (root j)) (G ⊔ edge i j)
      (fun x => if root x = root i then root j else root x)
      (fun x => if root x = root i then depth x + 1 else depth x) := by
  have hreach : ¬G.Reachable i j := by
    rwa [← h.same]
  have hcount := components_sup_edge hreach
  refine ⟨?_, ?_, ?_, ?_, ?_, ?_, ?_⟩
  · intro x
    by_cases hx : x = root i
    · subst hx
      rw [update_self, h.root_root, h.root_root, if_neg (Ne.symm hij), if_pos rfl]
    · rw [update_of_ne hx, h.root_parent]
  · intro x
    by_cases hx : root x = root i
    · rw [if_pos hx, update_of_ne (Ne.symm hij), h.root_self]
    · rw [if_neg hx, update_of_ne hx, h.root_self]
  · intro x
    by_cases hx : x = root i
    · subst hx
      rw [update_self]
      intro heq
      exact absurd heq.symm hij
    · rw [update_of_ne hx]
      intro hfix
      have hroot := h.fixed x hfix
      have hclass : root x ≠ root i := by
        rw [hroot]
        exact hx
      rw [if_neg hclass, hroot]
  · intro x
    by_cases hx : x = root i
    · subst hx
      rw [update_self, h.root_root, h.root_root, if_neg (Ne.symm hij), if_pos rfl,
        h.root_depth, h.root_depth]
      omega
    · rw [update_of_ne hx, h.root_parent]
      intro hfall
      have hfalls := h.falls x hfall
      by_cases hclass : root x = root i
      · rw [if_pos hclass, if_pos hclass]
        omega
      · rw [if_neg hclass, if_neg hclass]
        exact hfalls
  · intro x
    by_cases hx : root x = root i
    · rw [if_pos hx, h.root_root, if_neg (Ne.symm hij), h.root_depth]
    · rw [if_neg hx, h.root_root, if_neg hx, h.root_depth]
  · intro x y
    rw [reachable_sup_edge, ← h.same, ← h.same, ← h.same, ← h.same, ← h.same]
    by_cases hx : root x = root i
    · by_cases hy : root y = root i
      · rw [if_pos hx, if_pos hy]
        exact ⟨fun _ => .inl (hx.trans hy.symm), fun _ => rfl⟩
      · rw [if_pos hx, if_neg hy]
        constructor
        · intro heq
          exact .inr (.inl ⟨hx, heq⟩)
        · intro hcases
          rcases hcases with heq | ⟨-, heq⟩ | ⟨-, heq⟩
          · exact absurd (heq.symm.trans hx) hy
          · exact heq
          · exact absurd heq.symm hy
    · by_cases hy : root y = root i
      · rw [if_neg hx, if_pos hy]
        constructor
        · intro heq
          exact .inr (.inr ⟨heq, hy.symm⟩)
        · intro hcases
          rcases hcases with heq | ⟨heq, -⟩ | ⟨heq, -⟩
          · exact absurd (heq.trans hy) hx
          · exact absurd heq hx
          · exact heq
      · rw [if_neg hx, if_neg hy]
        constructor
        · exact .inl
        · intro hcases
          rcases hcases with heq | ⟨heq, -⟩ | ⟨-, heq⟩
          · exact heq
          · exact absurd heq hx
          · exact absurd heq.symm hy
  · intro x
    have hbound := h.bounded x
    by_cases hx : root x = root i
    · rw [if_pos hx]
      omega
    · rw [if_neg hx]
      omega

end

variable {parent : Fin n → Fin n} {G : SimpleGraph (Fin n)}

/-- An edge joins exactly when it connects what was not connected, and the parents then
    represent the graph with it. -/
lemma connect_spec (h : Represents parent G) (i j : Fin n) :
    ∃ joins parent', connect parent i j = some (joins, parent') ∧
      (joins = true ↔ ¬G.Reachable i j) ∧ Represents parent' (G ⊔ edge i j) := by
  obtain ⟨root, depth, hleads⟩ := h
  obtain ⟨parent₁, hfindI, hleads₁⟩ := hleads.find_spec i
  obtain ⟨parent₂, hfindJ, hleads₂⟩ := hleads₁.find_spec j
  unfold connect
  rw [hfindI, Option.bind_eq_bind, Option.bind_some]
  dsimp only
  rw [hfindJ, Option.bind_some]
  dsimp only
  by_cases hij : root i = root j
  · have hreach := (hleads.same i j).mp hij
    refine ⟨false, parent₂, if_neg (not_not.mpr hij), ?_, root, depth, ?_⟩
    · exact ⟨fun hfalse => absurd hfalse (by decide), fun hnot => absurd hreach hnot⟩
    · exact hleads₂.congr (reachable_sup_edge_of_reachable hreach).symm
  · have hreach : ¬G.Reachable i j := fun hreach => hij ((hleads.same i j).mpr hreach)
    exact ⟨true, _, if_pos hij, ⟨fun _ => hreach, fun _ => rfl⟩, _, _, hleads₂.link hij⟩

/-! ## The number of representatives -/

/-- The representatives of all vertices, one search after another. -/
def roots (parent : Fin n → Fin n) : List (Fin n) → Option (List (Fin n))
  | [] => some []
  | i :: rest => do
    let (root, parent) ← find n parent i
    let others ← roots parent rest
    return root :: others

/-- How many different representatives there are. -/
def rootCount (parent : Fin n → Fin n) : Option Nat :=
  (roots parent (List.finRange n)).map fun all => all.dedup.length

lemma Leads.roots_spec {root : Fin n → Fin n} {depth : Fin n → Nat}
    (h : Leads parent G root depth) (vertices : List (Fin n)) :
    roots parent vertices = some (vertices.map root) := by
  induction vertices generalizing parent with
  | nil => rfl
  | cons i rest ih =>
    obtain ⟨parent', hfind, hleads⟩ := h.find_spec i
    unfold roots
    rw [hfind, Option.bind_eq_bind, Option.bind_some]
    dsimp only
    rw [ih hleads]
    rfl

/-- There are as many representatives as components. -/
lemma rootCount_spec (h : Represents parent G) : rootCount parent = some (components G) := by
  obtain ⟨root, depth, hleads⟩ := h
  unfold rootCount
  rw [hleads.roots_spec, Option.map_some, Option.some.injEq]
  -- a component is sent to the representative of its vertices
  let f : G.ConnectedComponent → {r : Fin n // r ∈ (finRange n).map root} := fun c =>
    c.lift (fun x => ⟨root x, mem_map_of_mem (mem_finRange x)⟩)
      fun x y p _ => Subtype.ext ((hleads.same x y).mpr p.reachable)
  have hf : Bijective f := by
    constructor
    · intro a b hab
      induction a using ConnectedComponent.ind with
      | h x =>
        induction b using ConnectedComponent.ind with
        | h y =>
          have hroot : root x = root y := congrArg Subtype.val hab
          exact ConnectedComponent.sound ((hleads.same x y).mp hroot)
    · intro r
      obtain ⟨r, hr⟩ := r
      obtain ⟨x, -, rfl⟩ := mem_map.mp hr
      exact ⟨G.connectedComponentMk x, rfl⟩
  unfold components
  rw [Nat.card_eq_of_bijective f hf, ← card_toFinset, Nat.card_eq_fintype_card,
    Fintype.card_of_subtype]
  intro r
  exact mem_toFinset

end Tidex.Lib.UnionFind
