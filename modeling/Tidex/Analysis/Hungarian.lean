/-
  Analysis.Hungarian — the assignment loop of the basis alignment.
-/
import Mathlib.Tactic.Ring
import Tidex.Lib.Assignment
import Tidex.Lib.Checked

namespace Tidex.Analysis

open Tidex.Lib List Function

/-! ## The loop -/

section

variable {K : Type} [Zero K] [Add K] [Sub K] (lt : K → K → Bool)

structure SearchState (K : Type) where
  u : Nat → K
  v : Nat → K
  minv : Nat → Option K
  way : Nat → Nat
  used : Nat → Bool
  j0 : Nat

/-- The bounds and ways during a pass over the columns, with the least bound so far. -/
structure Scan (K : Type) where
  minv : Nat → Option K
  way : Nat → Nat
  delta : Option K
  j1 : Nat

/-- Less than a bound that may be infinite. -/
def below (x : K) : Option K → Bool
  | none => true
  | some bound => lt x bound

/-- A bound is less than another, where both may be infinite. -/
def boundBelow : Option K → Option K → Bool
  | none, _ => false
  | some x, bound => below lt x bound

def scanColumn (cost : Nat → Nat → K) (u v : Nat → K) (used : Nat → Bool) (i0 j0 : Nat)
    (s : Scan K) (j : Nat) : Scan K :=
  if used j then s else
    let cur := cost (i0 - 1) (j - 1) - u i0 - v j
    let s := if below lt cur (s.minv j) then
        { s with minv := update s.minv j (some cur), way := update s.way j j0 }
      else s
    if boundBelow lt (s.minv j) s.delta then { s with delta := s.minv j, j1 := j } else s

/-- The potentials and bounds during the pass that shifts them. -/
structure Shift (K : Type) where
  u : Nat → K
  v : Nat → K
  minv : Nat → Option K

/-- Raise the row and lower the column where it is used, and lower the bound elsewhere. -/
def shiftColumn (p : Nat → Nat) (used : Nat → Bool) (delta : K) (s : Shift K) (j : Nat) : Shift K :=
  if used j then
    { s with u := update s.u (p j) (s.u (p j) + delta),
             v := update s.v j (s.v j - delta) }
  else { s with minv := update s.minv j ((s.minv j).map (· - delta)) }

def searchRound (n : Nat) (cost : Nat → Nat → K) (p : Nat → Nat) (s : SearchState K) :
    Option (SearchState K) :=
  let used := update s.used s.j0 true
  let scan := (List.range' 1 n).foldl (scanColumn lt cost s.u s.v used (p s.j0) s.j0)
    ⟨s.minv, s.way, none, 0⟩
  match scan.delta with
  | none => none
  | some delta =>
    let shifted := (List.range (n + 1)).foldl (shiftColumn p used delta) ⟨s.u, s.v, scan.minv⟩
    some ⟨shifted.u, shifted.v, shifted.minv, scan.way, used, scan.j1⟩

/-- Search until a column without a row is reached. -/
def search (n : Nat) (cost : Nat → Nat → K) (p : Nat → Nat) :
    Nat → SearchState K → Option (SearchState K)
  | 0, _ => none
  | rounds + 1, s =>
    match searchRound lt n cost p s with
    | none => none
    | some next => if p next.j0 = 0 then some next else search n cost p rounds next

/-- Move the rows up along the way back. -/
def augment (way : Nat → Nat) : Nat → (Nat → Nat) → Nat → Option (Nat → Nat)
  | 0, _, _ => none
  | rounds + 1, p, j0 =>
    let j1 := way j0
    let p := update p j0 (p j1)
    if j1 = 0 then some p else augment way rounds p j1

/-- The potentials, the row of each column, and the ways. -/
structure AssignmentState (K : Type) where
  u : Nat → K
  v : Nat → K
  p : Nat → Nat
  way : Nat → Nat

def assignRow (n : Nat) (cost : Nat → Nat → K) (s : AssignmentState K) (i : Nat) :
    Option (AssignmentState K) := do
  let p := update s.p 0 i
  let found ← search lt n cost p (n + 1) ⟨s.u, s.v, fun _ => none, s.way, fun _ => false, 0⟩
  let p ← augment found.way (n + 1) p found.j0
  return ⟨found.u, found.v, p, found.way⟩

def assign (n : Nat) (cost : Nat → Nat → K) : Option (AssignmentState K) :=
  (List.range' 1 n).foldlM (assignRow lt n cost) ⟨fun _ => 0, fun _ => 0, fun _ => 0, fun _ => 0⟩

end

/-! ## One pass over the columns -/

section

variable {K : Type} [Field K] [LinearOrder K] [IsStrictOrderedRing K] {lt : K → K → Bool}

def slack (cost : Nat → Nat → K) (u v : Nat → K) (r j : Nat) : K :=
  cost (r - 1) (j - 1) - u r - v j

/-- What a pass over some columns leaves. -/
structure Scanned (cost : Nat → Nat → K) (u v : Nat → K) (used : Nat → Bool) (i0 j0 : Nat)
    (minv : Nat → Option K) (way : Nat → Nat) (done : List Nat) (s : Scan K) : Prop where
  other : ∀ j, j ∉ done ∨ used j = true → s.minv j = minv j ∧ s.way j = way j
  /-- A bound is the slack just looked at, or the one that was there. -/
  bound : ∀ j ∈ done, used j = false → ∃ x, s.minv j = some x ∧ x ≤ slack cost u v i0 j ∧
    (∀ y, minv j = some y → x ≤ y) ∧
    ((x = slack cost u v i0 j ∧ s.way j = j0) ∨ (minv j = some x ∧ s.way j = way j))
  /-- The least bound, where a column is not used. -/
  least : (s.delta = none ∧ ∀ j ∈ done, used j = true) ∨
    ∃ x, s.delta = some x ∧ s.j1 ∈ done ∧ used s.j1 = false ∧ s.minv s.j1 = some x ∧
      ∀ j ∈ done, used j = false → ∀ y, s.minv j = some y → x ≤ y

omit [IsStrictOrderedRing K] in
lemma scan_spec (hlt : ∀ a b, lt a b = true ↔ a < b) {cost : Nat → Nat → K} {u v : Nat → K}
    {used : Nat → Bool} {i0 j0 : Nat} {minv : Nat → Option K} {way : Nat → Nat}
    {columns : List Nat} (hnodup : columns.Nodup) : Scanned cost u v used i0 j0 minv way columns
      (columns.foldl (scanColumn lt cost u v used i0 j0) ⟨minv, way, none, 0⟩) := by
  induction columns using reverseRecOn with
  | nil =>
    refine ⟨?_, ?_, .inl ⟨rfl, ?_⟩⟩
    · intro j _
      exact ⟨rfl, rfl⟩
    · intro j hj
      cases hj
    · intro j hj
      cases hj
  | append_singleton done j ih =>
    obtain ⟨hdone, hjs⟩ := nodup_append.mp hnodup |>.imp id id
    have hfresh : j ∉ done := by
      intro hmem
      exact hjs.2 j hmem j (mem_singleton_self j) rfl
    have hs := ih hdone
    rw [foldl_append, foldl_cons, foldl_nil]
    generalize done.foldl (scanColumn lt cost u v used i0 j0) ⟨minv, way, none, 0⟩ = s at hs ⊢
    have hold := hs.other j (.inl hfresh)
    unfold scanColumn
    by_cases hused : used j = true
    · rw [if_pos hused]
      refine ⟨?_, ?_, ?_⟩
      · intro k hk
        apply hs.other k
        rcases hk with hk | hk
        · exact .inl fun hmem => hk (mem_append_left _ hmem)
        · exact .inr hk
      · refine forall_mem_concat hs.bound ?_
        rw [hused]
        exact Bool.noConfusion
      · rcases hs.least with ⟨hnone, hall⟩ | ⟨x, hx, hj1, hj1u, hj1x, hall⟩
        · exact .inl ⟨hnone, forall_mem_concat hall hused⟩
        · refine .inr ⟨x, hx, mem_append_left _ hj1, hj1u, hj1x, forall_mem_concat hall ?_⟩
          rw [hused]
          exact Bool.noConfusion
    · have hunused : used j = false := by
        rwa [Bool.not_eq_true] at hused
      rw [if_neg hused]
      -- the bound of the column after it was looked at
      have hlooked : ∃ s' : Scan K, ∃ x,
          (if below lt (slack cost u v i0 j) (s.minv j) then
            { s with minv := update s.minv j (some (slack cost u v i0 j)),
                     way := update s.way j j0 } else s) = s' ∧
          s'.delta = s.delta ∧ s'.j1 = s.j1 ∧ s'.minv j = some x ∧
          x ≤ slack cost u v i0 j ∧ (∀ y, minv j = some y → x ≤ y) ∧
          ((x = slack cost u v i0 j ∧ s'.way j = j0) ∨ (minv j = some x ∧ s'.way j = way j)) ∧
          ∀ k, k ≠ j → s'.minv k = s.minv k ∧ s'.way k = s.way k := by
        by_cases hbelow : below lt (slack cost u v i0 j) (s.minv j) = true
        · rw [if_pos hbelow]
          refine ⟨_, slack cost u v i0 j, rfl, rfl, rfl, update_self _ _ _, le_refl _, ?_,
            .inl ⟨rfl, update_self _ _ _⟩, ?_⟩
          · intro y hy
            rw [hold.1, hy] at hbelow
            exact le_of_lt ((hlt _ _).mp hbelow)
          · intro k hk
            exact ⟨update_of_ne hk _ _, update_of_ne hk _ _⟩
        · rw [if_neg hbelow]
          cases hmin : s.minv j with
          | none =>
            rw [hmin] at hbelow
            exact absurd rfl hbelow
          | some x =>
            rw [hmin] at hbelow
            have hle : x ≤ slack cost u v i0 j := by
              by_contra hgt
              exact hbelow ((hlt _ _).mpr (lt_of_not_ge hgt))
            rw [hold.1] at hmin
            refine ⟨s, x, rfl, rfl, rfl, hold.1.trans hmin, hle, ?_, .inr ⟨hmin, hold.2⟩, ?_⟩
            · intro y hy
              rw [hmin, Option.some.injEq] at hy
              exact le_of_eq hy
            · intro k _
              exact ⟨rfl, rfl⟩
      obtain ⟨s', x, hs', hdelta, hj1, hx, hxle, hxold, hxway, hothers⟩ := hlooked
      have hslack : cost (i0 - 1) (j - 1) - u i0 - v j = slack cost u v i0 j := rfl
      simp only [hslack, hs']
      -- what the pass found, whether the least bound changes or not
      have hkeep : ∀ k ∈ done, s'.minv k = s.minv k ∧ s'.way k = s.way k :=
        fun k hk => hothers k fun heq => hfresh (heq ▸ hk)
      have hother : ∀ k, k ∉ done ++ [j] ∨ used k = true →
          s'.minv k = minv k ∧ s'.way k = way k := by
        intro k hk
        have hkj : k ≠ j := by
          intro heq
          subst heq
          rcases hk with hk | hk
          · exact hk (mem_append_right _ (mem_singleton_self _))
          · rw [hunused] at hk
            cases hk
        rw [(hothers k hkj).1, (hothers k hkj).2]
        apply hs.other k
        rcases hk with hk | hk
        · exact .inl fun hmem => hk (mem_append_left _ hmem)
        · exact .inr hk
      have hbound : ∀ k ∈ done ++ [j], used k = false → ∃ x, s'.minv k = some x ∧
          x ≤ slack cost u v i0 k ∧ (∀ y, minv k = some y → x ≤ y) ∧
          ((x = slack cost u v i0 k ∧ s'.way k = j0) ∨
            (minv k = some x ∧ s'.way k = way k)) := by
        refine forall_mem_concat ?_ fun _ => ⟨x, hx, hxle, hxold, hxway⟩
        intro k hk hku
        rw [(hkeep k hk).1, (hkeep k hk).2]
        exact hs.bound k hk hku
      by_cases hless : boundBelow lt (s'.minv j) s'.delta = true
      · rw [if_pos hless]
        refine ⟨hother, hbound, .inr ⟨x, hx, ?_, hunused, hx, ?_⟩⟩
        · exact mem_append_right _ (mem_singleton_self _)
        · refine forall_mem_concat ?_ fun _ y hy => (Option.some_inj.mp (hx.symm.trans hy)).le
          intro k hk hku y hy
          rcases hs.least with ⟨-, hall⟩ | ⟨z, hz, -, -, -, hall⟩
          · rw [hall k hk] at hku
            cases hku
          · rw [hx, hdelta, hz] at hless
            have hxz : x < z := (hlt _ _).mp hless
            exact hxz.le.trans (hall k hk hku y ((hkeep k hk).1.symm.trans hy))
      · rw [if_neg hless]
        rcases hs.least with ⟨hnone, -⟩ | ⟨z, hz, hj1mem, hj1u, hj1x, hall⟩
        · rw [hx, hdelta, hnone] at hless
          exact absurd rfl hless
        · have hzx : z ≤ x := by
            rw [hx, hdelta, hz] at hless
            by_contra hgt
            exact hless ((hlt _ _).mpr (lt_of_not_ge hgt))
          refine ⟨hother, hbound, .inr ⟨z, hdelta.trans hz, ?_, ?_, ?_, ?_⟩⟩
          · rw [hj1]
            exact mem_append_left _ hj1mem
          · rw [hj1]
            exact hj1u
          · rw [hj1, (hkeep _ hj1mem).1]
            exact hj1x
          · refine forall_mem_concat ?_ fun _ y hy => hzx.trans (Option.some_inj.mp (hx.symm.trans hy)).le
            exact fun k hk hku y hy => hall k hk hku y ((hkeep k hk).1.symm.trans hy)

/-- What the shifting pass leaves, over some columns. -/
structure Shifted (p : Nat → Nat) (used : Nat → Bool) (delta : K) (before : Shift K)
    (done : List Nat) (s : Shift K) : Prop where
  column : ∀ j, s.v j = if j ∈ done ∧ used j = true then before.v j - delta else before.v j
  bound : ∀ j, s.minv j =
    if j ∈ done ∧ used j = false then (before.minv j).map (· - delta) else before.minv j
  row : ∀ j ∈ done, used j = true → s.u (p j) = before.u (p j) + delta
  other : ∀ r, (∀ j ∈ done, used j = true → p j ≠ r) → s.u r = before.u r

omit [LinearOrder K] [IsStrictOrderedRing K] in
lemma shift_spec {p : Nat → Nat} {used : Nat → Bool} {delta : K} {before : Shift K}
    {columns : List Nat} (hnodup : columns.Nodup)
    (hinj : ∀ j ∈ columns, ∀ k ∈ columns, used j = true → used k = true → p j = p k → j = k) :
    Shifted p used delta before columns (columns.foldl (shiftColumn p used delta) before) := by
  induction columns using reverseRecOn with
  | nil =>
    refine ⟨?_, ?_, ?_, ?_⟩
    · intro j
      simp
    · intro j
      simp
    · intro j hj
      cases hj
    · intro r _
      rfl
  | append_singleton done j ih =>
    obtain ⟨hdone, -, hapart⟩ := nodup_append.mp hnodup
    have hfresh : j ∉ done := by
      intro hmem
      exact hapart j hmem j (mem_singleton_self j) rfl
    have hs := ih hdone fun a ha b hb =>
      hinj a (mem_append_left _ ha) b (mem_append_left _ hb)
    rw [foldl_append, foldl_cons, foldl_nil]
    generalize done.foldl (shiftColumn p used delta) before = s at hs ⊢
    unfold shiftColumn
    have hjmem : j ∈ done ++ [j] := mem_append_right _ (mem_singleton_self j)
    have hmem : ∀ k, k ≠ j → (k ∈ done ++ [j] ↔ k ∈ done) := by
      intro k hk
      simp [hk]
    by_cases hused : used j = true
    · rw [if_pos hused]
      refine ⟨?_, ?_, ?_, ?_⟩
      · intro k
        show update s.v j (s.v j - delta) k = _
        by_cases hk : k = j
        · subst hk
          rw [update_self, hs.column, if_neg (fun h => hfresh h.1), if_pos ⟨hjmem, hused⟩]
        · rw [update_of_ne hk, hs.column]
          simp only [hmem k hk]
      · intro k
        show s.minv k = _
        rw [hs.bound]
        by_cases hk : k = j
        · subst hk
          rw [if_neg (fun h => hfresh h.1), if_neg]
          intro h
          rw [hused] at h
          cases h.2
        · simp only [hmem k hk]
      · intro k hk hku
        show update s.u (p j) (s.u (p j) + delta) (p k) = _
        by_cases hkj : k = j
        · subst hkj
          rw [update_self, hs.other (p k)]
          intro a ha hau heq
          have hsame := hinj a (mem_append_left _ ha) k hk hau hku heq
          rw [hsame] at ha
          exact hfresh ha
        · have hne : p k ≠ p j := by
            intro heq
            exact hkj (hinj k hk j hjmem hku hused heq)
          rw [update_of_ne hne]
          exact hs.row k ((hmem k hkj).mp hk) hku
      · intro r hr
        show update s.u (p j) (s.u (p j) + delta) r = _
        have hne : r ≠ p j := Ne.symm (hr j hjmem hused)
        rw [update_of_ne hne]
        exact hs.other r fun a ha => hr a (mem_append_left _ ha)
    · have hunused : used j = false := by
        rwa [Bool.not_eq_true] at hused
      rw [if_neg hused]
      refine ⟨?_, ?_, ?_, ?_⟩
      · intro k
        show s.v k = _
        rw [hs.column]
        by_cases hk : k = j
        · subst hk
          rw [if_neg (fun h => hfresh h.1), if_neg (fun h => hused h.2)]
        · simp only [hmem k hk]
      · intro k
        show update s.minv j ((s.minv j).map (· - delta)) k = _
        by_cases hk : k = j
        · subst hk
          rw [update_self, hs.bound, if_neg (fun h => hfresh h.1), if_pos ⟨hjmem, hunused⟩]
        · rw [update_of_ne hk, hs.bound]
          simp only [hmem k hk]
      · intro k hk hku
        have hkj : k ≠ j := by
          intro heq
          rw [heq, hunused] at hku
          cases hku
        exact hs.row k ((hmem k hkj).mp hk) hku
      · intro r hr
        exact hs.other r fun a ha => hr a (mem_append_left _ ha)

end

/-! ## The search for one row -/

/-- The columns of a tree, the last one first: each hangs on one before it, by an edge. -/
def Grown (edge : Nat → Nat → Prop) (way : Nat → Nat) : List Nat → Prop
  | [] => False
  | j :: rest => (j = 0 ∧ rest = []) ∨
      (j ≠ 0 ∧ j ∉ rest ∧ way j ∈ rest ∧ edge (way j) j ∧ Grown edge way rest)

namespace Grown

variable {edge edge' : Nat → Nat → Prop} {way way' : Nat → Nat}

lemma zero_mem : ∀ {columns : List Nat}, Grown edge way columns → 0 ∈ columns
  | [], h => h.elim
  | j :: rest, h => by
    rcases h with ⟨hj, -⟩ | ⟨-, -, -, -, hrest⟩
    · rw [hj]
      exact mem_cons_self
    · exact mem_cons_of_mem _ hrest.zero_mem

lemma nodup : ∀ {columns : List Nat}, Grown edge way columns → columns.Nodup
  | [], h => h.elim
  | j :: rest, h => by
    rcases h with ⟨-, hrest⟩ | ⟨-, hfresh, -, -, hrest⟩
    · rw [hrest]
      exact nodup_singleton j
    · exact nodup_cons.mpr ⟨hfresh, hrest.nodup⟩

lemma mono : ∀ {columns : List Nat}, Grown edge way columns →
    (∀ j ∈ columns, way' j = way j) →
    (∀ k ∈ columns, ∀ j ∈ columns, j ≠ 0 → edge k j → edge' k j) → Grown edge' way' columns
  | [], h, _, _ => h
  | j :: rest, h, hway, hedge => by
    rcases h with hroot | ⟨hj, hfresh, hmem, htight, hrest⟩
    · exact .inl hroot
    · have hsame := hway j mem_cons_self
      refine .inr ⟨hj, hfresh, ?_, ?_, ?_⟩
      · rw [hsame]
        exact hmem
      · rw [hsame]
        exact hedge _ (mem_cons_of_mem _ hmem) j mem_cons_self hj htight
      · apply hrest.mono
        · intro k hk
          exact hway k (mem_cons_of_mem _ hk)
        · intro k hk l hl
          exact hedge k (mem_cons_of_mem _ hk) l (mem_cons_of_mem _ hl)

lemma suffix : ∀ {columns : List Nat}, Grown edge way columns → ∀ {j : Nat}, j ∈ columns →
    ∃ rest, (j :: rest) <:+ columns ∧ Grown edge way (j :: rest)
  | [], h, _, _ => h.elim
  | k :: rest, h, j, hj => by
    by_cases hjk : j = k
    · rw [hjk]
      exact ⟨rest, suffix_refl _, h⟩
    · have hmem : j ∈ rest := by
        rcases mem_cons.mp hj with hj | hj
        · exact absurd hj hjk
        · exact hj
      rcases h with ⟨-, hrest⟩ | ⟨-, -, -, -, hrest⟩
      · rw [hrest] at hmem
        cases hmem
      · obtain ⟨tail, hsuffix, hgrown⟩ := hrest.suffix hmem
        exact ⟨tail, hsuffix.trans (suffix_cons _ _), hgrown⟩

end Grown

section

variable {K : Type} [Field K] [LinearOrder K] [IsStrictOrderedRing K] {lt : K → K → Bool}
variable {cost : Nat → Nat → K} {n i : Nat} {p : Nat → Nat} {u v : Nat → K}

/-- The rows of the columns, with the row that enters at the root. -/
structure Placed (n i : Nat) (p : Nat → Nat) : Prop where
  inj : ∀ j k, j ≤ n → k ≤ n → p j ≠ 0 → p j = p k → j = k
  range : ∀ j, j ≤ n → p j ≤ i

lemma Placed.length_le (h : Placed n i p) {columns : List Nat} (hnodup : columns.Nodup)
    (hle : ∀ j ∈ columns, j ≤ n) (hpos : ∀ j ∈ columns, p j ≠ 0) : columns.length ≤ i := by
  have hmap : (columns.map p).Nodup := by
    apply Nodup.map_on _ hnodup
    intro j hj k hk heq
    exact h.inj j k (hle j hj) (hle k hk) (hpos j hj) heq
  have hsub : (columns.map p).toFinset ⊆ Finset.Icc 1 i := by
    intro r hr
    obtain ⟨j, hj, rfl⟩ := mem_map.mp (mem_toFinset.mp hr)
    have hne := hpos j hj
    exact Finset.mem_Icc.mpr ⟨by omega, h.range j (hle j hj)⟩
  have hcard := Finset.card_le_card hsub
  rw [toFinset_card_of_nodup hmap, length_map, Nat.card_Icc] at hcard
  omega

/-- Feasible potentials of the rows so far, tight where a column has a row. -/
structure Priced (cost : Nat → Nat → K) (n i : Nat) (p : Nat → Nat) (u v : Nat → K) : Prop where
  feasible : ∀ r, 1 ≤ r → r ≤ i → ∀ j, 1 ≤ j → j ≤ n → 0 ≤ slack cost u v r j
  tight : ∀ j, 1 ≤ j → j ≤ n → p j ≠ 0 → slack cost u v (p j) j = 0
  nonpos : ∀ j, v j ≤ 0
  future : ∀ r, i < r → u r = 0

/-- Tight edges lead from the row of one column to another column. -/
def tightEdge (cost : Nat → Nat → K) (p : Nat → Nat) (u v : Nat → K) (k j : Nat) : Prop :=
  slack cost u v (p k) j = 0

/-- The search, where the columns of `order` are used. -/
structure Searching (cost : Nat → Nat → K) (n i : Nat) (p : Nat → Nat) (order : List Nat)
    (s : SearchState K) : Prop where
  used_iff : ∀ j, s.used j = true ↔ j ∈ order
  le : ∀ j ∈ s.j0 :: order, j ≤ n
  matched : ∀ j ∈ order, p j ≠ 0
  grown : Grown (tightEdge cost p s.u s.v) s.way (s.j0 :: order)
  priced : Priced cost n i p s.u s.v
  /-- A bound is the slack along the way. -/
  bound : ∀ j, 1 ≤ j → j ≤ n → j ∉ order → ∀ x, s.minv j = some x →
    s.way j ∈ order ∧ x = slack cost s.u s.v (p (s.way j)) j
  /-- It is the least slack to a row of the tree. -/
  least : ∀ j, 1 ≤ j → j ≤ n → j ∉ order → ∀ k ∈ order,
    ∃ x, s.minv j = some x ∧ x ≤ slack cost s.u s.v (p k) j

lemma Priced.shift (h : Priced cost n i p u v) (hp : Placed n i p) {delta : K}
    {columns : List Nat} {u' v' : Nat → K} (hdelta : 0 ≤ delta)
    (hle : ∀ j ∈ columns, j ≤ n) (hpos : ∀ j ∈ columns, p j ≠ 0)
    (hrow : ∀ j ∈ columns, u' (p j) = u (p j) + delta)
    (hother : ∀ r, (∀ j ∈ columns, p j ≠ r) → u' r = u r)
    (hin : ∀ j ∈ columns, v' j = v j - delta) (hout : ∀ j, j ∉ columns → v' j = v j)
    (hleast : ∀ j, 1 ≤ j → j ≤ n → j ∉ columns → ∀ k ∈ columns, delta ≤ slack cost u v (p k) j) :
    Priced cost n i p u' v' where
  feasible := by
    intro r hr hri j hj hjn
    have hold := h.feasible r hr hri j hj hjn
    unfold slack at hold ⊢
    by_cases hin' : ∃ k ∈ columns, p k = r
    · obtain ⟨k, hk, rfl⟩ := hin'
      rw [hrow k hk]
      by_cases hjc : j ∈ columns
      · rw [hin j hjc]
        linarith
      · have hslack := hleast j hj hjn hjc k hk
        unfold slack at hslack
        rw [hout j hjc]
        linarith
    · rw [hother r fun k hk heq => hin' ⟨k, hk, heq⟩]
      by_cases hjc : j ∈ columns
      · rw [hin j hjc]
        linarith
      · rw [hout j hjc]
        exact hold
  tight := by
    intro j hj hjn hpj
    have hold := h.tight j hj hjn hpj
    unfold slack at hold ⊢
    by_cases hjc : j ∈ columns
    · rw [hrow j hjc, hin j hjc]
      linarith
    · have hne : ∀ k ∈ columns, p k ≠ p j := by
        intro k hk heq
        have hsame := hp.inj k j (hle k hk) hjn (hpos k hk) heq
        rw [hsame] at hk
        exact hjc hk
      rw [hother _ hne, hout j hjc]
      exact hold
  nonpos := by
    intro j
    have hold := h.nonpos j
    by_cases hjc : j ∈ columns
    · rw [hin j hjc]
      linarith
    · rw [hout j hjc]
      exact hold
  future := by
    intro r hr
    rw [hother r]
    · exact h.future r hr
    · intro k hk heq
      have hrange := hp.range k (hle k hk)
      omega

variable {order : List Nat}

lemma Searching.round (hlt : ∀ a b, lt a b = true ↔ a < b) (hp : Placed n i p) (hin : i ≤ n)
    {s : SearchState K} (h : Searching cost n i p order s) (hrow : p s.j0 ≠ 0) :
    ∃ next, searchRound lt n cost p s = some next ∧ Searching cost n i p (s.j0 :: order) next := by
  -- the used columns are those of the tree, and one of the others is left
  have hmatched : ∀ j ∈ s.j0 :: order, p j ≠ 0 := by
    exact forall_mem_cons.mpr ⟨hrow, h.matched⟩
  have hzero := h.grown.zero_mem
  have hused : ∀ j, update s.used s.j0 true j = true ↔ j ∈ s.j0 :: order := by
    intro j
    rw [update_apply, mem_cons]
    by_cases hj : j = s.j0
    · rw [if_pos hj]
      exact ⟨fun _ => .inl hj, fun _ => rfl⟩
    · rw [if_neg hj, h.used_iff]
      exact ⟨.inr, fun hor => hor.resolve_left hj⟩
  have hunused : ∀ j, j ∉ s.j0 :: order → update s.used s.j0 true j = false := by
    intro j hj
    rw [← Bool.not_eq_true]
    exact fun hu => hj ((hused j).mp hu)
  have hscan : Scanned cost s.u s.v (update s.used s.j0 true) (p s.j0) s.j0 s.minv s.way
      (range' 1 n) ((range' 1 n).foldl (scanColumn lt cost s.u s.v
        (update s.used s.j0 true) (p s.j0) s.j0) ⟨s.minv, s.way, none, 0⟩) :=
    scan_spec hlt nodup_range'
  unfold searchRound
  simp only []
  generalize (range' 1 n).foldl (scanColumn lt cost s.u s.v
    (update s.used s.j0 true) (p s.j0) s.j0) ⟨s.minv, s.way, none, 0⟩ = scan at hscan ⊢
  have hcolumn : ∀ j, j ∈ range' 1 n ↔ 1 ≤ j ∧ j ≤ n := by
    intro j
    rw [mem_range'_1]
    omega
  rcases hscan.least with ⟨-, hall⟩ | ⟨delta, hdelta, hj1, hj1u, hj1x, hleast⟩
  · -- there would be a column for every row and one more
    exfalso
    have hlength := hp.length_le h.grown.nodup h.le hmatched
    have hsub : Finset.range (n + 1) ⊆ (s.j0 :: order).toFinset := by
      intro j hj
      rw [mem_toFinset]
      by_cases hj0 : j = 0
      · rw [hj0]
        exact hzero
      · rw [Finset.mem_range] at hj
        exact (hused j).mp (hall j ((hcolumn j).mpr ⟨by omega, by omega⟩))
    have hcard := Finset.card_le_card hsub
    rw [Finset.card_range] at hcard
    have hle := toFinset_card_le (s.j0 :: order)
    omega
  · rw [hdelta]
    simp only [Option.some.injEq, exists_eq_left']
    have hshift : Shifted p (update s.used s.j0 true) delta ⟨s.u, s.v, scan.minv⟩
        (range (n + 1)) ((range (n + 1)).foldl (shiftColumn p
          (update s.used s.j0 true) delta) ⟨s.u, s.v, scan.minv⟩) := by
      apply shift_spec nodup_range
      intro j hj k hk hju _ heq
      rw [mem_range] at hj hk
      exact hp.inj j k (by omega) (by omega) (hmatched j ((hused j).mp hju)) heq
    generalize (range (n + 1)).foldl (shiftColumn p (update s.used s.j0 true) delta)
      ⟨s.u, s.v, scan.minv⟩ = shifted at hshift ⊢
    have hway : ∀ j ∈ s.j0 :: order, scan.way j = s.way j := by
      intro j hj
      exact (hscan.other j (.inr ((hused j).mpr hj))).2
    -- the bounds after the pass are slacks along the new ways
    have hbound : ∀ j, 1 ≤ j → j ≤ n → j ∉ s.j0 :: order → ∃ x, scan.minv j = some x ∧
        scan.way j ∈ s.j0 :: order ∧ x = slack cost s.u s.v (p (scan.way j)) j ∧
        ∀ k ∈ s.j0 :: order, x ≤ slack cost s.u s.v (p k) j := by
      intro j hj hjn hjo
      have hjo' : j ∉ order := fun hmem => hjo (mem_cons_of_mem _ hmem)
      obtain ⟨x, hx, hxle, hxold, hxway⟩ :=
        hscan.bound j ((hcolumn j).mpr ⟨hj, hjn⟩) (hunused j hjo)
      refine ⟨x, hx, ?_, ?_, ?_⟩
      · rcases hxway with ⟨-, hxway⟩ | ⟨hold, hxway⟩
        · rw [hxway]
          exact mem_cons_self
        · rw [hxway]
          exact mem_cons_of_mem _ (h.bound j hj hjn hjo' x hold).1
      · rcases hxway with ⟨hxs, hxway⟩ | ⟨hold, hxway⟩
        · rw [hxway]
          exact hxs
        · rw [hxway]
          exact (h.bound j hj hjn hjo' x hold).2
      · intro k hk
        rcases mem_cons.mp hk with hk | hk
        · rw [hk]
          exact hxle
        · obtain ⟨y, hy, hyle⟩ := h.least j hj hjn hjo' k hk
          exact (hxold y hy).trans hyle
    have hj1n : 1 ≤ scan.j1 ∧ scan.j1 ≤ n := (hcolumn _).mp hj1
    have hj1o : scan.j1 ∉ s.j0 :: order := by
      intro hmem
      rw [(hused _).mpr hmem] at hj1u
      cases hj1u
    have hdeltale : ∀ j, 1 ≤ j → j ≤ n → j ∉ s.j0 :: order → ∀ k ∈ s.j0 :: order,
        delta ≤ slack cost s.u s.v (p k) j := by
      intro j hj hjn hjo k hk
      obtain ⟨x, hx, -, -, hxle⟩ := hbound j hj hjn hjo
      exact (hleast j ((hcolumn j).mpr ⟨hj, hjn⟩) (hunused j hjo) x hx).trans (hxle k hk)
    have hnonneg : 0 ≤ delta := by
      obtain ⟨x, hx, hxmem, hxs, -⟩ := hbound scan.j1 hj1n.1 hj1n.2 hj1o
      rw [hj1x, Option.some.injEq] at hx
      rw [hx, hxs]
      have hpos := hmatched _ hxmem
      exact h.priced.feasible _ (by omega) (hp.range _ (h.le _ hxmem)) _ hj1n.1 hj1n.2
    have hmem : ∀ j ∈ s.j0 :: order,
        j ∈ range (n + 1) ∧ update s.used s.j0 true j = true := by
      intro j hj
      have hjn := h.le j hj
      exact ⟨mem_range.mpr (by omega), (hused j).mpr hj⟩
    have hu : ∀ j ∈ s.j0 :: order, shifted.u (p j) = s.u (p j) + delta := by
      intro j hj
      exact hshift.row j (hmem j hj).1 (hmem j hj).2
    have huother : ∀ r, (∀ j ∈ s.j0 :: order, p j ≠ r) → shifted.u r = s.u r := by
      intro r hr
      exact hshift.other r fun j _ hju => hr j ((hused j).mp hju)
    have hv : ∀ j ∈ s.j0 :: order, shifted.v j = s.v j - delta := by
      intro j hj
      rw [hshift.column, if_pos (hmem j hj)]
    have hvother : ∀ j, j ∉ s.j0 :: order → shifted.v j = s.v j := by
      intro j hj
      rw [hshift.column, if_neg fun hin => hj ((hused j).mp hin.2)]
    have hslackout : ∀ k ∈ s.j0 :: order, ∀ j, j ∉ s.j0 :: order →
        slack cost shifted.u shifted.v (p k) j = slack cost s.u s.v (p k) j - delta := by
      intro k hk j hj
      unfold slack
      rw [hu k hk, hvother j hj]
      ring
    have hminv : ∀ j, 1 ≤ j → j ≤ n → j ∉ s.j0 :: order → ∀ x, scan.minv j = some x →
        shifted.minv j = some (x - delta) := by
      intro j hj hjn hjo x hx
      rw [hshift.bound, if_pos ⟨mem_range.mpr (by omega), hunused j hjo⟩]
      show (scan.minv j).map (· - delta) = _
      rw [hx]
      rfl
    refine ⟨hused, ?_, hmatched, ?_,
      h.priced.shift hp hnonneg h.le hmatched hu huother hv hvother hdeltale, ?_, ?_⟩
    · exact forall_mem_cons.mpr ⟨hj1n.2, h.le⟩
    · -- the new column hangs on the way its least bound came
      obtain ⟨x, hx, hxmem, hxs, -⟩ := hbound scan.j1 hj1n.1 hj1n.2 hj1o
      rw [hj1x, Option.some.injEq] at hx
      show Grown _ scan.way (scan.j1 :: s.j0 :: order)
      have hj1ne : scan.j1 ≠ 0 := by omega
      refine .inr ⟨hj1ne, hj1o, hxmem, ?_, ?_⟩
      · show slack cost shifted.u shifted.v (p (scan.way scan.j1)) scan.j1 = 0
        rw [hslackout _ hxmem _ hj1o, ← hxs, ← hx]
        ring
      · apply h.grown.mono hway
        intro k hk j hj _ hedge
        show slack cost shifted.u shifted.v (p k) j = 0
        unfold tightEdge at hedge
        unfold slack at hedge ⊢
        rw [hu k hk, hv j hj]
        linarith
    · intro j hj hjn hjo y hy
      obtain ⟨x, hx, hxmem, hxs, -⟩ := hbound j hj hjn hjo
      have hxy : some (x - delta) = some y := (hminv j hj hjn hjo x hx).symm.trans hy
      rw [Option.some.injEq] at hxy
      refine ⟨hxmem, ?_⟩
      show y = slack cost shifted.u shifted.v (p (scan.way j)) j
      rw [hslackout _ hxmem j hjo, ← hxs, ← hxy]
    · intro j hj hjn hjo k hk
      obtain ⟨x, hx, -, -, hxle⟩ := hbound j hj hjn hjo
      refine ⟨x - delta, hminv j hj hjn hjo x hx, ?_⟩
      show x - delta ≤ slack cost shifted.u shifted.v (p k) j
      rw [hslackout k hk j hjo]
      have hxk := hxle k hk
      linarith

/-- The search ends at a column without a row. -/
lemma search_spec (hlt : ∀ a b, lt a b = true ↔ a < b) (hp : Placed n i p) (hin : i ≤ n)
    {s : SearchState K} (h : Searching cost n i p order s) (hrow : p s.j0 ≠ 0) (rounds : Nat)
    (hrounds : n < rounds + order.length) :
    ∃ found foundOrder, search lt n cost p rounds s = some found ∧
      Searching cost n i p foundOrder found ∧ p found.j0 = 0 := by
  induction rounds generalizing order s with
  | zero =>
    -- the columns of the tree all have rows
    exfalso
    have hlength := hp.length_le (nodup_cons.mp h.grown.nodup).2
      (fun j hj => h.le j (mem_cons_of_mem _ hj)) h.matched
    omega
  | succ rounds ih =>
    obtain ⟨next, hnext, hsearching⟩ := h.round hlt hp hin hrow
    unfold search
    rw [hnext]
    simp only []
    by_cases hopen : p next.j0 = 0
    · rw [if_pos hopen]
      exact ⟨next, _, rfl, hsearching, hopen⟩
    · rw [if_neg hopen]
      apply ih hsearching hopen
      rw [length_cons]
      omega

/-! ## The way back -/

omit [LinearOrder K] [IsStrictOrderedRing K] in
/-- The rows move up along the way back, until the root is open. -/
lemma augment_spec {way : Nat → Nat} {p₀ : Nat → Nat} {j0 : Nat} (rounds : Nat)
    (hrounds : order.length < rounds) (hgrown : Grown (tightEdge cost p₀ u v) way (j0 :: order))
    (hle : ∀ j ∈ order, j ≤ n) (hseating : Seating n i p j0) (hj0 : j0 ≠ 0)
    (hsame : ∀ k ∈ order, p k = p₀ k)
    (htight : ∀ j, 1 ≤ j → j ≤ n → j ≠ j0 → p j ≠ 0 → slack cost u v (p j) j = 0) :
    ∃ p', augment way rounds p j0 = some p' ∧ Seating n i p' 0 ∧
      ∀ j, 1 ≤ j → j ≤ n → p' j ≠ 0 → slack cost u v (p' j) j = 0 := by
  induction rounds generalizing order p j0 with
  | zero => omega
  | succ rounds ih =>
    rcases hgrown with ⟨hzero, -⟩ | ⟨-, hfresh, hmem, hedge, hrest⟩
    · exact absurd hzero hj0
    · have hne : way j0 ≠ j0 := by
        intro heq
        rw [heq] at hmem
        exact hfresh hmem
      have hseating' := hseating.move (hle _ hmem) hne
      -- the column left open before has the row along its way, and that edge is tight
      have htight' : ∀ j, 1 ≤ j → j ≤ n → j ≠ way j0 →
          update p j0 (p (way j0)) j ≠ 0 →
          slack cost u v (update p j0 (p (way j0)) j) j = 0 := by
        intro j hj hjn hjw hpj
        by_cases hjj : j = j0
        · rw [hjj, update_self, hsame _ hmem]
          exact hedge
        · rw [update_of_ne hjj] at hpj ⊢
          exact htight j hj hjn hjj hpj
      unfold augment
      simp only []
      by_cases hzero : way j0 = 0
      · rw [if_pos hzero]
        rw [hzero] at hseating' htight'
        refine ⟨_, rfl, ?_, ?_⟩
        · rw [hzero]
          exact hseating'
        · intro j hj hjn hpj
          rw [hzero] at hpj ⊢
          exact htight' j hj hjn (by omega) hpj
      · rw [if_neg hzero]
        obtain ⟨rest, hsuffix, hgrown⟩ := hrest.suffix hmem
        have hsub : ∀ k ∈ rest, k ∈ order := by
          intro k hk
          exact hsuffix.subset (mem_cons_of_mem _ hk)
        have hlength := hsuffix.length_le
        rw [length_cons] at hlength
        refine ih ?_ hgrown ?_ hseating' hzero ?_ htight'
        · omega
        · intro k hk
          exact hle k (hsub k hk)
        · intro k hk
          have hkj : k ≠ j0 := by
            intro heq
            rw [heq] at hk
            exact hfresh (hsub _ hk)
          rw [update_of_ne hkj]
          exact hsame k (hsub k hk)

/-! ## All rows -/

/-- What the loop has after `i` rows. -/
structure Entered (cost : Nat → Nat → K) (n i : Nat) (s : AssignmentState K) : Prop where
  seating : Seating n i s.p 0
  priced : Priced cost n i s.p s.u s.v

/-- A row enters, where no cost is negative. -/
lemma assignRow_spec (hlt : ∀ a b, lt a b = true ↔ a < b)
    (hcost : ∀ r j, r < n → j < n → 0 ≤ cost r j) (hin : i + 1 ≤ n) {s : AssignmentState K}
    (h : Entered cost n i s) :
    ∃ next, assignRow lt n cost s (i + 1) = some next ∧ Entered cost n (i + 1) next := by
  have hother : ∀ j, j ≠ 0 → update s.p 0 (i + 1) j = s.p j := by
    intro j hj
    exact update_of_ne hj _ _
  have hroot : update s.p 0 (i + 1) 0 = i + 1 := update_self _ _ _
  have hrange : ∀ j, 1 ≤ j → j ≤ n → s.p j ≤ i := by
    intro j hj hjn
    exact h.seating.range j hjn (by omega)
  have hplaced : Placed n (i + 1) (update s.p 0 (i + 1)) := by
    refine ⟨?_, ?_⟩
    · intro j k hj hk hpos heq
      by_cases hj0 : j = 0
      · by_cases hk0 : k = 0
        · rw [hj0, hk0]
        · rw [hj0, hroot, hother k hk0] at heq
          have hkr := hrange k (by omega) hk
          omega
      · rw [hother j hj0] at hpos heq
        by_cases hk0 : k = 0
        · rw [hk0, hroot] at heq
          have hjr := hrange j (by omega) hj
          omega
        · rw [hother k hk0] at heq
          exact h.seating.inj j k hj hk hj0 hk0 hpos heq
    · intro j hj
      by_cases hj0 : j = 0
      · rw [hj0, hroot]
      · rw [hother j hj0]
        have hjr := hrange j (by omega) hj
        omega
  -- the new row has no potential yet, and no column has a positive one
  have hpriced : Priced cost n (i + 1) (update s.p 0 (i + 1)) s.u s.v := by
    refine ⟨?_, ?_, h.priced.nonpos, ?_⟩
    · intro r hr hri j hj hjn
      by_cases hnew : r = i + 1
      · have hu := h.priced.future r (by omega)
        have hv := h.priced.nonpos j
        have hc := hcost (r - 1) (j - 1) (by omega) (by omega)
        unfold slack
        rw [hu]
        linarith
      · exact h.priced.feasible r hr (by omega) j hj hjn
    · intro j hj hjn hpj
      rw [hother j (by omega)] at hpj ⊢
      exact h.priced.tight j hj hjn hpj
    · intro r hr
      exact h.priced.future r (by omega)
  have hstart : Searching cost n (i + 1) (update s.p 0 (i + 1)) []
      ⟨s.u, s.v, fun _ => none, s.way, fun _ => false, 0⟩ := by
    refine ⟨?_, ?_, ?_, .inl ⟨rfl, rfl⟩, hpriced, ?_, ?_⟩
    · intro j
      simp
    · intro j hj
      rw [mem_singleton.mp hj]
      exact Nat.zero_le n
    · intro j hj
      cases hj
    · intro j _ _ _ x hx
      cases hx
    · intro j _ _ _ k hk
      cases hk
  have hrow : update s.p 0 (i + 1) 0 ≠ 0 := by
    rw [hroot]
    omega
  obtain ⟨found, order, hfound, hsearching, hopen⟩ :=
    search_spec hlt hplaced hin hstart hrow (n + 1) (by
      show n < n + 1 + 0
      omega)
  have hj0 : found.j0 ≠ 0 := by
    intro heq
    rw [heq] at hopen
    exact hrow hopen
  have hj0n := hsearching.le found.j0 mem_cons_self
  -- the column that is open has no row, the root has the new one
  have hseating : Seating n (i + 1) (update s.p 0 (i + 1)) found.j0 := by
    refine ⟨hj0n, ?_, ?_, ?_⟩
    · intro j k hj hk _ _ hpos heq
      exact hplaced.inj j k hj hk hpos heq
    · intro j hj _
      exact hplaced.range j hj
    · intro r hr hri
      by_cases hnew : r = i + 1
      · exact ⟨0, Nat.zero_le n, Ne.symm hj0, by rw [hroot, hnew]⟩
      · obtain ⟨j, hj, hj0', hjr⟩ := h.seating.onto r hr (by omega)
        refine ⟨j, hj, ?_, ?_⟩
        · intro heq
          rw [heq] at hjr hj0'
          rw [hother _ hj0', hjr] at hopen
          omega
        · rw [hother j hj0']
          exact hjr
  have hnodup := (nodup_cons.mp hsearching.grown.nodup).2
  have hlength := hplaced.length_le hnodup
    (fun j hj => hsearching.le j (mem_cons_of_mem _ hj)) hsearching.matched
  obtain ⟨p', hp', hseating', htight'⟩ := augment_spec (n + 1) (by omega)
    hsearching.grown (fun j hj => hsearching.le j (mem_cons_of_mem _ hj)) hseating hj0
    (fun _ _ => rfl) (fun j hj hjn _ hpj => hsearching.priced.tight j hj hjn hpj)
  refine ⟨⟨found.u, found.v, p', found.way⟩, ?_, hseating', ?_⟩
  · unfold assignRow
    simp only []
    rw [hfound]
    show (augment found.way (n + 1) (update s.p 0 (i + 1)) found.j0).bind _ = _
    rw [hp']
    rfl
  · exact ⟨hsearching.priced.feasible, htight', hsearching.priced.nonpos,
      hsearching.priced.future⟩

/-- The loop ends: every row has a column of its own, with potentials that are tight. -/
lemma assign_spec (hlt : ∀ a b, lt a b = true ↔ a < b)
    (hcost : ∀ r j, r < n → j < n → 0 ≤ cost r j) :
    ∃ s, assign lt n cost = some s ∧ Entered cost n n s := by
  have hall : ∀ rows, rows ≤ n → ∃ s, (range' 1 rows).foldlM (assignRow lt n cost)
      ⟨fun _ => 0, fun _ => 0, fun _ => 0, fun _ => 0⟩ = some s ∧ Entered cost n rows s := by
    intro rows
    induction rows with
    | zero =>
      intro _
      refine ⟨_, rfl, ⟨Nat.zero_le n, ?_, ?_, ?_⟩, ⟨?_, ?_, ?_, ?_⟩⟩
      · intro j k _ _ _ _ hpos
        exact absurd rfl hpos
      · intro j _ _
        exact le_refl 0
      · intro r hr hri
        omega
      · intro r hr hri
        omega
      · intro j _ _ hpos
        exact absurd rfl hpos
      · intro j
        exact le_refl 0
      · intro r _
        rfl
    | succ rows ih =>
      intro hrows
      obtain ⟨s, hs, hentered⟩ := ih (by omega)
      obtain ⟨next, hnext, hentered'⟩ := assignRow_spec hlt hcost hrows hentered
      refine ⟨next, ?_, hentered'⟩
      rw [range'_concat, foldlM_append, hs]
      show (assignRow lt n cost s (1 + 1 * rows)).bind pure = some next
      rw [Nat.one_mul, Nat.add_comm, hnext]
      rfl
  exact hall n (le_refl n)

end

end Tidex.Analysis
