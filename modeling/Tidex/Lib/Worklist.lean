/-
  Lib.Worklist — what a search with a stack of pending keys finds.
-/
import Tidex.Lib.OrdMap

namespace Tidex.Lib

open Relation List BTreeSet

variable {K ε : Type} [Ord K] [Std.TransOrd K]

/-! ## The search -/

def unseen (edges : BTreeMap K (BTreeSet K)) (seen : BTreeSet K) : List K :=
  edges.keys.filter fun k => k ∉ seen

lemma length_unseen_insert [Std.LawfulEqOrd K] {edges : BTreeMap K (BTreeSet K)}
    {seen : BTreeSet K} {k : K} (hk : k ∈ edges) (hnew : k ∉ seen) :
    (unseen edges (seen.insert k)).length < (unseen edges seen).length := by
  have hsublist : (unseen edges (seen.insert k)).Sublist (unseen edges seen) := by
    apply monotone_filter_right
    intro a ha
    simp only [BTreeSet.mem_insert_iff, not_or, decide_eq_true_eq] at ha ⊢
    exact ha.2
  have hmem : k ∈ unseen edges seen := by
    unfold unseen
    rw [mem_filter, decide_eq_true_eq]
    exact ⟨Std.ExtTreeMap.mem_keys.mpr hk, hnew⟩
  have hgone : k ∉ unseen edges (seen.insert k) := by
    unfold unseen
    rw [mem_filter, decide_eq_true_eq, not_and, not_not]
    intro _
    exact mem_insert_iff.mpr (.inl rfl)
  apply Nat.lt_of_le_of_ne hsublist.length_le
  intro hlength
  rw [hsublist.eq_of_length hlength] at hgone
  exact hgone hmem

/-- Take the pending keys from the top, and push what each leads to. -/
def search [Std.LawfulEqOrd K] (missing : ε) (edges : BTreeMap K (BTreeSet K)) (seen : BTreeSet K) :
    List K → Except ε (BTreeSet K)
  | [] => .ok seen
  | k :: pending =>
    if k ∈ seen then search missing edges seen pending
    else
      match _hnext : edges[k]? with
      | none => .error missing
      | some next => search missing edges (seen.insert k) (next.toList.reverse ++ pending)
termination_by pending => ((unseen edges seen).length, pending.length)
decreasing_by
  · apply Prod.Lex.right
    exact Nat.lt_succ_self _
  · apply Prod.Lex.left
    exact length_unseen_insert (BTreeMap.mem_iff_getElem?.mpr ⟨next, _hnext⟩) ‹_›

/-! ## What it finds -/

def Leads (edges : BTreeMap K (BTreeSet K)) (a b : K) : Prop :=
  ∃ next, edges[a]? = some next ∧ b ∈ next

variable [Std.LawfulEqOrd K] {missing : ε} {edges : BTreeMap K (BTreeSet K)}

lemma search_sound {seen found : BTreeSet K} {pending : List K}
    (h : search missing edges seen pending = .ok found) : ∀ k ∈ found,
      k ∈ seen ∨ (k ∈ edges ∧ ∃ start ∈ pending, ReflTransGen (Leads edges) start k) := by
  induction seen, pending using search.induct edges with
  | case1 seen =>
    rw [search] at h
    cases h
    intro k hk
    exact .inl hk
  | case2 seen top pending hseen ih =>
    rw [search, if_pos hseen] at h
    intro k hk
    rcases ih h k hk with hold | ⟨hkey, start, hstart, hreach⟩
    · exact .inl hold
    · exact .inr ⟨hkey, start, mem_cons_of_mem _ hstart, hreach⟩
  | case3 seen top pending hnew hnone =>
    rw [search, if_neg hnew] at h
    split at h
    · cases h
    · next next hnext =>
      rw [hnone] at hnext
      cases hnext
  | case4 seen top pending hnew next hnext ih =>
    rw [search, if_neg hnew] at h
    split at h
    · cases h
    · next next' hnext' =>
      rw [hnext] at hnext'
      cases hnext'
      intro k hk
      have htop : top ∈ edges := BTreeMap.mem_iff_getElem?.mpr ⟨next, hnext⟩
      rcases ih h k hk with hold | ⟨hkey, start, hstart, hreach⟩
      · rcases mem_insert_iff.mp hold with rfl | hold
        · exact .inr ⟨htop, k, mem_cons_self, ReflTransGen.refl⟩
        · exact .inl hold
      · rcases mem_append.mp hstart with hstart | hstart
        · have hmem : start ∈ next := Std.ExtTreeSet.mem_toList.mp (mem_reverse.mp hstart)
          have hstep : Leads edges top start := ⟨next, hnext, hmem⟩
          exact .inr ⟨hkey, top, mem_cons_self, ReflTransGen.head hstep hreach⟩
        · exact .inr ⟨hkey, start, mem_cons_of_mem _ hstart, hreach⟩

end Tidex.Lib
