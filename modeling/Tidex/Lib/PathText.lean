/-
  Lib.PathText — when two paths built from text are different.
-/
import Mathlib.Data.List.Basic

namespace Tidex.Lib

open List String

def apart (p q : String) : Bool :=
  !p.toList.isPrefixOf q.toList && !q.toList.isPrefixOf p.toList

/-- Texts that are apart stay apart, whatever follows them. -/
lemma append_ne_append {p q : String} (h : apart p q = true) (a b : String) :
    p ++ a ≠ q ++ b := by
  intro heq
  have hlist : p.toList ++ a.toList = q.toList ++ b.toList := by
    rw [← toList_append, ← toList_append, heq]
  have hp : p.toList <+: q.toList ++ b.toList := ⟨a.toList, hlist⟩
  have hq : q.toList <+: q.toList ++ b.toList := ⟨b.toList, rfl⟩
  simp only [apart, Bool.and_eq_true, Bool.not_eq_true'] at h
  rcases prefix_or_prefix_of_prefix hp hq with hpre | hpre
  · rw [ isPrefixOf_iff_prefix.mpr hpre] at h
    exact absurd h.1 (by decide)
  · rw [ isPrefixOf_iff_prefix.mpr hpre] at h
    exact absurd h.2 (by decide)

lemma append_ne {p q : String} (h : apart p q = true) (a : String) : p ++ a ≠ q := by
  have hne := append_ne_append h a ""
  rwa [append_empty] at hne

lemma append_left_cancel {p a b : String} (h : p ++ a = p ++ b) : a = b := by
  have hlist := congrArg toList h
  rw [toList_append, toList_append] at hlist
  exact toList_injective (append_cancel_left hlist)

lemma append_right_cancel {p a b : String} (h : a ++ p = b ++ p) : a = b := by
  have hlist := congrArg toList h
  rw [toList_append, toList_append] at hlist
  exact toList_injective (append_cancel_right hlist)

end Tidex.Lib
