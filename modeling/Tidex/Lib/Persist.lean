/-
  Lib.Persist — checks that go on succeeding when there is more to read.

  A fallible computation persists in another one when each of its results is one of the
  other.
-/
import Tidex.Lib.Checked

namespace Tidex.Lib

variable {ε α β σ : Type}

/-- What the first computation returns, the second returns. -/
def Persists (x y : Except ε α) : Prop :=
  ∀ a, x = .ok a → y = .ok a

namespace Persists

lemma refl (x : Except ε α) : Persists x x :=
  fun _ h => h

/-- A sequence persists when both of its parts do. -/
lemma bind {x y : Except ε α} {f g : α → Except ε β} (h : Persists x y)
    (hf : ∀ a, x = .ok a → Persists (f a) (g a)) : Persists (x >>= f) (y >>= g) := by
  intro b hb
  rw [bind_ok] at hb ⊢
  obtain ⟨a, ha, hb⟩ := hb
  exact ⟨a, h a ha, hf a ha b hb⟩

lemma after {x : Except ε α} {f g : α → Except ε β} (hf : ∀ a, Persists (f a) (g a)) :
    Persists (x >>= f) (x >>= g) :=
  bind (refl x) fun a _ => hf a

lemma foldlM {f g : σ → α → Except ε σ} (h : ∀ s a, Persists (f s a) (g s a)) (xs : List α)
    (s : σ) : Persists (xs.foldlM f s) (xs.foldlM g s) := by
  induction xs generalizing s with
  | nil => exact refl _
  | cons x xs ih =>
    rw [List.foldlM_cons, List.foldlM_cons]
    exact bind (h s x) fun t _ => ih t

lemma ite {c : Prop} [Decidable c] {x y x' y' : Except ε α} (h : Persists x x')
    (h' : Persists y y') : Persists (if c then x else y) (if c then x' else y') := by
  by_cases hc : c
  · rw [if_pos hc, if_pos hc]
    exact h
  · rw [if_neg hc, if_neg hc]
    exact h'

end Persists

end Tidex.Lib
