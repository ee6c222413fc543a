/-
  Lib.InPlace — code that changes a state in place and may fail.
-/
import Tidex.Lib.Checked

namespace Tidex.Lib

/-- Code over a state, which keeps what was written where it fails. -/
abbrev InPlace (ε σ α : Type) : Type := ExceptT ε (StateM σ) α

namespace InPlace

variable {ε σ α β : Type}

/-- Look at the state, and fail or go on. -/
def check (f : σ → Except ε α) : InPlace ε σ α :=
  ExceptT.mk fun s => (f s, s)

def write (f : σ → σ) : InPlace ε σ Unit :=
  ExceptT.mk fun s => (.ok (), f s)

/-- The result of a run, and the state it leaves. -/
def outcome (x : InPlace ε σ α) (s : σ) : Except ε α × σ :=
  x.run s

/-- What a function that returns the new state leaves: where it fails, the state as it was. -/
def settled (s : σ) : Except ε (σ × α) → Except ε α × σ
  | .ok (s', a) => (.ok a, s')
  | .error e => (.error e, s)

@[simp] lemma outcome_pure {s : σ} {a : α} :
    outcome (pure a : InPlace ε σ α) s = settled s (.ok (s, a)) := rfl

@[simp] lemma outcome_write_bind {f : σ → σ} {k : Unit → InPlace ε σ α} {s : σ} :
    outcome (write f >>= k) s = outcome (k ()) (f s) := rfl

@[simp] lemma outcome_look_bind {f : σ → α} {k : α → InPlace ε σ β} {s : σ} :
    outcome (check (fun s => .ok (f s)) >>= k) s = outcome (k (f s)) s := rfl

/-- A check that is followed by code that settles to a function settles to both. -/
lemma outcome_check_bind {f : σ → Except ε α} {k : α → InPlace ε σ β} {s : σ}
    {g : α → Except ε (σ × β)} (h : ∀ a, f s = .ok a → outcome (k a) s = settled s (g a)) :
    outcome (check f >>= k) s = settled s (f s >>= g) := by
  have hrun : outcome (check f >>= k) s = (ExceptT.bindCont k (f s)) s := rfl
  rw [hrun]
  cases hf : f s with
  | error e => rfl
  | ok a => exact h a hf

lemma settled_eq_ok {s s' : σ} {a : α} {x : Except ε (σ × α)} :
    settled s x = (.ok a, s') ↔ x = .ok (s', a) := by
  cases x with
  | error e => simp [settled]
  | ok value =>
    obtain ⟨t, b⟩ := value
    simp [settled, and_comm]

lemma state_of_settled_error {s : σ} {e : ε} {x : Except ε (σ × α)}
    (h : (settled s x).1 = .error e) : (settled s x).2 = s := by
  cases x with
  | error e => rfl
  | ok value => cases h

end InPlace

end Tidex.Lib
