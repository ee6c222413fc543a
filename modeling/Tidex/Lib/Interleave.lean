/-
  Lib.Interleave — calls of one program that interleave on a shared store.
-/
import Mathlib.Data.List.Basic
import Mathlib.Logic.Function.Iterate

namespace Tidex.Lib

open List Function

/-! ## Worlds -/

/-- The program of a call: where it begins, its steps, and where it has ended. -/
structure Procedure (σ φ : Type) where
  start : φ
  step : σ → φ → σ × φ
  ended : φ → Bool

/-- The shared store and the calls that were begun and did not crash. -/
structure World (σ φ : Type) where
  store : σ
  calls : Nat → Option φ

inductive Move where
  | begin (i : Nat)
  | advance (i : Nat)
  | crash (i : Nat)

variable {σ φ : Type}

namespace World

def idle (s : σ) : World σ φ where
  store := s
  calls := fun _ => none

def move (p : Procedure σ φ) (w : World σ φ) : Move → World σ φ
  | .begin i =>
    match w.calls i with
    | none => { w with calls := update w.calls i (some p.start) }
    | some _ => w
  | .advance i =>
    match w.calls i with
    | none => w
    | some x =>
      { store := (p.step w.store x).1
        calls := update w.calls i (some (p.step w.store x).2) }
  | .crash i =>
    match w.calls i with
    | none => w
    | some x => if p.ended x then w else { w with calls := update w.calls i none }

/-- A move is allowed where the step it takes, if it takes one, meets a condition. -/
def Allowed (guard : σ → φ → Prop) (w : World σ φ) : Move → Prop
  | .advance i => ∀ x, w.calls i = some x → guard w.store x
  | _ => True

/-- The worlds that allowed moves lead to. -/
inductive Reachable (p : Procedure σ φ) (guard : σ → φ → Prop) (s : σ) : World σ φ → Prop where
  | idle : Reachable p guard s (idle s)
  | move {w : World σ φ} (m : Move) : Reachable p guard s w → w.Allowed guard m →
      Reachable p guard s (w.move p m)

end World

/-! ## The invariant rule -/

/-- What holds of the store, and of every call on it. -/
structure Invariant (p : Procedure σ φ) (guard : σ → φ → Prop) (store : σ → Prop)
    (call : σ → φ → Prop) : Prop where
  start : ∀ {s}, store s → call s p.start
  step : ∀ {s x}, store s → call s x → guard s x →
    store (p.step s x).1 ∧ call (p.step s x).1 (p.step s x).2
  others : ∀ {s x y}, store s → call s x → guard s x → call s y → call (p.step s x).1 y

namespace Invariant

variable {p : Procedure σ φ} {guard : σ → φ → Prop} {store : σ → Prop} {call : σ → φ → Prop}

lemma reachable (h : Invariant p guard store call) {s : σ} (hs : store s) {w : World σ φ}
    (hw : World.Reachable p guard s w) :
    store w.store ∧ ∀ i x, w.calls i = some x → call w.store x := by
  induction hw with
  | idle => exact ⟨hs, fun i x hx => by cases hx⟩
  | @move w m _ hallowed ih =>
    obtain ⟨hstore, hcalls⟩ := ih
    cases m with
    | begin i =>
      cases hi : w.calls i with
      | some y =>
        simp only [World.move, hi]
        exact ⟨hstore, hcalls⟩
      | none =>
        simp only [World.move, hi]
        refine ⟨hstore, ?_⟩
        intro j x hx
        by_cases hj : j = i
        · subst hj
          rw [update_self, Option.some.injEq] at hx
          exact hx ▸ h.start hstore
        · rw [update_of_ne hj] at hx
          exact hcalls j x hx
    | advance i =>
      cases hi : w.calls i with
      | none =>
        simp only [World.move, hi]
        exact ⟨hstore, hcalls⟩
      | some y =>
        have hguard := hallowed y hi
        obtain ⟨hnext, hself⟩ := h.step hstore (hcalls i y hi) hguard
        simp only [World.move, hi]
        refine ⟨hnext, ?_⟩
        intro j x hx
        by_cases hj : j = i
        · subst hj
          rw [update_self, Option.some.injEq] at hx
          exact hx ▸ hself
        · rw [update_of_ne hj] at hx
          exact h.others hstore (hcalls i y hi) hguard (hcalls j x hx)
    | crash i =>
      cases hi : w.calls i with
      | none =>
        simp only [World.move, hi]
        exact ⟨hstore, hcalls⟩
      | some y =>
        simp only [World.move, hi]
        by_cases hended : p.ended y = true
        · rw [if_pos hended]
          exact ⟨hstore, hcalls⟩
        · rw [if_neg hended]
          refine ⟨hstore, ?_⟩
          intro j x hx
          dsimp only at hx
          by_cases hj : j = i
          · subst hj
            rw [update_self] at hx
            cases hx
          · rw [update_of_ne hj] at hx
            exact hcalls j x hx

end Invariant

/-! ## A call that runs alone -/

namespace Procedure

/-- Steps of one call, nothing else in between. -/
def solo (p : Procedure σ φ) (state : σ × φ) (n : Nat) : σ × φ :=
  (fun state => p.step state.1 state.2)^[n] state

lemma solo_succ (p : Procedure σ φ) (state : σ × φ) (n : Nat) :
    p.solo state (n + 1) = p.solo (p.step state.1 state.2) n :=
  iterate_succ_apply _ n state

end Procedure

/-- A call that runs alone comes to a stop, where each step is ready for the next one and
    makes progress. -/
lemma Invariant.solo {p : Procedure σ φ} {guard : σ → φ → Prop} {store : σ → Prop}
    {call : σ → φ → Prop} (h : Invariant p guard store call) (rank : φ → Nat) (stop : φ → Bool)
    (ready : σ → φ → Prop) (hguard : ∀ {s x}, ready s x → stop x = false → guard s x)
    (hstep : ∀ {s x}, store s → call s x → ready s x → stop x = false →
      ready (p.step s x).1 (p.step s x).2 ∧ rank (p.step s x).2 < rank x)
    {s : σ} {x : φ} (hs : store s) (hx : call s x) (hready : ready s x) :
    ∃ n, store (p.solo (s, x) n).1 ∧ call (p.solo (s, x) n).1 (p.solo (s, x) n).2 ∧
      stop (p.solo (s, x) n).2 = true := by
  induction hrank : rank x using Nat.strongRecOn generalizing s x with
  | ind k ih =>
    by_cases hstop : stop x = true
    · exact ⟨0, hs, hx, hstop⟩
    · rw [Bool.not_eq_true] at hstop
      obtain ⟨hstore, hcall⟩ := h.step hs hx (hguard hready hstop)
      obtain ⟨hnext, hlt⟩ := hstep hs hx hready hstop
      obtain ⟨n, hn⟩ := ih _ (hrank ▸ hlt) hstore hcall hnext rfl
      refine ⟨n + 1, ?_⟩
      rw [p.solo_succ]
      exact hn

namespace World

variable {w : World σ φ} {i : Nat}

lemma move_begin (p : Procedure σ φ) (hi : w.calls i = none) :
    w.move p (.begin i) = { w with calls := update w.calls i (some p.start) } := by
  simp only [move, hi]

lemma move_advance (p : Procedure σ φ) {x : φ} (hi : w.calls i = some x) :
    w.move p (.advance i) = {
      store := (p.step w.store x).1
      calls := update w.calls i (some (p.step w.store x).2) } := by
  simp only [move, hi]

/-- Running alone is a run of moves, which leaves the other calls where they are. -/
lemma moves_solo (p : Procedure σ φ) {x : φ} (hi : w.calls i = some x) (n : Nat) :
    (replicate n (Move.advance i)).foldl (move p) w = {
      store := (p.solo (w.store, x) n).1
      calls := update w.calls i (some (p.solo (w.store, x) n).2) } := by
  induction n generalizing w x with
  | zero =>
    show w = { store := w.store, calls := update w.calls i (some x) }
    rw [← hi, update_eq_self]
  | succ n ih =>
    rw [replicate_succ, foldl_cons, p.solo_succ, move_advance p hi]
    rw [ih (update_self ..), update_idem]

lemma moves_alone (p : Procedure σ φ) (hi : w.calls i = none) (n : Nat) :
    (Move.begin i :: replicate n (Move.advance i)).foldl (move p) w = {
      store := (p.solo (w.store, p.start) n).1
      calls := update w.calls i (some (p.solo (w.store, p.start) n).2) } := by
  rw [foldl_cons, move_begin p hi, moves_solo p (update_self ..), update_idem]

end World

end Tidex.Lib
