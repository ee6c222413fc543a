/-
  Lib.Checked — straight-line code that stops at the first error.
-/
import Mathlib.Data.List.Basic

namespace Tidex.Lib

open List

variable {ε α β σ : Type}

/-! ## Guards and lookups -/

/-- Stop with `e` when the condition holds. -/
def failIf (c : Prop) [Decidable c] (e : ε) : Except ε Unit :=
  if c then .error e else .ok ()

/-- The value of a lookup, or the error `e`. -/
def okOr (o : Option α) (e : ε) : Except ε α :=
  match o with
  | some a => .ok a
  | none => .error e

variable {f : α → Except ε β}

lemma bind_ok {x : Except ε α} {b : β} : (x >>= f) = .ok b ↔ ∃ a, x = .ok a ∧ f a = .ok b := by
  cases x with
  | error e =>
    constructor
    · intro h
      cases h
    · rintro ⟨a, h, -⟩
      cases h
  | ok a =>
    constructor
    · intro h
      exact ⟨a, rfl, h⟩
    · rintro ⟨a', h, hf⟩
      cases h
      exact hf

variable {a : α}

@[simp] lemma ok_bind : (Except.ok a >>= f) = f a :=
  rfl

variable {e : ε}

@[simp] lemma error_bind : (Except.error e >>= f) = .error e :=
  rfl

lemma pure_ok {a b : α} : (pure a : Except ε α) = .ok b ↔ a = b := by
  constructor
  · intro h
    cases h
    rfl
  · rintro rfl
    rfl

@[simp] lemma failIf_ok {c : Prop} [Decidable c] {u : Unit} : failIf c e = .ok u ↔ ¬c := by
  unfold failIf
  split <;> simp_all

@[simp] lemma okOr_ok {o : Option α} : okOr o e = .ok a ↔ o = some a := by
  cases o <;> simp [okOr]

@[simp] lemma throw_ok : (throw e : Except ε α) = .ok a ↔ False := by
  constructor
  · intro h
    cases h
  · exact False.elim

lemma ite_ok {c : Prop} [Decidable c] {x y : Except ε α} :
    (if c then x else y) = .ok a ↔ (c ∧ x = .ok a) ∨ (¬c ∧ y = .ok a) := by
  split <;> simp_all

lemma seq_ok {x : Except ε Unit} {y : Except ε β} {b : β} :
    (x >>= fun _ => y) = .ok b ↔ x = .ok () ∧ y = .ok b := by
  rw [bind_ok]
  constructor
  · rintro ⟨⟨⟩, hx, hy⟩
    exact ⟨hx, hy⟩
  · rintro ⟨hx, hy⟩
    exact ⟨(), hx, hy⟩

/-! ## Loops -/

variable {xs : List α}

lemma forM_ok {f : α → Except ε Unit} {u : PUnit} :
    forM xs f = .ok u ↔ ∀ x ∈ xs, f x = .ok () := by
  induction xs with
  | nil => simp [pure_ok]
  | cons x xs ih =>
    rw [forM_cons, seq_ok, ih]
    simp

variable {s t : σ}

lemma foldlM_seq_ok {check : α → Except ε Unit} {f : σ → α → Except ε σ} :
    xs.foldlM (fun s x => check x >>= fun _ => f s x) s = .ok t ↔
      (∀ x ∈ xs, check x = .ok ()) ∧ xs.foldlM f s = .ok t := by
  induction xs generalizing s with
  | nil => simp
  | cons x xs ih =>
    simp only [foldlM_cons, bind_ok (f := fun s => foldlM _ s xs), seq_ok, ih, forall_mem_cons]
    constructor
    · rintro ⟨s', ⟨hx, hs'⟩, hxs, hrest⟩
      exact ⟨⟨hx, hxs⟩, s', hs', hrest⟩
    · rintro ⟨⟨hx, hxs⟩, s', hs', hrest⟩
      exact ⟨s', ⟨hx, hs'⟩, hxs, hrest⟩

/-- Invariant rule of an accumulating loop. -/
lemma foldlM_ok_induction {f : σ → α → Except ε σ} (P : σ → Prop) (hstart : P s)
    (hstep : ∀ s x s', x ∈ xs → P s → f s x = .ok s' → P s') (h : xs.foldlM f s = .ok t) : P t := by
  induction xs generalizing s with
  | nil =>
    rw [foldlM_nil, pure_ok] at h
    exact h ▸ hstart
  | cons x xs ih =>
    rw [foldlM_cons, bind_ok] at h
    obtain ⟨s', hx, hrest⟩ := h
    exact ih (hstep s x s' (by simp) hstart hx)
      (fun s x s' hmem => hstep s x s' (by simp [hmem])) hrest

lemma forall_mem_concat {p : α → Prop} {a : α} (hxs : ∀ x ∈ xs, p x) (ha : p a) :
    ∀ x ∈ xs ++ [a], p x :=
  forall_mem_append.mpr ⟨hxs, forall_mem_singleton.mpr ha⟩

lemma mem_of_split {all ahead : List α} {a : α} (h : all = xs ++ a :: ahead) :
    a ∈ all ∧ ∀ x ∈ xs, x ∈ all := by
  rw [h]
  exact ⟨mem_append_right _ mem_cons_self, fun _ hx => mem_append_left _ hx⟩

lemma exists_mem_concat {p : α → Prop} {a : α} :
    (∃ x ∈ xs ++ [a], p x) ↔ (∃ x ∈ xs, p x) ∨ p a := by
  simp only [mem_append, mem_singleton, or_and_right, exists_or, exists_eq_left]

lemma pairwise_concat {r : α → α → Prop} {a : α} (hxs : xs.Pairwise r) (ha : ∀ x ∈ xs, r x a) :
    (xs ++ [a]).Pairwise r :=
  pairwise_append.mpr ⟨hxs, pairwise_singleton r a, fun x hx _ hy => mem_singleton.mp hy ▸ ha x hx⟩

lemma nodup_snoc {a : α} (hxs : xs.Nodup) (ha : a ∉ xs) : (xs ++ [a]).Nodup :=
  pairwise_concat hxs fun _ hx heq => ha (heq ▸ hx)

lemma foldlM_ok_prefix_induction {f : σ → α → Except ε σ} (P : List α → σ → Prop)
    (hstart : P [] s) (hstep : ∀ done x s s', P done s → f s x = .ok s' → P (done ++ [x]) s')
    (h : xs.foldlM f s = .ok t) : P xs t := by
  have hgeneral : ∀ rest done s, P done s → rest.foldlM f s = .ok t → P (done ++ rest) t := by
    intro rest
    induction rest with
    | nil =>
      intro done s hP hfold
      rw [foldlM_nil, pure_ok] at hfold
      rw [append_nil]
      exact hfold ▸ hP
    | cons x rest ih =>
      intro done s hP hfold
      rw [foldlM_cons, bind_ok] at hfold
      obtain ⟨s', hx, hrest⟩ := hfold
      have hnext := ih (done ++ [x]) s' (hstep done x s s' hP hx) hrest
      rwa [append_assoc, singleton_append] at hnext
  exact hgeneral xs [] s hstart h

/-- Progress rule of an accumulating loop. -/
lemma foldlM_ok_of_step {f : σ → α → Except ε σ} {s : σ} (P : σ → Prop) (hstart : P s)
    (hstep : ∀ s x, x ∈ xs → P s → ∃ s', f s x = .ok s' ∧ P s') :
    ∃ t, xs.foldlM f s = .ok t ∧ P t := by
  induction xs generalizing s with
  | nil => exact ⟨s, rfl, hstart⟩
  | cons x xs ih =>
    obtain ⟨s', hx, hs'⟩ := hstep s x (by simp) hstart
    obtain ⟨t, ht, hPt⟩ := ih hs' (fun s x hmem => hstep s x (by simp [hmem]))
    refine ⟨t, ?_, hPt⟩
    rw [foldlM_cons, bind_ok]
    exact ⟨s', hx, ht⟩

lemma foldlM_ok_of_prefix {f : σ → α → Except ε σ} {xs : List α} {s : σ}
    (P : List α → σ → Prop) (hstart : P [] s) (hstep : ∀ done x s, done ++ [x] <+: xs → P done s →
      ∃ s', f s x = .ok s' ∧ P (done ++ [x]) s') : ∃ t, xs.foldlM f s = .ok t ∧ P xs t := by
  have hgeneral : ∀ rest done s, done ++ rest = xs → P done s →
      ∃ t, rest.foldlM f s = .ok t ∧ P xs t := by
    intro rest
    induction rest with
    | nil =>
      intro done s hxs hP
      rw [append_nil] at hxs
      exact ⟨s, rfl, hxs ▸ hP⟩
    | cons x rest ih =>
      intro done s hxs hP
      have hprefix : (done ++ [x]) ++ rest = xs := by
        rw [append_assoc]
        exact hxs
      obtain ⟨s', hx, hP'⟩ := hstep done x s ⟨rest, hprefix⟩ hP
      obtain ⟨t, ht, hPt⟩ := ih (done ++ [x]) s' hprefix hP'
      refine ⟨t, ?_, hPt⟩
      rw [foldlM_cons, hx]
      exact ht
  exact hgeneral xs [] s rfl hstart

/-- A loop whose steps check a condition and feed a second loop passes when every
    condition holds and the second loop does. -/
lemma foldlM_guarded_ok {f : σ → α → Except ε σ} {g : σ → β → Except ε σ} {check : α → Prop}
    {feed : α → List β} (hstep : ∀ s x t, f s x = .ok t ↔ check x ∧ (feed x).foldlM g s = .ok t) :
    xs.foldlM f s = .ok t ↔ (∀ x ∈ xs, check x) ∧ (xs.flatMap feed).foldlM g s = .ok t := by
  induction xs generalizing s with
  | nil => simp
  | cons x xs ih =>
    rw [foldlM_cons, bind_ok, flatMap_cons, foldlM_append, bind_ok]
    simp only [hstep, ih, forall_mem_cons]
    constructor
    · rintro ⟨u, ⟨hx, hu⟩, hrest, ht⟩
      exact ⟨⟨hx, hrest⟩, u, hu, ht⟩
    · rintro ⟨⟨hx, hrest⟩, u, hu, ht⟩
      exact ⟨u, ⟨hx, hu⟩, hrest, ht⟩

lemma foldlM_pair_ok {τ : Type} {f : τ × σ → α → Except ε (τ × σ)}
    {f₁ : τ → α → Except ε τ} {g : σ → β → Except ε σ} {check : α → Prop} {feed : α → List β}
    (hstep : ∀ a b x a' b', f (a, b) x = .ok (a', b') ↔
      check x ∧ f₁ a x = .ok a' ∧ (feed x).foldlM g b = .ok b')
    {xs : List α} {a a' : τ} {b b' : σ} : xs.foldlM f (a, b) = .ok (a', b') ↔
      (∀ x ∈ xs, check x) ∧ xs.foldlM f₁ a = .ok a' ∧ (xs.flatMap feed).foldlM g b = .ok b' := by
  induction xs generalizing a b with
  | nil => simp [pure_ok, Prod.ext_iff]
  | cons x xs ih =>
    simp only [foldlM_cons, bind_ok, flatMap_cons, foldlM_append,
      forall_mem_cons, Prod.exists, hstep, ih]
    constructor
    · rintro ⟨a₁, b₁, ⟨hx, ha, hb⟩, hrest, ha', hb'⟩
      exact ⟨⟨hx, hrest⟩, ⟨a₁, ha, ha'⟩, b₁, hb, hb'⟩
    · rintro ⟨⟨hx, hrest⟩, ⟨a₁, ha, ha'⟩, b₁, hb, hb'⟩
      exact ⟨a₁, b₁, ⟨hx, ha, hb⟩, hrest, ha', hb'⟩

lemma mapM_ok {ys : List β} : xs.mapM f = .ok ys ↔ Forall₂ (fun x y => f x = .ok y) xs ys := by
  induction xs generalizing ys with
  | nil =>
    rw [mapM_nil, pure_ok]
    constructor
    · intro h
      rw [← h]
      exact Forall₂.nil
    · intro h
      cases h
      rfl
  | cons x xs ih =>
    simp only [mapM_cons, bind_ok, pure_ok]
    constructor
    · intro h
      obtain ⟨y, hy, rest, hrest, rfl⟩ := h
      exact Forall₂.cons hy (ih.mp hrest)
    · intro h
      cases h with
      | cons hy hrest => exact ⟨_, hy, _, ih.mpr hrest, rfl⟩

lemma exists_of_mem_mapM {ys : List β} {y : β} (h : xs.mapM f = .ok ys) (hy : y ∈ ys) :
    ∃ x ∈ xs, f x = .ok y := by
  have hall := mapM_ok.mp h
  clear h
  induction hall with
  | nil => cases hy
  | cons hx hrest ih =>
    rcases mem_cons.mp hy with rfl | hy
    · exact ⟨_, mem_cons_self, hx⟩
    · obtain ⟨x, hmem, hx⟩ := ih hy
      exact ⟨x, mem_cons_of_mem _ hmem, hx⟩

/-- The step returns a value that passes a test: how a run on a given input is evaluated. -/
def returns (x : Except ε α) (test : α → Bool) : Bool :=
  match x with
  | .ok a => test a
  | .error _ => false

lemma returns_iff {x : Except ε α} {test : α → Bool} :
    returns x test = true ↔ ∃ a, x = .ok a ∧ test a = true := by
  cases x with
  | error e => simp [returns]
  | ok a => simp [returns]

/-! ## Bounded counters -/

/-- Addition that stops at the width of the counter. -/
def checkedAdd (width a b : Nat) (e : ε) : Except ε Nat :=
  if a + b < width then .ok (a + b) else .error e

/-- Multiplication that stops at the width of the counter. -/
def checkedMul (width a b : Nat) (e : ε) : Except ε Nat :=
  if a * b < width then .ok (a * b) else .error e

/-- Addition that sticks at the largest value of the counter. -/
def saturatingAdd (width a b : Nat) : Nat :=
  min (a + b) (width - 1)

@[simp] lemma checkedAdd_ok {width a b c : Nat} :
    checkedAdd width a b e = .ok c ↔ a + b < width ∧ c = a + b := by
  unfold checkedAdd
  split
  · next h => simp [h, eq_comm]
  · next h => simp [h]

@[simp] lemma checkedMul_ok {width a b c : Nat} :
    checkedMul width a b e = .ok c ↔ a * b < width ∧ c = a * b := by
  unfold checkedMul
  split
  · next h => simp [h, eq_comm]
  · next h => simp [h]

lemma saturatingAdd_eq {width a b : Nat} (h : a + b < width) :
    saturatingAdd width a b = a + b := by
  unfold saturatingAdd
  omega

end Tidex.Lib
