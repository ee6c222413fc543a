/-
  Lib.Durable — programs over a store that can stop after any effect.
-/
import Mathlib.Data.List.Infix
import Tidex.Lib.Checked

namespace Tidex.Lib

open List

variable {σ ε α β : Type}

/-! ## Computations -/

/-- What a run leaves: the stores after its durable effects, in order, and its result. -/
structure Outcome (σ ε α : Type) where
  effects : List σ
  result : Except ε α

/-- A computation over a store that makes its effects durable one by one. -/
def Durable (σ ε α : Type) : Type := σ → Outcome σ ε α

namespace Durable

def result (x : Durable σ ε α) (s : σ) : Except ε α := (x s).result

/-- The store that the run leaves when nothing stops it. -/
def final (x : Durable σ ε α) (s : σ) : σ := (x s).effects.getLastD s

/-- The stores that a crash can leave. -/
def states (x : Durable σ ε α) (s : σ) : List σ := s :: (x s).effects

/-- Run a computation, and a second one on what it leaves. -/
def andThen (x : Durable σ ε α) (f : α → Durable σ ε β) : Durable σ ε β := fun s =>
  match (x s).result with
  | .error e => ⟨(x s).effects, .error e⟩
  | .ok a => ⟨(x s).effects ++ (f a (x.final s)).effects, (f a (x.final s)).result⟩

instance : Monad (Durable σ ε) where
  pure a := fun _ => ⟨[], .ok a⟩
  bind := andThen

def read (f : σ → Except ε α) : Durable σ ε α := fun s => ⟨[], f s⟩

/-- A step that does not look at the store. -/
instance : MonadLift (Except ε) (Durable σ ε) where
  monadLift r := read fun _ => r

def write (f : σ → Except ε (σ × α)) : Durable σ ε α := fun s =>
  match f s with
  | .ok (t, a) => ⟨[t], .ok a⟩
  | .error e => ⟨[], .error e⟩

/-! ## What each construct does -/

section

variable {s t : σ} {a : α} {b : β} {e : ε} {x : Durable σ ε α} {f : α → Durable σ ε β}

@[simp] lemma result_pure : result (pure a : Durable σ ε α) s = .ok a := rfl
@[simp] lemma final_pure : final (pure a : Durable σ ε α) s = s := rfl
@[simp] lemma states_pure : states (pure a : Durable σ ε α) s = [s] := rfl

variable {g : σ → Except ε α}

@[simp] lemma result_read : result (read g) s = g s := rfl
@[simp] lemma final_read : final (read g) s = s := rfl
@[simp] lemma states_read : states (read g) s = [s] := rfl

variable {r : Except ε α}

@[simp] lemma result_liftM : result (liftM r : Durable σ ε α) s = r := rfl
@[simp] lemma final_liftM : final (liftM r : Durable σ ε α) s = s := rfl
@[simp] lemma states_liftM : states (liftM r : Durable σ ε α) s = [s] := rfl

lemma write_ok {g : σ → Except ε (σ × α)} (h : g s = .ok (t, a)) :
    result (write g) s = .ok a ∧ final (write g) s = t ∧ states (write g) s = [s, t] := by
  unfold result final states write
  rw [h]
  exact ⟨rfl, rfl, rfl⟩

lemma write_error {g : σ → Except ε (σ × α)} (h : g s = .error e) :
    result (write g) s = .error e ∧ final (write g) s = s ∧ states (write g) s = [s] := by
  unfold result final states write
  rw [h]
  exact ⟨rfl, rfl, rfl⟩

lemma result_write_ok {g : σ → Except ε (σ × α)} :
    result (write g) s = .ok a ↔ ∃ u, g s = .ok (u, a) := by
  cases hg : g s with
  | error e =>
    rw [(write_error hg).1]
    simp
  | ok p =>
    obtain ⟨u, c⟩ := p
    rw [(write_ok hg).1]
    simp [eq_comm]

lemma mem_states_write {g : σ → Except ε (σ × α)} :
    t ∈ states (write g) s ↔ t = s ∨ ∃ c, g s = .ok (t, c) := by
  cases hg : g s with
  | error e =>
    rw [(write_error hg).2.2]
    simp
  | ok p =>
    obtain ⟨u, c⟩ := p
    rw [(write_ok hg).2.2]
    simp [eq_comm]

lemma final_mem_states : x.final s ∈ x.states s := by
  unfold final states
  rw [getLastD_eq_getLast?]
  cases h : (x s).effects.getLast? with
  | none => exact mem_cons_self
  | some t => exact mem_cons_of_mem _ (mem_of_getLast? h)

lemma states_eq_concat : ∃ cut, x.states s = cut ++ [x.final s] := by
  unfold final states
  rw [getLastD_eq_getLast?]
  cases h : (x s).effects.getLast? with
  | none =>
    rw [getLast?_eq_none_iff.mp h]
    exact ⟨[], rfl⟩
  | some t =>
    obtain ⟨cut, hcut⟩ := getLast?_eq_some_iff.mp h
    exact ⟨s :: cut, by rw [hcut]; rfl⟩

lemma bind_of_ok (h : x.result s = .ok a) : (x >>= f) s =
      ⟨(x s).effects ++ (f a (x.final s)).effects, (f a).result (x.final s)⟩ := by
  show andThen x f s = _
  unfold andThen
  unfold result at h
  rw [h]
  rfl

lemma bind_of_error (h : x.result s = .error e) : (x >>= f) s = ⟨(x s).effects, .error e⟩ := by
  show andThen x f s = _
  unfold andThen
  unfold result at h
  rw [h]

lemma bind_read_of_ok (h : g s = .ok a) : (read g >>= f) s = f a s := by
  rw [bind_of_ok (show (read g).result s = .ok a from h)]
  rfl

lemma bind_liftM_of_ok (h : r = .ok a) : ((liftM r : Durable σ ε α) >>= f) s = f a s := by
  rw [bind_of_ok (show (liftM r : Durable σ ε α).result s = .ok a from h)]
  rfl

lemma result_congr {y : Durable σ ε α} (h : x s = y s) : x.result s = y.result s := by
  unfold result
  rw [h]

lemma final_congr {y : Durable σ ε α} (h : x s = y s) : x.final s = y.final s := by
  unfold final
  rw [h]

lemma result_bind_of_ok (h : x.result s = .ok a) :
    (x >>= f).result s = (f a).result (x.final s) := by
  unfold result
  rw [bind_of_ok h]
  rfl

lemma result_bind_of_error (h : x.result s = .error e) : (x >>= f).result s = .error e := by
  unfold result
  rw [bind_of_error h]

lemma final_bind_of_ok (h : x.result s = .ok a) :
    (x >>= f).final s = (f a).final (x.final s) := by
  have hlast : (x >>= f).final s =
      ((x s).effects ++ (f a (x.final s)).effects).getLastD s := by
    unfold final
    rw [bind_of_ok h]
    rfl
  rw [hlast, getLastD_eq_getLast?, getLast?_append]
  unfold final
  rw [getLastD_eq_getLast?, getLastD_eq_getLast?]
  cases (f a _).effects.getLast? <;> rfl

lemma final_bind_of_error (h : x.result s = .error e) : (x >>= f).final s = x.final s := by
  unfold final
  rw [bind_of_error h]

/-- A sequence succeeds exactly when both parts do. -/
lemma result_bind_ok : (x >>= f).result s = .ok b ↔
      ∃ a, x.result s = .ok a ∧ (f a).result (x.final s) = .ok b := by
  cases hx : x.result s with
  | error e =>
    rw [result_bind_of_error hx]
    simp
  | ok a =>
    rw [result_bind_of_ok hx]
    simp

/-- A crash stops a sequence in its first part or in its second. -/
lemma mem_states_bind : t ∈ (x >>= f).states s ↔
      t ∈ x.states s ∨ ∃ a, x.result s = .ok a ∧ t ∈ (f a).states (x.final s) := by
  cases hx : x.result s with
  | error e =>
    have heq : (x >>= f).states s = x.states s := by
      unfold states
      rw [bind_of_error hx]
    rw [heq]
    simp
  | ok a =>
    have heq : (x >>= f).states s = x.states s ++ (f a (x.final s)).effects := by
      unfold states
      rw [bind_of_ok hx]
      rfl
    rw [heq, mem_append]
    constructor
    · intro h
      rcases h with h | h
      · exact .inl h
      · exact .inr ⟨a, rfl, mem_cons_of_mem _ h⟩
    · intro h
      rcases h with h | ⟨a', ha', h⟩
      · exact .inl h
      · cases ha'
        rcases mem_cons.mp h with h | h
        · rw [h]
          exact .inl final_mem_states
        · exact .inr h

/-- The run returns a value and leaves a store. -/
def Runs (x : Durable σ ε α) (s : σ) (a : α) (t : σ) : Prop :=
  x.result s = .ok a ∧ x.final s = t

@[simp] lemma runs_pure {c : α} : Runs (pure a : Durable σ ε α) s c t ↔ a = c ∧ s = t := by
  simp [Runs]

@[simp] lemma runs_read : Runs (read g) s a t ↔ g s = .ok a ∧ s = t :=
  Iff.rfl

@[simp] lemma runs_liftM : Runs (liftM r : Durable σ ε α) s a t ↔ r = .ok a ∧ s = t :=
  Iff.rfl

@[simp] lemma runs_write {g : σ → Except ε (σ × α)} :
    Runs (write g) s a t ↔ g s = .ok (t, a) := by
  unfold Runs
  rw [result_write_ok]
  constructor
  · intro h
    obtain ⟨⟨u, hu⟩, hfinal⟩ := h
    rw [(write_ok hu).2.1] at hfinal
    rwa [← hfinal]
  · intro h
    exact ⟨⟨t, h⟩, (write_ok h).2.1⟩

/-- A sequence runs as its parts do, one after the other. -/
lemma runs_bind {u : σ} : Runs (x >>= f) s b u ↔ ∃ a t, Runs x s a t ∧ Runs (f a) t b u := by
  unfold Runs
  rw [result_bind_ok]
  constructor
  · intro h
    obtain ⟨⟨a, hx, hf⟩, hfinal⟩ := h
    rw [final_bind_of_ok hx] at hfinal
    exact ⟨a, _, ⟨hx, rfl⟩, hf, hfinal⟩
  · intro h
    obtain ⟨a, t, ⟨hx, rfl⟩, hf, hfinal⟩ := h
    refine ⟨⟨a, hx, hf⟩, ?_⟩
    rw [final_bind_of_ok hx]
    exact hfinal

/-- A crash stops a sequence in its first part, or in its second on what the first leaves. -/
lemma mem_states_bind_iff : t ∈ (x >>= f).states s ↔
      t ∈ x.states s ∨ ∃ a u, Runs x s a u ∧ t ∈ (f a).states u := by
  rw [mem_states_bind]
  constructor
  · intro h
    rcases h with h | ⟨a, ha, h⟩
    · exact .inl h
    · exact .inr ⟨a, _, ⟨ha, rfl⟩, h⟩
  · intro h
    rcases h with h | ⟨a, u, ⟨ha, rfl⟩, h⟩
    · exact .inl h
    · exact .inr ⟨a, ha, h⟩

/-- A sequence that begins with a read stops before its first effect, or goes on. -/
lemma states_after_read (h : t ∈ (read g >>= f).states s) :
    t = s ∨ ∃ a, g s = .ok a ∧ t ∈ (f a).states s := by
  simp only [mem_states_bind_iff, states_read, runs_read, mem_singleton] at h
  rcases h with h | ⟨a, u, ⟨ha, rfl⟩, h⟩
  · exact .inl h
  · exact .inr ⟨a, ha, h⟩

lemma Runs.mem_states (h : Runs x s a t) : t ∈ x.states s := by
  rw [← h.2]
  exact final_mem_states

end

/-! ## Relations that every effect keeps -/

/-- Wherever a run stops, the store it leaves is related to the one it started on. -/
def Keeps (R : σ → σ → Prop) (x : Durable σ ε α) : Prop :=
  ∀ s, ∀ t ∈ x.states s, R s t

namespace Keeps

variable {R : σ → σ → Prop} {x : Durable σ ε α} {f : α → Durable σ ε β}

lemma final (h : Keeps R x) (s : σ) : R s (x.final s) :=
  h s _ final_mem_states

lemma pure (hrefl : ∀ s, R s s) (a : α) : Keeps R (Pure.pure a : Durable σ ε α) := by
  intro s t ht
  rw [mem_singleton.mp ht]
  exact hrefl s

lemma read (hrefl : ∀ s, R s s) (g : σ → Except ε α) : Keeps R (Durable.read g) := by
  intro s t ht
  rw [mem_singleton.mp ht]
  exact hrefl s

lemma liftM (hrefl : ∀ s, R s s) (r : Except ε α) : Keeps R (MonadLiftT.monadLift r : Durable σ ε α) := by
  intro s t ht
  rw [mem_singleton.mp ht]
  exact hrefl s

lemma write (hrefl : ∀ s, R s s) {g : σ → Except ε (σ × α)}
    (h : ∀ s t a, g s = .ok (t, a) → R s t) : Keeps R (Durable.write g) := by
  intro s t ht
  rcases mem_states_write.mp ht with rfl | ⟨a, ha⟩
  · exact hrefl t
  · exact h s t a ha

lemma bind (htrans : ∀ {s t u}, R s t → R t u → R s u) (hx : Keeps R x)
    (hf : ∀ a, Keeps R (f a)) : Keeps R (x >>= f) := by
  intro s t ht
  rcases mem_states_bind.mp ht with ht | ⟨a, -, ht⟩
  · exact hx s t ht
  · exact htrans (hx.final s) (hf a _ t ht)

end Keeps

def Silent (x : Durable σ ε α) : Prop :=
  ∀ s, (x s).effects = []

namespace Silent

variable {x : Durable σ ε α} {f : α → Durable σ ε β}

lemma pure (a : α) : Silent (Pure.pure a : Durable σ ε α) := fun _ => rfl

lemma read (g : σ → Except ε α) : Silent (Durable.read g) := fun _ => rfl

lemma bind (hx : Silent x) (hf : ∀ a, Silent (f a)) : Silent (x >>= f) := by
  intro s
  cases hresult : x.result s with
  | error e => rw [bind_of_error hresult, hx s]
  | ok a => rw [bind_of_ok hresult, hx s, hf a _, append_nil]

lemma states_bind (hf : ∀ a, Silent (f a)) (s : σ) : (x >>= f).states s = x.states s := by
  unfold states
  cases hresult : x.result s with
  | error e => rw [bind_of_error hresult]
  | ok a => rw [bind_of_ok hresult, hf a _, append_nil]

lemma final_bind (hf : ∀ a, Silent (f a)) (s : σ) : (x >>= f).final s = x.final s := by
  unfold Durable.final
  cases hresult : x.result s with
  | error e => rw [bind_of_error hresult]
  | ok a => rw [bind_of_ok hresult, hf a _, append_nil]

end Silent

namespace Keeps

variable {R : σ → σ → Prop} {x : Durable σ ε α} {f : α → Durable σ ε β}

/-- Before the first effect there may be checks. -/
lemma check (hrefl : ∀ s, R s s) {g : σ → Except ε α} (hf : ∀ a, Keeps R (f a)) :
    Keeps R (Durable.read g >>= f) := by
  intro s t ht
  rcases states_after_read ht with rfl | ⟨a, -, ht⟩
  · exact hrefl t
  · exact hf a s t ht

/-- After the last effect there may be checks. -/
lemma silent (hx : Keeps R x) (hf : ∀ a, Silent (f a)) : Keeps R (x >>= f) := by
  intro s t ht
  rw [Silent.states_bind hf] at ht
  exact hx s t ht

end Keeps

/-! ## Runs that switch once -/

/-- The list has one property up to a point, and another one from there on. -/
def Switches (M N : σ → Prop) (l : List σ) : Prop :=
  ∃ pre post, l = pre ++ post ∧ (∀ t ∈ pre, M t) ∧ ∀ t ∈ post, N t

namespace Switches

variable {M N : σ → Prop} {l : List σ} {s t : σ}

lemma of_forall (h : ∀ t ∈ l, M t) : Switches M N l :=
  ⟨l, [], (append_nil l).symm, h, forall_mem_nil _⟩

lemma mem (h : Switches M N l) (ht : t ∈ l) : M t ∨ N t := by
  obtain ⟨pre, post, rfl, hpre, hpost⟩ := h
  rcases mem_append.mp ht with ht | ht
  · exact .inl (hpre t ht)
  · exact .inr (hpost t ht)

lemma last (h : Switches M N (l ++ [t])) : (∀ u ∈ l, M u) ∨ N t := by
  obtain ⟨pre, post, heq, hpre, hpost⟩ := h
  cases hlast : post.getLast? with
  | none =>
    rw [getLast?_eq_none_iff.mp hlast, append_nil] at heq
    refine .inl ?_
    intro u hu
    exact hpre u (heq ▸ mem_append_left _ hu)
  | some v =>
    have hv : (l ++ [t]).getLast? = some v := by
      rw [heq, getLast?_append, hlast]
      rfl
    rw [getLast?_concat, Option.some.injEq] at hv
    rw [hv]
    exact .inr (hpost v (mem_of_getLast? hlast))

lemma of_prefix (h : Switches M N l) {l' : List σ} (hl' : l' <+: l) : Switches M N l' := by
  obtain ⟨pre, post, rfl, hpre, hpost⟩ := h
  refine ⟨l'.take pre.length, l'.drop pre.length, (take_append_drop _ _).symm, ?_, ?_⟩
  · intro t ht
    have hmem := (IsPrefix.take hl' pre.length).subset ht
    rw [take_left] at hmem
    exact hpre t hmem
  · intro t ht
    have hmem := (IsPrefix.drop hl' pre.length).subset ht
    rw [drop_left] at hmem
    exact hpost t hmem

/-- A run whose second part switches, switches. -/
lemma bind {x : Durable σ ε α} {f : α → Durable σ ε β} (hx : ∀ t ∈ x.states s, M t)
    (hf : ∀ a, x.result s = .ok a → Switches M N ((f a).states (x.final s))) :
    Switches M N ((x >>= f).states s) := by
  cases hresult : x.result s with
  | error e =>
    have heq : (x >>= f).states s = x.states s := by
      unfold states
      rw [bind_of_error hresult]
    rw [heq]
    exact of_forall hx
  | ok a =>
    have heq : (x >>= f).states s = x.states s ++ (f a (x.final s)).effects := by
      unfold states
      rw [bind_of_ok hresult]
      rfl
    obtain ⟨pre, post, hsplit, hpre, hpost⟩ := hf a hresult
    rw [heq]
    cases pre with
    | nil =>
      refine ⟨_, _, rfl, hx, ?_⟩
      intro t ht
      refine hpost t ?_
      have hmem : t ∈ (f a).states (x.final s) := mem_cons_of_mem _ ht
      rw [hsplit] at hmem
      exact hmem
    | cons u pre =>
      have heffects : (f a (x.final s)).effects = pre ++ post := (cons.inj hsplit).2
      rw [heffects, ← append_assoc]
      refine ⟨_, _, rfl, ?_, hpost⟩
      intro t ht
      rcases mem_append.mp ht with ht | ht
      · exact hx t ht
      · exact hpre t (mem_cons_of_mem _ ht)

end Switches

end Durable

end Tidex.Lib
